import ToolPolicy.Yaml.Fault

/-! Merge keys. The entries of the mapping under the key `<<` are added to the mapping around it,
where they do not replace what is there. -/

namespace ToolPolicy.Yaml.Value

/-- The key of a merge. -/
def isMergeKey : Value → Bool
  | string s => s == "<<"
  | _ => false

/-- Takes out the entry at an index; the last entry takes its place. -/
def swapOut (entries : List (Value × Value)) (index : Nat) : List (Value × Value) :=
  match entries.getLast? with
  | none => []
  | some last =>
    -- The last entry moves forward, so the entries that stay may change their order.
    if index + 1 = entries.length then entries.dropLast else (entries.set index last).dropLast

/-- Adds an entry, unless its key is there. -/
def addMissing (entries : List (Value × Value)) (entry : Value × Value) : List (Value × Value) :=
  if entries.any (·.1.same entry.1) then entries else entries ++ [entry]

/-- Adds the entries of an item of a list of mappings to merge. -/
def mergeItem (entries : List (Value × Value)) : Value → Except Fault (List (Value × Value))
  | mapping merged => .ok (merged.foldl addMissing entries)
  | sequence _ => .error .mergedItemSequence
  | tagged _ _ => .error .mergedTag
  | _ => .error .mergedItemScalar

/-- Resolves the merge key of a mapping. A merge key that comes with the merged entries stays. -/
def mergeEntries (entries : List (Value × Value)) : Except Fault (List (Value × Value)) :=
  match entries.findIdx? (·.1.isMergeKey) with
  | none => .ok entries
  | some index =>
    -- The entries that stand in the mapping itself come first, so that merged ones never replace
    -- them.
    let others := swapOut entries index
    match (entries[index]?.map Prod.snd).getD null with
    | mapping merged => .ok (merged.foldl addMissing others)
    | sequence items => items.foldlM mergeItem others
    | tagged _ _ => .error .mergedTag
    | _ => .error .mergedScalar

mutual

/-- How many collections and tags lie within one another. -/
def depth : Value → Nat
  | sequence items => depthOfItems items + 1
  | mapping entries => depthOfEntries entries + 1
  | tagged _ value => depth value + 1
  | _ => 0

def depthOfItems : List Value → Nat
  | [] => 0
  | item :: rest => max (depth item) (depthOfItems rest)

/-- Only values count: keys are left as they are. -/
def depthOfEntries : List (Value × Value) → Nat
  | [] => 0
  | (_, value) :: rest => max (depth value) (depthOfEntries rest)

end

/-- Applies a function to all items, the last one first; of several faults that of the last item
comes up. -/
def mapFromLast (f : Value → Except Fault Value) : List Value → Except Fault (List Value)
  | [] => .ok []
  | item :: rest => do
    let rest ← mapFromLast f rest
    let item ← f item
    return item :: rest

/-- Resolves the merge keys of a value. The fuel is its depth, which merging does not increase. -/
def mergeWithin : Nat → Value → Except Fault Value
  | 0, value => .ok value
  | fuel + 1, sequence items => do return sequence (← mapFromLast (mergeWithin fuel) items)
  | fuel + 1, mapping entries => do
    -- A mapping is merged before its values are, and the merged values are then resolved with the
    -- others.
    let entries ← mergeEntries entries
    let values ← mapFromLast (mergeWithin fuel) (entries.map Prod.snd)
    return mapping ((entries.map Prod.fst).zip values)
  | fuel + 1, tagged tag value => do return tagged tag (← mergeWithin fuel value)
  | _ + 1, value => .ok value

/-- Resolves the merge keys of a value. -/
def merge (value : Value) : Except Fault Value := mergeWithin value.depth value

end ToolPolicy.Yaml.Value
