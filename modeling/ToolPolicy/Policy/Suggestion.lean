import ToolPolicy.Text.EditDistance

/-! Suggestions for keys that look like typing errors. -/

namespace ToolPolicy

/-- The most edits that a suggestion may be away. -/
def maxSuggestionDistance : Nat := 2

/-- The earliest of the nearest candidates, with their distances. -/
def nearest : List (String × Nat) → Option (String × Nat)
  | [] => none
  | candidate :: rest =>
    match nearest rest with
    -- Only a strictly nearer one from further back wins, so the earliest of equals is kept.
    | some best => if best.2 < candidate.2 then some best else some candidate
    | none => some candidate

/-- The known keys that are near enough to a key. The distance counts characters and stays below
the length of the key in bytes. -/
def suggestions (key : String) (known : List String) : List (String × Nat) :=
  (known.map fun k => (k, EditDistance.distance key.toList k.toList)).filter fun (_, distance) =>
    distance ≤ maxSuggestionDistance && distance < key.utf8ByteSize

/-- The known key that was most likely meant. -/
def suggestKey (key : String) (known : List String) : Option String :=
  (nearest (suggestions key known)).map Prod.fst

end ToolPolicy
