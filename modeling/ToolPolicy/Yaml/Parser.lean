import ToolPolicy.Yaml.Event
import ToolPolicy.Yaml.Merge
import ToolPolicy.Yaml.Resolve

/-! From the events of a text to its value: aliases are replaced by what they name, and plain
scalars by what they stand for. -/

namespace ToolPolicy.Yaml

/-- An event whose alias names a numbered anchor. -/
inductive Piece where
  | alias (anchor : Nat)
  | scalar (tag : Option String) (text : String) (presentation : Presentation)
  | sequenceStart (tag : Option String)
  | sequenceEnd
  | mappingStart (tag : Option String)
  | mappingEnd

/-- The pieces of a document, the places of its anchors, and the fault that cuts it short. -/
structure Assembly where
  pieces : List (Piece × Mark)
  /-- The numbers of anchors with the pieces from their places on, the latest first. -/
  anchors : List (Nat × List (Piece × Mark))
  fault : Option Fault

namespace Assembly

/-- The anchors that are known while pieces are put together: their names with their numbers, and
the numbers with their places. -/
structure Known where
  names : List (String × Nat)
  places : List (Nat × Nat)

/-- Notes an anchor at a place. Its number is the count of the names so far, so that the number of
a name that comes again may later be taken over. -/
def Known.note (k : Known) (anchor : Option String) (place : Nat) : Known :=
  match anchor with
  | none => k
  | some name =>
    -- A name that comes again does not add to the count, so that the next anchor may take the
    -- number of an earlier one over, whose aliases then follow the later place.
    let number := k.names.length
    ⟨Entries.put k.names name number, (number, place) :: k.places⟩

/-- Puts the pieces together up to an alias that names nothing. -/
def collect (k : Known) (place : Nat) : List Event → List (Piece × Mark) × Known × Option Fault
  | [] => ([], k, none)
  | e :: rest =>
    let go (piece : Piece) (k : Known) :=
      let (pieces, k, fault) := collect k (place + 1) rest
      ((piece, e.mark) :: pieces, k, fault)
    match e.kind with
    | .alias name =>
      match k.names.lookup name with
      | some number => go (.alias number) k
      -- What follows is not looked at; whoever reads up to here meets the fault.
      | none => ([], k, some (.unknownAnchor e.mark))
    | .scalar anchor tag text presentation =>
      go (.scalar tag text presentation) (k.note anchor place)
    | .sequenceStart anchor tag => go (.sequenceStart tag) (k.note anchor place)
    | .mappingStart anchor tag => go (.mappingStart tag) (k.note anchor place)
    | .sequenceEnd => go .sequenceEnd k
    | .mappingEnd => go .mappingEnd k

/-- The pieces of a document. -/
def ofDocument (d : Document) : Assembly :=
  let (pieces, k, fault) := collect ⟨[], []⟩ 0 d.events
  ⟨pieces, k.places.map fun (number, place) => (number, pieces.drop place),
    -- The alias comes earlier in the text than what the grammar could not read.
    fault.or (d.fault.map .malformed)⟩

/-- The fault that comes up where the pieces end. -/
def endFault (a : Assembly) : Fault := a.fault.getD .noValue

/-- How many aliases may be followed. -/
def maxJumps (a : Assembly) : Nat := 100 * a.pieces.length

end Assembly

/-- The part of a tag that names it to a program; tags of the core types have none. -/
def ownTag? (tag : Option String) : Option String :=
  match tag.map String.toList with
  | some ['!'] => some "!"
  | some ('!' :: rest) => some (String.ofList rest)
  | _ => none

/-- The type that a tag asks for. -/
def coreType? (tag : String) : Option CoreType :=
  if tag = "tag:yaml.org,2002:null" then some .null
  else if tag = "tag:yaml.org,2002:bool" then some .bool
  else if tag = "tag:yaml.org,2002:int" then some .int
  else if tag = "tag:yaml.org,2002:float" then some .float
  else none

/-- The value of what a plain scalar stands for. -/
def valueOf (text : String) : Scalar → Except Unfit Value
  | .null => .ok .null
  | .bool b => .ok (.bool b)
  | .integer n => .ok (.number (.integer n))
  | .wide n => .error (.wideInteger n)
  | .float x => .ok (.number (.float x))
  | .string => .ok (.string text)

/-- The value of a text that must be of a type. -/
def valueAs (text : String) (expected : CoreType) : Except Unfit Value :=
  let cs := text.toList
  let found : Option Scalar := match expected with
    | .null => if isNull cs then some .null else none
    | .bool => (bool? cs).map .bool
    | .int => integer? cs
    | .float => (float? cs).map .float
  match found with
  | some scalar => valueOf text scalar
  | none => .error (.wrongType text expected)

/-- The value of a scalar. A tag that is already accounted for does not count again. -/
def scalarValue (tag : Option String) (accounted : Bool) (text : String)
    (presentation : Presentation) : Except Unfit Value :=
  match (if accounted then none else tag) with
  | some tag =>
    match coreType? tag with
    | some expected => valueAs text expected
    -- A tag that is not of the core types makes a text of anything.
    | none => .ok (.string text)
  | none => if presentation = .plain then valueOf text (resolve text.toList) else .ok (.string text)

/-- The pieces left, and how many aliases were followed. -/
structure Reader where
  rest : List (Piece × Mark)
  jumps : Nat

/-- How many collections may lie within one another. -/
def maxDepth : Nat := 128

/-- The path of the value under a key. -/
def pathUnder (path : Path) : Option (Piece × Mark) → Path
  | some (.scalar _ text _, _) => .field path text
  | _ => .unknown path

mutual

/-- Reads a value. `depth` more collections may be opened, and `accounted` says that the tag was
seen before. The fuel bounds the pieces that are read, aliases included. -/
def readValue (a : Assembly) : Nat → Nat → Path → Bool → Reader → Except Fault (Value × Reader)
  | 0, _, _, _, _ => .error a.endFault
  | fuel + 1, depth, path, accounted, r =>
    match r.rest with
    | [] => .error a.endFault
    | (piece, mark) :: rest =>
      let next : Reader := { r with rest := rest }
      let tagged (tag : String) : Except Fault (Value × Reader) :=
        (readValue a fuel depth path true r).map fun (v, r) => (.tagged tag v, r)
      match piece with
      | .alias number =>
        -- Aliases may repeat each other; the number of jumps bounds what a short text can unfold
        -- to.
        if a.maxJumps < r.jumps + 1 then .error .tooManyRepeats
        else
          let target := (a.anchors.lookup number).getD []
          (readValue a fuel depth path false ⟨target, r.jumps + 1⟩).map fun (v, after) =>
            -- Reading goes on after the alias, but what it repeated is counted.
            (v, { next with jumps := after.jumps })
      | .scalar tag text presentation =>
        -- A tag of its own is put around the value, which is then read again from the same piece.
        match (if accounted then none else ownTag? tag) with
        | some own => tagged own
        | none =>
          match scalarValue tag accounted text presentation with
          | .ok v => .ok (v, next)
          | .error cause => .error (.unfit path mark cause)
      | .sequenceStart tag =>
        match (if accounted then none else ownTag? tag), depth with
        | some own, _ => tagged own
        -- The depth is judged where a collection opens, and not where a tag wraps it.
        | none, 0 => .error (.tooDeep mark)
        | none, d + 1 =>
          (readItems a fuel d path 0 next).map fun (items, r) => (.sequence items, r)
      | .mappingStart tag =>
        match (if accounted then none else ownTag? tag), depth with
        | some own, _ => tagged own
        | none, 0 => .error (.tooDeep mark)
        | none, d + 1 =>
          (readEntries a fuel d path mark accounted [] next).map fun (entries, r) =>
            (.mapping entries.reverse, r)
      | .sequenceEnd | .mappingEnd => .error a.endFault

/-- Reads the items of a sequence up to its end. -/
def readItems (a : Assembly) : Nat → Nat → Path → Nat → Reader →
    Except Fault (List Value × Reader)
  | 0, _, _, _, _ => .error a.endFault
  | fuel + 1, depth, path, index, r =>
    match r.rest with
    | [] => .error a.endFault
    | (.sequenceEnd, _) :: rest => .ok ([], { r with rest := rest })
    | _ =>
      match readValue a fuel depth (.item path index) false r with
      | .error e => .error e
      | .ok (item, r) =>
        (readItems a fuel depth path (index + 1) r).map fun (items, r) => (item :: items, r)

/-- Reads the entries of a mapping up to its end, the known ones in reverse. The keys of a mapping
with a tag do not have tags of their own. -/
def readEntries (a : Assembly) : Nat → Nat → Path → Mark → Bool → List (Value × Value) →
    Reader → Except Fault (List (Value × Value) × Reader)
  | 0, _, _, _, _, _, _ => .error a.endFault
  | fuel + 1, depth, path, mark, accounted, known, r =>
    match r.rest with
    | [] => .error a.endFault
    | (.mappingEnd, _) :: rest => .ok (known, { r with rest := rest })
    | _ =>
      match readValue a fuel depth path accounted r with
      | .error e => .error e
      | .ok (key, afterKey) =>
        -- A key that comes again is a fault before its value is read.
        match known.find? (·.1.same key) with
        | some earlier => .error (.unfit path mark (.duplicateKey earlier.1))
        | none =>
          -- The path is named by the piece of the key: where that is no scalar, the place has no
          -- name.
          match readValue a fuel depth (pathUnder path r.rest.head?) false afterKey with
          | .error e => .error e
          | .ok (value, r) =>
            readEntries a fuel depth path mark accounted ((key, value) :: known) r

end

/-- The value of a document. The fuel is more than the pieces that all aliases together can
repeat. -/
def Value.ofDocument (d : Document) : Except Fault Value :=
  if d.events.isEmpty && d.fault.isNone then .ok .null
  else
    let a := Assembly.ofDocument d
    let fuel := (a.maxJumps + 2) * (2 * a.pieces.length + 4)
    match readValue a fuel maxDepth .root false ⟨a.pieces, 0⟩ with
    | .error e => .error e
    | .ok (v, _) =>
      -- The value may end before the fault, which still counts.
      match a.fault with
      | some e => .error e
      | none => .ok v

/-- The value of a text that has one document. -/
def parse (cs : List Char) : Except Fault Value :=
  let stream := Stream.read cs
  -- A fault of the first document comes up before the second document does.
  match Value.ofDocument stream.first with
  | .error e => .error e
  | .ok v => if stream.hasMore then .error .severalDocuments else .ok v

end ToolPolicy.Yaml
