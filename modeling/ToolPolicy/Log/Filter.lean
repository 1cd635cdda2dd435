import ToolPolicy.Log.Event
import ToolPolicy.Text.Blank
import ToolPolicy.Text.Digits
import ToolPolicy.Text.LetterTable

/-! Which events are logged.

A filter is a list of directives, each of which sets a threshold for the events of a component and
its parts, for those inside a span, or for those that have certain fields. Of the directives for an
event the most specific one decides. -/

namespace ToolPolicy.Log

/-- A field that a directive asks for, with a value or without one. -/
structure FieldPattern where
  name : String
  hasValue : Bool
deriving DecidableEq, Repr

/-- A threshold for some events. -/
structure Directive where
  /-- The start of the components it is for; without one it is for all. -/
  component : Option String
  /-- The span that events have to be inside of. -/
  span : Option String
  fields : List FieldPattern
  threshold : Nat
deriving DecidableEq, Repr

namespace Directive

/-- The threshold that lets everything through. -/
def openThreshold : Nat := Level.trace.rank

/-- The threshold of a level's name in any case, or of its rank. -/
def threshold? (text : List Char) : Option Nat :=
  match Digits.unsigned? text with
  -- A number beyond the ranks is no threshold; where no equals sign comes before it, it is a name.
  | some n => if n ≤ openThreshold then some n else none
  | none =>
    let name := text.map Char.toUpper
    if name = ['O', 'F', 'F'] then some 0
    else (Level.all.find? (·.name.toList = name)).map Level.rank

/-- The threshold after an equals sign, which everything passes if nothing follows. -/
def thresholdAfter? : List Char → Option Nat
  | [] => some openThreshold
  | text => threshold? text

/-- A directive for a level or, where the text names none, for a component. -/
def ofName (text : List Char) : Directive :=
  match threshold? text with
  | some n => ⟨none, none, [], n⟩
  | none => ⟨some (String.ofList text), none, [], openThreshold⟩

/-- A field pattern. -/
def fieldOf (text : List Char) : FieldPattern :=
  ⟨String.ofList (text.takeWhile (· != '=')), text.contains '='⟩

/-- A directive as it is read, and whether it names a threshold after an equals sign. -/
abbrev Draft := Directive × Bool

/-- What follows the bracket that ends a span. -/
def afterSpan? (d : Directive) : List Char → Option Draft
  | [] => some (d, false)
  | '=' :: text => (thresholdAfter? text).map fun n => ({ d with threshold := n }, true)
  | _ => none

/-- What follows the bracket that begins a span: its name, and then a field in braces or nothing. -/
def spanOf? (component : Option String) (text : List Char) : Option Draft :=
  let ends (c : Char) : Bool := c == ']' || c == '\x7b'
  let name := text.takeWhile (!ends ·)
  let named : Option String := some (String.ofList name)
  match text.dropWhile (!ends ·) with
  | ']' :: rest => afterSpan? ⟨component, named, [], openThreshold⟩ rest
  | _ :: rest =>
    let field := rest.takeWhile (· != '\x7d')
    match field, rest.dropWhile (· != '\x7d') with
    | [], _ => none
    | _, _ :: ']' :: after =>
      -- With a field the span may stay unnamed.
      let span := if name.isEmpty then none else named
      afterSpan? ⟨component, span, [fieldOf field], openThreshold⟩ after
    | _, _ => none
  | [] => none

/-- Whether a component can begin with a character. -/
def canBegin (c : Char) : Bool :=
  c == '-' || c == ':' || c == '_' || Letter.isLetter c || Letter.isNumeral c

/-- A directive without blanks around it. -/
def draft? (text : List Char) : Option Draft :=
  let ends (c : Char) : Bool := c == '=' || c == '['
  let rest := text.dropWhile (!ends ·)
  match text.takeWhile (!ends ·) with
  | [] =>
    match rest with
    | '[' :: rest => spanOf? none rest
    | _ => none
  | c :: cs =>
    let component : Option String := some (String.ofList (c :: cs))
    if !canBegin c then none
    else
      match rest with
      | [] => some (ofName (c :: cs), false)
      | '=' :: rest => (thresholdAfter? rest).map fun n => (⟨component, none, [], n⟩, true)
      | _ :: rest => spanOf? component rest

/-- The directive of a text. Blanks around it belong to the name of a component, which no event
has, and make a threshold unreadable. -/
def ofText? (text : List Char) : Option Directive :=
  let core := Blank.trim text
  match draft? core with
  | none => none
  | some (d, hasThreshold) =>
    if core = text then some d
    else if hasThreshold then none
    else some { d with component := some (String.ofList text) }

/-- Whether a directive is for an event. No event is inside a span, so that neither a span nor the
value of a field of one is ever met. -/
def covers (d : Directive) (e : Event) : Bool :=
  d.span.isNone && d.fields.all (fun f => !f.hasValue && e.hasField f.name) &&
    d.component.all fun component => component.toList.isPrefixOf e.component.toList

/-- The order of directives for an event: the more of its component they name, and then the more
fields they ask for, the higher they stand, and then the names of the fields decide. -/
def specificity (a b : Directive) : Ordering :=
  let size (d : Directive) : Nat :=
    match d.component with
    | none => 0
    -- Even an empty name stands above none.
    | some component => component.utf8ByteSize + 1
  let names (d : Directive) : List String := d.fields.map (·.name)
  ((compare (size a) (size b)).then (compare a.fields.length b.fields.length)).then
    (compareOfLessAndEq (names a) (names b))

end Directive

/-- Directives in the order in which they are given. -/
abbrev Filter := List Directive

namespace Filter

/-- The filter of directives with commas between them, if each of them can be read. -/
def ofText? (text : List Char) : Option Filter :=
  ((text.splitOn ',').filter (!·.isEmpty)).mapM Directive.ofText?

/-- The filter with a single threshold. -/
def ofLevel (level : Level) : Filter := [⟨none, none, [], level.rank⟩]

/-- The directive that stands higher; of two that stand alike, the later one. -/
def higher (best : Option Directive) (d : Directive) : Option Directive :=
  match best with
  | none => some d
  | some b => if (Directive.specificity d b).isLT then some b else some d

/-- The directive that decides about an event. -/
def deciding? (f : Filter) (e : Event) : Option Directive :=
  (f.filter (·.covers e)).foldl higher none

/-- Whether an event is logged. -/
def admits (f : Filter) (e : Event) : Bool := (f.deciding? e).any (e.level.rank ≤ ·.threshold)

end Filter

end ToolPolicy.Log
