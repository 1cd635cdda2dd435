import ToolPolicy.Regex.Expression
import ToolPolicy.Regex.Property

/-! From patterns to expressions. A pattern must not match parts of characters, so where it is over
bytes, it may name ASCII characters only. -/

namespace ToolPolicy.Regex

/-- The switches as they stand at a part of a pattern. -/
structure Switches where
  ignoresCase : Bool
  isMultiLine : Bool
  dotMatchesAll : Bool
  isUnicode : Bool
  isCrlf : Bool
deriving DecidableEq, Repr

namespace Switches

/-- The switches of a search that ignores case. -/
def ignoringCase : Switches := ⟨true, false, false, true, false⟩

/-- Turns a switch on or off. The others have no meaning of their own once a pattern is read. -/
def set (s : Switches) (f : Flag) (state : Bool) : Switches :=
  match f with
  | .ignoreCase => { s with ignoresCase := state }
  | .multiLine => { s with isMultiLine := state }
  | .dotMatchesAll => { s with dotMatchesAll := state }
  | .unicode => { s with isUnicode := state }
  | .crlf => { s with isCrlf := state }
  | .swapGreed | .ignoreBlanks => s

/-- The switches after items. -/
def apply (s : Switches) (items : List FlagItem) : Switches :=
  (FlagItem.settings true items).foldl (fun s (f, state) => s.set f state) s

/-- A set with the variants of its characters, if case does not count. -/
def foldCase (s : Switches) (chars : CharSet) : CharSet :=
  if s.ignoresCase then chars.fold s.isUnicode else chars

/-- A set that may be negated, at a part of a pattern. -/
def negate (s : Switches) (span : Span) (negated : Bool) (chars : CharSet) :
    Except Error CharSet :=
  if negated && !s.isUnicode then fail .invalidUtf8 span else .ok (chars.negateIf negated)

/-- The character of a literal. -/
def charOf (s : Switches) (l : Literal) : Except Error Char :=
  if !s.isUnicode && l.isByte && 0x80 ≤ l.char.toNat then fail .invalidUtf8 l.span else .ok l.char

/-- The character of a literal in a class. -/
def classCharOf (s : Switches) (l : Literal) : Except Error Char := do
  let c ← s.charOf l
  if !s.isUnicode && 0x80 ≤ c.toNat then fail .unicodeNotAllowed l.span else return c

/-- The characters of a class that has a letter as escape; case never counts in it. -/
def shortSet (s : Switches) (span : Span) (negated : Bool) (kind : ShortClass) :
    Except Error CharSet :=
  s.negate span negated (kind.set s.isUnicode)

/-- The characters that have a property. -/
def propertySet (s : Switches) (span : Span) (negated : Bool) (query : Query) :
    Except Error CharSet :=
  if s.isUnicode then
    match query.set? with
    | .ok chars => s.negate span negated (s.foldCase chars)
    | .error fault => fail fault span
  else fail .unicodeNotAllowed span

mutual

/-- The characters of a class. -/
def classSet (s : Switches) : CharClass → Except Error CharSet
  | .empty _ => .ok .empty
  | .literal l => do return .single (← s.classCharOf l)
  | .range _ first last => do return .range (← s.classCharOf first) (← s.classCharOf last)
  | .ascii span negated kind => s.negate span negated (s.foldCase kind.set)
  | .short span negated kind => s.shortSet span negated kind
  | .property span negated query => s.propertySet span negated query
  | .bracketed span negated inner => do
    s.negate span negated (s.foldCase (← classSet s inner))
  | .union _ items => classSets s items
  | .operation _ kind lhs rhs => do
    let left ← classSet s lhs
    let right ← classSet s rhs
    -- Variants are added before the operation, which could otherwise take only some of them away.
    return (s.foldCase left).combine (s.foldCase right) kind

/-- The characters of several classes. -/
def classSets (s : Switches) : List CharClass → Except Error CharSet
  | [] => .ok .empty
  | item :: rest => do
    let first ← classSet s item
    let others ← classSets s rest
    return first.union others

end

/-- The condition of an assertion. -/
def lookOf (s : Switches) : Assertion → Look
  | .startLine =>
    if s.isMultiLine then (if s.isCrlf then .startCrlfLine else .startLine) else .start
  | .endLine => if s.isMultiLine then (if s.isCrlf then .endCrlfLine else .endLine) else .finish
  | .startText => .start
  | .endText => .finish
  | .wordBoundary => .wordBoundary
  | .notWordBoundary => .notWordBoundary
  | .wordStart => .wordStart
  | .wordEnd => .wordEnd
  | .wordStartHalf => .wordStartHalf
  | .wordEndHalf => .wordEndHalf

/-- The characters that a dot stands for. -/
def dotSet (s : Switches) : CharSet :=
  let ends : List Char :=
    if s.dotMatchesAll then [] else if s.isCrlf then ['\r', '\n'] else ['\n']
  ⟨fun c => !ends.contains c, CharSet.complementWeight⟩

/-- What an atom means. -/
def atomExpression (s : Switches) : Atom → Except Error Expression
  | .literal l => do
    let c ← s.charOf l
    -- A character without variants is not made a set, because the two weigh differently.
    if s.ignoresCase && !(CharSet.variants s.isUnicode c).isEmpty then
      return .set ((CharSet.single c).fold s.isUnicode)
    else return .char c
  | .dot span => if s.isUnicode then .ok (.set s.dotSet) else fail .invalidUtf8 span
  | .assertion _ kind => .ok (.look (s.lookOf kind))
  | .short span negated kind => (s.shortSet span negated kind).map .set
  | .property span negated query => (s.propertySet span negated query).map .set

end Switches

mutual

/-- What a pattern means under switches, and how it leaves them. -/
def Pattern.meaning (s : Switches) : Pattern → Except Error (Expression × Switches)
  | .empty _ => .ok (.empty, s)
  | .flags _ items => .ok (.empty, s.apply items)
  | .atom a => (s.atomExpression a).map (·, s)
  | .charClass c => (s.classSet c).map fun chars => (.set chars, s)
  | .repetition _ least most sub => do
    let (e, s) ← sub.meaning s
    return (.repeated least most e, s)
  | .group _ .capture sub => do
    -- Switches that are turned inside a group end with it.
    let (e, _) ← sub.meaning s
    return (.group e, s)
  | .group _ (.plain items) sub => do
    let (e, _) ← sub.meaning (s.apply items)
    return (e, s)
  | .alternation _ items => do
    let (es, s) ← Pattern.meanings s items
    return (.alternation es, s)
  | .concat _ items => do
    let (es, s) ← Pattern.meanings s items
    return (.concat es, s)

/-- What patterns mean one after the other. -/
def Pattern.meanings (s : Switches) : List Pattern → Except Error (List Expression × Switches)
  | [] => .ok ([], s)
  | item :: rest => do
    let (e, s) ← item.meaning s
    let (es, s) ← Pattern.meanings s rest
    return (e :: es, s)

end

end ToolPolicy.Regex
