import ToolPolicy.Regex.Fault
import ToolPolicy.Regex.Pattern

/-! How deep the parts of a pattern may lie within one another. -/

namespace ToolPolicy.Regex

/-- The greatest depth. -/
def maxNesting : Nat := 250

mutual

/-- The first class, in the order of the pattern, for which no level is left. -/
def CharClass.tooDeep? : Nat → CharClass → Option Span
  | levels, .bracketed span _ inner =>
    match levels with
    | 0 => some span
    | n + 1 => inner.tooDeep? n
  | levels, .union span items =>
    match levels with
    | 0 => some span
    | n + 1 => CharClass.anyTooDeep? n items
  | levels, .operation span _ lhs rhs =>
    match levels with
    | 0 => some span
    | n + 1 => (lhs.tooDeep? n).or (rhs.tooDeep? n)
  | _, .empty _ | _, .literal _ | _, .range .. | _, .ascii .. | _, .short .. | _, .property .. =>
    none

/-- The first class of several for which no level is left. -/
def CharClass.anyTooDeep? : Nat → List CharClass → Option Span
  | _, [] => none
  | levels, item :: rest => (item.tooDeep? levels).or (CharClass.anyTooDeep? levels rest)

end

mutual

/-- The first part, in the order of the pattern, for which no level is left. -/
def Pattern.tooDeep? : Nat → Pattern → Option Span
  | levels, .charClass c => c.tooDeep? levels
  | levels, .repetition span _ _ sub | levels, .group span _ sub =>
    match levels with
    | 0 => some span
    | n + 1 => sub.tooDeep? n
  | levels, .alternation span items | levels, .concat span items =>
    match levels with
    | 0 => some span
    | n + 1 => Pattern.anyTooDeep? n items
  | _, .empty _ | _, .flags .. | _, .atom _ => none

/-- The first of several parts for which no level is left. -/
def Pattern.anyTooDeep? : Nat → List Pattern → Option Span
  | _, [] => none
  | levels, item :: rest => (item.tooDeep? levels).or (Pattern.anyTooDeep? levels rest)

end

/-- Lets through a pattern that is not nested too deep. -/
def Pattern.checkNesting (p : Pattern) : Except Error Unit :=
  match p.tooDeep? maxNesting with
  | some span => fail (.nestingTooDeep maxNesting) span
  | none => .ok ()

end ToolPolicy.Regex
