import ToolPolicy.Regex.Expression

/-! Matching by the rows of the positions of a text that can be reached, one for each place before,
between and after its characters. -/

namespace ToolPolicy.Regex

/-- The characters before and after a position. -/
structure Surroundings where
  before : Option Char
  after : Option Char
deriving DecidableEq, Repr

/-- The surroundings of all positions, given the character before the first one. -/
def surroundings : Option Char → List Char → List Surroundings
  | before, [] => [⟨before, none⟩]
  | before, c :: rest => ⟨before, some c⟩ :: surroundings (some c) rest

/-- Whether there is a character, and it belongs to a word. -/
def isWord (c : Option Char) : Bool := c.any (ShortClass.word.set true).has

/-- Whether a condition holds of surroundings. -/
def Look.holds (l : Look) (around : Surroundings) : Bool :=
  let before := around.before
  let after := around.after
  match l with
  | start => before.isNone
  | finish => after.isNone
  | startLine => before.isNone || before == some '\n'
  | endLine => after.isNone || after == some '\n'
  | startCrlfLine =>
    before.isNone || before == some '\n' || (before == some '\r' && after != some '\n')
  | endCrlfLine =>
    after.isNone || after == some '\r' || (after == some '\n' && before != some '\r')
  | wordBoundary => isWord before != isWord after
  | notWordBoundary => isWord before == isWord after
  | wordStart => !isWord before && isWord after
  | wordEnd => isWord before && !isWord after
  | wordStartHalf => !isWord before
  | wordEndHalf => !isWord after

/-- The positions of two rows. -/
def join (row other : List Bool) : List Bool := List.zipWith (· || ·) row other

/-- The positions after characters that pass a test. -/
def afterChar (has : Char → Bool) (text : List Char) (row : List Bool) : List Bool :=
  false :: List.zipWith (fun here c => here && has c) row text

/-- The positions where a condition holds. -/
def atLook (l : Look) (text : List Char) (row : List Bool) : List Bool :=
  List.zipWith (fun here around => here && l.holds around) row (surroundings none text)

/-- Takes a step a number of times. -/
def repeatExactly (step : List Bool → List Bool) : Nat → List Bool → List Bool
  | 0, row => row
  | n + 1, row => repeatExactly step n (step row)

/-- Takes a step up to a number of times. -/
def repeatUpTo (step : List Bool → List Bool) : Nat → List Bool → List Bool
  | 0, row => row
  | n + 1, row => join row (repeatUpTo step n (step row))

mutual

/-- The positions where an expression can end that begins at one of a row. To repeat without bound
it is enough to repeat as often as there are positions. -/
def Expression.reach (text : List Char) : Expression → List Bool → List Bool
  | .empty, row => row
  | .char c, row => afterChar (· == c) text row
  | .set s, row => afterChar s.has text row
  | .look l, row => atLook l text row
  | .group sub, row => sub.reach text row
  | .repetition least most sub, row =>
    let most := match most with
      -- Each further repetition that counts moves at least one position on.
      | some m => min (m - least) (text.length + 1)
      | none => text.length + 1
    repeatUpTo (sub.reach text) most (repeatExactly (sub.reach text) least row)
  | .concat items, row => Expression.reachAll text items row
  | .alternation branches, row => Expression.reachAny text branches row

/-- The positions after expressions one after the other. -/
def Expression.reachAll (text : List Char) : List Expression → List Bool → List Bool
  | [], row => row
  | item :: rest, row => Expression.reachAll text rest (item.reach text row)

/-- The positions after one of several expressions. -/
def Expression.reachAny (text : List Char) : List Expression → List Bool → List Bool
  | [], row => row.map fun _ => false
  | item :: rest, row => join (item.reach text row) (Expression.reachAny text rest row)

end

/-- Whether an expression matches somewhere in a text. -/
def Expression.occursIn (e : Expression) (text : List Char) : Bool :=
  -- A match may begin at any position and end at any.
  (e.reach text (true :: text.map fun _ => true)).any id

end ToolPolicy.Regex
