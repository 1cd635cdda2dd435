/-! Patterns of tool names. A star stands for any run of characters but line feeds.

A pattern is run over a text by the row of its positions that can be reached, one for each place
before, between and after the characters of the text. -/

namespace ToolPolicy.Glob

/-- Whether a pattern holds a star. -/
def hasStar (pattern : List Char) : Bool := pattern.contains '*'

/-- The positions that are reached before anything was read. -/
def start (text : List Char) : List Bool := true :: text.map fun _ => false

/-- The positions reached after a literal character. -/
def afterChar (c : Char) (text : List Char) (reached : List Bool) : List Bool :=
  false :: List.zipWith (fun here d => here && d == c) reached text

/-- The positions reached after a star. A position passes on whether it is reached, unless a line
feed follows it. -/
def afterStar (carried : Bool) : List Char → List Bool → List Bool
  | [], reached => [carried || reached.headD false]
  | c :: text, reached =>
    let here := carried || reached.headD false
    -- A star may take nothing, so the position itself stays reached.
    here :: afterStar (here && c != '\n') text reached.tail

/-- The positions reached after a pattern. -/
def reachedAfter (text : List Char) : List Char → List Bool → List Bool
  | [], reached => reached
  | c :: pattern, reached =>
    reachedAfter text pattern
      (if c = '*' then afterStar false text reached else afterChar c text reached)

/-- Whether a pattern matches a whole text. -/
def isMatch (pattern text : List Char) : Bool :=
  (reachedAfter text pattern (start text)).getLast? == some true

/-- What a compiled pattern weighs: a star stands for a class of all characters but one. -/
def weight (pattern : List Char) : Nat :=
  pattern.foldr (fun c total => (if c = '*' then 1040 else 32 * c.utf8Size) + total) 0

/-- The most that a pattern may weigh; heavier ones match nothing. -/
def maxWeight : Nat := 10 * 0x100000

/-- Whether a tool name matches a pattern. Without a star the two are compared as they are. -/
def accepts (pattern tool : String) : Bool :=
  if hasStar pattern.toList then
    -- Only a pattern with a star is compiled, so only such a pattern can be too heavy.
    weight pattern.toList ≤ maxWeight && isMatch pattern.toList tool.toList
  else pattern == tool

end ToolPolicy.Glob
