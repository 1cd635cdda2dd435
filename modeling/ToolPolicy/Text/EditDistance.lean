/-! Edit distance that counts insertions, deletions, substitutions and transpositions. Characters
between the two of a transposed pair may be edited as well. -/

namespace ToolPolicy.EditDistance

/-- Rows of distances, the newest first.

A row belongs to a left part and lists its distances from the right parts in order of length. -/
abbrev Rows := List (List Nat)

/-- The distance in the row that is `back` rows older than the newest one. -/
def Rows.entryAt (rows : Rows) (back column : Nat) : Nat := (rows[back]?.getD [])[column]?.getD 0

/-- The last place, counted from one, that holds the character; zero if there is none. -/
def lastPlace (cs : List Char) (c : Char) : Nat :=
  cs.zipIdx.foldl (fun place (d, i) => if d == c then i + 1 else place) 0

/-- The distance of the left part of length `i`, which ends in `c`, and the right part of length
`j`, which ends in `d`.

A transposition pairs `c` and `d` with the last `d` on the left and the last `c` on the right. -/
def nextEntry (left right : List Char) (rows : Rows) (row : List Nat) (i j : Nat) (c d : Char) :
    Nat :=
  let beside := row[j - 1]?.getD 0
  let simple := min (min (rows.entryAt 0 j + 1) (beside + 1))
    (rows.entryAt 0 (j - 1) + if c == d then 0 else 1)
  let i' := lastPlace (left.take (i - 1)) d
  let j' := lastPlace (right.take (j - 1)) c
  if i' = 0 ∨ j' = 0 then simple
  -- What lies between the pair on the left is deleted, and on the right inserted.
  else min simple (rows.entryAt (i - i') (j' - 1) + (i - i' - 1) + 1 + (j - j' - 1))

/-- The row of the left part of length `i`, whose last character is `c`. -/
def nextRow (left right : List Char) (rows : Rows) (i : Nat) (c : Char) : List Nat :=
  right.zipIdx.foldl (fun row (d, k) => row ++ [nextEntry left right rows row i (k + 1) c d]) [i]

/-- The rows of all left parts. -/
def table (left right : List Char) : Rows :=
  left.zipIdx.foldl
    (fun rows (c, k) => nextRow left right rows (k + 1) c :: rows) [List.range (right.length + 1)]

/-- The least number of edits that turn one text into the other. -/
def distance (left right : List Char) : Nat := (table left right).entryAt 0 right.length

end ToolPolicy.EditDistance
