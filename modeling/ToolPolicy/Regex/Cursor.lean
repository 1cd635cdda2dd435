import ToolPolicy.Regex.Fault
import ToolPolicy.Text.Blank

/-! What is left of a pattern while it is read. -/

namespace ToolPolicy.Regex

/-- The rest of a pattern with its place, whether blanks and comments are passed over in it, and the
names of the groups before it. -/
structure Cursor where
  rest : List Char
  place : Place
  ignoresBlanks : Bool
  names : List (String × Span)

namespace Cursor

/-- The beginning of a pattern. -/
def ofPattern (pattern : List Char) : Cursor := ⟨pattern, .start, false, []⟩

def char? (c : Cursor) : Option Char := c.rest.head?

def isAtEnd (c : Cursor) : Bool := c.rest.isEmpty

/-- Passes over a character. -/
def next (c : Cursor) : Cursor :=
  match c.rest with
  | [] => c
  | d :: rest => { c with rest := rest, place := c.place.after d }

/-- Nothing, where the cursor stands. -/
def here (c : Cursor) : Span := .point c.place

/-- The part from a place to the cursor. -/
def since (c : Cursor) (first : Place) : Span := ⟨first, c.place⟩

/-- The part that the next character takes. -/
def charSpan (c : Cursor) : Span := ⟨c.place, c.next.place⟩

/-- Passes over blanks and comments. -/
def dropBlanks : Bool → List Char → Place → List Char × Place
  | _, [], p => ([], p)
  | true, d :: rest, p => dropBlanks (d != '\n') rest (p.after d)
  | false, d :: rest, p =>
    if Blank.isBlank d then dropBlanks false rest (p.after d)
    else if d = '#' then dropBlanks true rest (p.after d)
    else (d :: rest, p)

/-- Passes over blanks and comments where they do not count. -/
def skipBlanks (c : Cursor) : Cursor :=
  if c.ignoresBlanks then
    let (rest, place) := dropBlanks false c.rest c.place
    { c with rest := rest, place := place }
  else c

/-- Passes over a character and what does not count after it. -/
def advance (c : Cursor) : Cursor := c.next.skipBlanks

/-- Passes over a text that comes next. -/
def take? (c : Cursor) (text : List Char) : Option Cursor :=
  if text.isPrefixOf c.rest then some (text.foldl (fun c _ => c.next) c) else none

/-- The character after the next one. -/
def second? (c : Cursor) : Option Char := c.next.char?

/-- The first character that counts after the next one. The sign of a comment is passed over like a
blank, but not the comment. -/
def secondCounted? (c : Cursor) : Option Char :=
  let rest := c.next.rest
  if c.ignoresBlanks then
    let counted := match rest.dropWhile Blank.isBlank with
      | '#' :: more => more.dropWhile Blank.isBlank
      | more => more
    counted.head?.or rest.head?
  else rest.head?

theorem dropBlanks_length_le (inComment : Bool) (cs : List Char) (p : Place) :
    (dropBlanks inComment cs p).1.length ≤ cs.length := by
  -- Inside of a comment and outside of it a character is passed over, or the text stays.
  induction cs generalizing inComment p with
  | nil => cases inComment <;> simp [dropBlanks]
  | cons d rest ih =>
    cases inComment with
    | true => exact Nat.le_succ_of_le (ih _ _)
    | false =>
      simp only [dropBlanks]
      split
      · exact Nat.le_succ_of_le (ih _ _)
      · split
        · exact Nat.le_succ_of_le (ih _ _)
        · exact Nat.le_refl _

/-- Advancing leaves less of a pattern. -/
theorem advance_length_lt {c : Cursor} (h : c.rest ≠ []) :
    c.advance.rest.length < c.rest.length := by
  obtain ⟨rest, place, ignoresBlanks, names⟩ := c
  cases rest with
  | nil => exact absurd rfl h
  | cons d rest =>
    cases ignoresBlanks with
    | false => simp [advance, next, skipBlanks]
    | true =>
      -- The blanks that are passed over behind the character only make it shorter.
      have shorter := dropBlanks_length_le false rest (place.after d)
      simp only [advance, next, skipBlanks, if_true, List.length_cons]
      omega

end Cursor

end ToolPolicy.Regex
