import Mathlib.Data.List.TakeWhile
import ToolPolicy.Yaml.Text
import ToolPolicy.Yaml.Token.Basic

/-! Going over text that is known: where the cursor stands afterwards, and which characters stop
it. -/

namespace ToolPolicy.Yaml

/-! ### Characters -/

/-- Neither a blank nor the end of a line. -/
def IsSolid (c : Char) : Prop := isBlank c = false ∧ isBreak c = false

instance : DecidablePred IsSolid := fun c =>
  inferInstanceAs (Decidable (isBlank c = false ∧ isBreak c = false))

/-- What a writer puts down as it is holds no tab. -/
theorem isBlank_eq_of_isPrintable {c : Char} (printable : isPrintable c = true) :
    isBlank c = (c == ' ') := by
  -- Blanks are spaces and tabs, and a tab is not printable.
  have tab : (c == '\t') = false := by
    rw [beq_eq_false_iff_ne]
    rintro rfl
    cases printable
  simp [isBlank, tab]

/-- The end of a line is no blank. -/
theorem isBlank_eq_false_of_isBreak {c : Char} (breaks : isBreak c = true) : isBlank c = false := by
  simp only [isBreak, Bool.or_eq_true, beq_iff_eq] at breaks
  rcases breaks with (((rfl | rfl) | rfl) | rfl) | rfl <;> rfl

/-- What is neither a blank nor the end of a line is solid. -/
theorem isSolid_of_isPrintable {c : Char} (printable : isPrintable c = true) (space : c ≠ ' ')
    (break_ : isBreak c = false) : IsSolid c :=
  ⟨by simp [isBlank_eq_of_isPrintable printable, space], break_⟩

/-- A blank is not solid. -/
theorem IsSolid.ne_space {c : Char} (solid : IsSolid c) : c ≠ ' ' := by
  rintro rfl
  cases solid.1

/-- A text that is empty or starts with a solid character. -/
def StartsSolid (cs : List Char) : Prop := ∀ c ∈ cs.head?, IsSolid c

@[simp]
theorem startsSolid_nil : StartsSolid [] := by simp [StartsSolid]

@[simp]
theorem startsSolid_cons (c : Char) (rest : List Char) : StartsSolid (c :: rest) ↔ IsSolid c := by
  simp [StartsSolid]

@[simp]
theorem length_blanks (n : Nat) : (blanks n).length = n := List.length_replicate

@[simp]
theorem blanks_zero : blanks 0 = [] := rfl

theorem blanks_succ (n : Nat) : blanks (n + 1) = ' ' :: blanks n := rfl

/-- A text starts with characters that pass a test, of which there may be none. -/
theorem exists_prefix (test : Char → Bool) (cs : List Char) :
    ∃ front rest, cs = front ++ rest ∧ (∀ c ∈ front, test c = true) ∧
      ∀ c ∈ rest.head?, test c = false := by
  -- The prefix is taken as long as characters pass, so that it ends where one fails.
  induction cs with
  | nil => exact ⟨[], [], rfl, by simp, by simp⟩
  | cons c cs ih =>
    cases passed : test c with
    | false => exact ⟨[], c :: cs, rfl, by simp, by simpa using passed⟩
    | true =>
      obtain ⟨front, rest, rfl, solid, stop⟩ := ih
      exact ⟨c :: front, rest, rfl, List.forall_mem_cons.mpr ⟨passed, solid⟩, stop⟩

/-- A text starts with blanks, of which there may be none. -/
theorem exists_blanks (cs : List Char) :
    ∃ n rest, cs = blanks n ++ rest ∧ rest.head? ≠ some ' ' := by
  obtain ⟨front, rest, rfl, spaces, stop⟩ := exists_prefix (· == ' ') cs
  refine ⟨front.length, rest, ?_, ?_⟩
  -- The characters of the prefix are spaces, and so blanks of the same number.
  · rw [blanks, ← List.eq_replicate_of_mem fun c member => by simpa using spaces c member]
  · intro space
    cases stop ' ' space

/-- The blanks before a solid character are determined. -/
theorem blanks_append_inj {a b : Nat} {front back : List Char} (first : StartsSolid front)
    (second : StartsSolid back) (same : blanks a ++ front = blanks b ++ back) :
    a = b ∧ front = back := by
  induction a generalizing b with
  | zero =>
    cases b with
    | zero => exact ⟨rfl, same⟩
    -- A blank too many on one side would start the solid text on the other one.
    | succ b =>
      rw [blanks_zero, List.nil_append] at same
      exact absurd rfl ((startsSolid_cons ' ' _).mp (same ▸ first)).ne_space
  | succ a ih =>
    cases b with
    | zero =>
      rw [blanks_zero, List.nil_append] at same
      exact absurd rfl ((startsSolid_cons ' ' _).mp (same ▸ second)).ne_space
    | succ b =>
      obtain ⟨count, rests⟩ := ih (List.cons.inj same).2
      exact ⟨congrArg (· + 1) count, rests⟩

/-! ### Places -/

namespace Mark

variable (m : Mark) (a b : Nat)

@[simp]
theorem advance_zero : m.advance 0 = m := rfl

@[simp]
theorem advance_advance : (m.advance a).advance b = m.advance (a + b) := by
  simp [advance, Nat.add_assoc]

@[simp]
theorem column_advance : (m.advance a).column = m.column + a := rfl

@[simp]
theorem line_advance : (m.advance a).line = m.line := rfl

@[simp]
theorem index_advance : (m.advance a).index = m.index + a := rfl

@[simp]
theorem column_nextLine : (m.nextLine a).column = 0 := rfl

@[simp]
theorem line_nextLine : (m.nextLine a).line = m.line + 1 := rfl

end Mark

/-! ### Cursors -/

namespace Cursor

@[simp]
theorem peek_cons (c : Char) (rest : List Char) (m : Mark) :
    (⟨c :: rest, m⟩ : Cursor).peek = some c :=
  rfl

@[simp]
theorem peek_nil (m : Mark) : (⟨[], m⟩ : Cursor).peek = none := rfl

@[simp]
theorem peekAt_one_cons (c : Char) (rest : List Char) (m : Mark) :
    (⟨c :: rest, m⟩ : Cursor).peekAt 1 = rest.head? := by
  cases rest <;> rfl

/-- Going over the text in front leads to what follows it. -/
theorem skip_append (front rest : List Char) (m : Mark) :
    (⟨front ++ rest, m⟩ : Cursor).skip front.length = ⟨rest, m.advance front.length⟩ := by
  simp [skip]

@[simp]
theorem skip_cons (c : Char) (rest : List Char) (m : Mark) (n : Nat) :
    (⟨c :: rest, m⟩ : Cursor).skip (n + 1) = (⟨rest, m.advance 1⟩ : Cursor).skip n := by
  simp [skip, Nat.add_comm]

@[simp]
theorem skip_zero (c : Cursor) : c.skip 0 = c := by
  simp [skip]

/-- The characters that pass a test are taken together. -/
theorem span_append (test : Char → Bool) (m : Mark) {front rest : List Char}
    (passed : ∀ c ∈ front, test c = true) (stopped : ∀ c ∈ rest.head?, test c = false) :
    (⟨front ++ rest, m⟩ : Cursor).span test = (front, ⟨rest, m.advance front.length⟩) := by
  have taken : (front ++ rest).takeWhile test = front := by
    rw [List.takeWhile_append_of_pos passed]
    cases rest with
    | nil => simp
    | cons c more => simp [stopped c rfl]
  simp [span, taken]

/-- The characters that pass a test are gone over together. -/
theorem skipWhile_append (test : Char → Bool) (m : Mark) {front rest : List Char}
    (passed : ∀ c ∈ front, test c = true) (stopped : ∀ c ∈ rest.head?, test c = false) :
    (⟨front ++ rest, m⟩ : Cursor).skipWhile test = ⟨rest, m.advance front.length⟩ := by
  rw [skipWhile, span_append test m passed stopped]

/-- Nothing is gone over where the first character fails the test. -/
theorem skipWhile_eq_self (test : Char → Bool) (m : Mark) {rest : List Char}
    (stopped : ∀ c ∈ rest.head?, test c = false) :
    (⟨rest, m⟩ : Cursor).skipWhile test = ⟨rest, m⟩ :=
  skipWhile_append test m (List.forall_mem_nil _) stopped

/-- A printable line break is gone over alone. -/
theorem skipBreak_cons {b : Char} {rest : List Char} {m : Mark} (breaks : isBreak b = true)
    (printable : isPrintable b = true) :
    (⟨b :: rest, m⟩ : Cursor).skipBreak = ⟨rest, m.nextLine 1⟩ := by
  unfold skipBreak
  split
  -- The two characters of one line break start with one that is not printable.
  case h_1 shape =>
    cases shape
    cases printable
  case h_2 shape =>
    cases shape
    rw [if_pos breaks]
  case h_3 shape => cases shape

/-- A printable line break stands for itself. -/
theorem lineBreak_cons {b : Char} {rest : List Char} {m : Mark} (breaks : isBreak b = true)
    (printable : isPrintable b = true) : (⟨b :: rest, m⟩ : Cursor).lineBreak = [b] := by
  -- Of the five characters that end a line three are printable.
  have shape : b = '\n' ∨ b = '\u2028' ∨ b = '\u2029' := by
    simp only [isBreak, Bool.or_eq_true, beq_iff_eq] at breaks
    rcases breaks with (((rfl | rfl) | rfl) | rfl) | rfl
    · exact .inl rfl
    · cases printable
    · cases printable
    · exact .inr (.inl rfl)
    · exact .inr (.inr rfl)
  rcases shape with rfl | rfl | rfl <;> rfl

/-- A place that is not at the start of a line is at no document marker. -/
theorem isAtAnyMarker_of_column {c : Cursor} (inside : c.mark.column ≠ 0) :
    c.isAtAnyMarker = false := by
  -- Both markers are looked for in the first column.
  simp [isAtAnyMarker, isAtMarker, inside]

end Cursor

end ToolPolicy.Yaml
