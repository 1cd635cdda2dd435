import ToolPolicy.Text.LowerTable

/-! Lower-case forms of characters, one character at a time. -/

namespace ToolPolicy.Lower

/-- Whether a run gives the character its lower-case form. -/
def Run.covers (r : Run) (c : Char) : Bool :=
  r.first ≤ c.toNat && c.toNat ≤ r.last && (c.toNat - r.first) % r.stride == 0

/-- The lower-case form of a character; the dotted capital I alone has one of two characters. -/
def ofChar (c : Char) : List Char :=
  if c = '\u0130' then ['i', '\u0307']
  else match runs.find? (·.covers c) with
    | some r => [Char.ofNat (c.toNat + r.shift).toNat]
    | none => [c]

/-- No character vanishes in lower case. -/
theorem ofChar_ne_nil (c : Char) : ofChar c ≠ [] := by
  unfold ofChar
  split
  · simp
  · cases runs.find? (·.covers c) <;> simp

end ToolPolicy.Lower
