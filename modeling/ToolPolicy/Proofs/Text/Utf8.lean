import Mathlib.Data.List.TakeWhile
import Mathlib.Data.UInt
import ToolPolicy.Proofs.Except
import ToolPolicy.Text.Utf8

/-! What is decoded from bytes is the text that they encode, and all that encodes a text is decoded. -/

namespace ToolPolicy.Utf8

/-! ### Bytes -/

/-- How many bytes a character has can be told from its first one. -/
theorem width_eq_some_iff {first : UInt8} {n : Nat} : width first = some n ↔
    (n = 1 ∧ first.toNat < 0x80) ∨ (n = 2 ∧ 0xc2 ≤ first.toNat ∧ first.toNat ≤ 0xdf) ∨
    (n = 3 ∧ 0xe0 ≤ first.toNat ∧ first.toNat ≤ 0xef) ∨
    (n = 4 ∧ 0xf0 ≤ first.toNat ∧ first.toNat ≤ 0xf4) := by
  simp only [width, UInt8.lt_iff_toNat_lt, UInt8.le_iff_toNat_le, UInt8.reduceToNat,
    Bool.and_eq_true, decide_eq_true_eq]
  -- The ranges of first bytes are tried one after the other.
  split
  · simp only [Option.some.injEq]
    omega
  · split
    · simp only [Option.some.injEq]
      omega
    · split
      · simp only [Option.some.injEq]
        omega
      · split
        · simp only [Option.some.injEq]
          omega
        · simp only [reduceCtorEq, false_iff]
          omega

/-- The bytes that continue a character. -/
theorem isContinuation_iff {b : UInt8} :
    isContinuation b = true ↔ 0x80 ≤ b.toNat ∧ b.toNat ≤ 0xbf := by
  simp [isContinuation, UInt8.le_iff_toNat_le]

/-- A second byte continues a character; after four first bytes some of these are ruled out. -/
theorem secondFits_iff {first b : UInt8} : secondFits first b = true ↔
    0x80 ≤ b.toNat ∧ b.toNat ≤ 0xbf ∧ (first.toNat = 0xe0 → 0xa0 ≤ b.toNat) ∧
    (first.toNat = 0xed → b.toNat ≤ 0x9f) ∧ (first.toNat = 0xf0 → 0x90 ≤ b.toNat) ∧
    (first.toNat = 0xf4 → b.toNat ≤ 0x8f) := by
  simp only [secondFits, isContinuation, UInt8.le_iff_toNat_le, ← UInt8.toNat_inj,
    UInt8.reduceToNat]
  -- One case for each first byte that limits the second one.
  split
  · simp only [Bool.and_eq_true, decide_eq_true_eq]
    omega
  · split
    · simp only [Bool.and_eq_true, decide_eq_true_eq]
      omega
    · split
      · simp only [Bool.and_eq_true, decide_eq_true_eq]
        omega
      · split
        · simp only [Bool.and_eq_true, decide_eq_true_eq]
          omega
        · simp only [Bool.and_eq_true, decide_eq_true_eq]
          omega

/-- Whether bytes continue the character that a first one starts. -/
def Continues (first : UInt8) : List UInt8 → Prop
  | [] => True
  | second :: more => secondFits first second = true ∧ ∀ b ∈ more, isContinuation b = true

/-- As many bytes as are due are found where they are there and continue the character. -/
theorem continued_eq_iff {first : UInt8} {due : Nat} {rest : List UInt8} :
    continued first due rest = due ↔ due ≤ rest.length ∧ Continues first (rest.take due) := by
  match due, rest with
  | 0, rest => simp [continued, Continues]
  | n + 1, [] => simp [continued]
  | n + 1, second :: more =>
    rw [continued, List.take_succ_cons, Continues, List.length_cons]
    split
    next fits =>
      -- Only the bytes that follow the second one are counted, up to the first that does not fit.
      have part := (List.takeWhile_prefix isContinuation (l := more.take n)).length_le
      rw [List.length_take] at part
      constructor
      · intro count
        have whole : (more.take n).takeWhile isContinuation = more.take n := by
          refine (List.takeWhile_prefix _).eq_of_length_le ?_
          rw [List.length_take]
          omega
        exact ⟨by omega, fits, List.takeWhile_eq_self_iff.mp whole⟩
      · rintro ⟨length, -, each⟩
        rw [List.takeWhile_eq_self_iff.mpr each, List.length_take]
        omega
    next unfit => simp [unfit]

/-- Bytes that follow a first one are no characters of their own. -/
theorem le_of_continues {first b : UInt8} {rest : List UInt8} (continues : Continues first rest)
    (member : b ∈ rest) : 0x80 ≤ b := by
  rw [UInt8.le_iff_toNat_le]
  cases rest with
  | nil => cases member
  | cons second more =>
    rcases List.mem_cons.mp member with rfl | later
    · exact (secondFits_iff.mp continues.1).1
    · exact (isContinuation_iff.mp (continues.2 b later)).1

/-! ### Characters -/

/-- The character of a valid code has this code. -/
theorem toNat_ofNat {code : Nat} (valid : code.isValidChar) :
    (Char.ofNat code).val.toNat = code := by
  rw [Char.ofNat, dif_pos valid]
  rfl

/-- The bytes of a character are those that encode it. -/
theorem encode_charOf {first : UInt8} {rest : List UInt8}
    (wide : width first = some (rest.length + 1)) (continues : Continues first rest) :
    String.utf8EncodeChar (charOf first rest) = first :: rest := by
  rw [width_eq_some_iff] at wide
  -- One case for each number of bytes; the code of the character decides in how many it is encoded.
  match rest with
  | [] =>
    rw [List.length_nil] at wide
    replace wide : first.toNat < 0x80 := by omega
    let code := first.toNat % 128
    have valid : code.isValidChar := .inl (by omega)
    have number : (charOf first []).val.toNat = code := toNat_ofNat valid
    simp only [String.utf8EncodeChar, number, code]
    rw [if_pos (by omega)]
    simp only [List.cons.injEq, and_true, ← UInt8.toNat_inj, UInt8.toNat_ofNat']
    omega
  | [second] =>
    rw [Continues, secondFits_iff] at continues
    rw [List.length_singleton] at wide
    replace wide : 0xc2 ≤ first.toNat ∧ first.toNat ≤ 0xdf := by omega
    let code := first.toNat % 32 * 64 + second.toNat % 64
    have valid : code.isValidChar := .inl (by omega)
    have number : (charOf first [second]).val.toNat = code := toNat_ofNat valid
    simp only [String.utf8EncodeChar, number, code]
    rw [if_neg (by omega), if_pos (by omega)]
    simp only [List.cons.injEq, and_true, ← UInt8.toNat_inj, UInt8.toNat_ofNat']
    exact ⟨by omega, by omega⟩
  | [second, third] =>
    rw [Continues, secondFits_iff, List.forall_mem_singleton, isContinuation_iff] at continues
    simp only [List.length_cons, List.length_nil] at wide
    replace wide : 0xe0 ≤ first.toNat ∧ first.toNat ≤ 0xef := by omega
    let code := (first.toNat % 16 * 64 + second.toNat % 64) * 64 + third.toNat % 64
    -- No second byte leads to a surrogate.
    have valid : code.isValidChar := by
      unfold Nat.isValidChar
      omega
    have number : (charOf first [second, third]).val.toNat = code := toNat_ofNat valid
    simp only [String.utf8EncodeChar, number, code]
    rw [if_neg (by omega), if_neg (by omega), if_pos (by omega)]
    simp only [List.cons.injEq, and_true, ← UInt8.toNat_inj, UInt8.toNat_ofNat']
    exact ⟨by omega, by omega, by omega⟩
  | [second, third, fourth] =>
    rw [Continues, secondFits_iff, List.forall_mem_cons, List.forall_mem_singleton,
      isContinuation_iff, isContinuation_iff] at continues
    simp only [List.length_cons, List.length_nil] at wide
    replace wide : 0xf0 ≤ first.toNat ∧ first.toNat ≤ 0xf4 := by omega
    let code :=
      ((first.toNat % 8 * 64 + second.toNat % 64) * 64 + third.toNat % 64) * 64 + fourth.toNat % 64
    have valid : code.isValidChar := by
      unfold Nat.isValidChar
      omega
    have number : (charOf first [second, third, fourth]).val.toNat = code := toNat_ofNat valid
    simp only [String.utf8EncodeChar, number, code]
    rw [if_neg (by omega), if_neg (by omega), if_neg (by omega)]
    simp only [List.cons.injEq, and_true, ← UInt8.toNat_inj, UInt8.toNat_ofNat']
    exact ⟨by omega, by omega, by omega, by omega⟩
  | _ :: _ :: _ :: _ :: _ =>
    simp only [List.length_cons] at wide
    omega

/-- What encodes a character is a first byte with those that continue it, and stands for it. -/
theorem charOf_encode {c : Char} {first : UInt8} {rest : List UInt8}
    (encoded : String.utf8EncodeChar c = first :: rest) :
    width first = some (rest.length + 1) ∧ Continues first rest ∧ charOf first rest = c := by
  have valid : c.val.toNat < 0xd800 ∨ 0xdfff < c.val.toNat ∧ c.val.toNat < 0x110000 := c.valid
  have whole : Char.ofNat c.val.toNat = c := Char.ofNat_toNat c
  rw [width_eq_some_iff]
  unfold String.utf8EncodeChar at encoded
  dsimp only at encoded
  generalize c.val.toNat = code at encoded valid whole
  subst whole
  -- The code decides how many bytes there are; taken together these make up the code again.
  split at encoded
  · cases encoded
    simp only [List.length_nil, UInt8.toNat_ofNat', true_and]
    refine ⟨by omega, trivial, ?_⟩
    show Char.ofNat ((UInt8.ofNat _).toNat % 128) = _
    rw [UInt8.toNat_ofNat']
    congr 1
    omega
  · split at encoded
    · cases encoded
      simp only [List.length_singleton, Continues, secondFits_iff, UInt8.toNat_ofNat', true_and]
      refine ⟨by omega, ⟨by omega, by simp⟩, ?_⟩
      show Char.ofNat ((UInt8.ofNat _).toNat % 32 * 64 + (UInt8.ofNat _).toNat % 64) = _
      rw [UInt8.toNat_ofNat', UInt8.toNat_ofNat']
      congr 1
      omega
    · split at encoded
      · cases encoded
        simp only [List.length_cons, List.length_nil, Continues, secondFits_iff,
          List.forall_mem_singleton, isContinuation_iff, UInt8.toNat_ofNat', true_and]
        refine ⟨by omega, by omega, ?_⟩
        show Char.ofNat (((UInt8.ofNat _).toNat % 16 * 64 + (UInt8.ofNat _).toNat % 64) * 64 +
          (UInt8.ofNat _).toNat % 64) = _
        rw [UInt8.toNat_ofNat', UInt8.toNat_ofNat', UInt8.toNat_ofNat']
        congr 1
        omega
      · cases encoded
        have both {P : UInt8 → Prop} {b d : UInt8} : (∀ x ∈ [b, d], P x) ↔ P b ∧ P d := by
          rw [List.forall_mem_cons, List.forall_mem_singleton]
        simp only [List.length_cons, List.length_nil, Continues, secondFits_iff, both,
          isContinuation_iff, UInt8.toNat_ofNat', true_and]
        refine ⟨by omega, by omega, ?_⟩
        show Char.ofNat ((((UInt8.ofNat _).toNat % 8 * 64 + (UInt8.ofNat _).toNat % 64) * 64 +
          (UInt8.ofNat _).toNat % 64) * 64 + (UInt8.ofNat _).toNat % 64) = _
        rw [UInt8.toNat_ofNat', UInt8.toNat_ofNat', UInt8.toNat_ofNat', UInt8.toNat_ofNat']
        congr 1
        omega

/-! ### Texts -/

/-- Bytes that encode a text start with those of a character, and the others encode the rest. -/
theorem decodeFrom_cons_eq_ok {index : Nat} {first : UInt8} {rest : List UInt8} {cs : List Char}
    (decoded : decodeFrom index (first :: rest) = .ok cs) :
    ∃ n more, width first = some n ∧ continued first (n - 1) rest = n - 1 ∧
      decodeFrom (index + n) (rest.drop (n - 1)) = .ok more ∧
      cs = charOf first (rest.take (n - 1)) :: more := by
  rw [decodeFrom] at decoded
  split at decoded
  next => cases decoded
  next n width =>
    simp only at decoded
    split at decoded
    -- A character is read where all its bytes are there and what follows them is decoded.
    next whole =>
      split at decoded
      next more later => exact ⟨n, more, width, whole, later, (Except.ok.inj decoded).symm⟩
      next => cases decoded
    next => split at decoded <;> cases decoded

/-- Bytes are decoded to a text that they encode. -/
theorem encode_of_decodeFrom {index : Nat} {bytes : List UInt8} {cs : List Char}
    (decoded : decodeFrom index bytes = .ok cs) : cs.flatMap String.utf8EncodeChar = bytes := by
  -- The rest of the bytes starts behind the first character, so the induction is on their number.
  induction length : bytes.length using Nat.strongRecOn generalizing index bytes cs with
  | _ length ih =>
  cases bytes with
  | nil =>
    rw [decodeFrom] at decoded
    cases decoded
    rfl
  | cons first rest =>
    obtain ⟨n, more, wide, whole, later, rfl⟩ := decodeFrom_cons_eq_ok decoded
    obtain ⟨there, continues⟩ := continued_eq_iff.mp whole
    -- The width tells how many bytes are taken, and that many are there.
    have counted : (rest.take (n - 1)).length + 1 = n := by
      rw [width_eq_some_iff] at wide
      rw [List.length_take]
      omega
    have here := encode_charOf (by rw [counted, wide]) continues
    have after : more.flatMap String.utf8EncodeChar = rest.drop (n - 1) := by
      refine ih _ ?_ later rfl
      rw [← length, List.length_drop, List.length_cons]
      omega
    rw [List.flatMap_cons, here, after, List.cons_append, List.take_append_drop]

/-- A text is decoded from the bytes that encode it. -/
theorem decodeFrom_encode (index : Nat) (cs : List Char) :
    decodeFrom index (cs.flatMap String.utf8EncodeChar) = .ok cs := by
  induction cs generalizing index with
  | nil => rw [List.flatMap_nil, decodeFrom]
  | cons c rest ih =>
    rw [List.flatMap_cons]
    cases encoded : String.utf8EncodeChar c with
    -- Every character has at least one byte.
    | nil =>
      have length := congrArg List.length encoded
      rw [String.length_utf8EncodeChar] at length
      exact absurd length (Nat.ne_of_gt c.utf8Size_pos)
    | cons first more =>
      obtain ⟨wide, continues, same⟩ := charOf_encode encoded
      -- All that is due is found, as the character was encoded by it.
      have whole : continued first more.length (more ++ rest.flatMap String.utf8EncodeChar) =
          more.length := by
        rw [continued_eq_iff, List.take_left]
        exact ⟨by simp, continues⟩
      rw [List.cons_append, decodeFrom, wide]
      dsimp only
      rw [Nat.add_sub_cancel, if_pos whole, List.drop_left, ih, List.take_left, same]

/-- Bytes are decoded to a text exactly where they encode it. -/
theorem decode_eq_ok_iff {bytes : List UInt8} {text : String} :
    decode bytes = .ok text ↔ text.toUTF8 = bytes.toByteArray := by
  have encoded : text.toUTF8 = (text.toList.flatMap String.utf8EncodeChar).toByteArray :=
    calc text.toUTF8 = (String.ofList text.toList).toByteArray := by
          rw [String.ofList_toList, String.toUTF8_eq_toByteArray]
      _ = _ := String.toByteArray_ofList
  -- Both sides are byte arrays, and these are equal as lists are.
  have same {as bs : List UInt8} : as.toByteArray = bs.toByteArray ↔ as = bs := by
    refine ⟨fun equal => ?_, congrArg _⟩
    simpa [List.data_toByteArray] using congrArg ByteArray.data equal
  rw [encoded, same, decode]
  constructor
  · intro decoded
    obtain ⟨cs, found, rfl⟩ := exists_of_map decoded
    rw [String.toList_ofList]
    exact encode_of_decodeFrom found
  · rintro rfl
    rw [decodeFrom_encode]
    exact congrArg Except.ok String.ofList_toList

end ToolPolicy.Utf8
