import ToolPolicy.Loader.Basic
import ToolPolicy.Proofs.Text.Utf8

/-! A file and the text it encodes are read alike, and a byte order mark makes no difference. -/

namespace ToolPolicy

/-- The fault as it is reported of another path. -/
def LoadFault.withPath (path : String) : LoadFault → LoadFault
  | malformed _ line message => malformed path line message
  | missingFile _ => missingFile path
  | other => other

namespace Loader

/-- A text with a byte order mark in front of it. -/
def withMark (text : String) : String := "\uFEFF" ++ text

/-- The bytes of a file that holds a text. -/
def bytesOf (text : String) : List UInt8 := text.toUTF8.data.toList

/-! ### Sizes -/

/-- What is within the limit passes. -/
theorem checkSize_of_le {size limit : Nat} (within : size ≤ limit) :
    checkSize size limit = .ok () :=
  if_neg (Nat.not_lt.mpr within)

/-- What is beyond the limit is refused. -/
theorem checkSize_of_lt {size limit : Nat} (beyond : limit < size) :
    checkSize size limit = .error (.oversize size limit) :=
  if_pos beyond

/-- A text has as many bytes as there are to encode it. -/
theorem utf8ByteSize_eq {text : String} {bytes : List UInt8}
    (encodes : text.toUTF8 = bytes.toByteArray) : text.utf8ByteSize = bytes.length := by
  have size := congrArg ByteArray.size encodes
  rwa [List.size_toByteArray] at size

/-- The bytes of a text encode it. -/
theorem toUTF8_eq (text : String) : text.toUTF8 = (bytesOf text).toByteArray := by
  apply ByteArray.ext
  rw [List.data_toByteArray, bytesOf, Array.toArray_toList]

/-! ### Texts -/

/-- Where a text stands matters to nothing but the path in its faults. -/
theorem parse_withPath (text path other : String) :
    parse text path = (parse text other).mapError (.withPath path) := by
  unfold parse
  dsimp only
  split
  -- A text that counts as blank has no fault at all; in the other case the path enters with the
  -- fault alone, after everything is read.
  · rfl
  · cases valueOf (dropMark text.toList) with
    | ok value => rfl
    | error fault => rfl

/-- Reading a text fails for its form alone. -/
theorem parse_ne_invalidValue (text path field value expected : String) :
    parse text path ≠ .error (.invalidValue field value expected) := by
  unfold parse
  dsimp only
  -- A blank text is never refused, and what is refused otherwise is malformed.
  split
  · nofun
  · split
    · nofun
    · nofun

/-- A byte order mark is dropped from a text that does not begin with another one. -/
theorem parse_withMark {text : String} (unmarked : text.toList.head? ≠ some '\uFEFF')
    (path : String) : parse (withMark text) path = parse text path := by
  have plain : dropMark text.toList = text.toList := by
    unfold dropMark
    split
    -- The only text from which a mark is dropped begins with one.
    · next rest marked => exact absurd (congrArg List.head? marked) unmarked
    · rfl
  -- Only the mark in front is dropped, and the text comes out as it is without one.
  have dropped : dropMark (withMark text).toList = text.toList := by
    rw [withMark, String.toList_append]
    rfl
  unfold parse
  rw [dropped, plain]

/-- Without its mark a text is shorter. -/
theorem utf8ByteSize_le_withMark (text : String) :
    text.utf8ByteSize ≤ (withMark text).utf8ByteSize := by
  rw [withMark, String.utf8ByteSize_append]
  exact Nat.le_add_left _ _

/-! ### Files -/

/-- A file is decoded, and the text that it holds is parsed. -/
theorem load_file (limit : Nat) (path : String) (bytes : List UInt8) :
    load limit path (some (.file bytes)) =
      (decodeBytes limit path bytes).bind fun text => parse text path :=
  rfl

/-- A file that is not too large and encodes a text is read as this text. -/
theorem load_of_encodes {limit : Nat} {path text : String} {bytes : List UInt8}
    (within : bytes.length ≤ limit) (encodes : text.toUTF8 = bytes.toByteArray) :
    load limit path (some (.file bytes)) = parse text path := by
  have decoded := Utf8.decode_eq_ok_iff.mpr encodes
  rw [load_file, decodeBytes, checkSize_of_le within, decoded]
  rfl

/-- A file that is not too large and encodes no text is refused. -/
theorem load_of_undecodable {limit : Nat} {path : String} {bytes : List UInt8} {fault : Utf8.Fault}
    (within : bytes.length ≤ limit) (undecodable : Utf8.decode bytes = .error fault) :
    load limit path (some (.file bytes)) =
      .error (.malformed path none ("file is not valid UTF-8: " ++ fault.message)) := by
  rw [load_file, decodeBytes, checkSize_of_le within, undecodable]
  rfl

/-- A file that is too large is refused, whatever is in it. -/
theorem load_of_large {limit : Nat} {bytes : List UInt8} (beyond : limit < bytes.length)
    (path : String) :
    load limit path (some (.file bytes)) = .error (.oversize bytes.length limit) := by
  rw [load_file, decodeBytes, checkSize_of_lt beyond]
  rfl

/-- A text that is not too large is parsed. -/
theorem loadText_of_le {limit : Nat} {text : String} (within : text.utf8ByteSize ≤ limit) :
    loadText limit text = parse text memoryPath := by
  rw [loadText, checkSize_of_le within]
  rfl

/-- A text that is too large is refused. -/
theorem loadText_of_large {limit : Nat} {text : String} (beyond : limit < text.utf8ByteSize) :
    loadText limit text = .error (.oversize text.utf8ByteSize limit) := by
  rw [loadText, checkSize_of_lt beyond]
  rfl

/-- A file that encodes a text is read as this text, apart from the path in its faults. -/
theorem load_eq_loadText {text : String} {bytes : List UInt8}
    (encodes : text.toUTF8 = bytes.toByteArray) (limit : Nat) (path : String) :
    load limit path (some (.file bytes)) = (loadText limit text).mapError (.withPath path) := by
  have size := utf8ByteSize_eq encodes
  -- Both sizes are the same number of bytes, and a fault about them names no path.
  by_cases beyond : limit < bytes.length
  · rw [load_of_large beyond, loadText_of_large (size ▸ beyond), size]
    rfl
  · have within := Nat.not_lt.mp beyond
    rw [load_of_encodes within encodes, loadText_of_le (size ▸ within)]
    exact parse_withPath text path memoryPath

/-- A file is refused for a setting exactly where it is too large. -/
theorem load_eq_invalidValue_iff (limit : Nat) (path : String) (bytes : List UInt8) :
    (∃ field value expected,
      load limit path (some (.file bytes)) = .error (.invalidValue field value expected)) ↔
      limit < bytes.length := by
  constructor
  · rintro ⟨field, value, expected, refused⟩
    by_contra within
    have small := Nat.not_lt.mp within
    -- Neither the decoding nor the parsing of what is within the limit is about a setting.
    cases decoded : Utf8.decode bytes with
    | error fault =>
      rw [load_of_undecodable small decoded] at refused
      cases refused
    | ok text =>
      rw [load_of_encodes small (Utf8.decode_eq_ok_iff.mp decoded)] at refused
      exact parse_ne_invalidValue text path field value expected refused
  · intro beyond
    exact ⟨_, _, _, load_of_large beyond path⟩

/-- Bytes that encode no text are not decoded. -/
theorem exists_fault {bytes : List UInt8} (invalid : ¬bytes.toByteArray.IsValidUTF8) :
    ∃ fault, Utf8.decode bytes = .error fault := by
  cases decoded : Utf8.decode bytes with
  | error fault => exact ⟨fault, rfl⟩
  | ok text =>
    -- Bytes that are decoded to a text encode it, and what encodes a text is valid.
    have encodes := Utf8.decode_eq_ok_iff.mp decoded
    rw [String.toUTF8_eq_toByteArray] at encodes
    exact absurd (encodes ▸ text.isValidUTF8) invalid

/-- A byte order mark makes no difference where there is room for it. -/
theorem loadText_withMark {text : String} (unmarked : text.toList.head? ≠ some '\uFEFF')
    {limit : Nat} (within : (withMark text).utf8ByteSize ≤ limit) :
    loadText limit (withMark text) = loadText limit text := by
  have shorter := (utf8ByteSize_le_withMark text).trans within
  rw [loadText_of_le within, loadText_of_le shorter, parse_withMark unmarked]

/--
A file is refused for its size exactly where it has more bytes than the limit. A file within the
limit is refused without a line where its bytes are not UTF-8, and is read as the text that it
encodes otherwise, apart from the path in the faults.

A byte order mark in front of a text that does not begin with another one makes no difference within
the limit.
-/
theorem load_eq_loadText_exactly (limit : Nat) (path : String) (bytes : List UInt8) :
    ((∃ field value expected,
        load limit path (some (.file bytes)) = .error (.invalidValue field value expected)) ↔
      limit < bytes.length) ∧
    (limit < bytes.length →
      load limit path (some (.file bytes)) = .error (.oversize bytes.length limit)) ∧
    (bytes.length ≤ limit → ¬bytes.toByteArray.IsValidUTF8 →
      ∃ fault, Utf8.decode bytes = .error fault ∧ load limit path (some (.file bytes)) =
        .error (.malformed path none ("file is not valid UTF-8: " ++ fault.message))) ∧
    (∀ text : String, text.toUTF8 = bytes.toByteArray →
      load limit path (some (.file bytes)) = (loadText limit text).mapError (.withPath path)) ∧
    ∀ text : String, text.toList.head? ≠ some '\uFEFF' → (withMark text).utf8ByteSize ≤ limit →
      loadText limit (withMark text) = loadText limit text ∧
      load limit path (some (.file (bytesOf (withMark text)))) =
        load limit path (some (.file (bytesOf text))) := by
  refine ⟨load_eq_invalidValue_iff limit path bytes, fun beyond => load_of_large beyond path,
    fun within invalid => ?_, fun text encodes => load_eq_loadText encodes limit path,
    fun text unmarked within => ?_⟩
  -- The four parts before the last are each a lemma; only the fault has to be named here.
  · obtain ⟨fault, undecodable⟩ := exists_fault invalid
    exact ⟨fault, undecodable, load_of_undecodable within undecodable⟩
  -- Both files encode their texts, so that their difference is the one between the texts.
  · have same := loadText_withMark unmarked within
    rw [load_eq_loadText (toUTF8_eq (withMark text)), load_eq_loadText (toUTF8_eq text), same]
    exact ⟨rfl, rfl⟩

end Loader

end ToolPolicy
