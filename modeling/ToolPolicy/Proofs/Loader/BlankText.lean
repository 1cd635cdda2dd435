import ToolPolicy.Loader.Basic
import ToolPolicy.Proofs.Yaml.Markers

/-! A text with nothing but blank lines, comments and document markers is null, without being
parsed. What the parser would have made of it depends on the markers alone. -/

namespace ToolPolicy.Loader

open Yaml (Marker)

/-- A text with nothing but blank lines, comments and markers is null. -/
theorem parse_of_isBlankText {text : String} (blank : isBlankText (dropMark text.toList) = true)
    (path : String) : parse text path = .ok .null :=
  if_pos blank

/-- Null has no merge keys to resolve. -/
theorem valueOf_of_parse {cs : List Char} (parsed : Yaml.parse cs = .ok .null) :
    valueOf cs = .ok .null := by
  rw [valueOf, parsed]
  rfl

/-- What is not parsed has no merge keys to resolve. -/
theorem valueOf_of_fault {cs : List Char} {fault : Yaml.Fault}
    (malformed : Yaml.parse cs = .error fault) : valueOf cs = .error fault := by
  rw [valueOf, malformed]
  rfl

/-- A text that the parser finds to be malformed where a document ends. -/
def IsCutShort (cs : List Char) : Prop :=
  ∃ mark, valueOf cs = .error (.malformed (.within .expectedNode mark .blockNode mark))

/-- Where no other document is started, all markers end the one that was started. -/
theorem not_mem_iff_replicate (ms : List Marker) :
    .start ∉ ms ↔ ∃ n, ms = List.replicate n .finish := by
  constructor
  · intro none
    refine ⟨ms.length, List.eq_replicate_iff.mpr ⟨rfl, fun k member => ?_⟩⟩
    cases k with
    | start => exact absurd member none
    | finish => rfl
  · rintro ⟨n, rfl⟩ member
    cases List.eq_of_mem_replicate member

/--
A text that has nothing but blank lines, comments and document markers is null, and where its
characters and its lines are those of YAML the parser finds no other value in it.

It finds none or null exactly where there is no marker, or only the one document is started. It
finds several documents exactly where another one is started after the first, and a fault of the
text exactly where a document ends before one is started.
-/
theorem parse_blankText {text : String}
    (blank : isBlankText (dropMark text.toList) = true) :
    (∀ path, parse text path = .ok .null) ∧
    ∀ ms, Yaml.markers? (dropMark text.toList) = some ms →
      (dropMark text.toList).all Yaml.isReadable = true →
      (∀ value, valueOf (dropMark text.toList) = .ok value → value = .null) ∧
      (valueOf (dropMark text.toList) = .ok .null ↔
        ms = [] ∨ ∃ n, ms = .start :: List.replicate n .finish) ∧
      (valueOf (dropMark text.toList) = .error .severalDocuments ↔
        ∃ between later, ms = .start :: (between ++ .start :: later)) ∧
      (IsCutShort (dropMark text.toList) ↔ ∃ later, ms = .finish :: later) := by
  refine ⟨parse_of_isBlankText blank, fun ms bare readable => ?_⟩
  generalize dropMark text.toList = cs at bare readable
  -- The first marker decides, and after a start whether there is another one.
  cases ms with
  | nil =>
    have null := valueOf_of_parse (Yaml.parse_noMarkers bare readable)
    simp [IsCutShort, null]
  | cons k ms =>
    cases k with
    -- A document that ends without having been started is a fault of the text.
    | finish =>
      obtain ⟨mark, malformed⟩ := Yaml.parse_finish bare readable
      have fault := valueOf_of_fault malformed
      have cut : IsCutShort cs := ⟨mark, fault⟩
      simp [cut, fault]
    -- Every other marker after the start either ends this document or starts another one.
    | start =>
      have parsed := Yaml.parse_start bare readable
      by_cases another : .start ∈ ms
      · -- A second document is started, so that the markers after the first do not all end it.
        rw [if_pos another] at parsed
        have fault := valueOf_of_fault parsed
        have several := List.mem_iff_append.mp another
        have others : ¬∃ n, ms = List.replicate n .finish := fun only =>
          (not_mem_iff_replicate ms).mpr only another
        simpa [IsCutShort, fault, several] using others
      · -- No other document is started, and the one that was is null.
        rw [if_neg another] at parsed
        have null := valueOf_of_parse parsed
        have only := (not_mem_iff_replicate ms).mp another
        have single : ¬∃ between later, ms = between ++ .start :: later := fun several =>
          another (List.mem_iff_append.mpr several)
        simpa [IsCutShort, null, only] using single

/-- A comment, the start of a document and nothing in it. -/
def commentedText : String := "# nothing here yet\n---\n\n"

/-- A document that is started and has nothing in it is null on both ways. -/
theorem commentedText_null : parse commentedText memoryPath = .ok .null ∧
    valueOf (dropMark commentedText.toList) = .ok .null := by
  have blank : isBlankText (dropMark commentedText.toList) = true := by decide +kernel
  have bare : Yaml.markers? (dropMark commentedText.toList) = some [.start] := by decide +kernel
  have readable : (dropMark commentedText.toList).all Yaml.isReadable = true := by decide +kernel
  obtain ⟨null, parsed⟩ := parse_blankText blank
  obtain ⟨-, alike, -⟩ := parsed _ bare readable
  exact ⟨null memoryPath, alike.mpr (.inr ⟨0, rfl⟩)⟩

/-- A comment, and the end of a document that was not started. -/
def endedText : String := "  \n# c\n...\n"

/-- A text that is null without being parsed may be malformed to the parser. -/
theorem endedText_malformed : isBlankText (dropMark endedText.toList) = true ∧
    parse endedText memoryPath = .ok .null ∧
    ∃ fault, valueOf (dropMark endedText.toList) = .error fault ∧ fault.line? = some 3 ∧
      fault.message = "did not find expected node content at line 3 column 1, " ++
        "while parsing a block node" := by
  have blank : isBlankText (dropMark endedText.toList) = true := by decide +kernel
  -- Faults cannot be compared as such, but their lines and messages can.
  have shown : ((valueOf (dropMark endedText.toList)).map fun _ => ()).mapError
      (fun fault => (fault.line?, fault.message)) =
        .error (some 3, "did not find expected node content at line 3 column 1, " ++
          "while parsing a block node") := by
    decide +kernel
  cases parsed : valueOf (dropMark endedText.toList) with
  | ok value =>
    rw [parsed] at shown
    cases shown
  | error fault =>
    rw [parsed] at shown
    obtain ⟨line, message⟩ := Prod.mk.inj (Except.error.inj shown)
    exact ⟨blank, parse_of_isBlankText blank memoryPath, fault, rfl, line, message⟩

end ToolPolicy.Loader
