import Mathlib.Data.List.DropRight
import ToolPolicy.Url.Basic

/-! Paths of URLs: how they are entered segment by segment, and what comes of slashes at the end. -/

namespace ToolPolicy.Url

/-- Segments as they are written, each of them after a slash. -/
def segmentsText (segments : List (List Char)) : List Char := segments.flatMap ('/' :: ·)

/-- The path of a URL as it is written. -/
def pathText (u : Url) : List Char := segmentsText u.path

/-- A text without the slashes at its end. -/
def trimSlashes (cs : List Char) : List Char := cs.rdropWhile (· == '/')

/-- The path after a segment that is not the last one. -/
def enter (path : List (List Char)) (segment : List Char) : List (List Char) :=
  if isDoubleDot segment then path.dropLast
  else if isSingleDot segment then path
  else path ++ [segment]

/-- The path of what follows an authority. -/
def pathOf (cs : List Char) : List (List Char) :=
  pathBelow .special [] (if cs.head?.any (isSlash .special) then cs.drop 1 else cs)

/-- The segments of what follows an authority, none of which is taken for the last one. -/
def entered (cs : List Char) : List (List Char) :=
  match cs with
  | [] => []
  | _ :: rest =>
    ((splitWhere (isSlash .special) rest).map (Percent.encode Percent.pathChars)).foldl enter []

/-- What follows an authority is empty or starts with a slash, unless a query or a fragment comes
first. -/
def IsRooted (cs : List Char) : Prop :=
  cs = [] ∨ ∃ slash rest, cs = slash :: rest ∧ isSlash .special slash = true

/-! ### Slashes at the end -/

/-- Slashes at the end make no difference to a text without them. -/
theorem trimSlashes_append_slashes (cs : List Char) (n : Nat) :
    trimSlashes (cs ++ List.replicate n '/') = trimSlashes cs := by
  induction n with
  | zero => rw [List.replicate_zero, List.append_nil]
  | succ n ih =>
    rw [List.replicate_succ', ← List.append_assoc]
    exact (List.rdropWhile_concat_pos _ _ '/' rfl).trans ih

/-- A text that ends in something else has no slashes at its end. -/
theorem trimSlashes_concat (cs : List Char) {c : Char} (apart : c ≠ '/') :
    trimSlashes (cs ++ [c]) = cs ++ [c] :=
  List.rdropWhile_concat_neg _ _ _ (by simpa using apart)

/-- What is left without the slashes at the end does not end in one. -/
theorem trimSlashes_ne_concat (cs front : List Char) : trimSlashes cs ≠ front ++ ['/'] := by
  intro same
  -- Trimming once more would change nothing, but it would take the slash away.
  have again : trimSlashes (front ++ ['/']) = front ++ ['/'] := by
    rw [← same]
    exact List.rdropWhile_idempotent _ cs
  have shorter := (List.rdropWhile_prefix (· == '/') front).length_le
  rw [trimSlashes, List.rdropWhile_concat_pos _ _ _ rfl] at again
  rw [again, List.length_append, List.length_singleton] at shorter
  omega

/-- A text is what is left of it without slashes, and then slashes. -/
theorem exists_trimSlashes_append (cs : List Char) :
    ∃ n, cs = trimSlashes cs ++ List.replicate n '/' := by
  refine ⟨(cs.rtakeWhile (· == '/')).length, ?_⟩
  -- What is trimmed consists of slashes alone.
  have slashes : cs.rtakeWhile (· == '/') =
      List.replicate (cs.rtakeWhile (· == '/')).length '/' := by
    rw [List.eq_replicate_iff]
    exact ⟨rfl, fun c member => by simpa using List.mem_rtakeWhile_imp member⟩
  rw [← slashes]
  exact List.rdropWhile_append_rtakeWhile.symm

/-- Segments are written one after the other. -/
theorem segmentsText_append (segments more : List (List Char)) :
    segmentsText (segments ++ more) = segmentsText segments ++ segmentsText more :=
  List.flatMap_append

/-- A single segment is written after a slash. -/
theorem segmentsText_singleton (segment : List Char) : segmentsText [segment] = '/' :: segment := by
  rw [segmentsText, List.flatMap_cons, List.flatMap_nil, List.append_nil]

/-- Empty segments are written as slashes. -/
theorem segmentsText_replicate (n : Nat) :
    segmentsText (List.replicate n []) = List.replicate n '/' := by
  induction n with
  | zero => rfl
  | succ n ih =>
    rw [List.replicate_succ, List.replicate_succ, ← ih]
    rfl

/-! ### Separators -/

/-- A separator parts a text. -/
theorem splitWhere_append (isSeparator : Char → Bool) (cs : List Char) {c : Char}
    (separates : isSeparator c = true) (more : List Char) :
    splitWhere isSeparator (cs ++ c :: more) =
      splitWhere isSeparator cs ++ splitWhere isSeparator more := by
  -- In front of the separator the first part grows by one character at a time.
  induction cs with
  | nil =>
    obtain ⟨part, parts, split⟩ := List.exists_cons_of_ne_nil (splitWhere_ne_nil isSeparator more)
    simp [splitWhere, split, separates]
  | cons d rest ih =>
    obtain ⟨part, parts, split⟩ := List.exists_cons_of_ne_nil (splitWhere_ne_nil isSeparator rest)
    rw [List.cons_append, splitWhere, ih, splitWhere, split]
    by_cases also : isSeparator d = true <;> simp [also]

/-- No part of a text has a separator in it. -/
theorem not_separator_of_mem_splitWhere {isSeparator : Char → Bool} {cs part : List Char}
    (member : part ∈ splitWhere isSeparator cs) {c : Char} (inside : c ∈ part) :
    isSeparator c = false := by
  induction cs generalizing part with
  | nil =>
    rw [splitWhere, List.mem_singleton] at member
    subst member
    cases inside
  | cons d rest ih =>
    obtain ⟨first, others, split⟩ := List.exists_cons_of_ne_nil (splitWhere_ne_nil isSeparator rest)
    rw [split] at ih
    rw [splitWhere, split] at member
    -- The character joins the first part, unless it is a separator.
    by_cases separates : isSeparator d = true
    · simp only [separates, if_true, List.mem_cons] at member
      rcases member with rfl | member
      · cases inside
      · exact ih (List.mem_cons.mpr member) inside
    · simp only [separates, Bool.false_eq_true, if_false, List.mem_cons] at member
      rcases member with rfl | member
      · rcases List.mem_cons.mp inside with rfl | later
        · exact Bool.eq_false_iff.mpr separates
        · exact ih List.mem_cons_self later
      · exact ih (List.mem_cons_of_mem _ member) inside

/-- Without a separator a text is a single part. -/
theorem splitWhere_of_free {isSeparator : Char → Bool} {cs : List Char}
    (free : ∀ c ∈ cs, isSeparator c = false) : splitWhere isSeparator cs = [cs] := by
  induction cs with
  | nil => rfl
  | cons c rest ih =>
    have here := free c List.mem_cons_self
    rw [splitWhere, ih fun d member => free d (List.mem_cons_of_mem _ member)]
    simp [here]

/-- Separators at the end make for empty parts. -/
theorem splitWhere_append_replicate (isSeparator : Char → Bool) (cs : List Char) {c : Char}
    (separates : isSeparator c = true) (n : Nat) :
    splitWhere isSeparator (cs ++ List.replicate n c) =
      splitWhere isSeparator cs ++ List.replicate n [] := by
  -- The separators are moved over to the text one by one.
  induction n generalizing cs with
  | zero => simp
  | succ n ih =>
    have one := splitWhere_append isSeparator cs separates []
    rw [List.replicate_succ, List.append_cons, ih, one, List.replicate_succ, List.append_cons]
    rfl

/-! ### Segments -/

/-- An empty segment is entered like any other. -/
theorem enter_nil (path : List (List Char)) : enter path [] = path ++ [[]] := rfl

/-- Entering empty segments adds them. -/
theorem foldl_enter_replicate (path : List (List Char)) (n : Nat) :
    (List.replicate n []).foldl enter path = path ++ List.replicate n [] := by
  induction n generalizing path with
  | zero => simp
  | succ n ih =>
    rw [List.replicate_succ, List.foldl_cons, ih, enter_nil, List.append_assoc,
      List.singleton_append]

/-- All segments but the last one are entered. -/
theorem addSegments_concat (path segments : List (List Char)) (last : List Char) :
    addSegments path (segments ++ [last]) = addSegments (segments.foldl enter path) [last] := by
  -- A segment with others behind it leaves nothing open.
  induction segments generalizing path with
  | nil => rfl
  | cons segment rest ih =>
    have more : (rest ++ [last]).isEmpty = false := by simp
    rw [List.cons_append, addSegments, List.foldl_cons, ← ih]
    simp only [more, Bool.false_eq_true, if_false, List.append_nil, enter]

/-- The last segment is entered, too, and may leave the path open. -/
theorem addSegments_singleton (path : List (List Char)) (last : List Char) :
    addSegments path [last] = enter path last ∨
      addSegments path [last] = enter path last ++ [[]] := by
  -- Only after dots does the last segment leave an empty one behind.
  simp only [addSegments, enter, List.isEmpty_nil, if_true]
  split
  · exact .inr rfl
  · split
    · exact .inr rfl
    · exact .inl rfl

/-- Empty segments at the end of others are added to the path that was entered. -/
theorem addSegments_append_replicate (path segments : List (List Char)) (n : Nat) :
    addSegments path (segments ++ List.replicate (n + 1) []) =
      segments.foldl enter path ++ List.replicate (n + 1) [] := by
  have closed (path : List (List Char)) : addSegments path [[]] = path ++ [[]] := rfl
  rw [List.replicate_succ', ← List.append_assoc, addSegments_concat, closed, List.foldl_append,
    foldl_enter_replicate, List.append_assoc]

/-- Segments of a path are some of those that were added to it, or empty. -/
theorem mem_addSegments {path segments : List (List Char)} {segment : List Char}
    (member : segment ∈ addSegments path segments) :
    segment ∈ path ∨ segment ∈ segments ∨ segment = [] := by
  induction segments generalizing path with
  | nil => exact .inl member
  | cons first rest ih =>
    rw [addSegments] at member
    rcases ih member with before | later | empty
    · -- What the path is after the first segment was there before, or comes from it.
      split at before
      -- Two dots take a segment off, and leave an empty one if they come last.
      · rcases List.mem_append.mp before with above | last
        · exact .inl ((List.dropLast_sublist path).subset above)
        · split at last
          · exact .inr (.inr (List.mem_singleton.mp last))
          · cases last
      · split at before
        -- One dot adds nothing but an empty segment, if it comes last.
        · rcases List.mem_append.mp before with above | last
          · exact .inl above
          · split at last
            · exact .inr (.inr (List.mem_singleton.mp last))
            · cases last
        · rcases List.mem_append.mp before with above | here
          · exact .inl above
          · exact .inr (.inl (List.mem_cons.mpr (.inl (List.mem_singleton.mp here))))
    · exact .inr (.inl (List.mem_cons_of_mem _ later))
    · exact .inr (.inr empty)

/-- A path has at least one segment. -/
theorem addSegments_concat_ne_nil (path segments : List (List Char)) (last : List Char) :
    addSegments path (segments ++ [last]) ≠ [] := by
  rw [addSegments_concat]
  simp only [addSegments, List.isEmpty_nil, if_true]
  split
  · simp
  · split <;> simp

/-! ### Encoded characters -/

/-- No digit of a byte is a slash. -/
theorem slash_not_mem_byteText (b : UInt8) : '/' ∉ Percent.byteText b := by
  have digits : ∀ n < 16, Percent.upperDigit n ≠ '/' := by decide
  have high := digits (b.toNat / 16) (by have := b.toNat_lt; omega)
  have low := digits (b.toNat % 16) (Nat.mod_lt _ (by decide))
  simp [Percent.byteText, high.symm, low.symm]

/-- Encoding makes no slashes. -/
theorem slash_not_mem_encode {chars cs : List Char} (free : '/' ∉ cs) :
    '/' ∉ Percent.encode chars cs := by
  intro member
  obtain ⟨c, among, inside⟩ := List.mem_flatMap.mp member
  unfold Percent.encodeChar at inside
  -- A character is encoded as the bytes of its text, or it stands for itself.
  split at inside
  · obtain ⟨b, _, digit⟩ := List.mem_flatMap.mp inside
    exact slash_not_mem_byteText b digit
  · exact free (List.mem_singleton.mp inside ▸ among)

/-- What no path has to encode is written as it is. -/
theorem encode_eq_self {chars cs : List Char}
    (plain : ∀ c ∈ cs, Percent.isUnsafe c = false ∧ c ∉ chars) : Percent.encode chars cs = cs := by
  have alone : ∀ c ∈ cs, Percent.encodeChar chars c = [c] := by
    intro c member
    obtain ⟨safe, free⟩ := plain c member
    simp [Percent.encodeChar, safe, free]
  rw [Percent.encode, List.flatMap_congr alone, List.flatMap_singleton']

/-! ### Paths after authorities -/

/-- A path is made from at least one segment. -/
theorem encodedParts_ne_nil (cs : List Char) :
    (splitWhere (isSlash .special) cs).map (Percent.encode Percent.pathChars) ≠ [] := by
  simpa using splitWhere_ne_nil (isSlash .special) cs

/-- The segments of a path have no slashes in them. -/
theorem slash_not_mem_of_mem_pathOf {cs segment : List Char} (member : segment ∈ pathOf cs) :
    '/' ∉ segment := by
  -- A segment of the path is a part between slashes, encoded, or it is empty.
  rcases mem_addSegments member with above | written | rfl
  · cases above
  · obtain ⟨part, among, rfl⟩ := List.mem_map.mp written
    refine slash_not_mem_encode fun inside => ?_
    have apart := not_separator_of_mem_splitWhere among inside
    cases apart
  · exact List.not_mem_nil

/-- A path after an authority has at least one segment. -/
theorem pathOf_ne_nil (cs : List Char) : pathOf cs ≠ [] := by
  unfold pathOf pathBelow
  generalize (if cs.head?.any (isSlash .special) then cs.drop 1 else cs) = rest
  rw [← List.dropLast_concat_getLast (encodedParts_ne_nil rest)]
  exact addSegments_concat_ne_nil [] _ _

/-- What follows an authority is entered up to its last segment, and may leave the path open. -/
theorem pathOf_eq {cs : List Char} (rooted : IsRooted cs) :
    pathOf cs = entered cs ∨ pathOf cs = entered cs ++ [[]] := by
  rcases rooted with rfl | ⟨slash, rest, rfl, separates⟩
  -- Without anything behind the authority the path is one empty segment.
  · exact .inr rfl
  · simp only [pathOf, pathBelow, entered, List.head?_cons, Option.any_some, separates, if_true,
      List.drop_succ_cons, List.drop_zero]
    rw [← List.dropLast_concat_getLast (encodedParts_ne_nil rest), addSegments_concat,
      List.foldl_append]
    exact addSegments_singleton _ _

/-- What stands behind the last slash is entered last. -/
theorem entered_append_segment {cs segment : List Char} (rooted : IsRooted cs)
    (free : ∀ c ∈ segment, isSlash .special c = false) :
    entered (cs ++ '/' :: segment) =
      enter (entered cs) (Percent.encode Percent.pathChars segment) := by
  have alone := splitWhere_of_free free
  -- The slash in front of the segment is the first one, or it parts what is there.
  rcases rooted with rfl | ⟨slash, rest, rfl, -⟩
  · simp [entered, alone]
  · have parts := splitWhere_append (isSlash .special) rest (c := '/') rfl segment
    simp [entered, parts, alone]

/-- Slashes behind what follows an authority leave as many empty segments in the path. -/
theorem pathOf_append_slashes {cs : List Char} (rooted : IsRooted cs) (n : Nat) :
    pathOf (cs ++ List.replicate (n + 1) '/') = entered cs ++ List.replicate (n + 1) [] := by
  have separates : isSlash .special '/' = true := rfl
  have empty : Percent.encode Percent.pathChars [] = [] := rfl
  -- The first slash of a path starts it and is no part of a segment, so that one slash less counts
  -- where there is nothing else.
  rcases rooted with rfl | ⟨slash, rest, rfl, rooted⟩
  · have parts := splitWhere_append_replicate (isSlash .special) [] separates n
    rw [List.nil_append] at parts
    simp only [pathOf, pathBelow, entered, List.nil_append, List.replicate_succ, List.head?_cons,
      Option.any_some, separates, if_true, List.drop_succ_cons, List.drop_zero, parts]
    rw [splitWhere, List.singleton_append, List.map_cons, List.map_replicate, empty,
      ← List.replicate_succ]
    exact addSegments_append_replicate [] [] n
  · have parts := splitWhere_append_replicate (isSlash .special) rest separates (n + 1)
    simp only [pathOf, pathBelow, entered, List.cons_append, List.head?_cons, Option.any_some,
      rooted, if_true, List.drop_succ_cons, List.drop_zero, parts]
    rw [List.map_append, List.map_replicate, empty]
    exact addSegments_append_replicate [] _ n

/-- However many slashes stand behind what follows an authority, the path without them is the
same. -/
theorem trimSlashes_pathOf {cs : List Char} (rooted : IsRooted cs) (n : Nat) :
    trimSlashes (segmentsText (pathOf (cs ++ List.replicate n '/'))) =
      trimSlashes (segmentsText (entered cs)) := by
  have slashes (n : Nat) : trimSlashes (segmentsText (entered cs ++ List.replicate n [])) =
      trimSlashes (segmentsText (entered cs)) := by
    rw [segmentsText_append, segmentsText_replicate, trimSlashes_append_slashes]
  -- Without slashes the last segment may leave the path open, which is one slash at its end.
  cases n with
  | zero =>
    rw [List.replicate_zero, List.append_nil]
    rcases pathOf_eq rooted with same | opened
    · rw [same]
    · rw [opened]
      exact slashes 1
  | succ n => rw [pathOf_append_slashes rooted, slashes]

end ToolPolicy.Url
