import Mathlib.Data.List.TakeWhile
import ToolPolicy.Proofs.Url.Host
import ToolPolicy.Proofs.Url.Path

/-! URLs with slashes at their end: which of their parts are the same with one slash instead. -/

namespace ToolPolicy.Url

/-- Whether a character of a text counts: tabs and line breaks do not. -/
def isKept (c : Char) : Bool := c != '\t' && c != '\n' && c != '\r'

/-- What an authority starts with, behind the slashes that announce it. -/
def announced (cs : List Char) : List Char := cs.dropWhile (isSlash .special)

/-- The authority of what follows a scheme. -/
def authorityOf (cs : List Char) : List Char := (announced cs).takeWhile (!endsAuthority .special ·)

/-- What follows an authority. -/
def tailOf (cs : List Char) : List Char := (announced cs).drop (authorityOf cs).length

/-- A character that starts a query or a fragment. -/
def isMark (c : Char) : Bool := c == '?' || c == '#'

/-- A URL of an authority that was read and of what follows it. -/
def assemble (scheme : String) (read : Credentials × Server) (tail : List Char) : Url :=
  { scheme := scheme
    user := read.1.user
    password := read.1.password
    host := read.2.host
    port := read.2.port
    path := pathOf (tail.takeWhile (!isMark ·))
    query := (splitAfter '?' (splitAfter '#' tail).1).2.map (Percent.encode Percent.queryChars)
    fragment := (splitAfter '#' tail).2.map (Percent.encode Percent.fragmentChars) }

/-- A URL has neither a query nor a fragment. -/
def IsBare (u : Url) : Prop := u.query = none ∧ u.fragment = none

/-! ### Ends of texts -/

/-- A clean text is cut at both ends, and then tabs and line breaks are left out. -/
theorem clean_eq (cs : List Char) :
    clean cs = ((cs.dropWhile isEdge).rdropWhile isEdge).filter isKept := rfl

/-- In front of slashes a text is only cut where it starts. -/
theorem clean_append_slashes (cs : List Char) (n : Nat) :
    clean (cs ++ List.replicate (n + 1) '/') =
      (cs.dropWhile isEdge).filter isKept ++ List.replicate (n + 1) '/' := by
  -- Slashes are no blanks, so that nothing is cut at the end, and they are all kept.
  have start : (cs ++ List.replicate (n + 1) '/').dropWhile isEdge =
      cs.dropWhile isEdge ++ List.replicate (n + 1) '/' := by
    rw [List.dropWhile_append]
    split
    next nothing => rw [List.isEmpty_iff.mp nothing, List.nil_append]; rfl
    next => rfl
  have stop : (cs.dropWhile isEdge ++ List.replicate (n + 1) '/').rdropWhile isEdge =
      cs.dropWhile isEdge ++ List.replicate (n + 1) '/' := by
    rw [List.replicate_succ', ← List.append_assoc]
    exact List.rdropWhile_concat_neg _ _ _ (by decide)
  rw [clean_eq, start, stop, List.filter_append, List.filter_replicate_of_pos rfl]

/-- Where something is cut off at the end of a text, the text ends in it. -/
theorem any_getLast?_of_rtakeWhile {cs : List Char}
    (some : (cs.dropWhile isEdge).rtakeWhile isEdge ≠ []) : cs.getLast?.any isEdge = true := by
  obtain ⟨lead, whole⟩ := List.dropWhile_suffix isEdge (l := cs)
  -- Something is left where the text starts, and its last character is that of the text.
  rcases List.eq_nil_or_concat (cs.dropWhile isEdge) with none | ⟨front, last, ends⟩
  · rw [none] at some
    exact absurd rfl some
  · have edge : isEdge last = true := by
      by_contra kept
      rw [ends, List.concat_eq_append, List.rtakeWhile_concat_neg _ _ _ kept] at some
      exact some rfl
    rw [← whole, ends, List.concat_eq_append, ← List.append_assoc, List.getLast?_concat]
    exact edge

/-- Blanks in front of a slash stay, those at the end of a text do not. -/
theorem clean_slashes (cs : List Char) (n : Nat) :
    ∃ front blanks, (∀ c ∈ blanks, isEdge c = true) ∧
      (blanks ≠ [] → (cs ++ List.replicate n '/').getLast?.any isEdge = true) ∧
      clean (cs ++ List.replicate n '/') = front ++ List.replicate n '/' ∧
      clean (cs ++ ['/']) = front ++ blanks ++ ['/'] := by
  have one := clean_append_slashes cs 0
  rw [Nat.zero_add, List.replicate_one] at one
  -- With a slash of its own the text keeps all its blanks; without one those at the end are cut
  -- off, and stand in front of the slash that is added.
  cases n with
  | succ n =>
    refine ⟨(cs.dropWhile isEdge).filter isKept, [], by simp, by simp,
      clean_append_slashes cs n, ?_⟩
    rw [one, List.append_nil]
  | zero =>
    refine ⟨((cs.dropWhile isEdge).rdropWhile isEdge).filter isKept,
      ((cs.dropWhile isEdge).rtakeWhile isEdge).filter isKept, ?_, ?_, ?_, ?_⟩
    · intro c member
      exact List.mem_rtakeWhile_imp (List.mem_filter.mp member).1
    · intro some
      rw [List.replicate_zero, List.append_nil]
      exact any_getLast?_of_rtakeWhile fun none => some (by rw [none, List.filter_nil])
    · rw [List.replicate_zero, List.append_nil, List.append_nil, clean_eq]
    · rw [← List.filter_append, List.rdropWhile_append_rtakeWhile, one]

/-- A text without blanks and control characters is clean. -/
theorem clean_eq_self {cs : List Char} (plain : ∀ c ∈ cs, isEdge c = false) : clean cs = cs := by
  -- The characters that are taken out everywhere are among those at the edges.
  have kept : ∀ c ∈ cs, isKept c = true := by
    intro c member
    have high := plain c member
    simp only [isEdge, decide_eq_false_iff_not] at high
    simp only [isKept, Bool.and_eq_true, bne_iff_ne]
    refine ⟨⟨?_, ?_⟩, ?_⟩ <;> (rintro rfl; exact high (by decide))
  have start : cs.dropWhile isEdge = cs :=
    List.dropWhile_eq_self_iff.mpr fun _ => by simp [plain _ (List.getElem_mem _)]
  have ends : cs.rdropWhile isEdge = cs :=
    List.rdropWhile_eq_self_iff.mpr fun some => by simp [plain _ (List.getLast_mem some)]
  rw [clean_eq, start, ends, List.filter_eq_self.mpr kept]

/-- What comes before a mark is taken up to it. -/
theorem takeWhile_mark {mark : Char} {before : List Char} (free : mark ∉ before)
    (after : List Char) : (before ++ mark :: after).takeWhile (· != mark) = before := by
  have apart : ∀ c ∈ before, (c != mark) = true := fun c member =>
    bne_iff_ne.mpr fun same => free (same ▸ member)
  rw [List.takeWhile_append_of_pos apart, List.takeWhile_cons_of_neg (by simp), List.append_nil]

/-- Without a mark everything is taken. -/
theorem takeWhile_noMark {mark : Char} {cs : List Char} (free : mark ∉ cs) :
    cs.takeWhile (· != mark) = cs :=
  List.takeWhile_eq_self_iff.mpr fun _ member => bne_iff_ne.mpr fun same => free (same ▸ member)

/-- A scheme is split off in front of whatever follows. -/
theorem splitScheme?_append (cs : List Char) {more : List Char} (free : ':' ∉ more) :
    splitScheme? (cs ++ more) =
      (splitScheme? cs).map fun (scheme, rest) => (scheme, rest ++ more) := by
  -- The first colon ends the scheme, and what is added has none.
  by_cases colon : ':' ∈ cs
  · obtain ⟨name, rest, rfl, apart⟩ := List.eq_append_cons_of_mem colon
    simp only [splitScheme?, List.append_assoc, List.cons_append, takeWhile_mark apart,
      List.drop_left]
    split <;> rfl
  · have none {cs : List Char} (free : ':' ∉ cs) : splitScheme? cs = .none := by
      simp only [splitScheme?, takeWhile_noMark free, List.drop_length]
    rw [none colon, none fun member => (List.mem_append.mp member).elim colon free]
    rfl

/-- What follows a scheme is the end of the text. -/
theorem suffix_of_splitScheme? {cs rest : List Char} {scheme : String}
    (found : splitScheme? cs = some (scheme, rest)) : rest <:+ cs := by
  rw [splitScheme?] at found
  split at found
  next behind =>
    split at found
    · cases found
      exact (List.suffix_cons ':' rest).trans (behind ▸ List.drop_suffix _ _)
    · cases found
  next => cases found

/-- A text is the address of something on the web. -/
theorem parse_eq_web_iff {text : String} {u : Url} :
    parse text = .ok (.web u) ↔ ∃ scheme rest,
      splitScheme? (clean text.toList) = some (scheme, rest) ∧
        (scheme = "http" ∨ scheme = "https") ∧ readSpecial scheme rest = .ok u := by
  rw [parse]
  cases splitScheme? (clean text.toList) with
  | none => simp
  | some found =>
    obtain ⟨scheme, rest⟩ := found
    simp only [Option.some.injEq, Prod.mk.injEq]
    constructor
    · intro parsed
      refine ⟨scheme, rest, ⟨rfl, rfl⟩, ?_⟩
      -- Files and schemes without an authority are read elsewhere, and give no address on the web.
      split at parsed
      · obtain ⟨read, done, same⟩ := bind_eq_ok_iff.mp parsed
        split at same
        next web => cases same; exact ⟨web, done⟩
        next => cases same
      · cases done : checkFile rest <;> rw [done] at parsed <;> cases parsed
      · cases done : checkOpaque scheme rest <;> rw [done] at parsed <;> cases parsed
    · rintro ⟨_, _, ⟨rfl, rfl⟩, web, read⟩
      -- Both schemes are special, so that the text is read as one with an authority.
      have special : kindOf scheme = .special := by rcases web with rfl | rfl <;> decide
      simp [special, read, web, bind, Except.bind, pure, Except.pure]

/-- What follows a scheme is read as an authority and the rest. -/
theorem readSpecial_eq (scheme : String) (cs : List Char) :
    readSpecial scheme cs =
      (readAuthority .special scheme (authorityOf cs)).map (assemble scheme · (tailOf cs)) := by
  -- The path goes up to the fragment and then up to the query, which is up to the first mark.
  have path (tail : List Char) : (splitAfter '?' (splitAfter '#' tail).1).1 =
      tail.takeWhile (!isMark ·) := by
    refine (List.takeWhile_takeWhile (· != '?') (· != '#') tail).trans ?_
    congr 1
    funext c
    simp only [isMark, Bool.not_or, bne, Bool.decide_and, Bool.decide_eq_true]
  cases done : readAuthority .special scheme (authorityOf cs) with
  | error fault =>
    simp only [authorityOf, announced] at done
    simp [readSpecial, done, bind, Except.bind, Except.map]
  | ok read =>
    simp only [authorityOf, announced] at done
    simp only [readSpecial, done, bind, Except.bind, Except.map, pure, Except.pure, assemble,
      pathOf, ← path, tailOf, authorityOf, announced]

/-! ### Authorities -/

/-- What is added behind the start of an authority is announced with it. -/
theorem announced_append (cs more : List Char) (some : announced cs ≠ []) :
    announced (cs ++ more) = announced cs ++ more := by
  rw [announced, List.dropWhile_append, if_neg (by simpa [announced] using some), announced]

/-- A slash behind everything ends an authority, if nothing else does. -/
theorem authorityOf_append_slashes (cs : List Char) (n : Nat) :
    authorityOf (cs ++ List.replicate n '/') = authorityOf cs := by
  have all : ∀ c ∈ List.replicate n '/', isSlash .special c = true := fun c member => by
    rw [(List.mem_replicate.mp member).2]
    rfl
  have ended : (List.replicate n '/').takeWhile (!endsAuthority .special ·) = [] := by
    rw [List.takeWhile_replicate]
    rfl
  -- Where nothing is announced the slashes go on announcing, and the authority stays empty.
  by_cases none : announced cs = []
  · rw [authorityOf, announced, List.dropWhile_append, ← announced, none, List.isEmpty_nil,
      if_pos rfl, List.dropWhile_eq_nil_iff.mpr all, authorityOf, none]
  · rw [authorityOf, announced_append cs _ none, List.takeWhile_append, ended]
    split
    next whole =>
      rw [List.append_nil, authorityOf]
      exact ((List.takeWhile_prefix _).eq_of_length whole).symm
    next => rfl

/-- An authority takes nothing of what comes after its end. -/
theorem tailOf_append {cs more : List Char} (same : authorityOf (cs ++ more) = authorityOf cs)
    (some : authorityOf cs ≠ []) : tailOf (cs ++ more) = tailOf cs ++ more := by
  have start : announced cs ≠ [] := by
    rintro none
    rw [authorityOf, none] at some
    exact some rfl
  rw [tailOf, same, announced_append cs more start]
  exact List.drop_append_of_le_length (List.takeWhile_prefix _).length_le

/-- Blanks behind everything belong to an authority, if nothing ends it before. -/
theorem authorityOf_append_blanks {cs blanks : List Char}
    (edges : ∀ c ∈ blanks, isEdge c = true) {front : List Char} {last : Char}
    (ends : authorityOf (cs ++ blanks) = front ++ [last]) (kept : isEdge last = false) :
    authorityOf (cs ++ blanks) = authorityOf cs := by
  rcases List.eq_nil_or_concat blanks with rfl | ⟨others, b, some⟩
  · rw [List.append_nil]
  -- Blanks announce nothing and end nothing.
  have first : blanks.dropWhile (isSlash .special) = blanks :=
    List.dropWhile_eq_self_iff.mpr fun _ =>
      forall_isEdge (P := fun c => ¬isSlash .special c = true) (by decide)
        (edges _ (List.getElem_mem _))
  have all : blanks.takeWhile (!endsAuthority .special ·) = blanks :=
    List.takeWhile_eq_self_iff.mpr fun c member =>
      forall_isEdge (P := fun c => (!endsAuthority .special c) = true) (by decide) (edges c member)
  -- An authority that goes on to the end would have the last of the blanks there.
  have apart (before : List Char) : before ++ blanks ≠ front ++ [last] := by
    intro same
    have edge := edges b (by simp [some])
    have lasts := congrArg List.getLast? same
    simp only [some, List.concat_eq_append, ← List.append_assoc, List.getLast?_concat,
      Option.some.injEq] at lasts
    rw [lasts, kept] at edge
    cases edge
  by_cases none : announced cs = []
  · rw [authorityOf, announced, List.dropWhile_append, ← announced, none, List.isEmpty_nil,
      if_pos rfl, first, all] at ends
    exact absurd ends (apart [])
  · rw [authorityOf, announced_append cs _ none, List.takeWhile_append, all] at ends ⊢
    split
    next whole =>
      rw [if_pos whole] at ends
      exact absurd ends (apart _)
    next => rfl

/-- What follows an authority is the end of the text. -/
theorem tailOf_suffix (cs : List Char) : tailOf cs <:+ cs :=
  (List.drop_suffix _ _).trans (List.dropWhile_suffix _)

/-- What follows an authority is nothing, or starts with what ended it. -/
theorem tailOf_start (cs : List Char) :
    tailOf cs = [] ∨ ∃ c rest, tailOf cs = c :: rest ∧ endsAuthority .special c = true := by
  -- The authority stops at the first character that ends it.
  have after : tailOf cs = (announced cs).dropWhile (!endsAuthority .special ·) := by
    have parts : authorityOf cs ++ (announced cs).dropWhile (!endsAuthority .special ·) =
        announced cs := List.takeWhile_append_dropWhile
    rw [tailOf]
    nth_rewrite 1 [← parts]
    exact List.drop_left
  cases tail : tailOf cs with
  | nil => exact .inl rfl
  | cons c rest =>
    have head := List.head?_dropWhile_not (!endsAuthority .special ·) (announced cs)
    rw [← after, tail] at head
    exact .inr ⟨c, rest, rfl, by simpa using head⟩

/-- What is read with blanks and a slash at its end is read with slashes alone, up to what follows
the authority. -/
theorem readSpecial_slashes {scheme : String} {cs blanks : List Char} {base : Url}
    (edges : ∀ c ∈ blanks, isEdge c = true)
    (done : readSpecial scheme (cs ++ blanks ++ ['/']) = .ok base) (n : Nat) :
    ∃ read, base = assemble scheme read (tailOf (cs ++ blanks) ++ ['/']) ∧
      tailOf (cs ++ blanks) = tailOf cs ++ blanks ∧
      readSpecial scheme (cs ++ List.replicate n '/') =
        .ok (assemble scheme read (tailOf cs ++ List.replicate n '/')) := by
  rw [readSpecial_eq] at done
  obtain ⟨read, known, rfl⟩ := exists_of_map done
  have slash := authorityOf_append_slashes (cs ++ blanks) 1
  rw [List.replicate_one] at slash
  rw [slash] at known
  -- An authority that is read does not end in a blank, so that the blanks come behind it.
  obtain ⟨front, last, ends, kept⟩ := exists_concat_of_readAuthority known
  have some : authorityOf (cs ++ blanks) ≠ [] := by simp [ends]
  have same := authorityOf_append_blanks edges ends kept
  refine ⟨read, ?_, ?_, ?_⟩
  · rw [tailOf_append slash some]
  · exact tailOf_append same (same ▸ some)
  · rw [readSpecial_eq, authorityOf_append_slashes, ← same, known,
      tailOf_append (authorityOf_append_slashes cs n) (same ▸ some)]
    rfl

/-! ### Queries and fragments -/

/-- There is something after a mark where there is one. -/
theorem splitAfter_snd_eq_none_iff {mark : Char} {cs : List Char} :
    (splitAfter mark cs).2 = none ↔ mark ∉ cs := by
  by_cases found : mark ∈ cs
  · obtain ⟨before, after, rfl, free⟩ := List.eq_append_cons_of_mem found
    simp [splitAfter, takeWhile_mark free]
  · simp [splitAfter, takeWhile_noMark found, found]

/-- A URL has a query or a fragment where a mark comes after the authority. -/
theorem isBare_assemble_iff {scheme : String} {read : Credentials × Server} {tail : List Char} :
    IsBare (assemble scheme read tail) ↔ ∀ c ∈ tail, isMark c = false := by
  -- There is a fragment where there is a number sign, and a query where there is a question mark
  -- before it.
  have marks : (∀ c ∈ tail, isMark c = false) ↔ '?' ∉ tail ∧ '#' ∉ tail := by
    simp only [isMark, Bool.or_eq_false_iff, beq_eq_false_iff_ne]
    exact ⟨fun none => ⟨fun member => (none _ member).1 rfl, fun member => (none _ member).2 rfl⟩,
      fun none c member => ⟨fun same => none.1 (same ▸ member), fun same => none.2 (same ▸ member)⟩⟩
  simp only [IsBare, assemble, Option.map_eq_none_iff, splitAfter_snd_eq_none_iff, marks]
  refine and_congr_left fun free => ?_
  rw [splitAfter, takeWhile_noMark free]

/-- Without further marks a URL has no further parts. -/
theorem isBare_assemble_append {scheme : String} {read : Credentials × Server}
    {tail more : List Char} (free : ∀ c ∈ more, isMark c = false) :
    IsBare (assemble scheme read (tail ++ more)) ↔ IsBare (assemble scheme read tail) := by
  simp only [isBare_assemble_iff, List.forall_mem_append]
  exact and_iff_left free

/-- Slashes start neither a query nor a fragment. -/
theorem isMark_of_mem_slashes {n : Nat} : ∀ c ∈ List.replicate n '/', isMark c = false :=
  fun _ member => (List.mem_replicate.mp member).2 ▸ rfl

/-- What comes after a mark makes no difference to a path. -/
theorem assemble_path_append {scheme : String} {read : Credentials × Server} {tail more : List Char}
    (marked : ¬IsBare (assemble scheme read tail)) :
    (assemble scheme read (tail ++ more)).path = (assemble scheme read tail).path := by
  have cut : (tail ++ more).takeWhile (!isMark ·) = tail.takeWhile (!isMark ·) := by
    -- Without a mark in what was there the URL would be bare.
    rw [List.takeWhile_append, if_neg]
    intro whole
    have all := (List.takeWhile_prefix _).eq_of_length whole
    rw [List.takeWhile_eq_self_iff] at all
    rw [isBare_assemble_iff] at marked
    exact marked fun c member => by simpa using all c member
  simp only [assemble, cut]

/-- Without a query and a fragment everything after the authority belongs to the path. -/
theorem assemble_path {scheme : String} {read : Credentials × Server} {tail : List Char}
    (bare : IsBare (assemble scheme read tail)) :
    (assemble scheme read tail).path = pathOf tail := by
  rw [isBare_assemble_iff] at bare
  have whole : tail.takeWhile (!isMark ·) = tail :=
    List.takeWhile_eq_self_iff.mpr fun c member => by simp [bare c member]
  simp only [assemble, whole]

/-- Without a query and a fragment what follows an authority starts with a slash. -/
theorem isRooted_tailOf {scheme : String} {read : Credentials × Server} {cs : List Char}
    (bare : IsBare (assemble scheme read (tailOf cs))) : IsRooted (tailOf cs) := by
  rw [isBare_assemble_iff] at bare
  rcases tailOf_start cs with none | ⟨c, rest, starts, ends⟩
  · exact .inl none
  · have noMark := bare c (by simp [starts])
    rw [isMark] at noMark
    rw [endsAuthority, Bool.or_assoc, noMark, Bool.or_false] at ends
    exact .inr ⟨c, rest, starts, ends⟩

end ToolPolicy.Url
