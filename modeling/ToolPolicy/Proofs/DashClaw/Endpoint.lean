import ToolPolicy.DashClaw.Endpoint
import ToolPolicy.Proofs.Url.Reading

/-! Where the policies of an instance are asked for: below the path of the URL that was given, or
beside it. -/

namespace ToolPolicy.DashClaw

open Url

/-- The URLs are those of the same server. -/
structure SameServer (u v : Url) : Prop where
  scheme : u.scheme = v.scheme
  host : u.host = v.host
  port : u.port = v.port

/-- An endpoint lies below the path of a URL: no segment of it is dropped or replaced. -/
def LiesBelow (endpoint given : Url) : Prop :=
  pathText endpoint = trimSlashes (pathText given) ++ '/' :: policiesPath.toList

instance (endpoint given : Url) : Decidable (LiesBelow endpoint given) :=
  inferInstanceAs (Decidable (_ = _))

/-- A text ends in a blank or in a control character. -/
def EndsBlank (text : String) : Prop := text.toList.getLast?.any isEdge = true

/-- What stands behind the last slash of a text. -/
def lastSegment (cs : List Char) : List Char := cs.rtakeWhile (· != '/')

/-- A text is written as URLs with nothing but a path are: without characters that have to be
encoded, and not up to dots that stand for another path. -/
structure IsPlain (text : String) : Prop where
  chars : ∀ c ∈ text.toList, 0x20 < c.toNat ∧ c.toNat < 0x7f ∧ c ∉ '\\' :: Percent.pathChars
  last : isSingleDot (lastSegment (trimSlashes text.toList)) = false ∧
    isDoubleDot (lastSegment (trimSlashes text.toList)) = false

/-- Where the policies are asked for when a text is given that is the address of a URL. -/
structure AsksFor (text : String) (base given : Url) : Prop where
  /-- The text itself is the address of the URL. -/
  parsed : Url.parse text = .ok (.web given)
  /-- The server is the one of the URL. -/
  server : SameServer base given
  /-- No other server is asked. -/
  asked : SameServer (policiesUrl base) base
  /-- The endpoint is below the URL where the base has its path, with one slash at the end. -/
  below : LiesBelow (policiesUrl base) given ↔ pathText base = trimSlashes (pathText given) ++ ['/']
  /-- Without a query and a fragment no segment is lost, but slashes may be left. -/
  bare : IsBare given → ¬EndsBlank text → ∃ n, pathText (policiesUrl base) =
    trimSlashes (pathText given) ++ List.replicate n '/' ++ '/' :: policiesPath.toList
  /-- With a query or a fragment the endpoint takes the place of what is behind the last slash. -/
  marked : ¬IsBare given → ∃ front last, '/' ∉ last ∧ pathText given = front ++ '/' :: last ∧
    pathText (policiesUrl base) = front ++ '/' :: policiesPath.toList
  /-- Below a plain URL the endpoint always is. -/
  plain : IsPlain text → LiesBelow (policiesUrl base) given

/-- How an accepted text is read: its authority is the same with the slashes at its end and with a
single one, and what follows it differs in slashes and blanks only. -/
structure IsRead (text scheme : String) (read : Credentials × Server) (cs blanks : List Char)
    (n : Nat) : Prop where
  edges : ∀ c ∈ blanks, isEdge c = true
  ends : blanks ≠ [] → EndsBlank text
  tail : tailOf (cs ++ blanks) = tailOf cs ++ blanks
  suffix : tailOf (cs ++ blanks) ++ ['/'] <:+ clean (trimSlashes text.toList ++ ['/'])
  parsed : Url.parse text = .ok (.web (assemble scheme read (tailOf cs ++ List.replicate n '/')))

/-! ### Accepted texts -/

/-- A text whose slashes at the end are made one. -/
theorem toList_withSlash (text : String) :
    (withSlash text).toList = trimSlashes text.toList ++ ['/'] := by
  rw [withSlash, String.toList_ofList]
  rfl

/-- An accepted text is read, and its base with it. -/
theorem exists_isRead {text : String} {base : Url} (accepted : baseUrl text = .ok base) :
    ∃ scheme read cs blanks n, IsRead text scheme read cs blanks n ∧
      base = assemble scheme read (tailOf (cs ++ blanks) ++ ['/']) := by
  -- The base is what the text is parsed as once its slashes are made one.
  have parsed : Url.parse (withSlash text) = .ok (.web base) := by
    rw [baseUrl] at accepted
    split at accepted
    next u parsed => rw [parsed, Except.ok.inj accepted]
    all_goals cases accepted
  obtain ⟨scheme, rest, split, web, read⟩ := parse_eq_web_iff.mp parsed
  obtain ⟨n, whole⟩ := exists_trimSlashes_append text.toList
  obtain ⟨front, blanks, edges, ends, cleaned, slashed⟩ :=
    clean_slashes (trimSlashes text.toList) n
  rw [← whole] at cleaned ends
  -- The scheme is the same whatever the text ends in.
  have noColon : ':' ∉ blanks ++ ['/'] := by
    intro member
    rcases List.mem_append.mp member with blank | slash
    · exact forall_isEdge (P := (':' ≠ ·)) (by decide) (edges _ blank) rfl
    · cases List.mem_singleton.mp slash
  rw [toList_withSlash, slashed, List.append_assoc, splitScheme?_append front noColon] at split
  obtain ⟨⟨_, cs⟩, found, same⟩ := Option.map_eq_some_iff.mp split
  cases same
  rw [← List.append_assoc] at read
  obtain ⟨parts, made, tail, given⟩ := readSpecial_slashes edges read n
  refine ⟨scheme, parts, cs, blanks, n, ⟨edges, ends, tail, ?_, ?_⟩, made⟩
  -- What is read behind the scheme and the authority is the end of the text.
  · obtain ⟨before, same⟩ := suffix_of_splitScheme? found
    obtain ⟨lead, kept⟩ : tailOf (cs ++ blanks) <:+ front ++ blanks :=
      (tailOf_suffix _).trans ⟨before, by rw [← List.append_assoc, same]⟩
    rw [slashed]
    exact ⟨lead, by rw [← List.append_assoc, kept]⟩
  · refine parse_eq_web_iff.mpr ⟨scheme, cs ++ List.replicate n '/', ?_, web, given⟩
    rw [cleaned, splitScheme?_append front (by simp), found]
    rfl

/-! ### Endpoints -/

/-- An endpoint has the segments of its base but for the last one, and its own. -/
theorem pathText_policiesUrl (base : Url) :
    pathText (policiesUrl base) =
      segmentsText base.path.dropLast ++ '/' :: policiesPath.toList := by
  -- Neither segment of the endpoint has a character that would be encoded.
  have parts : (splitWhere (isSlash .special) policiesPath.toList).map
      (Percent.encode Percent.pathChars) = ["api".toList, "policies".toList] := by
    decide
  have added : (policiesUrl base).path =
      base.path.dropLast ++ ["api".toList, "policies".toList] := by
    rw [policiesUrl, join, pathBelow, parts]
    exact addSegments_eq_append (by decide) _
  rw [pathText, added, segmentsText_append]
  rfl

/-- A path ends in its last segment, behind a slash. -/
theorem exists_last_of_assemble (scheme : String) (read : Credentials × Server) (tail : List Char) :
    ∃ last, '/' ∉ last ∧ pathText (assemble scheme read tail) =
      segmentsText (assemble scheme read tail).path.dropLast ++ '/' :: last := by
  have some : (assemble scheme read tail).path ≠ [] := pathOf_ne_nil _
  refine ⟨(assemble scheme read tail).path.getLast some, ?_, ?_⟩
  · exact slash_not_mem_of_mem_pathOf (List.getLast_mem some)
  -- The text of a path is that of its front followed by the last segment.
  · rw [pathText, ← segmentsText_singleton, ← segmentsText_append, List.dropLast_concat_getLast]

/-- An endpoint that takes the place of nothing is below its base. -/
theorem liesBelow_iff {base given : Url} {front : List Char}
    (asked : pathText (policiesUrl base) = front ++ '/' :: policiesPath.toList) :
    LiesBelow (policiesUrl base) given ↔ front = trimSlashes (pathText given) := by
  rw [LiesBelow, asked, List.append_left_inj]

/-- Without a query and a fragment a base ends in a slash, behind all segments that were given. -/
theorem path_of_bare {scheme : String} {read : Credentials × Server} {cs : List Char}
    (bare : IsBare (assemble scheme read (tailOf cs))) :
    (assemble scheme read (tailOf cs ++ ['/'])).path = entered (tailOf cs) ++ [[]] := by
  have same : IsBare (assemble scheme read (tailOf cs ++ ['/'])) :=
    (isBare_assemble_append (isMark_of_mem_slashes (n := 1))).mpr bare
  rw [assemble_path same]
  exact pathOf_append_slashes (isRooted_tailOf bare) 0

/-- Without a query and a fragment slashes at the end make no difference but for themselves. -/
theorem trimSlashes_pathText {scheme : String} {read : Credentials × Server} {cs : List Char}
    (bare : IsBare (assemble scheme read (tailOf cs))) (n : Nat) :
    trimSlashes (pathText (assemble scheme read (tailOf cs ++ List.replicate n '/'))) =
      trimSlashes (segmentsText (entered (tailOf cs))) := by
  have same : IsBare (assemble scheme read (tailOf cs ++ List.replicate n '/')) :=
    (isBare_assemble_append isMark_of_mem_slashes).mpr bare
  rw [pathText, assemble_path same]
  exact trimSlashes_pathOf (isRooted_tailOf bare) n

/-! ### Plain texts -/

/-- The last segment does not depend on what comes before its slash. -/
theorem lastSegment_append (front : List Char) {segment : List Char} (free : '/' ∉ segment) :
    lastSegment (front ++ '/' :: segment) = segment := by
  have mirrored : '/' ∉ segment.reverse := fun member => free (List.mem_reverse.mp member)
  rw [lastSegment, List.rtakeWhile, List.reverse_append, List.reverse_cons, List.append_assoc,
    List.singleton_append, takeWhile_mark mirrored, List.reverse_reverse]

/-- A text with slashes has a last one. -/
theorem exists_lastSegment {cs : List Char} (slash : '/' ∈ cs) :
    ∃ front segment, cs = front ++ '/' :: segment ∧ '/' ∉ segment := by
  -- The last slash is the first one from behind.
  obtain ⟨after, before, same, free⟩ := List.eq_append_cons_of_mem (List.mem_reverse.mpr slash)
  refine ⟨before.reverse, after.reverse, ?_, fun member => free (List.mem_reverse.mp member)⟩
  rw [← List.reverse_reverse cs, same]
  simp

/-- A plain text has no characters that are dropped at the ends of texts. -/
theorem IsPlain.not_isEdge {text : String} (plain : IsPlain text) {c : Char}
    (member : c ∈ text.toList) : isEdge c = false := by
  have low := (plain.chars c member).1
  simp only [isEdge, decide_eq_false_iff_not]
  omega

/-- A plain text does not end in a blank. -/
theorem IsPlain.not_endsBlank {text : String} (plain : IsPlain text) : ¬EndsBlank text := by
  intro ends
  obtain ⟨c, last, edge⟩ := (Option.any_eq_true _ _).mp ends
  rw [plain.not_isEdge (List.mem_of_getLast? last)] at edge
  cases edge

/-- What comes after the authority of a plain text stands there as it is written. -/
theorem IsPlain.suffix {text : String} (plain : IsPlain text) {tail : List Char}
    (ends : tail ++ ['/'] <:+ clean (trimSlashes text.toList ++ ['/'])) :
    tail <:+ trimSlashes text.toList := by
  have kept : ∀ c ∈ trimSlashes text.toList ++ ['/'], isEdge c = false := by
    intro c member
    rcases List.mem_append.mp member with inside | slash
    · exact plain.not_isEdge ((List.rdropWhile_prefix _ _).subset inside)
    · rw [List.mem_singleton.mp slash]
      rfl
  -- Nothing is cleaned away from a plain text, so that the end is kept.
  rw [clean_eq_self kept] at ends
  obtain ⟨lead, same⟩ := ends
  rw [← List.append_assoc, List.append_left_inj] at same
  exact ⟨lead, same⟩

/-- A plain text has neither a query nor a fragment. -/
theorem IsPlain.isBare {text : String} (plain : IsPlain text) {tail : List Char}
    (ends : tail <:+ trimSlashes text.toList) (scheme : String) (read : Credentials × Server) :
    IsBare (assemble scheme read tail) := by
  refine isBare_assemble_iff.mpr fun c member => ?_
  have apart := (plain.chars c ((List.rdropWhile_prefix _ _).subset (ends.subset member))).2.2
  rw [isMark, Bool.or_eq_false_iff, beq_eq_false_iff_ne, beq_eq_false_iff_ne]
  exact ⟨fun is => apart (is ▸ by decide), fun is => apart (is ▸ by decide)⟩

/-- In a plain text only slashes separate segments. -/
theorem IsPlain.isSlash_iff {text : String} (plain : IsPlain text) {c : Char}
    (member : c ∈ text.toList) : isSlash .special c = true ↔ c = '/' := by
  have noBackslash : c ≠ '\\' := fun is =>
    (plain.chars c member).2.2 (List.mem_cons.mpr (.inl is))
  simp [isSlash, noBackslash]

/-- No characters of a plain text are encoded. -/
theorem IsPlain.encode_eq {text : String} (plain : IsPlain text) {cs : List Char}
    (inside : ∀ c ∈ cs, c ∈ text.toList) : Percent.encode Percent.pathChars cs = cs := by
  refine encode_eq_self fun c member => ?_
  obtain ⟨low, high, apart⟩ := plain.chars c (inside c member)
  refine ⟨?_, fun encoded => apart (List.mem_cons_of_mem _ encoded)⟩
  simp only [Percent.isUnsafe, Bool.or_eq_false_iff, decide_eq_false_iff_not]
  omega

/-- What comes after the authority of a plain text has no slashes at its end once it is entered. -/
theorem IsPlain.trimSlashes_entered {text : String} (plain : IsPlain text) {tail : List Char}
    (rooted : IsRooted tail) (ends : tail <:+ trimSlashes text.toList) :
    trimSlashes (segmentsText (entered tail)) = segmentsText (entered tail) := by
  obtain ⟨lead, same⟩ := ends
  have among {c : Char} (member : c ∈ tail) : c ∈ text.toList :=
    (List.rdropWhile_prefix _ _).subset (same ▸ List.mem_append_right lead member)
  rcases rooted with rfl | ⟨slash, rest, rfl, separates⟩
  · rfl
  have first : slash = '/' := (plain.isSlash_iff (among List.mem_cons_self)).mp separates
  -- The text is cut at its last slash.
  obtain ⟨front, segment, parts, free⟩ :=
    exists_lastSegment (show '/' ∈ slash :: rest by simp [first])
  rw [parts] at same among ⊢
  have trimmed : trimSlashes text.toList = (lead ++ front) ++ '/' :: segment := by
    rw [← same, List.append_assoc]
  have start : IsRooted front := by
    cases front with
    | nil => exact .inl rfl
    | cons d others =>
      rw [List.cons_append, List.cons.injEq] at parts
      exact .inr ⟨d, others, rfl, parts.1 ▸ separates⟩
  have inside : ∀ c ∈ segment, c ∈ text.toList := fun c member => among (by simp [member])
  have noSlash : ∀ c ∈ segment, isSlash .special c = false := fun c member =>
    Bool.eq_false_iff.mpr fun separates =>
      free ((plain.isSlash_iff (inside c member)).mp separates ▸ member)
  have dots := plain.last
  rw [trimmed, lastSegment_append _ free] at dots
  -- The last segment is entered as it stands, and the text does not end in a slash.
  rw [entered_append_segment start noSlash, plain.encode_eq inside, enter]
  simp only [dots.1, dots.2, Bool.false_eq_true, if_false]
  rcases List.eq_nil_or_concat segment with rfl | ⟨others, c, rfl⟩
  · exact absurd trimmed (trimSlashes_ne_concat _ _)
  -- A segment with characters keeps the path from ending in a slash.
  · have last : c ≠ '/' := fun is => free (by simp [is])
    rw [segmentsText_append, segmentsText_singleton, List.concat_eq_append, ← List.cons_append,
      ← List.append_assoc]
    exact trimSlashes_concat _ last

/-! ### Requests -/

/-- What is behind the last slash of a path is nothing where its slashes count as one. -/
theorem front_eq_trimSlashes_iff (front : List Char) {last : List Char} (free : '/' ∉ last) :
    front = trimSlashes (front ++ '/' :: last) ↔
      front ++ '/' :: last = trimSlashes (front ++ '/' :: last) ++ ['/'] := by
  rcases List.eq_nil_or_concat last with rfl | ⟨others, c, rfl⟩
  · exact (List.append_left_inj _).symm
  -- With something behind the slash nothing is trimmed, and both sides are false.
  · have apart : c ≠ '/' := fun is => free (by simp [is])
    have kept : trimSlashes (front ++ '/' :: others.concat c) =
        front ++ '/' :: others.concat c := by
      simpa using trimSlashes_concat (front ++ '/' :: others) apart
    rw [kept]
    simp

section

variable {text scheme : String} {read : Credentials × Server} {cs blanks : List Char} {n : Nat}

/-- A URL has a query or a fragment whatever is at its end. -/
theorem IsRead.isBare_iff (reads : IsRead text scheme read cs blanks n) :
    (IsBare (assemble scheme read (tailOf (cs ++ blanks))) ↔
        IsBare (assemble scheme read (tailOf cs))) ∧
      (IsBare (assemble scheme read (tailOf cs ++ List.replicate n '/')) ↔
        IsBare (assemble scheme read (tailOf cs))) := by
  constructor
  · rw [reads.tail]
    exact isBare_assemble_append fun c member =>
      forall_isEdge (P := fun c => isMark c = false) (by decide) (reads.edges c member)
  · exact isBare_assemble_append isMark_of_mem_slashes

/-- Without a query and a fragment the endpoint stands behind all segments that were given. -/
theorem IsRead.asksFor_of_bare (reads : IsRead text scheme read cs blanks n)
    (bare : IsBare (assemble scheme read (tailOf cs))) :
    AsksFor text (assemble scheme read (tailOf (cs ++ blanks) ++ ['/']))
      (assemble scheme read (tailOf cs ++ List.replicate n '/')) := by
  have based := reads.isBare_iff.1.mpr bare
  have path := path_of_bare based
  have written : pathText (assemble scheme read (tailOf (cs ++ blanks) ++ ['/'])) =
      segmentsText (entered (tailOf (cs ++ blanks))) ++ ['/'] := by
    rw [pathText, path, segmentsText_append]
    rfl
  -- The base ends in an empty segment, whose place the endpoint takes.
  have asked : pathText (policiesUrl (assemble scheme read (tailOf (cs ++ blanks) ++ ['/']))) =
      segmentsText (entered (tailOf (cs ++ blanks))) ++ '/' :: policiesPath.toList := by
    rw [pathText_policiesUrl, path, List.dropLast_concat]
  -- Blanks at the end would be read as a part of the last segment.
  have trimmed (kept : ¬EndsBlank text) :
      trimSlashes (pathText (assemble scheme read (tailOf cs ++ List.replicate n '/'))) =
        trimSlashes (segmentsText (entered (tailOf (cs ++ blanks)))) := by
    have none : blanks = [] := by_contra fun some => kept (reads.ends some)
    rw [none, List.append_nil]
    exact trimSlashes_pathText bare n
  -- The parts of the claim follow from the one equation for the endpoint.
  refine ⟨reads.parsed, ⟨rfl, rfl, rfl⟩, ⟨rfl, rfl, rfl⟩, ?_, ?_, ?_, ?_⟩
  · rw [liesBelow_iff asked, written]
    exact (List.append_left_inj _).symm
  · intro _ kept
    obtain ⟨m, same⟩ := exists_trimSlashes_append (segmentsText (entered (tailOf (cs ++ blanks))))
    exact ⟨m, by rw [asked, trimmed kept, ← same]⟩
  · intro marked
    exact absurd (reads.isBare_iff.2.mpr bare) marked
  · intro plain
    rw [liesBelow_iff asked, trimmed plain.not_endsBlank]
    exact (plain.trimSlashes_entered (isRooted_tailOf based) (plain.suffix reads.suffix)).symm

/-- With a query or a fragment the path that was given is the one of the base. -/
theorem IsRead.asksFor_of_marked (reads : IsRead text scheme read cs blanks n)
    (marked : ¬IsBare (assemble scheme read (tailOf cs))) :
    AsksFor text (assemble scheme read (tailOf (cs ++ blanks) ++ ['/']))
      (assemble scheme read (tailOf cs ++ List.replicate n '/')) := by
  -- Slashes behind a query or a fragment belong to it, and the path is the same.
  have path : (assemble scheme read (tailOf (cs ++ blanks) ++ ['/'])).path =
      (assemble scheme read (tailOf cs ++ List.replicate n '/')).path := by
    rw [reads.tail, List.append_assoc, assemble_path_append marked, assemble_path_append marked]
  -- The last segment of the path is the one that the endpoint takes the place of.
  obtain ⟨last, free, written⟩ :=
    exists_last_of_assemble scheme read (tailOf cs ++ List.replicate n '/')
  have same : pathText (assemble scheme read (tailOf (cs ++ blanks) ++ ['/'])) =
      pathText (assemble scheme read (tailOf cs ++ List.replicate n '/')) :=
    congrArg segmentsText path
  have asked : pathText (policiesUrl (assemble scheme read (tailOf (cs ++ blanks) ++ ['/']))) =
      segmentsText (assemble scheme read (tailOf cs ++ List.replicate n '/')).path.dropLast ++
        '/' :: policiesPath.toList := by
    rw [pathText_policiesUrl, path]
  refine ⟨reads.parsed, ⟨rfl, rfl, rfl⟩, ⟨rfl, rfl, rfl⟩, ?_, ?_, ?_, ?_⟩
  · rw [liesBelow_iff asked, same, written]
    exact front_eq_trimSlashes_iff _ free
  · intro bare
    exact absurd (reads.isBare_iff.2.mp bare) marked
  · intro _
    exact ⟨_, last, free, written, asked⟩
  · intro plain
    have bare := plain.isBare (plain.suffix reads.suffix) scheme read
    exact absurd (reads.isBare_iff.1.mp bare) marked

end

/-- The policies are asked for below the URL that was given, unless it has a query or a fragment
or ends in something that makes for another path. -/
theorem policiesUrl_exact {text : String} {base : Url} (accepted : baseUrl text = .ok base) :
    ∃ given, AsksFor text base given := by
  obtain ⟨scheme, read, cs, blanks, n, reads, rfl⟩ := exists_isRead accepted
  -- A query or a fragment takes the slashes at the end, and without one the path does.
  by_cases bare : IsBare (assemble scheme read (tailOf cs))
  · exact ⟨_, reads.asksFor_of_bare bare⟩
  · exact ⟨_, reads.asksFor_of_marked bare⟩

/-- The address of an instance for one of many tenants, with slashes at its end. -/
def tenantText : String := "https://dash/tenant//"

/-- The base that the address makes for. -/
def tenantBase : Url :=
  { scheme := "https", user := [], password := [], host := "dash".toList, port := none
    path := ["tenant".toList, []], query := none, fragment := none }

/-- Below the address of a tenant the policies of that tenant are asked for. -/
theorem tenantText_asksBelow : baseUrl tenantText = .ok tenantBase ∧
    ∃ given, AsksFor tenantText tenantBase given ∧ LiesBelow (policiesUrl tenantBase) given := by
  have accepted : baseUrl tenantText = .ok tenantBase := by decide +kernel
  -- The text is plain, which is checked character by character.
  have chars : (tenantText.toList.all fun c =>
      0x20 < c.toNat && c.toNat < 0x7f && !('\\' :: Percent.pathChars).contains c) = true := by
    decide +kernel
  have plain : IsPlain tenantText :=
    ⟨by simpa [and_assoc] using chars, by decide +kernel⟩
  obtain ⟨given, asks⟩ := policiesUrl_exact accepted
  exact ⟨accepted, given, asks, asks.plain plain⟩

/-- With a query the policies are asked for beside the tenant that the path names. -/
theorem tenantQuery_asksBeside :
    ∃ base given, baseUrl "https://dash/tenant?region=eu" = .ok base ∧
      Url.parse "https://dash/tenant?region=eu" = .ok (.web given) ∧
      pathText given = "/tenant".toList ∧ pathText (policiesUrl base) = "/api/policies".toList ∧
      ¬LiesBelow (policiesUrl base) given := by
  refine ⟨{ tenantBase with path := ["tenant".toList], query := some "region=eu/".toList },
    { tenantBase with path := ["tenant".toList], query := some "region=eu".toList },
    ?_, ?_, ?_, ?_, ?_⟩
  · decide +kernel
  · decide +kernel
  · decide +kernel
  · decide +kernel
  · decide +kernel

end ToolPolicy.DashClaw
