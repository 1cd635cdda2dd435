import ToolPolicy.Proofs.Yaml.Bare
import ToolPolicy.Yaml.Parser

/-! What document markers mean where there is no content between them. -/

namespace ToolPolicy.Yaml

variable {cs : List Char} {ms : List Marker} {ts : List Token} {s t next : Token}

/-! ### The structure of the text -/

/-- Between its start and its end a text has no document. -/
theorem Stream.read_end (scanned : Token.scan cs = ([s, t], none)) (kind : t.kind = .streamEnd) :
    Stream.read cs = ⟨⟨[], none⟩, false⟩ := by
  obtain ⟨_, start, finish⟩ := t
  obtain rfl := kind
  unfold Stream.read
  rw [scanned]
  rfl

/-- Where a document ends that was not started, its node is missing. -/
theorem Stream.read_documentEnd (scanned : Token.scan cs = (s :: t :: ts, none))
    (kind : t.kind = .documentEnd) : Stream.read cs =
      ⟨⟨[], some (.within .expectedNode t.start .blockNode t.start)⟩, false⟩ := by
  obtain ⟨_, start, finish⟩ := t
  obtain rfl := kind
  unfold Stream.read
  rw [scanned]
  rfl

/-- A document that was started and has no node has an empty one. -/
theorem Stream.read_documentStart (scanned : Token.scan cs = (s :: t :: next :: ts, none))
    (kind : t.kind = .documentStart) (outside : Grammar.isOutside next.kind = true) :
    Stream.read cs = ⟨⟨[⟨.scalar none none "" .plain, next.start⟩], none⟩,
      Progress.hasMore ⟨next :: ts, none, [], []⟩⟩ := by
  obtain ⟨_, start, finish⟩ := t
  obtain rfl := kind
  obtain ⟨kind, start', finish'⟩ := next
  unfold Stream.read
  rw [scanned]
  -- The end of the document is gone over where it comes next, as it is before more is looked for.
  cases kind <;> first | rfl | cases outside

/-- After a document there is more where another one is started. -/
theorem hasMore_markers {fault : Option Malformed} {es : List Event}
    {handles : List (String × String)}
    (kinds : ts.map Token.kind = ms.map Marker.kind ++ [.streamEnd]) :
    Progress.hasMore ⟨ts, fault, es, handles⟩ = decide (.start ∈ ms) := by
  unfold Progress.hasMore
  dsimp only
  -- The induction is on the markers; each one that ends a document is dropped with its token.
  induction ms generalizing ts with
  | nil =>
    obtain ⟨t, nothing, rfl, kind, none⟩ := List.map_eq_cons_iff.mp kinds
    obtain rfl := List.map_eq_nil_iff.mp none
    simp [kind]
  | cons k ms ih =>
    obtain ⟨t, others, rfl, kind, same⟩ := List.map_eq_cons_iff.mp kinds
    cases k with
    | start => simp [kind, Marker.kind]
    | finish =>
      rw [List.dropWhile_cons_of_pos (by simp [kind, Marker.kind]), ih same]
      simp

/-! ### The value of the text -/

/-- A document that is malformed from the start has no value. -/
theorem Value.ofDocument_malformed (e : Malformed) :
    Value.ofDocument ⟨[], some e⟩ = .error (.malformed e) := by
  have assembled : Assembly.ofDocument ⟨[], some e⟩ = ⟨[], [], some (.malformed e)⟩ := rfl
  rw [Value.ofDocument, assembled]
  simp [readValue, Assembly.maxJumps, Assembly.endFault]

/-- A document that is a plain scalar has the value that the scalar stands for. -/
theorem Value.ofDocument_scalar (text : String) (mark : Mark) :
    Value.ofDocument ⟨[⟨.scalar none none text .plain, mark⟩], none⟩ =
      (valueOf text (resolve text.toList)).mapError (.unfit .root mark) := by
  have assembled : Assembly.ofDocument ⟨[⟨.scalar none none text .plain, mark⟩], none⟩ =
      ⟨[(.scalar none text .plain, mark)], [], none⟩ := rfl
  have meaning : scalarValue none false text .plain = valueOf text (resolve text.toList) := rfl
  rw [Value.ofDocument, assembled]
  cases read : valueOf text (resolve text.toList) with
  | ok v => simp [readValue, Assembly.maxJumps, meaning, read, ownTag?, Except.mapError]
  | error cause => simp [readValue, Assembly.maxJumps, meaning, read, ownTag?, Except.mapError]

/-- An empty scalar is null. -/
theorem Value.ofDocument_empty (mark : Mark) :
    Value.ofDocument ⟨[⟨.scalar none none "" .plain, mark⟩], none⟩ = .ok .null :=
  Value.ofDocument_scalar "" mark

/-- A text without content and without markers has no document. -/
theorem parse_noMarkers (bare : markers? cs = some []) (readable : cs.all isReadable = true) :
    parse cs = .ok .null := by
  obtain ⟨ts, scanned, kinds⟩ := Lexer.scan_markers bare readable
  obtain ⟨s, more, rfl, -, others⟩ := List.map_eq_cons_iff.mp kinds
  obtain ⟨t, nothing, rfl, kind, none⟩ := List.map_eq_cons_iff.mp others
  obtain rfl := List.map_eq_nil_iff.mp none
  -- Without a document the value is null, and there is nothing after it.
  rw [parse, Stream.read_end scanned kind]
  rfl

/-- A text without content whose first marker ends a document is malformed there. -/
theorem parse_finish (bare : markers? cs = some (.finish :: ms))
    (readable : cs.all isReadable = true) :
    ∃ mark, parse cs = .error (.malformed (.within .expectedNode mark .blockNode mark)) := by
  obtain ⟨ts, scanned, kinds⟩ := Lexer.scan_markers bare readable
  obtain ⟨s, more, rfl, -, others⟩ := List.map_eq_cons_iff.mp kinds
  obtain ⟨t, rest, rfl, kind, -⟩ := List.map_eq_cons_iff.mp others
  refine ⟨t.start, ?_⟩
  rw [parse, Stream.read_documentEnd scanned kind]
  dsimp only
  rw [Value.ofDocument_malformed]

/-- A text without content whose first marker starts a document has null there, and more where
another document is started. -/
theorem parse_start (bare : markers? cs = some (.start :: ms))
    (readable : cs.all isReadable = true) :
    parse cs = if .start ∈ ms then .error .severalDocuments else .ok .null := by
  obtain ⟨ts, scanned, kinds⟩ := Lexer.scan_markers bare readable
  obtain ⟨s, more, rfl, -, others⟩ := List.map_eq_cons_iff.mp kinds
  obtain ⟨t, rest, rfl, kind, later⟩ := List.map_eq_cons_iff.mp others
  cases rest with
  | nil =>
    -- The end of the text has a token, so that there is a next one.
    have length := congrArg List.length later
    simp at length
  | cons next rest =>
    -- Neither a marker nor the end of the text starts a node.
    have outside : Grammar.isOutside next.kind = true := by
      cases ms with
      | nil =>
        rw [(List.cons.inj later).1]
        rfl
      | cons k ms =>
        rw [(List.cons.inj later).1]
        cases k <;> rfl
    rw [parse, Stream.read_documentStart scanned kind outside, hasMore_markers later]
    simp only [Value.ofDocument_empty, decide_eq_true_eq]

end ToolPolicy.Yaml
