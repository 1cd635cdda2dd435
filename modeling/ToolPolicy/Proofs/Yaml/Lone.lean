import ToolPolicy.Proofs.Yaml.Markers

/-! A text that is a plain scalar and nothing else has one token, and its value is what the scalar
stands for. -/

namespace ToolPolicy.Yaml

namespace Lexer

variable {cs : List Char}

/-- Behind a scalar that is no required key the text may end. -/
theorem finishes_lone (m : Mark) (allowed : Bool) {key? : Option PossibleKey} {queue : List Token}
    (optional : ∀ key ∈ key?, key.isRequired = false)
    (unfinished : ∀ t ∈ queue, t.kind ≠ .streamEnd) :
    ∃ done t, Finishes ⟨⟨[], m⟩, true, -1, [], allowed, [key?], 0, queue⟩ done ∧
      done.queue = queue ++ [t] ∧ t.kind = .streamEnd := by
  have ended : ∃ done t, takeToken ⟨⟨[], m⟩, true, -1, [], allowed, [key?], 0, queue⟩ = .ok done ∧
      done.possibleKeys = [none] ∧ done.queue = queue ++ [t] ∧ t.kind = .streamEnd := by
    have last : takeToken ⟨⟨[], m⟩, true, -1, [], allowed, [key?], 0, queue⟩ =
        takeEnd ⟨⟨[], m⟩, true, -1, [], allowed, [key?], 0, queue⟩ := rfl
    rw [last, takeEnd, closeBlocks_outside _ rfl]
    cases key? with
    | none => exact ⟨_, _, rfl, rfl, rfl, rfl⟩
    | some key =>
      -- A key that is not required is given up.
      have free := optional key rfl
      simp only [removeKey, Lexer.key, List.head?_cons, Option.join_some, free, Bool.false_eq_true,
        if_false]
      exact ⟨_, _, rfl, rfl, rfl, rfl⟩
  obtain ⟨done, t, took, keys, known, last⟩ := ended
  exact ⟨done, t, ⟨unfinished, took, keys, queue, t, known, last, unfinished⟩, known, last⟩

/-- Behind a plain scalar at the end of a text there is nothing on the way to the next token. -/
theorem approach_lone (m : Mark) (queue : List Token) {key : PossibleKey}
    (optional : key.isRequired = false) :
    ∃ key?, (∀ key ∈ key?, key.isRequired = false) ∧
      approach ⟨⟨[], m⟩, true, -1, [], false, [some key], 0, queue⟩ =
        .ok ⟨⟨[], m⟩, true, -1, [], false, [key?], 0, queue⟩ := by
  let l : Lexer := ⟨⟨[], m⟩, true, -1, [], false, [some key], 0, queue⟩
  -- The scalar may be too long for a key, which is then given up on the way.
  have removed : l.removeStaleKeys =
      .ok { l with possibleKeys := [(some key).filter fun k => !l.isStale k] } := by
    refine removeStaleKeys_eq_ok_iff.mpr ⟨fun key? member k inside _ => ?_, rfl⟩
    obtain rfl := List.mem_singleton.mp member
    obtain rfl := Option.mem_some.mp inside
    exact optional
  refine ⟨(some key).filter fun k => !l.isStale k, fun k member => ?_, ?_⟩
  · obtain rfl := Option.mem_some.mp (Option.mem_filter_iff.mp member).1
    exact optional
  · have low : (-1 : Int) ≤ (m.column : Nat) := by omega
    have skipped : skipToToken l.cursor.rest l = l := skipToToken_nil _ rfl
    show l.approach = _
    rw [approach, skipped, removed]
    exact congrArg Except.ok (closeBlocks_of_le low)

/-- The tokens of a text that is a plain scalar are that scalar between the ends of the text. -/
theorem scan_plain (nonempty : cs ≠ []) (allowed : allowsPlain cs = true) :
    ∃ s t e : Token, Token.scan cs = ([s, t, e], none) ∧
      t.kind = .scalar (String.ofList cs) .plain ∧ e.kind = .streamEnd := by
  have follows : Flow.FollowsPlain ((-1 : Int) + 1).toNat [] := .nothing
  obtain ⟨token, after, broken, read, kind, lands⟩ : ∃ token after broken,
      Flow.readPlain false (-1) ⟨cs ++ [], .start⟩ = .ok ((token, broken), after) ∧
        token.kind = .scalar (String.ofList cs) .plain ∧
        Flow.Lands (Mark.start.advance cs.length) [] after broken :=
    Flow.readPlain_eq nonempty allowed follows (by simp)
  rw [List.append_nil] at read
  cases lands
  let start : Token := ⟨.streamStart, .start, .start⟩
  let first : Lexer := ⟨⟨cs, .start⟩, true, -1, [], true, [none], 0, [start]⟩
  have suits : Suits cs .plain := ⟨nonempty, allowed⟩
  have starts : StartsToken cs := by simpa [styled] using startsToken_styled suits 0 []
  have approached : first.approach = .ok first :=
    approach_self starts (by simp [first]) (.inr (by simp [first]))
  -- The scalar might be a key, until the text ends without a colon.
  have took : first.takeToken = .ok ⟨⟨[], Mark.start.advance cs.length⟩, true, -1, [], false,
      [some ⟨false, 1, .start⟩], 0, [start, token]⟩ :=
    (takeToken_plain (by simp [first]; rfl) nonempty allowed follows rfl).trans
      (takePlain_eq _ read)
  obtain ⟨key?, optional, reached⟩ := approach_lone (Mark.start.advance cs.length) [start, token]
    (show (⟨false, 1, .start⟩ : PossibleKey).isRequired = false from rfl)
  have unfinished : ∀ t ∈ [start, token], t.kind ≠ .streamEnd := by simp [start, kind]
  -- Behind the scalar the stream ends, and its tokens are given out one by one.
  obtain ⟨done, e, finishes, known, last⟩ :=
    finishes_lone (Mark.start.advance cs.length) false optional unfinished
  have moves : Moves 1 first _ := .step (by simp [first, start]) took reached (.refl _)
  have spares : Spares [] first := ⟨rfl, List.nil_prefix, by simp [first]⟩
  have ran := delivers finishes cs.length (8 * cs.length + 15) spares approached moves (by
    rw [known]
    simp only [List.length_append, List.length_cons, List.length_nil]
    omega)
  rw [known] at ran
  refine ⟨start, token, e, ?_, kind, last⟩
  have readable : cs.all isReadable = true := readable_styled 0 suits
  unfold Token.scan
  rw [readable_eq readable]
  dsimp only
  rw [run.eq_def]
  exact ran

end Lexer

/-! ### The value of the text -/

/-- A scalar between the ends of a text is the only node of its only document. -/
theorem Stream.read_scalar {cs : List Char} {s t e : Token} {text : String}
    (scanned : Token.scan cs = ([s, t, e], none)) (kind : t.kind = .scalar text .plain)
    (last : e.kind = .streamEnd) :
    Stream.read cs = ⟨⟨[⟨.scalar none none text .plain, t.start⟩], none⟩, false⟩ := by
  obtain ⟨_, start, finish⟩ := t
  obtain ⟨_, start', finish'⟩ := e
  obtain rfl := kind
  obtain rfl := last
  unfold Stream.read
  rw [scanned]
  rfl

/-- A text that is a plain scalar has the value that the scalar stands for. -/
theorem parse_plain {cs : List Char} (nonempty : cs ≠ []) (allowed : allowsPlain cs = true) :
    ∃ mark, parse cs =
      (valueOf (String.ofList cs) (resolve cs)).mapError (.unfit .root mark) := by
  obtain ⟨s, t, e, scanned, kind, last⟩ := Lexer.scan_plain nonempty allowed
  refine ⟨t.start, ?_⟩
  rw [parse, Stream.read_scalar scanned kind last]
  dsimp only
  rw [Value.ofDocument_scalar, String.toList_ofList]
  cases valueOf (String.ofList cs) (resolve cs) with
  | ok v => rfl
  | error cause => rfl

end ToolPolicy.Yaml
