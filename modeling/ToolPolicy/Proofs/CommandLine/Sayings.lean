import Mathlib.Tactic.SplitIfs
import ToolPolicy.CommandLine.Basic
import ToolPolicy.Proofs.Except

/-! What the words of an accepted command line say: each gives values to settings, whatever was read
before it. -/

namespace ToolPolicy.CommandLine

/-- What is said for settings, in order. -/
abbrev Sayings := List (Setting × List String)

/-- The values of a setting after some sayings, given those before them. -/
def heard (setting : Setting) (spoken : Sayings) (known : Option (List String)) :
    Option (List String) :=
  spoken.foldl (fun known say => if say.1 = setting then some (known.getD [] ++ say.2) else known)
    known

/-- Sayings are heard one after the other. -/
theorem heard_append (setting : Setting) (spoken more : Sayings) (known : Option (List String)) :
    heard setting (spoken ++ more) known = heard setting more (heard setting spoken known) :=
  List.foldl_append

/-- Sayings for other settings change nothing. -/
theorem heard_of_forall_ne {setting : Setting} {spoken : Sayings}
    (others : ∀ say ∈ spoken, say.1 ≠ setting) (known : Option (List String)) :
    heard setting spoken known = known := by
  -- The first saying is passed over, and so are the others.
  induction spoken generalizing known with
  | nil => rfl
  | cons say spoken ih =>
    obtain ⟨other, others⟩ := List.forall_mem_cons.mp others
    rw [heard, List.foldl_cons, if_neg other]
    exact ih others known

/-- Only the sayings for a setting count for it. -/
theorem heard_filter {setting : Setting} (keeps : Setting → Bool) (kept : keeps setting = true)
    (spoken : Sayings) (known : Option (List String)) :
    heard setting (spoken.filter fun say => keeps say.1) known = heard setting spoken known := by
  -- The values heard so far are kept general, as every saying that is kept adds to them.
  induction spoken generalizing known with
  | nil => rfl
  | cons say spoken ih =>
    cases keep : keeps say.1 with
    | true =>
      rw [List.filter_cons_of_pos (by simpa using keep)]
      exact ih _
    | false =>
      -- What is left out is for another setting.
      have other : say.1 ≠ setting := by
        rintro rfl
        simp [kept] at keep
      rw [List.filter_cons_of_neg (by simp [keep]), ih, heard, heard, List.foldl_cons,
        if_neg other]

namespace Reading

/-- The values of a setting so far, with those that are still being read. -/
def said? (r : Reading) (setting : Setting) : Option (List String) :=
  let given := (r.given? setting).map Given.values
  match r.pending with
  | some (p, values) => if p.setting = setting then some (given.getD [] ++ values) else given
  | none => given

/-- Only a parameter that takes a value waits for one. -/
def Sound (r : Reading) : Prop := ∀ p, r.awaited? = some p → p.kind.takesValue = true

/-- With nothing left to take in, what was said is what is given. -/
theorem said?_of_settled {r : Reading} (settled : r.pending = none) (setting : Setting) :
    r.said? setting = (r.given? setting).map Given.values := by
  rw [said?, settled]

/-- With nothing left to take in, no value is waited for. -/
theorem awaited?_of_settled {r : Reading} (settled : r.pending = none) : r.awaited? = none := by
  rw [awaited?, settled]

/-- What is taken in adds its values to those of its setting; what takes a value has one. -/
theorem exists_of_give {r r' : Reading} {p : Parameter} {source : Source} {values : List String}
    (given : r.give p source values = .ok r') :
    ∃ now : Given, r' = { r with given := (p.setting, now) :: r.given } ∧
      now.values = ((r.given? p.setting).map Given.values).getD [] ++ values ∧
      (p.kind.takesValue && values.isEmpty) = false := by
  -- All other ways through the checks end in a halt.
  simp only [give] at given
  cases earlier : r.given? p.setting with
  | none =>
    simp only [earlier] at given
    split_ifs at given with help version bare misfit
    exact ⟨_, (Except.ok.inj given).symm, rfl, by simpa using bare⟩
  | some before =>
    simp only [earlier] at given
    split_ifs at given with help version bare once misfit
    exact ⟨_, (Except.ok.inj given).symm, rfl, by simpa using bare⟩

/-- A parameter that is taken in says its values. -/
theorem said?_of_give {r r' : Reading} {p : Parameter} {source : Source} {values : List String}
    (settled : r.pending = none) (given : r.give p source values = .ok r') :
    r'.pending = none ∧
      ∀ setting, r'.said? setting = heard setting [(p.setting, values)] (r.said? setting) := by
  obtain ⟨now, rfl, all, -⟩ := exists_of_give given
  refine ⟨settled, fun setting => ?_⟩
  -- Nothing is left to take in on either side, so only what is given has to be compared.
  have before := said?_of_settled settled setting
  have after := said?_of_settled (show Reading.pending ⟨(p.setting, now) :: r.given, r.pending⟩ =
    none from settled) setting
  rw [before, after]
  simp only [given?, List.lookup_cons, heard, List.foldl_cons, List.foldl_nil]
  by_cases same : p.setting = setting
  · subst same
    simp [all, given?]
  · have other : (setting == p.setting) = false := by simpa using Ne.symm same
    rw [other, if_neg same]

/-- Taking in what is still being read says nothing more; nothing may be waited for then. -/
theorem said?_of_settle {r r' : Reading} (sound : r.Sound) (settled : r.settle = .ok r') :
    r'.pending = none ∧ r.awaited? = none ∧ ∀ setting, r'.said? setting = r.said? setting := by
  rw [settle] at settled
  cases pending : r.pending with
  -- Where nothing is pending there is nothing to take in.
  | none =>
    simp only [pending] at settled
    cases settled
    exact ⟨pending, awaited?_of_settled pending, fun _ => rfl⟩
  | some waiting =>
    obtain ⟨p, values⟩ := waiting
    simp only [pending] at settled
    obtain ⟨settled', spoken⟩ := said?_of_give rfl settled
    obtain ⟨-, -, -, valued⟩ := exists_of_give settled
    refine ⟨settled', ?_, fun setting => ?_⟩
    · -- A parameter without the value that it takes is not taken in.
      cases values with
      | nil =>
        have takes := sound p (by rw [awaited?, pending])
        simp [takes] at valued
      | cons value values => rw [awaited?, pending]
    · rw [spoken setting]
      simp only [said?, pending, heard, List.foldl_cons, List.foldl_nil]
      rfl

/-- A step of reading that says something and then waits for a value or for none. -/
structure Hears (r : Reading) (spoken : Sayings) (awaited : Option Parameter) (r' : Reading) :
    Prop where
  said : ∀ setting, r'.said? setting = heard setting spoken (r.said? setting)
  awaits : r'.awaited? = awaited
  sound : r'.Sound

/-- Where no value is waited for afterwards, only what is said matters. -/
theorem hears_of_free {r r' : Reading} {spoken : Sayings}
    (said : ∀ setting, r'.said? setting = heard setting spoken (r.said? setting))
    (free : r'.awaited? = none) : r.Hears spoken none r' := by
  refine ⟨said, free, fun p waits => ?_⟩
  rw [free] at waits
  cases waits

/-- Saying nothing leaves everything as it is. -/
theorem Hears.refl {r : Reading} (sound : r.Sound) : r.Hears [] r.awaited? r :=
  ⟨fun _ => rfl, rfl, sound⟩

/-- Two steps say what the first one says and then what the second one says. -/
theorem Hears.trans {r r' r'' : Reading} {spoken more : Sayings}
    {awaited awaited' : Option Parameter} (first : r.Hears spoken awaited r')
    (second : r'.Hears more awaited' r'') : r.Hears (spoken ++ more) awaited' r'' := by
  refine ⟨fun setting => ?_, second.awaits, second.sound⟩
  rw [second.said, first.said, heard_append]

/-- A parameter with its values says them. -/
theorem hears_take {r r' : Reading} {p : Parameter} {values : List String} (sound : r.Sound)
    (taken : r.take p values = .ok r') :
    r.awaited? = none ∧ r.Hears [(p.setting, values)] none r' := by
  -- What was still being read is taken in first, and then the parameter itself.
  obtain ⟨settled, settles, given⟩ := bind_eq_ok_iff.mp taken
  obtain ⟨nothing, free, same⟩ := said?_of_settle sound settles
  obtain ⟨nothing', spoken⟩ := said?_of_give nothing given
  refine ⟨free, hears_of_free (fun setting => ?_) (awaited?_of_settled nothing')⟩
  rw [spoken, same]

/-- A parameter whose values follow says those that it has, and waits for one if it has none. -/
theorem hears_await {r r' : Reading} {p : Parameter} {values : List String} (sound : r.Sound)
    (takes : p.kind.takesValue = true) (waits : r.await p values = .ok r') :
    r.awaited? = none ∧
      r.Hears [(p.setting, values)] (if values = [] then some p else none) r' := by
  obtain ⟨settled, settles, same⟩ := bind_eq_ok_iff.mp waits
  obtain ⟨nothing, free, before⟩ := said?_of_settle sound settles
  cases Except.ok.inj same
  refine ⟨free, fun setting => ?_, ?_, fun q waits => ?_⟩
  · rw [← before, said?_of_settled nothing]
    rfl
  -- Without a value of its own the parameter is the one that waits.
  · cases values <;> rfl
  · cases values with
    | nil =>
      cases waits
      exact takes
    | cons value values => cases waits

/-- A word can join the values that are being read. -/
theorem hears_extend {r : Reading} {p : Parameter} {values : List String}
    (pending : r.pending = some (p, values)) (word : String) :
    r.Hears [(p.setting, [word])] none { r with pending := some (p, values ++ [word]) } := by
  apply hears_of_free
  · intro setting
    simp only [said?, pending, heard, List.foldl_cons, List.foldl_nil]
    -- The word goes behind the values that are pending, and so behind those that were given before.
    by_cases own : p.setting = setting
    · simp [own, given?]
    · simp [own, given?]
  · simp [awaited?]

end Reading

/-! ### Words -/

/-- What a long option says, and the parameter that then waits for its value. -/
def sayLong (g : Grammar) (name : String) (value : Option String) :
    Option (Sayings × Option Parameter) :=
  (g.named? name).bind fun p =>
    match p.kind.takesValue, value with
    | true, some value => some ([(p.setting, [value])], none)
    | true, none => some ([(p.setting, [])], some p.toParameter)
    | false, some _ => none
    | false, none => some ([(p.setting, [])], none)

/-- What a cluster of short options says. -/
def sayShort (g : Grammar) : List Char → Option (Sayings × Option Parameter)
  | [] => some ([], none)
  | c :: rest =>
    (g.abbreviated? c).bind fun p =>
      if p.kind.takesValue then
        match rest with
        | [] => some ([(p.setting, [])], some p.toParameter)
        | '=' :: value | value => some ([(p.setting, [String.ofList value])], none)
      else (sayShort g rest).map fun (spoken, awaited) => ((p.setting, []) :: spoken, awaited)

/-- What an operand says. -/
def sayOperand (g : Grammar) (word : String) : Option Sayings :=
  g.operand.map fun p => [(p.setting, [word])]

/-- What a word before any separator says. While a value is waited for, no option may come. -/
def sayWord (g : Grammar) (awaited : Option Parameter) (word : String) :
    Option (Sayings × Option Parameter) :=
  match Word.ofChars word.toList with
  | .long name value => if awaited.isNone then sayLong g name value else none
  | .short cluster => if awaited.isNone then sayShort g cluster else none
  | .plain =>
    match awaited with
    | some p => some ([(p.setting, [word])], none)
    | none => (sayOperand g word).map (·, none)

/-- A long option says the same whatever was read before it. -/
theorem hears_readLong {g : Grammar} {name : String} {value : Option String} {r r' : Reading}
    (sound : r.Sound) (read : readLong g name value r = .ok r') :
    r.awaited? = none ∧
      ∃ spoken awaited, sayLong g name value = some (spoken, awaited) ∧
        r.Hears spoken awaited r' := by
  rw [readLong] at read
  rw [sayLong]
  cases named : g.named? name with
  | none =>
    rw [named] at read
    cases read
  | some p =>
    simp only [named] at read
    rw [Option.bind_some]
    -- Whether it takes a value and whether it has one must go together, unless it waits for one.
    cases takes : p.kind.takesValue <;> cases value <;> simp only [takes] at read ⊢
    case false.none =>
      obtain ⟨free, hears⟩ := Reading.hears_take sound read
      exact ⟨free, _, _, rfl, hears⟩
    case false.some => cases read
    case true.none =>
      obtain ⟨free, hears⟩ := Reading.hears_await sound takes read
      exact ⟨free, _, _, rfl, hears⟩
    case true.some =>
      obtain ⟨free, hears⟩ := Reading.hears_take sound read
      exact ⟨free, _, _, rfl, hears⟩

/-- A cluster says what its options say in turn. -/
theorem hears_readShort {g : Grammar} {cluster : List Char} {r r' : Reading} (sound : r.Sound)
    (read : readShort g cluster r = .ok r') (started : cluster ≠ [] ∨ r.awaited? = none) :
    r.awaited? = none ∧
      ∃ spoken awaited, sayShort g cluster = some (spoken, awaited) ∧
        r.Hears spoken awaited r' := by
  -- After the first option nothing is waited for, or else the cluster is at its end.
  induction cluster generalizing r with
  | nil =>
    cases Except.ok.inj read
    have free : r'.awaited? = none := started.resolve_left fun nonempty => nonempty rfl
    exact ⟨free, [], none, rfl, fun _ => rfl, free, sound⟩
  | cons c rest ih =>
    rw [readShort] at read
    rw [sayShort]
    cases named : g.abbreviated? c with
    | none =>
      rw [named] at read
      cases read
    | some p =>
      simp only [named] at read
      rw [Option.bind_some]
      cases takes : p.kind.takesValue with
      -- An option that takes a value ends the cluster: the rest of it is the value, or the value
      -- follows.
      | true =>
        simp only [takes, if_true] at read ⊢
        cases rest with
        | nil =>
          obtain ⟨free, hears⟩ := Reading.hears_await sound takes read
          exact ⟨free, _, _, rfl, hears⟩
        | cons d rest =>
          by_cases equals : d = '='
          · subst equals
            obtain ⟨free, hears⟩ := Reading.hears_take sound read
            exact ⟨free, _, _, rfl, hears⟩
          · simp only [List.cons.injEq, equals, false_and, imp_self, implies_true] at read ⊢
            obtain ⟨free, hears⟩ := Reading.hears_take sound read
            exact ⟨free, _, _, rfl, hears⟩
      -- A switch is read by itself, and the cluster goes on behind it.
      | false =>
        simp only [takes, Bool.false_eq_true, if_false] at read ⊢
        obtain ⟨next, taken, others⟩ := bind_eq_ok_iff.mp read
        obtain ⟨free, hears⟩ := Reading.hears_take sound taken
        obtain ⟨-, spoken, awaited, said, later⟩ := ih hears.sound others (.inr hears.awaits)
        exact ⟨free, _, _, by rw [said]; rfl, hears.trans later⟩

/-- An operand says its word; nothing may be waited for before it, and nothing is after it. -/
theorem hears_readOperand {g : Grammar} {isSeparated : Bool} {word : String} {r r' : Reading}
    (takes : ∀ p, g.operand = some p → p.kind.takesValue = true) (sound : r.Sound)
    (read : readOperand g isSeparated word r = .ok r') :
    ∃ spoken, sayOperand g word = some spoken ∧ r.Hears spoken none r' := by
  rw [readOperand] at read
  rw [sayOperand]
  cases operand : g.operand with
  | none =>
    rw [operand] at read
    cases read
  | some p =>
    simp only [operand] at read
    refine ⟨_, rfl, ?_⟩
    -- A new run of operands is started like an option whose values follow.
    have awaits : ∀ {r'}, r.await p [word] = .ok r' → r.Hears [(p.setting, [word])] none r' :=
      fun read => (Reading.hears_await sound (takes p operand) read).2
    cases pending : r.pending with
    | none =>
      simp only [pending] at read
      split_ifs at read
      exact awaits read
    | some waiting =>
      obtain ⟨q, values⟩ := waiting
      simp only [pending] at read
      split_ifs at read with same again given
      · -- The word joins the operands right before it.
        cases Except.ok.inj read
        subst same
        exact Reading.hears_extend pending word
      · exact awaits read

/-- What operands say. -/
def sayOperands (g : Grammar) : List String → Option Sayings
  | [] => some []
  | word :: rest =>
    (sayOperand g word).bind fun spoken => (sayOperands g rest).map fun more => spoken ++ more

/-- What words say up to their end or up to a command, with which the words after it are left. -/
def sayWords (g : Grammar) :
    Option Parameter → List String → Option (Sayings × Option (String × List String))
  | _, [] => some ([], none)
  | awaited, word :: rest =>
    if awaited.isNone && g.commands.contains word then some ([], some (word, rest))
    else if word = separator then (sayOperands g rest).map (·, none)
    else (sayWord g awaited word).bind fun (spoken, awaited) =>
      (sayWords g awaited rest).map fun (more, follow) => (spoken ++ more, follow)

/-- A word that is no command and no separator speaks, and then the words after it do. -/
theorem sayWords_cons_eq_some_iff {g : Grammar} {awaited : Option Parameter} {word : String}
    (uncommanded : (awaited.isNone && g.commands.contains word) = false)
    (ordinary : word ≠ separator) {rest : List String} {spoken : Sayings}
    {follow : Option (String × List String)} :
    sayWords g awaited (word :: rest) = some (spoken, follow) ↔
      ∃ first next more, sayWord g awaited word = some (first, next) ∧
        sayWords g next rest = some (more, follow) ∧ spoken = first ++ more := by
  -- The word is neither the name of a command nor the separator.
  rw [sayWords, uncommanded, if_neg Bool.false_ne_true, if_neg ordinary]
  constructor
  · intro said
    obtain ⟨⟨first, next⟩, saidFirst, others⟩ := Option.bind_eq_some_iff.mp said
    obtain ⟨⟨more, follow'⟩, saidMore, same⟩ := Option.map_eq_some_iff.mp others
    cases same
    exact ⟨first, next, more, saidFirst, saidMore, rfl⟩
  · rintro ⟨first, next, more, saidFirst, saidMore, rfl⟩
    simp only [saidFirst, Option.bind_some, saidMore, Option.map_some]

section

variable {g : Grammar} (takes : ∀ p, g.operand = some p → p.kind.takesValue = true)
include takes

/-- Operands say what each of them says. -/
theorem hears_readOperands {words : List String} {r r' : Reading} (sound : r.Sound)
    (read : readOperands g words r = .ok r') :
    ∃ spoken awaited, sayOperands g words = some spoken ∧ r.Hears spoken awaited r' := by
  induction words generalizing r with
  | nil =>
    cases Except.ok.inj read
    exact ⟨[], _, rfl, .refl sound⟩
  | cons word rest ih =>
    -- Nothing is waited for after an operand, so that the next one can be read in the same way.
    obtain ⟨next, first, others⟩ := bind_eq_ok_iff.mp read
    obtain ⟨spoken, said, hears⟩ := hears_readOperand takes sound first
    obtain ⟨more, awaited, saidMore, later⟩ := ih hears.sound others
    exact ⟨spoken ++ more, awaited, by rw [sayOperands, said, saidMore]; rfl, hears.trans later⟩

omit takes in
/-- A cluster has an option. -/
theorem ne_nil_of_short {cs cluster : List Char} (looks : Word.ofChars cs = .short cluster) :
    cluster ≠ [] := by
  unfold Word.ofChars at looks
  split at looks
  · rw [Word.ofLong] at looks
    split at looks <;> cases looks
  · cases looks
    exact List.cons_ne_nil _ _
  · cases looks

/-- A word says the same whatever was read before it, as long as the same is waited for. -/
theorem hears_readWord {word : String} {r r' : Reading} (sound : r.Sound)
    (read : readWord g word r = .ok r') :
    ∃ spoken awaited, sayWord g r.awaited? word = some (spoken, awaited) ∧
      r.Hears spoken awaited r' := by
  rw [readWord] at read
  cases looks : Word.ofChars word.toList with
  | long name value =>
    simp only [looks] at read
    obtain ⟨free, spoken, awaited, said, hears⟩ := hears_readLong sound read
    exact ⟨spoken, awaited, by simp [sayWord, looks, free, said], hears⟩
  | short cluster =>
    simp only [looks] at read
    obtain ⟨free, spoken, awaited, said, hears⟩ :=
      hears_readShort sound read (.inl (ne_nil_of_short looks))
    exact ⟨spoken, awaited, by simp [sayWord, looks, free, said], hears⟩
  -- A plain word is a value where one is waited for, and an operand elsewhere.
  | plain =>
    simp only [looks] at read
    cases waits : r.awaited? with
    | none =>
      simp only [waits] at read
      obtain ⟨spoken, said, hears⟩ := hears_readOperand takes sound read
      exact ⟨spoken, none, by simp only [sayWord, looks, said]; rfl, hears⟩
    | some p =>
      simp only [waits] at read
      cases Except.ok.inj read
      -- The word is the value that is waited for.
      have before : r.pending = some (p, []) := by
        rw [Reading.awaited?] at waits
        split at waits
        · rename_i pending
          rw [pending, Option.some.inj waits]
        · cases waits
      exact ⟨[(p.setting, [word])], none, by simp only [sayWord, looks],
        Reading.hears_extend before word⟩

/-- Accepted words give settings what each of them says. -/
theorem hears_readWords {words : List String} {r r' : Reading}
    {follow : Option (String × List String)} (sound : r.Sound)
    (read : readWords g words r = .ok (r', follow)) :
    ∃ spoken awaited, sayWords g r.awaited? words = some (spoken, follow) ∧
      r.Hears spoken awaited r' := by
  -- Each word is read with what was waited for after the words before it.
  induction words generalizing r with
  | nil =>
    cases Except.ok.inj read
    exact ⟨[], _, rfl, .refl sound⟩
  | cons word rest ih =>
    rw [readWords] at read
    split_ifs at read with command ends
    -- A command ends the reading where it stands.
    · cases Except.ok.inj read
      exact ⟨[], _, by rw [sayWords, if_pos command], .refl sound⟩
    -- After a separator there are operands only.
    · obtain ⟨last, operands, same⟩ := bind_eq_ok_iff.mp read
      cases Except.ok.inj same
      obtain ⟨spoken, awaited, said, hears⟩ := hears_readOperands takes sound operands
      refine ⟨spoken, awaited, ?_, hears⟩
      rw [sayWords, if_neg command, if_pos ends, said]
      rfl
    · obtain ⟨next, first, others⟩ := bind_eq_ok_iff.mp read
      obtain ⟨spoken, awaited, said, hears⟩ := hears_readWord takes sound first
      obtain ⟨more, last, saidMore, later⟩ := ih hears.sound others
      rw [hears.awaits] at saidMore
      have whole := (sayWords_cons_eq_some_iff (by simpa using command) ends).mpr
        ⟨spoken, awaited, more, said, saidMore, rfl⟩
      exact ⟨spoken ++ more, last, whole, hears.trans later⟩

end

end ToolPolicy.CommandLine
