import ToolPolicy.Proofs.CommandLine.Sayings

/-! What accepted command lines ask for: their settings have the values that are said for them, or
else those of the variables that stand in for them. -/

namespace ToolPolicy.CommandLine

/-! ### Settings that are spoken of -/

section

variable {g : Grammar} (about : Setting → Prop) (options : ∀ p ∈ g.options, about p.setting)
include options

/-- A long option says something about its own setting. -/
theorem sayLong_about {name : String} {value : Option String} {spoken : Sayings}
    {awaited : Option Parameter} (said : sayLong g name value = some (spoken, awaited)) :
    (∀ say ∈ spoken, about say.1) ∧ ∀ p ∈ awaited, about p.setting := by
  obtain ⟨p, named, said⟩ := Option.bind_eq_some_iff.mp said
  have own := options p (List.mem_of_find?_eq_some named)
  split at said <;> cases said <;> simp [own]

/-- A cluster says something about the settings of its options. -/
theorem sayShort_about {cluster : List Char} {spoken : Sayings} {awaited : Option Parameter}
    (said : sayShort g cluster = some (spoken, awaited)) :
    (∀ say ∈ spoken, about say.1) ∧ ∀ p ∈ awaited, about p.setting := by
  induction cluster generalizing spoken with
  | nil =>
    cases said
    simp
  | cons c rest ih =>
    obtain ⟨p, named, said⟩ := Option.bind_eq_some_iff.mp said
    have own := options p (List.mem_of_find?_eq_some named)
    -- The first option speaks of its own setting, and the rest of the cluster of those of its
    -- options.
    split_ifs at said with takes
    · split at said <;> cases said <;> simp [own]
    · obtain ⟨⟨others, last⟩, saidOthers, same⟩ := Option.map_eq_some_iff.mp said
      cases same
      obtain ⟨rest, waits⟩ := ih saidOthers
      exact ⟨List.forall_mem_cons.mpr ⟨own, rest⟩, waits⟩

variable (operand : ∀ p ∈ g.operand, about p.setting)
include operand

omit options in
/-- An operand says something about the setting of operands. -/
theorem sayOperand_about {word : String} {spoken : Sayings}
    (said : sayOperand g word = some spoken) : ∀ say ∈ spoken, about say.1 := by
  obtain ⟨p, own, rfl⟩ := Option.map_eq_some_iff.mp said
  exact List.forall_mem_singleton.mpr (operand p own)

omit options in
/-- So do operands one after the other. -/
theorem sayOperands_about {words : List String} {spoken : Sayings}
    (said : sayOperands g words = some spoken) : ∀ say ∈ spoken, about say.1 := by
  induction words generalizing spoken with
  | nil =>
    cases said
    simp
  | cons word rest ih =>
    obtain ⟨first, saidFirst, others⟩ := Option.bind_eq_some_iff.mp said
    obtain ⟨more, saidMore, rfl⟩ := Option.map_eq_some_iff.mp others
    exact List.forall_mem_append.mpr ⟨sayOperand_about about operand saidFirst, ih saidMore⟩

/-- A word says something about the settings of a grammar, or about the one that waits. -/
theorem sayWord_about {word : String} {awaited next : Option Parameter} {spoken : Sayings}
    (waits : ∀ p ∈ awaited, about p.setting)
    (said : sayWord g awaited word = some (spoken, next)) :
    (∀ say ∈ spoken, about say.1) ∧ ∀ p ∈ next, about p.setting := by
  -- A word is a long option, a cluster or a plain word, and a plain word may be a value.
  unfold sayWord at said
  split at said
  · split_ifs at said
    exact sayLong_about about options said
  · split_ifs at said
    exact sayShort_about about options said
  · cases awaited with
    | some p =>
      cases said
      simpa using waits p rfl
    | none =>
      obtain ⟨spoken', saidOperand, same⟩ := Option.map_eq_some_iff.mp said
      cases same
      exact ⟨sayOperand_about about operand saidOperand, by simp⟩

/-- Words say something about the settings of a grammar only. -/
theorem sayWords_about {words : List String}
    {awaited : Option Parameter} {spoken : Sayings} {follow : Option (String × List String)}
    (waits : ∀ p ∈ awaited, about p.setting)
    (said : sayWords g awaited words = some (spoken, follow)) : ∀ say ∈ spoken, about say.1 := by
  induction words generalizing awaited spoken with
  | nil =>
    cases said
    simp
  | cons word rest ih =>
    -- A command says nothing for what precedes it, and after a separator only operands follow.
    by_cases command : (awaited.isNone && g.commands.contains word) = true
    · rw [sayWords, if_pos command] at said
      cases said
      simp
    · by_cases ends : word = separator
      · rw [sayWords, if_neg command, if_pos ends] at said
        obtain ⟨spoken', saidOperands, same⟩ := Option.map_eq_some_iff.mp said
        cases same
        exact sayOperands_about about operand saidOperands
      · obtain ⟨first, next, more, saidFirst, saidMore, rfl⟩ :=
          (sayWords_cons_eq_some_iff (by simpa using command) ends).mp said
        obtain ⟨now, later⟩ := sayWord_about about options operand waits saidFirst
        exact List.forall_mem_append.mpr ⟨now, ih later saidMore⟩

end

/-! ### Variables that stand in -/

/-- The value that a variable gives a setting. -/
def standIn? (env : Environment) (options : List NamedParameter) (setting : Setting) :
    Option (List String) :=
  options.findSome? fun p =>
    if p.setting = setting then (p.standIn.bind env.value?).map ([·]) else none

/-- The first option that stands in for a setting gives its value. -/
theorem standIn?_cons (env : Environment) (p : NamedParameter) (rest : List NamedParameter)
    (setting : Setting) : standIn? env (p :: rest) setting =
      (if p.setting = setting then (p.standIn.bind env.value?).map ([·]) else none).or
        (standIn? env rest setting) := by
  rw [standIn?, List.findSome?_cons, standIn?]
  cases (if p.setting = setting then (p.standIn.bind env.value?).map ([·]) else none) <;> rfl

/-- A variable counts where nothing was said. -/
theorem said?_of_addVariables {env : Environment} {options : List NamedParameter} {r r' : Reading}
    (settled : r.pending = none) (added : r.addVariables env options = .ok r') :
    r'.pending = none ∧
      ∀ setting, r'.said? setting = (r.said? setting).or (standIn? env options setting) := by
  -- The first variable that is set counts, for what it gives is known to those after it.
  induction options generalizing r with
  | nil =>
    cases Except.ok.inj added
    exact ⟨settled, fun setting => by simp [standIn?]⟩
  | cons p rest ih =>
    rw [Reading.addVariables] at added
    cases stands : p.standIn.bind env.value? with
    | none =>
      simp only [stands] at added
      -- A variable that is not set stands in for nothing, and the search goes on behind it.
      obtain ⟨settled', spoken⟩ := ih settled added
      exact ⟨settled', fun setting => by simp [spoken, standIn?_cons, stands]⟩
    | some value =>
      simp only [stands] at added
      split_ifs at added with given
      · -- What was said for the setting goes before the variable.
        obtain ⟨settled', spoken⟩ := ih settled added
        refine ⟨settled', fun setting => ?_⟩
        rw [spoken, standIn?_cons]
        by_cases own : p.setting = setting
        · subst own
          obtain ⟨before, known⟩ := Option.isSome_iff_exists.mp given
          simp [Reading.said?_of_settled settled, known]
        · rw [if_neg own, Option.none_or]
      -- The variable speaks for a setting for which nothing was said.
      · obtain ⟨next, gives, others⟩ := bind_eq_ok_iff.mp added
        obtain ⟨settledNext, spokenNext⟩ := Reading.said?_of_give settled gives
        obtain ⟨settled', spoken⟩ := ih settledNext others
        refine ⟨settled', fun setting => ?_⟩
        rw [spoken, spokenNext, standIn?_cons]
        by_cases own : p.setting = setting
        · subst own
          have unknown : r.said? p.setting = none := by
            rw [Reading.said?_of_settled settled, Option.map_eq_none_iff]
            simpa [Reading.isGiven] using given
          simp [heard, unknown, stands]
        · rw [heard_of_forall_ne (by simpa using own), if_neg own, Option.none_or]

/-- A reading of accepted words gives each setting the values that are said for it, or else the
value of its variable. -/
theorem given?_of_read {g : Grammar} (takes : ∀ p, g.operand = some p → p.kind.takesValue = true)
    {env : Environment} {words : List String} {read done : Reading}
    {follow : Option (String × List String)} (reads : readWords g words .empty = .ok (read, follow))
    (finished : read.finish g env = .ok done) :
    ∃ spoken, sayWords g none words = some (spoken, follow) ∧ ∀ setting,
      (done.given? setting).map Given.values =
        (heard setting spoken none).or (standIn? env g.options setting) := by
  -- The words are read, then what is pending is taken in, and then the variables are looked at.
  have sound : Reading.empty.Sound := fun p waits => by cases waits
  obtain ⟨spoken, awaited, said, hears⟩ := hears_readWords takes sound reads
  obtain ⟨settled, settles, added⟩ := bind_eq_ok_iff.mp finished
  obtain ⟨nothing, -, same⟩ := Reading.said?_of_settle hears.sound settles
  obtain ⟨nothing', stands⟩ := said?_of_addVariables nothing added
  refine ⟨spoken, said, fun setting => ?_⟩
  rw [← Reading.said?_of_settled nothing', stands, same, hears.said]
  rfl

/-! ### Whole lines -/

/-- All operands take values. -/
theorem operand_takes (name : CommandName) :
    ∀ p, name.grammar.operand = some p → p.kind.takesValue = true := by
  cases name <;> simp [CommandName.grammar, CommandName.operand, Kind.takesValue, shellKind]

/-- The settings of commands, which cannot stand before them. -/
def Setting.isOwn : Setting → Bool
  | help | version | verbosity | quiet | color | logFormat => false
  | _ => true

/-- What stands before a command gives nothing to the settings of commands. -/
theorem given?_of_readRoot {env : Environment} {words : List String} {read done : Reading}
    {follow : Option (String × List String)}
    (reads : readWords rootGrammar words .empty = .ok (read, follow))
    (finished : read.finish rootGrammar env = .ok done) :
    (∃ spoken, sayWords rootGrammar none words = some (spoken, follow)) ∧
      ∀ setting, setting.isOwn = true → done.given? setting = none := by
  obtain ⟨spoken, said, given⟩ := given?_of_read (fun p operand => by cases operand) reads finished
  -- Neither the words nor a variable speak of any setting but those that all commands share.
  have shared : ∀ p ∈ rootGrammar.options, p.setting.isOwn = false := by decide
  have about : ∀ say ∈ spoken, say.1.isOwn = false :=
    sayWords_about (·.isOwn = false) shared (fun p operand => by cases operand)
      (fun p waits => by cases waits) said
  refine ⟨⟨spoken, said⟩, fun setting own => ?_⟩
  have others : ∀ say ∈ spoken, say.1 ≠ setting := by
    rintro say member rfl
    exact absurd own (by simp [about say member])
  -- No option of the grammar is for the setting, so that no variable stands in for it.
  have unset : standIn? env rootGrammar.options setting = none := by
    rw [standIn?, List.findSome?_eq_none_iff]
    intro p member
    have other : p.setting ≠ setting := by
      rintro rfl
      exact absurd own (by simp [shared p member])
    rw [if_neg other]
  rw [← Option.map_eq_none_iff (f := Given.values), given, heard_of_forall_ne others, unset]
  rfl

/-- The parts of a line: what is said before a command, the name of the command and the words after
it, and what those say. -/
structure Line where
  outer : Sayings
  word : String
  rest : List String
  inner : Sayings
  follow : Option (String × List String)

/-- A line that names a command has its parts in its words. What is given for the settings of the
command is what is said for them after its name, or else the value of their variable. -/
structure Asks (env : Environment) (words : List String) (l : Line) (name : CommandName)
    (s : Settings) : Prop where
  before : sayWords rootGrammar none words = some (l.outer, some (l.word, l.rest))
  named : CommandName.ofWord? l.word = some name
  after : sayWords name.grammar none l.rest = some (l.inner, l.follow)
  given : ∀ setting, setting.isOwn = true → (s.given? setting).map Given.values =
    (heard setting l.inner none).or (standIn? env name.grammar.options setting)

/-- An accepted line asks for the command that it names. -/
theorem asks_of_parse {env : Environment} {words : List String} {i : Invocation}
    (accepted : parse env words = .ok i) :
    ∃ l name s, i = invocationOf name s ∧ Asks env words l name s := by
  obtain ⟨⟨outerRead, follow⟩, reads, accepted⟩ := bind_eq_ok_iff.mp accepted
  cases follow with
  -- A line without a command is refused.
  | none =>
    obtain ⟨_, _, stopped⟩ := bind_eq_ok_iff.mp accepted
    cases stopped
  | some next =>
    obtain ⟨word, rest⟩ := next
    simp only at accepted
    cases named : CommandName.ofWord? word with
    | none =>
      rw [named] at accepted
      cases accepted
    | some name =>
      simp only [named] at accepted
      -- The words after the name are read to their end, and then those before it are judged.
      obtain ⟨inner, parsed, accepted⟩ := bind_eq_ok_iff.mp accepted
      obtain ⟨outer, finished, same⟩ := bind_eq_ok_iff.mp accepted
      cases Except.ok.inj same
      obtain ⟨⟨innerRead, innerFollow⟩, innerReads, parsed⟩ := bind_eq_ok_iff.mp parsed
      obtain ⟨_, innerFinished, checked⟩ := bind_eq_ok_iff.mp parsed
      obtain ⟨_, _, same⟩ := bind_eq_ok_iff.mp checked
      cases Except.ok.inj same
      obtain ⟨⟨outerSpoken, outerSaid⟩, unsaid⟩ := given?_of_readRoot reads finished
      obtain ⟨spoken, said, given⟩ := given?_of_read (operand_takes name) innerReads innerFinished
      refine ⟨⟨outerSpoken, word, rest, spoken, innerFollow⟩, name, ⟨outer, inner⟩, rfl, outerSaid,
        named, said, fun setting own => ?_⟩
      -- Of the settings that are the command's own, the words before its name said nothing.
      rw [← given, Settings.given?, unsaid setting own]

/-- A command is made from the values of its settings. -/
theorem commandOf_congr {name : CommandName} {s s' : Settings}
    (same : ∀ setting, setting.isOwn = true →
      (s.given? setting).map Given.values = (s'.given? setting).map Given.values) :
    commandOf name s = commandOf name s' := by
  -- A command looks at values and at whether there are any.
  have values : ∀ setting, setting.isOwn = true → s.values setting = s'.values setting := by
    have form : ∀ (s : Settings) setting,
        s.values setting = ((s.given? setting).map Given.values).getD [] := by
      intro s setting
      rw [Settings.values]
      cases s.given? setting <;> rfl
    intro setting own
    rw [form, form, same setting own]
  have isOn : ∀ setting, setting.isOwn = true → s.isOn setting = s'.isOn setting := by
    have form : ∀ (s : Settings) setting,
        s.isOn setting = ((s.given? setting).map Given.values).isSome := by
      intro s setting
      rw [Settings.isOn, Option.isSome_map]
    intro setting own
    rw [form, form, same setting own]
  -- Every setting that some command looks at is one of its own.
  cases name <;>
    simp only [commandOf, Settings.format, Settings.value?, values .files rfl, values .format rfl,
      values .input rfl, values .url rfl, values .apiKey rfl, values .project rfl, values .out rfl,
      values .shell rfl, isOn .isExhaustive rfl, isOn .isStrict rfl, isOn .runsTests rfl,
      isOn .isProbe rfl]

end ToolPolicy.CommandLine
