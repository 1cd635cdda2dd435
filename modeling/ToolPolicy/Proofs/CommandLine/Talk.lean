import Mathlib.Data.List.Basic
import ToolPolicy.Proofs.CommandLine.Line

/-! Options about how the program talks. Without them a command line asks for the same command. -/

namespace ToolPolicy.CommandLine

/-- The settings of how the program talks. -/
def Setting.isTalk : Setting → Bool
  | verbosity | quiet | color | logFormat => true
  | _ => false

/-- The letters of the options about talk. -/
def IsTalkLetter (c : Char) : Prop := c = 'v' ∨ c = 'q'

/-- A cluster of such letters is no long option. -/
theorem IsTalkLetter.ne_dash {c : Char} (letter : IsTalkLetter c) : c ≠ '-' := by
  rcases letter with rfl | rfl <;> decide

/-- Words that are a whole option about talk, or several in a cluster. -/
inductive Talk : List String → Prop
  | cluster (letters : List Char) (nonempty : letters ≠ []) (talk : ∀ c ∈ letters, IsTalkLetter c) :
      Talk [String.ofList ('-' :: letters)]
  | verbose : Talk ["--verbose"]
  | quiet : Talk ["--quiet"]
  | color (choice : ColorChoice) : Talk ["--color", choice.word]
  | colorEquals (choice : ColorChoice) : Talk ["--color=" ++ choice.word]
  | logFormat (format : OutputFormat) : Talk ["--log-format", format.word]
  | logFormatEquals (format : OutputFormat) : Talk ["--log-format=" ++ format.word]

/-- Words from which options about talk were taken out, up to a separator. -/
inductive Strips : List String → List String → Prop
  | nil : Strips [] []
  | separated (rest : List String) : Strips (separator :: rest) (separator :: rest)
  | keep {word : String} {rest kept : List String} (ordinary : word ≠ separator)
      (strips : Strips rest kept) : Strips (word :: rest) (word :: kept)
  | talk {words rest kept : List String} (talk : Talk words) (strips : Strips rest kept) :
      Strips (words ++ rest) kept
  | letters {letters more : List Char} {c : Char} {rest kept : List String}
      (talk : ∀ c ∈ letters, IsTalkLetter c) (short : c ≠ '-') (strips : Strips rest kept) :
      Strips (String.ofList ('-' :: letters ++ c :: more) :: rest)
        (String.ofList ('-' :: c :: more) :: kept)

/-- Every line is one from which nothing was taken out. -/
theorem Strips.refl (words : List String) : Strips words words := by
  induction words with
  | nil => exact .nil
  | cons word rest ih =>
    -- Behind a separator the words are taken as they are.
    by_cases ends : word = separator
    · rw [ends]
      exact .separated rest
    · exact .keep ends ih

/-- What follows the words that were read, with options about talk and without them. -/
inductive FollowStrips : Option (String × List String) → Option (String × List String) → Prop
  | ends : FollowStrips none none
  | command {word : String} {rest kept : List String} (strips : Strips rest kept) :
      FollowStrips (some (word, rest)) (some (word, kept))

/-- A command is followed by the same command. -/
theorem FollowStrips.exists_eq {word : String} {rest : List String}
    {follow : Option (String × List String)} (follows : FollowStrips (some (word, rest)) follow) :
    ∃ kept, follow = some (word, kept) ∧ Strips rest kept := by
  cases follows with
  | command strips => exact ⟨_, rfl, strips⟩

/-- A grammar with the options about talk, whose commands are no options. -/
structure Grammar.Talks (g : Grammar) : Prop where
  named : ∀ p ∈ sharedOptions, g.named? p.long = some p
  abbreviated : ∀ p ∈ sharedOptions, p.short.all (g.abbreviated? · == some p) = true
  undashed : ∀ word ∈ g.commands, word.toList.head? ≠ some '-'

/-- The options about talk can stand before a command. -/
theorem talks_rootGrammar : rootGrammar.Talks where
  named := by decide
  abbreviated := by decide
  undashed := by decide

/-- They can stand after each command too. -/
theorem talks_grammar (name : CommandName) : name.grammar.Talks where
  named := by cases name <;> decide
  abbreviated := by cases name <;> decide
  undashed := by cases name <;> decide

/-! ### What options about talk say -/

/-- Sayings about nothing but talk. -/
def OnlyTalk (spoken : Sayings) : Prop := ∀ say ∈ spoken, say.1.isTalk = true

/-- What is left of sayings without those about talk. -/
def withoutTalk (spoken : Sayings) : Sayings := spoken.filter fun say => !say.1.isTalk

/-- Sayings are stripped one after the other. -/
theorem withoutTalk_append (spoken more : Sayings) :
    withoutTalk (spoken ++ more) = withoutTalk spoken ++ withoutTalk more :=
  List.filter_append ..

/-- Sayings about talk are left out. -/
theorem withoutTalk_of_onlyTalk {spoken : Sayings} (talk : OnlyTalk spoken) :
    withoutTalk spoken = [] := by
  rw [withoutTalk, List.filter_eq_nil_iff]
  intro say member
  simp [talk say member]

/-- Only options begin with a dash. -/
theorem head?_of_option {cs : List Char} (option : Word.ofChars cs ≠ .plain) :
    cs.head? = some '-' := by
  unfold Word.ofChars at option
  split at option
  · rfl
  · rfl
  · exact absurd rfl option

/-- A cluster begins with a dash and a letter after it. -/
theorem looks_short {c : Char} (short : c ≠ '-') (more : List Char) :
    Word.ofChars (String.ofList ('-' :: c :: more)).toList = .short (c :: more) := by
  rw [String.toList_ofList]
  simp [Word.ofChars]

/-- A word that looks like a cluster is an option and no separator. -/
theorem option_of_short {word : String} {cluster : List Char}
    (looks : Word.ofChars word.toList = .short cluster) :
    Word.ofChars word.toList ≠ .plain ∧ word ≠ separator := by
  constructor
  · simp [looks]
  -- The separator is a long option without a name.
  · rintro rfl
    exact absurd looks (by simp [separator, Word.ofChars, Word.ofLong])

section

variable {g : Grammar} (talks : g.Talks)
include talks

/-- Letters about talk say nothing else, and the rest of their cluster says what it says alone. -/
theorem sayShort_letters {letters : List Char} (talk : ∀ c ∈ letters, IsTalkLetter c) :
    ∃ spoken, OnlyTalk spoken ∧ ∀ more, sayShort g (letters ++ more) =
      (sayShort g more).map fun (others, awaited) => (spoken ++ others, awaited) := by
  -- The first letter takes no value, so the cluster goes on after it.
  induction letters with
  | nil =>
    refine ⟨[], by simp [OnlyTalk], fun more => ?_⟩
    simp
  | cons c letters ih =>
    obtain ⟨letter, talk⟩ := List.forall_mem_cons.mp talk
    obtain ⟨spoken, only, cluster⟩ := ih talk
    -- Both letters are looked up among the options that all commands share, where they are
    -- switches.
    have option : ∃ p, g.abbreviated? c = some p ∧ p.kind.takesValue = false ∧
        p.setting.isTalk = true := by
      rcases letter with rfl | rfl
      · have found := talks.abbreviated (.plain .verbosity .tally "verbose" (some 'v')) (by decide)
        exact ⟨_, beq_iff_eq.mp found, rfl, rfl⟩
      · have found := talks.abbreviated (.plain .quiet .switch "quiet" (some 'q')) (by decide)
        exact ⟨_, beq_iff_eq.mp found, rfl, rfl⟩
    obtain ⟨p, named, bare, about⟩ := option
    refine ⟨(p.setting, []) :: spoken, List.forall_mem_cons.mpr ⟨about, only⟩, fun more => ?_⟩
    rw [List.cons_append, sayShort, named, Option.bind_some, if_neg (by simp [bare]), cluster,
      Option.map_map]
    rfl

/-- An option is no command. -/
theorem uncommanded {word : String} (option : Word.ofChars word.toList ≠ .plain)
    (awaited : Option Parameter) : (awaited.isNone && g.commands.contains word) = false := by
  have undashed : g.commands.contains word = false := by
    rw [← Bool.not_eq_true, List.contains_iff_mem]
    intro member
    exact talks.undashed word member (head?_of_option option)
  rw [undashed, Bool.and_false]

/-- An option comes where no value is waited for. -/
theorem sayWords_option {word : String} {rest : List String} {awaited : Option Parameter}
    {spoken : Sayings} {follow : Option (String × List String)}
    (option : Word.ofChars word.toList ≠ .plain) (ordinary : word ≠ separator)
    (said : sayWords g awaited (word :: rest) = some (spoken, follow)) :
    awaited = none ∧ ∃ first next more, sayWord g none word = some (first, next) ∧
      sayWords g next rest = some (more, follow) ∧ spoken = first ++ more := by
  obtain ⟨first, next, more, saidFirst, saidMore, same⟩ :=
    (sayWords_cons_eq_some_iff (uncommanded talks option awaited) ordinary).mp said
  have free : awaited = none := by
    cases awaited with
    | none => rfl
    | some p =>
      -- Where a value is waited for, only a plain word can be it.
      unfold sayWord at saidFirst
      split at saidFirst
      · cases saidFirst
      · cases saidFirst
      · exact absurd ‹_› option
  subst free
  exact ⟨rfl, first, next, more, saidFirst, saidMore, same⟩

/-- A long option is looked up among those that can stand anywhere. -/
theorem sayWord_long {p : NamedParameter} (shared : p ∈ sharedOptions) {word : String}
    {value : Option String} (looks : Word.ofChars word.toList = .long p.long value) :
    sayWord g none word = sayLong g p.long value ∧ g.named? p.long = some p := by
  -- While no value is waited for, a long option is read by its name.
  constructor
  · simp only [sayWord, looks, Option.isNone_none, if_true]
  · exact talks.named p shared

/-- A switch about talk stands alone. -/
theorem sayWord_switch (p : NamedParameter) (word : String) (shared : p ∈ sharedOptions)
    (bare : p.kind.takesValue = false)
    (looks : Word.ofChars word.toList = .long p.long none) :
    sayWord g none word = some ([(p.setting, [])], none) := by
  obtain ⟨long, named⟩ := sayWord_long talks shared looks
  simp only [long, sayLong, named, bare, Option.bind_some]

/-- An option that takes a value waits for it. -/
theorem sayWord_waits (p : NamedParameter) (word : String) (shared : p ∈ sharedOptions)
    (takes : p.kind.takesValue = true)
    (looks : Word.ofChars word.toList = .long p.long none) :
    sayWord g none word = some ([(p.setting, [])], some p.toParameter) := by
  obtain ⟨long, named⟩ := sayWord_long talks shared looks
  simp only [long, sayLong, named, takes, Option.bind_some]

/-- An option can bring its value along. -/
theorem sayWord_equals (p : NamedParameter) (word value : String) (shared : p ∈ sharedOptions)
    (takes : p.kind.takesValue = true)
    (looks : Word.ofChars word.toList = .long p.long (some value)) :
    sayWord g none word = some ([(p.setting, [value])], none) := by
  obtain ⟨long, named⟩ := sayWord_long talks shared looks
  simp only [long, sayLong, named, takes, Option.bind_some]

/-- A word that says nothing but talk leaves the words after it as they are. -/
theorem sayWords_alone {word : String} {rest : List String} {first : Sayings}
    (option : Word.ofChars word.toList ≠ .plain) (ordinary : word ≠ separator)
    (alone : sayWord g none word = some (first, none)) (only : OnlyTalk first)
    {awaited : Option Parameter} {spoken : Sayings} {follow : Option (String × List String)}
    (said : sayWords g awaited (word :: rest) = some (spoken, follow)) :
    awaited = none ∧ ∃ more, withoutTalk spoken = withoutTalk more ∧
      sayWords g none rest = some (more, follow) := by
  -- What the word says is known, and what is left after it starts with nothing waited for.
  obtain ⟨free, first', next, more, saidFirst, saidMore, rfl⟩ :=
    sayWords_option talks option ordinary said
  rw [alone] at saidFirst
  cases saidFirst
  refine ⟨free, more, ?_, saidMore⟩
  rw [withoutTalk_append, withoutTalk_of_onlyTalk only, List.nil_append]

/-- So do a word that waits for a value about talk and the value. -/
theorem sayWords_valued {word value : String} {rest : List String} {p : Parameter}
    (option : Word.ofChars word.toList ≠ .plain) (ordinary : word ≠ separator)
    (waits : sayWord g none word = some ([(p.setting, [])], some p))
    (about : p.setting.isTalk = true)
    (plain : Word.ofChars value.toList = .plain)
    {awaited : Option Parameter} {spoken : Sayings} {follow : Option (String × List String)}
    (said : sayWords g awaited (word :: value :: rest) = some (spoken, follow)) :
    awaited = none ∧ ∃ more, withoutTalk spoken = withoutTalk more ∧
      sayWords g none rest = some (more, follow) := by
  obtain ⟨free, first, next, others, saidFirst, saidOthers, rfl⟩ :=
    sayWords_option talks option ordinary said
  rw [waits] at saidFirst
  cases saidFirst
  -- The next word is taken for the value, whatever it would mean elsewhere.
  have unseparated : value ≠ separator := by
    rintro rfl
    exact absurd plain (by decide)
  rw [sayWords, if_neg (by simp), if_neg unseparated] at saidOthers
  simp only [sayWord, plain, Option.bind_some] at saidOthers
  obtain ⟨⟨more, follow'⟩, saidMore, same⟩ := Option.map_eq_some_iff.mp saidOthers
  cases same
  refine ⟨free, more, ?_, saidMore⟩
  have only : OnlyTalk [(p.setting, ([] : List String)), (p.setting, [value])] := by
    simp [OnlyTalk, about]
  have parts := withoutTalk_append [(p.setting, []), (p.setting, [value])] more
  -- What is said of the parameter, with its value or without, is talk and nothing else.
  rw [withoutTalk_of_onlyTalk only] at parts
  exact parts

/-- Options about talk say nothing else, and the words after them say what they say alone. -/
theorem sayWords_talk {words rest : List String} (talk : Talk words) {awaited : Option Parameter}
    {spoken : Sayings} {follow : Option (String × List String)}
    (said : sayWords g awaited (words ++ rest) = some (spoken, follow)) :
    awaited = none ∧ ∃ more, withoutTalk spoken = withoutTalk more ∧
      sayWords g none rest = some (more, follow) := by
  -- Each option is found among those that all commands share.
  let color : NamedParameter := ⟨⟨.color, colorKind⟩, "color", none, some colorVariable⟩
  let logFormat : NamedParameter := .plain .logFormat outputFormatKind "log-format" none
  cases talk with
  -- A cluster of such letters alone says what they say and nothing more.
  | cluster letters nonempty talk =>
    obtain ⟨first, only, cluster⟩ := sayShort_letters talks talk
    have whole := cluster []
    rw [List.append_nil] at whole
    cases letters with
    | nil => exact absurd rfl nonempty
    | cons c letters =>
      have looks := looks_short (talk c List.mem_cons_self).ne_dash letters
      obtain ⟨option, ordinary⟩ := option_of_short looks
      have alone : sayWord g none (String.ofList ('-' :: c :: letters)) = some (first, none) := by
        simp only [sayWord, looks, Option.isNone_none, if_true, whole]
        simp only [sayShort, Option.map_some, List.append_nil]
      exact sayWords_alone talks option ordinary alone only said
  | verbose =>
    have alone := sayWord_switch talks (.plain .verbosity .tally "verbose" (some 'v')) "--verbose"
      (by decide) rfl (by decide)
    exact sayWords_alone talks (by decide) (by decide) alone (List.forall_mem_singleton.mpr rfl)
      said
  | quiet =>
    have alone := sayWord_switch talks (.plain .quiet .switch "quiet" (some 'q')) "--quiet"
      (by decide) rfl (by decide)
    exact sayWords_alone talks (by decide) (by decide) alone (List.forall_mem_singleton.mpr rfl)
      said
  -- An option with its value behind it takes up two words.
  | color choice =>
    have waits := sayWord_waits talks color "--color" (by decide) rfl (by decide)
    exact sayWords_valued talks (by decide) (by decide) waits rfl (by cases choice <;> decide) said
  -- With its value behind an equals sign it is one.
  | colorEquals choice =>
    have alone := sayWord_equals talks color ("--color=" ++ choice.word) choice.word (by decide) rfl
      (by cases choice <;> decide)
    exact sayWords_alone talks (by cases choice <;> decide) (by cases choice <;> decide) alone
      (List.forall_mem_singleton.mpr rfl) said
  | logFormat format =>
    have waits := sayWord_waits talks logFormat "--log-format" (by decide) rfl (by decide)
    exact sayWords_valued talks (by decide) (by decide) waits rfl (by cases format <;> decide) said
  | logFormatEquals format =>
    have alone := sayWord_equals talks logFormat ("--log-format=" ++ format.word) format.word
      (by decide) rfl (by cases format <;> decide)
    exact sayWords_alone talks (by cases format <;> decide) (by cases format <;> decide) alone
      (List.forall_mem_singleton.mpr rfl) said

/-- A cluster says about other things what it says without its first letters about talk. -/
theorem sayWords_letters {letters more : List Char} {c : Char} {rest : List String}
    (talk : ∀ c ∈ letters, IsTalkLetter c) (short : c ≠ '-') {awaited : Option Parameter}
    {spoken : Sayings} {follow : Option (String × List String)}
    (said : sayWords g awaited (String.ofList ('-' :: letters ++ c :: more) :: rest) =
      some (spoken, follow)) :
    awaited = none ∧ ∃ first next others,
      sayWord g none (String.ofList ('-' :: c :: more)) = some (first, next) ∧
      sayWords g next rest = some (others, follow) ∧
      withoutTalk spoken = withoutTalk (first ++ others) := by
  obtain ⟨about, only, cluster⟩ := sayShort_letters talks talk
  have looks : Word.ofChars (String.ofList ('-' :: letters ++ c :: more)).toList =
      .short (letters ++ c :: more) := by
    cases letters with
    | nil => exact looks_short short more
    | cons d letters => exact looks_short (talk d List.mem_cons_self).ne_dash _
  obtain ⟨option, ordinary⟩ := option_of_short looks
  obtain ⟨free, whole, next, others, saidWhole, saidOthers, rfl⟩ :=
    sayWords_option talks option ordinary said
  -- What the cluster says begins with what its letters about talk say.
  simp only [sayWord, looks, Option.isNone_none, if_true, cluster] at saidWhole
  obtain ⟨⟨first, next'⟩, saidFirst, same⟩ := Option.map_eq_some_iff.mp saidWhole
  cases same
  refine ⟨free, first, next', others, ?_, saidOthers, ?_⟩
  · simp only [sayWord, looks_short short more, Option.isNone_none, if_true, saidFirst]
  · rw [List.append_assoc, withoutTalk_append, withoutTalk_of_onlyTalk only, List.nil_append]

/-- Without options about talk, words say the same of all other things. -/
theorem sayWords_strips {words kept : List String} (strips : Strips words kept)
    {awaited : Option Parameter} {spoken : Sayings} {follow : Option (String × List String)}
    (said : sayWords g awaited words = some (spoken, follow)) :
    ∃ spoken' follow', sayWords g awaited kept = some (spoken', follow') ∧
      withoutTalk spoken' = withoutTalk spoken ∧ FollowStrips follow follow' := by
  -- Both lines go on alike after each word, since the same value is waited for in both.
  induction strips generalizing awaited spoken with
  | nil =>
    cases said
    exact ⟨[], none, rfl, rfl, .ends⟩
  -- What stands behind a separator is the same in both lines.
  | separated rest =>
    cases follow with
    | none => exact ⟨spoken, none, said, rfl, .ends⟩
    | some next => exact ⟨spoken, some next, said, rfl, .command (.refl _)⟩
  | @keep word rest kept ordinary strips ih =>
    -- A command is at the same place in both lines, and any other word says the same in both.
    by_cases command : (awaited.isNone && g.commands.contains word) = true
    · rw [sayWords, if_pos command] at said
      cases said
      exact ⟨[], _, by rw [sayWords, if_pos command], rfl, .command strips⟩
    · have uncommanded : (awaited.isNone && g.commands.contains word) = false := by
        simpa using command
      obtain ⟨first, next, more, saidFirst, saidMore, rfl⟩ :=
        (sayWords_cons_eq_some_iff uncommanded ordinary).mp said
      obtain ⟨spoken', follow', saidKept, sameKept, follows⟩ := ih saidMore
      refine ⟨first ++ spoken', follow', ?_, ?_, follows⟩
      · exact (sayWords_cons_eq_some_iff uncommanded ordinary).mpr
          ⟨first, next, spoken', saidFirst, saidKept, rfl⟩
      · rw [withoutTalk_append, withoutTalk_append, sameKept]
  -- The option is there in one line only, and it leaves nothing waited for.
  | talk talk strips ih =>
    obtain ⟨rfl, more, same, saidMore⟩ := sayWords_talk talks talk said
    obtain ⟨spoken', follow', saidKept, sameKept, follows⟩ := ih saidMore
    exact ⟨spoken', follow', saidKept, sameKept.trans same.symm, follows⟩
  -- The rest of the cluster waits for what the whole cluster waits for.
  | letters talk short strips ih =>
    obtain ⟨rfl, first, next, others, saidFirst, saidOthers, same⟩ :=
      sayWords_letters talks talk short said
    obtain ⟨spoken', follow', saidKept, sameKept, follows⟩ := ih saidOthers
    obtain ⟨option, ordinary⟩ := option_of_short (looks_short short _)
    refine ⟨first ++ spoken', follow', ?_, ?_, follows⟩
    · exact (sayWords_cons_eq_some_iff (uncommanded talks option none) ordinary).mpr
        ⟨first, next, spoken', saidFirst, saidKept, rfl⟩
    · rw [same, withoutTalk_append, withoutTalk_append, sameKept]

end

/-! ### The command that is asked for -/

/-- No setting of a command is about talk. -/
theorem Setting.isTalk_of_isOwn {setting : Setting} (own : setting.isOwn = true) :
    setting.isTalk = false := by
  revert own
  cases setting <;> decide

/-- Sayings that differ in talk only are heard alike for all other settings. -/
theorem heard_eq_of_withoutTalk {spoken more : Sayings}
    (same : withoutTalk spoken = withoutTalk more) {setting : Setting}
    (other : setting.isTalk = false) (known : Option (List String)) :
    heard setting spoken known = heard setting more known := by
  have kept : (!setting.isTalk) = true := by simp [other]
  calc heard setting spoken known
      = heard setting (withoutTalk spoken) known :=
        (heard_filter (!·.isTalk) kept spoken known).symm
    _ = heard setting (withoutTalk more) known := by rw [same]
    _ = heard setting more known := heard_filter (!·.isTalk) kept more known

/-- The variables that stand in for settings of commands. -/
def ownVariables : List String := [urlVariable, apiKeyVariable]

/-- Variables that differ elsewhere stand in alike for the settings of a command. -/
theorem standIn?_congr {env₁ env₂ : Environment}
    (same : ∀ key ∈ ownVariables, env₁.value? key = env₂.value? key)
    (name : CommandName) {setting : Setting} (own : setting.isOwn = true) :
    standIn? env₁ name.grammar.options setting = standIn? env₂ name.grammar.options setting := by
  -- Every option of a command looks at one of these variables, if at any.
  have keys : ∀ p ∈ name.grammar.options, p.setting.isOwn = true →
      ∀ key ∈ p.standIn, key ∈ ownVariables := by
    cases name <;> decide
  -- The options are gone through alike, and each that counts has the same value.
  rw [standIn?, standIn?, ← List.head?_filterMap, ← List.head?_filterMap]
  congr 1
  apply List.filterMap_congr
  intro p member
  by_cases aims : p.setting = setting
  · subst aims
    cases stands : p.standIn with
    | none => rfl
    | some key =>
      have alike := same key (keys p member own key stands)
      simp only [Option.bind_some, alike]
  · rw [if_neg aims, if_neg aims]

/-- Command lines that differ in options about talk only, and are accepted, ask for the same
command. -/
theorem command_eq_of_strips {env₁ env₂ : Environment}
    (same : ∀ key ∈ ownVariables, env₁.value? key = env₂.value? key)
    {words₁ words₂ kept : List String} (strips₁ : Strips words₁ kept)
    (strips₂ : Strips words₂ kept) {i₁ i₂ : Invocation}
    (accepted₁ : parse env₁ words₁ = .ok i₁) (accepted₂ : parse env₂ words₂ = .ok i₂) :
    i₁.command = i₂.command := by
  obtain ⟨l₁, name₁, s₁, rfl, asks₁⟩ := asks_of_parse accepted₁
  obtain ⟨l₂, name₂, s₂, rfl, asks₂⟩ := asks_of_parse accepted₂
  -- Both lines name a command at the same word of what is left of them.
  obtain ⟨_, _, left₁, -, follows₁⟩ := sayWords_strips talks_rootGrammar strips₁ asks₁.before
  obtain ⟨_, _, left₂, -, follows₂⟩ := sayWords_strips talks_rootGrammar strips₂ asks₂.before
  rw [left₁] at left₂
  cases left₂
  obtain ⟨kept₁, rfl, inside₁⟩ := follows₁.exists_eq
  obtain ⟨kept₂, same', inside₂⟩ := follows₂.exists_eq
  obtain ⟨sameWord, rfl⟩ : l₁.word = l₂.word ∧ kept₁ = kept₂ := by simpa using same'
  have sameName : name₁ = name₂ := by
    have named₂ := asks₂.named
    rw [← sameWord, asks₁.named] at named₂
    exact Option.some.inj named₂
  subst sameName
  -- What follows it says the same of all but talk.
  obtain ⟨_, _, said₁, same₁, -⟩ := sayWords_strips (talks_grammar name₁) inside₁ asks₁.after
  obtain ⟨_, _, said₂, same₂, -⟩ := sayWords_strips (talks_grammar name₁) inside₂ asks₂.after
  rw [said₁] at said₂
  cases said₂
  apply commandOf_congr
  intro setting own
  rw [asks₁.given setting own, asks₂.given setting own, standIn?_congr same name₁ own,
    heard_eq_of_withoutTalk (same₁.symm.trans same₂) (Setting.isTalk_of_isOwn own)]

end ToolPolicy.CommandLine
