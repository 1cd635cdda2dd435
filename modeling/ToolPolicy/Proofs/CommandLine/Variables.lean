import ToolPolicy.Proofs.CommandLine.Line
import ToolPolicy.Proofs.CommandLine.Values

/-! Setting the variable of the address. It stands in for a conversion's source where none is named,
and beside an export file it counts as a second source. -/

namespace ToolPolicy.CommandLine

/-- The variables with one of them set, whatever it was before. -/
def Environment.set (env : Environment) (name text : String) : Environment := (name, text) :: env

/-- Setting a variable leaves the others alone. -/
theorem Environment.value?_set (env : Environment) (name text key : String) :
    (env.set name text).value? key = if key = name then some text else env.value? key := by
  rw [Environment.value?, Environment.set, List.lookup_cons, Environment.value?]
  by_cases same : key = name
  · rw [if_pos same, beq_iff_eq.mpr same]
  · rw [if_neg same, beq_eq_false_iff_ne.mpr same]

/-! ### Readings with something given besides -/

/-- The second reading is the first one with something given for a setting besides. -/
structure Reading.Adds (setting : Setting) (now : Given) (r r' : Reading) : Prop where
  missing : r.given? setting = none
  added : r'.given? setting = some now
  others : ∀ other, other ≠ setting → r'.given? other = r.given? other

/-- Both steps fail alike, or the reading of the second one has something given besides. -/
inductive AddsTo (setting : Setting) (now : Given) :
    Except Halt Reading → Except Halt Reading → Prop
  | error (halt : Halt) : AddsTo setting now (.error halt) (.error halt)
  | ok {r r' : Reading} (adds : r.Adds setting now r') : AddsTo setting now (.ok r) (.ok r')

/-- Steps that keep what is given besides do so one after the other. -/
theorem AddsTo.bind {setting : Setting} {now : Given} {x x' : Except Halt Reading}
    {next : Reading → Except Halt Reading} (first : AddsTo setting now x x')
    (later : ∀ r r', r.Adds setting now r' → AddsTo setting now (next r) (next r')) :
    AddsTo setting now (x >>= next) (x' >>= next) := by
  cases first with
  | error halt => exact .error halt
  | ok adds => exact later _ _ adds

/-- What is taken in for a missing setting is given besides. -/
theorem Reading.adds_cons {setting : Setting} {r : Reading} (missing : r.given? setting = none)
    (now : Given) : r.Adds setting now { r with given := (setting, now) :: r.given } := by
  refine ⟨missing, ?_, fun other ne => ?_⟩
  · rw [given?_cons, if_pos rfl]
  · rw [given?_cons, if_neg ne]

/-- Taking in another parameter does not see what is given besides. -/
theorem Reading.Adds.give {setting : Setting} {now : Given} {r r' : Reading}
    (adds : r.Adds setting now r') {p : Parameter} (other : p.setting ≠ setting) (source : Source)
    (values : List String) :
    AddsTo setting now (r.give p source values) (r'.give p source values) := by
  -- Where the parameter is accepted, both readings grow by the same.
  have both (next : Given) : AddsTo setting now
      (.ok { r with given := (p.setting, next) :: r.given })
      (.ok { r' with given := (p.setting, next) :: r'.given }) := by
    refine .ok ⟨?_, ?_, fun another ne => ?_⟩
    · rw [given?_cons, if_neg (Ne.symm other), adds.missing]
    · rw [given?_cons, if_neg (Ne.symm other), adds.added]
    · rw [given?_cons, given?_cons, adds.others another ne]
  unfold Reading.give
  rw [adds.others p.setting other]
  -- All checks go by the parameter and by what is given for it.
  cases r.given? p.setting with
  | none =>
    dsimp only
    split_ifs
    case neg => exact both _
    all_goals exact .error _
  | some earlier =>
    dsimp only
    split_ifs
    case neg => exact both _
    all_goals exact .error _

/-- Nor do the variables of other settings. -/
theorem Reading.Adds.addVariables {env : Environment} {setting : Setting} {now : Given}
    {options : List NamedParameter}
    (silent : ∀ p ∈ options, p.setting = setting → p.standIn.bind env.value? = none)
    {r r' : Reading} (adds : r.Adds setting now r') :
    AddsTo setting now (r.addVariables env options) (r'.addVariables env options) := by
  induction options generalizing r r' with
  | nil => exact .ok adds
  | cons p rest ih =>
    obtain ⟨quiet, silent⟩ := List.forall_mem_cons.mp silent
    rw [Reading.addVariables, Reading.addVariables]
    cases stands : p.standIn.bind env.value? with
    | none => exact ih silent adds
    | some value =>
      -- A variable that speaks is not about the setting, of which the variables are silent.
      have other : p.setting ≠ setting := by
        intro own
        rw [quiet own] at stands
        cases stands
      have same : r'.isGiven p.setting = r.isGiven p.setting := by
        rw [isGiven, isGiven, adds.others p.setting other]
      dsimp only
      rw [same]
      split_ifs
      · exact ih silent adds
      · exact (adds.give other _ _).bind fun _ _ adds => ih silent adds

/-! ### A variable that is set -/

/-- What is given stays given. -/
theorem Reading.isGiven_of_give {r r' : Reading} {p : Parameter} {source : Source}
    {values : List String} (gives : r.give p source values = .ok r') {setting : Setting}
    (given : r.isGiven setting = true) : r'.isGiven setting = true := by
  obtain ⟨now, rfl, -, -⟩ := exists_of_give gives
  rw [isGiven, given?_cons]
  split_ifs
  · rfl
  · exact given

/-- Variables take nothing away, either. -/
theorem Reading.isGiven_of_addVariables {env : Environment} {options : List NamedParameter}
    {r r' : Reading} (added : r.addVariables env options = .ok r') {setting : Setting}
    (given : r.isGiven setting = true) : r'.isGiven setting = true := by
  induction options generalizing r with
  | nil =>
    cases Except.ok.inj added
    exact given
  | cons p rest ih =>
    rw [addVariables] at added
    split at added
    · split_ifs at added
      · exact ih added given
      -- What a variable gives takes nothing away from what was given before.
      · obtain ⟨next, gives, others⟩ := bind_eq_ok_iff.mp added
        exact ih others (isGiven_of_give gives given)
    · exact ih added given

/-- Variables that differ for settings only that are given already make no difference. -/
theorem Reading.addVariables_congr {env env' : Environment} {options : List NamedParameter}
    {r : Reading} (alike : ∀ p ∈ options,
      p.standIn.bind env'.value? = p.standIn.bind env.value? ∨ r.isGiven p.setting = true) :
    r.addVariables env' options = r.addVariables env options := by
  induction options generalizing r with
  | nil => rfl
  | cons p rest ih =>
    obtain ⟨first, later⟩ := List.forall_mem_cons.mp alike
    rw [addVariables, addVariables]
    -- Either the variable is the same in both, or its setting is given already.
    rcases first with same | given
    · rw [same]
      cases p.standIn.bind env.value? with
      | none => exact ih later
      | some value =>
        dsimp only
        split_ifs
        · exact ih later
        · cases gives : r.give p.toParameter .environment [value] with
          | error halt => rfl
          | ok next =>
            exact ih fun q member => (later q member).imp_right (isGiven_of_give gives)
    · -- A setting that is given keeps its variable from being looked at.
      rw [given]
      cases p.standIn.bind env'.value? <;> cases p.standIn.bind env.value? <;> exact ih later

section

variable {env : Environment} {name : String} (text : String)

/-- An option that looks at another variable, if at any, gets the same from it. -/
theorem NamedParameter.value?_set {p : NamedParameter} (other : p.standIn ≠ some name) :
    p.standIn.bind (env.set name text).value? = p.standIn.bind env.value? := by
  cases stands : p.standIn with
  | none => rfl
  | some key =>
    have ne : key ≠ name := by
      rintro rfl
      exact other stands
    rw [Option.bind_some, Option.bind_some, Environment.value?_set, if_neg ne]

/-- A variable that no option looks at makes no difference. -/
theorem Reading.addVariables_set_of_ne {options : List NamedParameter}
    (others : ∀ p ∈ options, p.standIn ≠ some name) (r : Reading) :
    r.addVariables (env.set name text) options = r.addVariables env options :=
  addVariables_congr fun p member => .inl (NamedParameter.value?_set text (others p member))

variable {setting : Setting}

/-- Nor does one that stands in for a setting that is given already. -/
theorem Reading.addVariables_set_of_isGiven {options : List NamedParameter}
    (only : ∀ p ∈ options, p.standIn = some name → p.setting = setting) {r : Reading}
    (given : r.isGiven setting = true) :
    r.addVariables (env.set name text) options = r.addVariables env options := by
  refine addVariables_congr fun p member => ?_
  by_cases stands : p.standIn = some name
  · exact .inr (by rwa [only p member stands])
  · exact .inl (NamedParameter.value?_set text stands)

/-- What a variable gives to the option that it stands in for. -/
def Given.ofVariable (text : String) : Given := ⟨.environment, 1, [text]⟩

/-- An option for any text takes in the one of a variable if it is missing. -/
theorem Reading.give_ofVariable {p : Parameter} (anyText : p.kind = .text) {r : Reading}
    (missing : r.given? p.setting = none) :
    r.give p .environment [text] =
      .ok { r with given := (p.setting, .ofVariable text) :: r.given } := by
  simp only [give, anyText, missing]
  rfl

/-- At the option of the setting its variable gives the text, and the options after it find the
setting given. -/
theorem Reading.addVariables_set_of_own (unset : env.value? name = none) {p : NamedParameter}
    {rest : List NamedParameter}
    (only : ∀ q ∈ p :: rest, q.standIn = some name ↔ q.setting = p.setting)
    (anyText : p.kind = .text) {r : Reading} (missing : r.given? p.setting = none) :
    AddsTo p.setting (.ofVariable text) (r.addVariables env (p :: rest))
      (r.addVariables (env.set name text) (p :: rest)) := by
  obtain ⟨stands, only⟩ := List.forall_mem_cons.mp only
  have looks : p.standIn = some name := stands.mpr rfl
  have silent (q : NamedParameter) (looks : q.standIn = some name) :
      q.standIn.bind env.value? = none := by
    rw [looks, Option.bind_some, unset]
  have adds := adds_cons missing (.ofVariable text)
  have given : isGiven { r with given := (p.setting, .ofVariable text) :: r.given } p.setting =
      true := by
    rw [isGiven, adds.added, Option.isSome_some]
  -- The rest of the options sees a setting that is given, so that they find nothing new in the
  -- variable.
  have later := adds.addVariables fun q member own => silent q ((only q member).mpr own)
  rw [← addVariables_set_of_isGiven text (fun q member => (only q member).mp) given] at later
  rw [addVariables, addVariables, silent p looks, looks, Option.bind_some, Environment.value?_set,
    if_pos rfl]
  dsimp only
  rw [isGiven, missing, give_ofVariable text anyText missing]
  exact later

/-- A variable that stands in for a missing setting gives its text to it, and to nothing else. -/
theorem Reading.addVariables_set (unset : env.value? name = none) {options : List NamedParameter}
    (only : ∀ p ∈ options, p.standIn = some name ↔ p.setting = setting)
    (anyText : ∀ p ∈ options, p.setting = setting → p.kind = .text)
    (option : ∃ p ∈ options, p.setting = setting) {r : Reading}
    (missing : r.given? setting = none) :
    AddsTo setting (.ofVariable text) (r.addVariables env options)
      (r.addVariables (env.set name text) options) := by
  -- Up to the option of the setting both readings are the same.
  induction options generalizing r with
  | nil =>
    obtain ⟨p, member, -⟩ := option
    cases member
  | cons p rest ih =>
    by_cases own : p.setting = setting
    -- From the option of the setting on, the readings differ in what the variable gave.
    · subst own
      exact addVariables_set_of_own text unset only (anyText p List.mem_cons_self rfl) missing
    · obtain ⟨stands, only⟩ := List.forall_mem_cons.mp only
      obtain ⟨-, anyText⟩ := List.forall_mem_cons.mp anyText
      have option : ∃ p ∈ rest, p.setting = setting := by
        obtain ⟨q, member, aims⟩ := option
        rcases List.mem_cons.mp member with rfl | member
        · exact absurd aims own
        · exact ⟨q, member, aims⟩
      rw [addVariables, addVariables, NamedParameter.value?_set text (mt stands.mp own)]
      -- Whatever this option takes in, the setting stays missing.
      cases p.standIn.bind env.value? with
      | none => exact ih only anyText option missing
      | some value =>
        dsimp only
        split_ifs
        · exact ih only anyText option missing
        · cases gives : r.give p.toParameter .environment [value] with
          | error halt => exact .error halt
          | ok next =>
            obtain ⟨now, rfl, -, -⟩ := exists_of_give gives
            refine ih only anyText option ?_
            rw [given?_cons, if_neg (Ne.symm own), missing]

end

/-! ### The variable of the address -/

/-- What the variable of the address does to the settings of a conversion: it gives the address if
no source is given, comes into conflict with an export file, and is passed over otherwise. -/
inductive Defaults (text : String) : Except Halt Reading → Except Halt Reading → Prop
  | ignored {x : Except Halt Reading} (noFile : ∀ r, x = .ok r → r.isGiven .input = false) :
      Defaults text x x
  | conflicts {r : Reading} (file : r.isGiven .input = true) :
      Defaults text (.ok r) (.error .conflict)
  | supplied {r : Reading} (noFile : r.given? .input = none)
      (address : r.given? .url = some (.ofVariable text)) :
      Defaults text (.error .missingArgument) (.ok r)

/-- A conversion has one source, a file or an address: with both it is refused for the conflict, and
with neither for what is missing. -/
theorem checkInner_convert {r : Reading} :
    checkInner .convert r =
      if r.isGiven .input = r.isGiven .url then
        .error (if r.isGiven .input = true then .conflict else .missingArgument)
      else .ok () := by
  rw [checkInner]
  cases r.isGiven .input <;> cases r.isGiven .url <;> rfl

/-- The settings of a conversion if they have what it needs. -/
def checked (r : Reading) : Except Halt Reading := do
  checkInner .convert r
  return r

/-- Where the address is given, the variable is passed over. -/
theorem defaults_checked_of_isGiven (text : String) {r : Reading}
    (address : r.isGiven .url = true) : Defaults text (checked r) (checked r) := by
  refine .ignored fun r' accepted => ?_
  obtain ⟨⟨⟩, one, same⟩ := bind_eq_ok_iff.mp accepted
  cases Except.ok.inj same
  rw [checkInner_convert, address] at one
  -- A second source would have been refused.
  cases file : r.isGiven .input with
  | false => rfl
  | true =>
    rw [file] at one
    cases one

/-- Where it is missing, the variable gives it, which is one source too many beside a file. -/
theorem AddsTo.defaults_checked {text : String} {x x' : Except Halt Reading}
    (both : AddsTo .url (.ofVariable text) x x') :
    Defaults text (x >>= checked) (x' >>= checked) := by
  cases both with
  | error halt => exact .ignored nofun
  | @ok r r' adds =>
    show Defaults text (checked r) (checked r')
    have missing : r.isGiven .url = false := by
      rw [Reading.isGiven, adds.missing, Option.isSome_none]
    have address : r'.isGiven .url = true := by
      rw [Reading.isGiven, adds.added, Option.isSome_some]
    have same : r'.given? .input = r.given? .input := adds.others .input (by decide)
    have sameFile : r'.isGiven .input = r.isGiven .input := by
      rw [Reading.isGiven, Reading.isGiven, same]
    -- Only the address differs between the readings, so that the file decides.
    rw [checked, checked, checkInner_convert, checkInner_convert, missing, address, sameFile]
    cases file : r.isGiven .input with
    | true => exact .conflicts file
    | false =>
      refine .supplied ?_ adds.added
      rw [same]
      simpa [Reading.isGiven] using file

section

variable {env : Environment} (text : String)

/-- No command but the conversion looks at the variable. -/
theorem parseInner_set_of_ne {name : CommandName} (other : name ≠ .convert) (words : List String) :
    parseInner (env.set urlVariable text) name words = parseInner env name words := by
  have others : ∀ p ∈ name.grammar.options, p.standIn ≠ some urlVariable := by
    cases name with
    | convert => exact absurd rfl other
    | _ => decide
  simp only [parseInner, Reading.finish, Reading.addVariables_set_of_ne text others]

/-- Nor does what stands before a command. -/
theorem finish_set_rootGrammar (r : Reading) :
    r.finish rootGrammar (env.set urlVariable text) = r.finish rootGrammar env := by
  have others : ∀ p ∈ rootGrammar.options, p.standIn ≠ some urlVariable := by decide
  simp only [Reading.finish, Reading.addVariables_set_of_ne text others]

/-- The settings of a conversion without the variable and with it. -/
theorem parseInner_set_convert (unset : env.value? urlVariable = none) (words : List String) :
    Defaults text (parseInner env .convert words)
      (parseInner (env.set urlVariable text) .convert words) := by
  have only : ∀ p ∈ CommandName.convert.grammar.options,
      p.standIn = some urlVariable ↔ p.setting = .url := by decide
  have anyText : ∀ p ∈ CommandName.convert.grammar.options,
      p.setting = .url → p.kind = .text := by decide
  have option : ∃ p ∈ CommandName.convert.grammar.options, p.setting = .url := by decide
  -- Words are read and settled before any variable is looked at.
  have form (env : Environment) : parseInner env .convert words =
      readWords CommandName.convert.grammar words .empty >>= fun read => read.1.settle >>=
        fun settled => settled.addVariables env CommandName.convert.grammar.options >>=
          checked := by
    simp only [parseInner, Reading.finish, bind_assoc]
    rfl
  rw [form, form]
  cases readWords CommandName.convert.grammar words .empty with
  | error halt => exact .ignored nofun
  | ok read =>
    show Defaults text (read.1.settle >>= _) (read.1.settle >>= _)
    cases read.1.settle with
    | error halt => exact .ignored nofun
    | ok settled =>
      show Defaults text (settled.addVariables env _ >>= checked)
        (settled.addVariables (env.set urlVariable text) _ >>= checked)
      cases address : settled.isGiven .url with
      -- An address among the words outdoes the variable, which then changes nothing.
      | true =>
        rw [Reading.addVariables_set_of_isGiven text (fun p member => (only p member).mp) address]
        cases added : settled.addVariables env CommandName.convert.grammar.options with
        | error halt => exact .ignored nofun
        | ok done =>
          exact defaults_checked_of_isGiven text (Reading.isGiven_of_addVariables added address)
      | false =>
        -- Without one the variable is taken, and the request has an address that it lacked.
        have missing : settled.given? .url = none := by simpa [Reading.isGiven] using address
        exact (Reading.addVariables_set text unset only anyText option missing).defaults_checked

end

/-! ### Whole lines -/

/-- A line names a command, with something before it and words after it. -/
def Names (words : List String) (before : Reading) (name : CommandName) (rest : List String) :
    Prop :=
  ∃ word, readWords rootGrammar words .empty = .ok (before, some (word, rest)) ∧
    CommandName.ofWord? word = some name

/-- Only lines that name a command are accepted. -/
theorem exists_names_of_parse {env : Environment} {words : List String} {i : Invocation}
    (accepted : parse env words = .ok i) : ∃ before name rest, Names words before name rest := by
  obtain ⟨⟨before, follow⟩, reads, accepted⟩ := bind_eq_ok_iff.mp accepted
  cases follow with
  | none =>
    obtain ⟨_, _, stopped⟩ := bind_eq_ok_iff.mp accepted
    cases stopped
  | some next =>
    obtain ⟨word, rest⟩ := next
    -- The word that ended the outer reading is the name, if it is the name of a command.
    cases named : CommandName.ofWord? word with
    | none =>
      simp only [named] at accepted
      cases accepted
    | some name => exact ⟨before, name, rest, word, reads, named⟩

/-- Such a line is read as what follows the name and then as what precedes it. -/
theorem Names.parse {words rest : List String} {before : Reading} {name : CommandName}
    (names : Names words before name rest) (env : Environment) :
    parse env words = parseInner env name rest >>= fun inner =>
      before.finish rootGrammar env >>= fun outer => .ok (invocationOf name ⟨outer, inner⟩) := by
  obtain ⟨word, reads, named⟩ := names
  rw [CommandLine.parse, reads]
  simp only [bind, Except.bind, named]
  rfl

/-- What precedes a command gives nothing to the settings of commands. -/
theorem Names.given?_eq {words rest : List String} {before outer inner : Reading}
    {name : CommandName} (names : Names words before name rest) {env : Environment}
    (finished : before.finish rootGrammar env = .ok outer) {setting : Setting}
    (own : setting.isOwn = true) :
    Settings.given? ⟨outer, inner⟩ setting = inner.given? setting := by
  obtain ⟨word, reads, -⟩ := names
  obtain ⟨-, unsaid⟩ := given?_of_readRoot reads finished
  rw [Settings.given?, unsaid setting own]

/-- The first value of a setting is the first of those that are given. -/
theorem Settings.value?_eq (s : Settings) (setting : Setting) :
    s.value? setting = (s.given? setting).bind (·.values.head?) := by
  rw [value?, values]
  cases s.given? setting <;> rfl

/-- The export file that an invocation converts, if it converts one. -/
def exportFile? (i : Invocation) : Option String :=
  match i.command with
  | .convert request => request.input
  | _ => none

/-- A conversion has an export file where one is given after its name. -/
theorem Names.isSome_exportFile? {words rest : List String} {before outer r : Reading}
    (names : Names words before .convert rest) {env : Environment}
    (inner : parseInner env .convert rest = .ok r)
    (finished : before.finish rootGrammar env = .ok outer) :
    (exportFile? (invocationOf .convert ⟨outer, r⟩)).isSome = r.isGiven .input := by
  -- The option for the file is the only one about it, and it takes a value.
  have takes : ∀ p, CommandName.convert.grammar.Has p → p.setting = .input →
      p.kind.takesValue = true := by
    rintro p (⟨option, member, rfl⟩ | operand)
    · revert option
      decide
    · cases operand
  show (Settings.value? ⟨outer, r⟩ .input).isSome = _
  rw [Settings.value?_eq, names.given?_eq finished rfl, Reading.isGiven]
  cases found : r.given? .input with
  | none => rfl
  | some now =>
    -- What is given for the file is a path and not nothing.
    obtain ⟨⟨read, follow⟩, reads, later⟩ := bind_eq_ok_iff.mp inner
    obtain ⟨done, done_eq, later⟩ := bind_eq_ok_iff.mp later
    obtain ⟨-, -, same⟩ := bind_eq_ok_iff.mp later
    cases Except.ok.inj same
    have filled := Reading.values_ne_nil_of_finish takes reads done_eq found
    simpa using List.isSome_head?.mpr filled

/-- Only a conversion converts a file. -/
theorem exportFile?_of_ne {name : CommandName} (other : name ≠ .convert) (s : Settings) :
    exportFile? (invocationOf name s) = none := by
  cases name with
  | convert => exact absurd rfl other
  | _ => rfl

/-- What comes of a line without an address from elsewhere, and what with one.

A line that is accepted without it asks for the same with it, unless it names an export file: then
it is refused, for it has two sources. All other lines that are accepted with it name no source, and
convert what is at the address. -/
structure Supplies (text : String) (without supplied : Except Halt Invocation) : Prop where
  accepted : ∀ i, without = .ok i →
    supplied = if (exportFile? i).isSome then .error .conflict else .ok i
  sourceless : ∀ i, supplied = .ok i → without ≠ .ok i →
    without = .error .missingArgument ∧
      ∃ request, i.command = .convert request ∧ request.input = none ∧ request.url = some text

/-- The settings of a conversion decide what comes of the whole line. -/
theorem Names.supplies {words rest : List String} {before : Reading}
    (names : Names words before .convert rest) {env : Environment} {text : String}
    {supplied : Except Halt Reading}
    (defaults : Defaults text (parseInner env .convert rest) supplied) :
    Supplies text (CommandLine.parse env words) (supplied >>= fun inner =>
      before.finish rootGrammar env >>= fun outer =>
        .ok (invocationOf .convert ⟨outer, inner⟩)) := by
  rw [names.parse]
  generalize without : parseInner env .convert rest = x at defaults ⊢
  cases defaults with
  -- What is accepted without the variable is accepted with it, and has no file.
  | ignored noFile =>
    refine ⟨fun i accepted => ?_, fun i accepted refused => absurd accepted refused⟩
    rw [accepted]
    obtain ⟨r, rfl, later⟩ := bind_eq_ok_iff.mp accepted
    obtain ⟨outer, finished, same⟩ := bind_eq_ok_iff.mp later
    cases Except.ok.inj same
    rw [names.isSome_exportFile? without finished, noFile r rfl]
    rfl
  -- What is accepted names a file, and with the variable it is refused.
  | conflicts file =>
    refine ⟨fun i accepted => ?_, fun i accepted => (nomatch accepted)⟩
    obtain ⟨_, ⟨⟩, later⟩ := bind_eq_ok_iff.mp accepted
    obtain ⟨outer, finished, same⟩ := bind_eq_ok_iff.mp later
    cases Except.ok.inj same
    rw [names.isSome_exportFile? without finished, file]
    rfl
  -- Nothing was accepted before, and now what is at the address is converted.
  | @supplied r noFile address =>
    refine ⟨fun i accepted => (nomatch accepted), fun i accepted _ => ⟨rfl, ?_⟩⟩
    obtain ⟨_, ⟨⟩, later⟩ := bind_eq_ok_iff.mp accepted
    obtain ⟨outer, finished, same⟩ := bind_eq_ok_iff.mp later
    cases Except.ok.inj same
    have noInput : Settings.value? ⟨outer, r⟩ .input = none := by
      rw [Settings.value?_eq, names.given?_eq finished rfl, noFile, Option.bind_none]
    have url : Settings.value? ⟨outer, r⟩ .url = some text := by
      rw [Settings.value?_eq, names.given?_eq finished rfl, address]
      rfl
    exact ⟨_, rfl, noInput, url⟩

/-- A variable that is looked at for no other command makes no difference to it. -/
theorem Names.supplies_of_ne {words rest : List String} {before : Reading} {name : CommandName}
    (names : Names words before name rest) (other : name ≠ .convert) (env : Environment)
    (text : String) :
    Supplies text (CommandLine.parse env words) (CommandLine.parse env words) := by
  refine ⟨fun i accepted => ?_, fun i accepted refused => absurd accepted refused⟩
  rw [accepted]
  rw [names.parse] at accepted
  obtain ⟨_, _, later⟩ := bind_eq_ok_iff.mp accepted
  obtain ⟨_, _, same⟩ := bind_eq_ok_iff.mp later
  cases Except.ok.inj same
  rw [exportFile?_of_ne other]
  rfl

/-- Setting the variable of the address supplies an address to lines without a source, is passed
over by all other lines without an export file, and keeps lines with one from being accepted. -/
theorem parse_set_urlVariable {env : Environment} (unset : env.value? urlVariable = none)
    (text : String) (words : List String) :
    Supplies text (parse env words) (parse (env.set urlVariable text) words) := by
  -- A line that names no command is refused with the variable and without it.
  by_cases named : ∃ before name rest, Names words before name rest
  · obtain ⟨before, name, rest, names⟩ := named
    rw [names.parse (env.set urlVariable text), finish_set_rootGrammar text]
    by_cases converts : name = .convert
    · subst converts
      exact names.supplies (parseInner_set_convert text unset rest)
    · rw [parseInner_set_of_ne text converts, ← names.parse]
      exact names.supplies_of_ne converts env text
  · exact ⟨fun i accepted => absurd (exists_names_of_parse accepted) named,
      fun i accepted => absurd (exists_names_of_parse accepted) named⟩

/-- The conversion of an export file, without any variables. -/
def fileConversion : Invocation :=
  ⟨.convert ⟨some "export.json", none, none, DashClaw.defaultProject, none, false⟩, 0, false, .auto,
    .human⟩

/-- The conversion of what is at an address. -/
def addressConversion : Invocation :=
  ⟨.convert ⟨none, some "https://own", none, "demo", none, false⟩, 0, false, .auto, .human⟩

/-- An address on the line goes before the one of the variable. -/
theorem addressConversion_kept :
    parse [] ["convert", "--url=https://own", "--project", "demo"] = .ok addressConversion ∧
    parse (Environment.set [] urlVariable "https://dash")
      ["convert", "--url=https://own", "--project", "demo"] = .ok addressConversion := by
  have unset : Environment.value? [] urlVariable = none := rfl
  have accepted : parse [] ["convert", "--url=https://own", "--project", "demo"] =
      .ok addressConversion := by rfl
  have supplies := parse_set_urlVariable unset "https://dash"
    ["convert", "--url=https://own", "--project", "demo"]
  exact ⟨accepted, supplies.accepted _ accepted⟩

/-- With the variable set, the conversion of an export file is refused. -/
theorem fileConversion_refused :
    parse [] ["convert", "--input", "export.json"] = .ok fileConversion ∧
    parse (Environment.set [] urlVariable "https://dash") ["convert", "--input", "export.json"] =
      .error .conflict := by
  constructor
  · rfl
  · rfl

end ToolPolicy.CommandLine
