import ToolPolicy.Proofs.CommandLine.Sayings

/-! Settings that take a value have one once they are given. -/

namespace ToolPolicy.CommandLine

/-- A parameter is one of the options of a grammar, or its operand. -/
def Grammar.Has (g : Grammar) (p : Parameter) : Prop :=
  (∃ option ∈ g.options, option.toParameter = p) ∨ g.operand = some p

/-- What is taken in last is given for its setting, and the others are left alone. -/
theorem Reading.given?_cons (r : Reading) (setting other : Setting) (now : Given) :
    Reading.given? { r with given := (setting, now) :: r.given } other =
      if other = setting then some now else r.given? other := by
  rw [given?, List.lookup_cons, given?]
  by_cases same : other = setting
  · rw [if_pos same, beq_iff_eq.mpr same]
  · rw [if_neg same, beq_eq_false_iff_ne.mpr same]

/-- A reading against a grammar in which a setting has a value if it is given. -/
structure Reading.Valued (g : Grammar) (setting : Setting) (r : Reading) : Prop where
  given : ∀ now, r.given? setting = some now → now.values ≠ []
  pending : ∀ p values, r.pending = some (p, values) → g.Has p

/-- At first nothing is given. -/
theorem Reading.valued_empty (g : Grammar) (setting : Setting) :
    Reading.empty.Valued g setting where
  given _ now := by cases now
  pending _ _ waits := by cases waits

section

variable {g : Grammar} {setting : Setting}
  (takes : ∀ p, g.Has p → p.setting = setting → p.kind.takesValue = true)
include takes

/-- A parameter that is taken in brings a value along if it takes one. -/
theorem Reading.Valued.give {r r' : Reading} {p : Parameter} {source : Source}
    {values : List String} (valued : r.Valued g setting) (has : g.Has p)
    (gives : r.give p source values = .ok r') : r'.Valued g setting := by
  obtain ⟨next, rfl, all, filled⟩ := exists_of_give gives
  refine ⟨fun now found => ?_, valued.pending⟩
  rw [Reading.given?_cons] at found
  -- What was taken in last is found first, and it has a value since its parameter takes one.
  split_ifs at found with own
  · have brings := takes p has own.symm
    cases found
    simp only [brings, Bool.true_and, List.isEmpty_eq_false_iff] at filled
    simp [all, filled]
  · exact valued.given now found

/-- So does the parameter that is still being read. -/
theorem Reading.Valued.settle {r r' : Reading} (valued : r.Valued g setting)
    (settles : r.settle = .ok r') : r'.Valued g setting := by
  rw [Reading.settle] at settles
  cases pending : r.pending with
  | none =>
    simp only [pending] at settles
    cases settles
    exact valued
  | some waiting =>
    obtain ⟨p, values⟩ := waiting
    simp only [pending] at settles
    -- What is pending leaves the reading before it is taken in.
    have settled : Reading.Valued g setting { r with pending := none } :=
      ⟨valued.given, fun _ _ waits => by cases waits⟩
    exact settled.give takes (valued.pending p values pending) settles

theorem Reading.Valued.take {r r' : Reading} {p : Parameter} {values : List String}
    (valued : r.Valued g setting) (has : g.Has p) (taken : r.take p values = .ok r') :
    r'.Valued g setting := by
  obtain ⟨settled, settles, gives⟩ := bind_eq_ok_iff.mp taken
  exact (valued.settle takes settles).give takes has gives

theorem Reading.Valued.await {r r' : Reading} {p : Parameter} {values : List String}
    (valued : r.Valued g setting) (has : g.Has p) (waits : r.await p values = .ok r') :
    r'.Valued g setting := by
  obtain ⟨settled, settles, same⟩ := bind_eq_ok_iff.mp waits
  cases Except.ok.inj same
  -- The parameter becomes the pending one, and is one of the grammar.
  refine ⟨(valued.settle takes settles).given, fun q values pending => ?_⟩
  cases pending
  exact has

theorem Reading.Valued.readLong {name : String} {value : Option String} {r r' : Reading}
    (valued : r.Valued g setting) (read : readLong g name value r = .ok r') :
    r'.Valued g setting := by
  rw [CommandLine.readLong] at read
  cases named : g.named? name with
  | none =>
    rw [named] at read
    cases read
  | some p =>
    have has : g.Has p.toParameter := .inl ⟨p, List.mem_of_find?_eq_some named, rfl⟩
    simp only [named] at read
    -- The parameter is read whole, or it waits for its value; either way it is one of the grammar.
    split at read
    · exact valued.take takes has read
    · exact valued.await takes has read
    · cases read
    · exact valued.take takes has read

theorem Reading.Valued.readShort {cluster : List Char} {r r' : Reading}
    (valued : r.Valued g setting) (read : readShort g cluster r = .ok r') :
    r'.Valued g setting := by
  induction cluster generalizing r with
  | nil =>
    cases Except.ok.inj read
    exact valued
  | cons c rest ih =>
    rw [CommandLine.readShort] at read
    cases named : g.abbreviated? c with
    | none =>
      rw [named] at read
      cases read
    | some p =>
      have has : g.Has p.toParameter := .inl ⟨p, List.mem_of_find?_eq_some named, rfl⟩
      simp only [named] at read
      split_ifs at read
      · split at read
        · exact valued.await takes has read
        · exact valued.take takes has read
        · exact valued.take takes has read
      -- A letter without a value is taken, and the rest of the cluster is read behind it.
      · obtain ⟨next, taken, others⟩ := bind_eq_ok_iff.mp read
        exact ih (valued.take takes has taken) others

theorem Reading.Valued.readOperand {isSeparated : Bool} {word : String} {r r' : Reading}
    (valued : r.Valued g setting) (read : readOperand g isSeparated word r = .ok r') :
    r'.Valued g setting := by
  rw [CommandLine.readOperand] at read
  cases operand : g.operand with
  | none =>
    rw [operand] at read
    cases read
  | some p =>
    have has : g.Has p := .inr operand
    simp only [operand] at read
    split at read
    · split_ifs at read
      · cases read
        -- The word joins the pending operand, which is that of the grammar.
        refine ⟨valued.given, fun q values pending => ?_⟩
        cases pending
        exact has
      · exact valued.await takes has read
    · split_ifs at read
      exact valued.await takes has read

theorem Reading.Valued.readOperands {words : List String} {r r' : Reading}
    (valued : r.Valued g setting) (read : readOperands g words r = .ok r') :
    r'.Valued g setting := by
  induction words generalizing r with
  | nil =>
    cases Except.ok.inj read
    exact valued
  | cons word rest ih =>
    obtain ⟨next, first, others⟩ := bind_eq_ok_iff.mp read
    exact ih (valued.readOperand takes first) others

theorem Reading.Valued.readWord {word : String} {r r' : Reading}
    (valued : r.Valued g setting) (read : readWord g word r = .ok r') :
    r'.Valued g setting := by
  rw [CommandLine.readWord] at read
  split at read
  · exact valued.readLong takes read
  · exact valued.readShort takes read
  · split at read
    · rename_i p waits
      cases read
      refine ⟨valued.given, fun q values pending => ?_⟩
      cases pending
      -- The parameter that waited is still the one that is being read.
      rw [Reading.awaited?] at waits
      split at waits
      · rename_i pending
        cases waits
        exact valued.pending _ _ pending
      · cases waits
    · exact valued.readOperand takes read

/-- Accepted words leave no such setting without a value. -/
theorem Reading.Valued.readWords {words : List String} {r r' : Reading}
    {follow : Option (String × List String)} (valued : r.Valued g setting)
    (read : readWords g words r = .ok (r', follow)) : r'.Valued g setting := by
  induction words generalizing r with
  | nil =>
    cases Except.ok.inj read
    exact valued
  | cons word rest ih =>
    rw [CommandLine.readWords] at read
    -- The line ends at a command, goes on with operands behind a separator, or goes on word by
    -- word.
    split_ifs at read
    · cases Except.ok.inj read
      exact valued
    · obtain ⟨last, operands, same⟩ := bind_eq_ok_iff.mp read
      cases Except.ok.inj same
      exact valued.readOperands takes operands
    · obtain ⟨next, first, others⟩ := bind_eq_ok_iff.mp read
      exact ih (valued.readWord takes first) others

theorem Reading.Valued.addVariables {env : Environment} {options : List NamedParameter}
    {r r' : Reading} (valued : r.Valued g setting) (own : ∀ p ∈ options, g.Has p.toParameter)
    (added : r.addVariables env options = .ok r') : r'.Valued g setting := by
  induction options generalizing r with
  | nil =>
    cases Except.ok.inj added
    exact valued
  | cons p rest ih =>
    obtain ⟨has, own⟩ := List.forall_mem_cons.mp own
    rw [Reading.addVariables] at added
    split at added
    · split_ifs at added
      · exact ih valued own added
      -- Only a variable that is set, for a setting still missing, changes the reading.
      · obtain ⟨next, gives, others⟩ := bind_eq_ok_iff.mp added
        exact ih (valued.give takes has gives) own others
    · exact ih valued own added

/-- A reading of accepted words has a value for each setting that takes one and is given. -/
theorem Reading.values_ne_nil_of_finish {env : Environment} {words : List String}
    {read done : Reading} {follow : Option (String × List String)}
    (reads : CommandLine.readWords g words .empty = .ok (read, follow))
    (finished : read.finish g env = .ok done) {now : Given}
    (found : done.given? setting = some now) : now.values ≠ [] := by
  obtain ⟨settled, settles, added⟩ := bind_eq_ok_iff.mp finished
  -- It holds at first, and each stage of reading keeps it.
  have valued := ((Reading.valued_empty g setting).readWords takes reads).settle takes settles
  have own : ∀ p ∈ g.options, g.Has p.toParameter := fun p member => .inl ⟨p, member, rfl⟩
  exact (valued.addVariables takes own added).given now found

end

end ToolPolicy.CommandLine
