import Conformance.Proofs.Discovery.Exclusion
import Conformance.Proofs.Text.Ends
import Conformance.Settings

/-!
# What a run is set up with

What a command line gives goes before what a file gives, setting by setting; only the arguments of
the engine go with its command, so that a command is never started with the arguments meant for
another. Settings that are found valid can be used: their numbers are positive and their patterns
can be added to any root. Whether there is an engine to start is asked apart from that.
-/

namespace Conformance.Settings

/-- The value is the given one, or else the other one. -/
inductive Chosen {α : Type} : (given? : Option α) → (other value : α) → Prop where
  | given (value other : α) : Chosen (some value) other value
  | other (other : α) : Chosen none other other

theorem chosen_getD {α : Type} (given? : Option α) (other : α) :
    Chosen given? other (given?.getD other) := by
  cases given? with
  | none => exact .other other
  | some value => exact .given value other

theorem chosen_or {α : Type} (given? other? : Option α) :
    Chosen (given?.map some) other? (given?.or other?) := by
  cases given? with
  | none => exact .other other?
  | some value => exact .given (some value) other?

variable {s : Settings} {o : Overrides}

theorem args_override_of_given (h : o.engine? ≠ none ∨ o.engineArgs ≠ []) :
    (s.override o).engine.args = o.engineArgs := by
  refine if_pos ?_
  rw [Bool.or_eq_true, Option.isSome_iff_ne_none, Bool.not_eq_true', List.isEmpty_eq_false_iff]
  exact h

theorem args_override_of_none (hengine : o.engine? = none) (hargs : o.engineArgs = []) :
    (s.override o).engine.args = s.engine.args := by
  refine if_neg ?_
  rw [hengine, hargs]
  exact Bool.false_ne_true

theorem engine_override {command : String} (h : o.engine? = some command) :
    (s.override o).engine = ⟨some command, o.engineArgs⟩ := by
  have hargs : (s.override o).engine.args = o.engineArgs :=
    args_override_of_given (.inl (by rw [h]; exact Option.some_ne_none command))
  have hcommand : (s.override o).engine.command? = some command :=
    congrArg (Option.or · s.engine.command?) h
  rw [← hargs, ← hcommand]

theorem override_override (s : Settings) (o : Overrides) :
    (s.override o).override o = s.override o := by
  have hgetD (a? : Option Nat) (b : Nat) : a?.getD (a?.getD b) = a?.getD b := by
    cases a? <;> rfl
  have hor {α : Type} (a? b? : Option α) : a?.or (a?.or b?) = a?.or b? := by
    cases a? <;> rfl
  have hargs : ((s.override o).override o).engine.args = (s.override o).engine.args := by
    by_cases hgiven : o.engine? ≠ none ∨ o.engineArgs ≠ []
    · rw [args_override_of_given hgiven, args_override_of_given hgiven]
    · obtain ⟨hengine, hnil⟩ := not_or.1 hgiven
      exact args_override_of_none (not_not.1 hengine) (not_not.1 hnil)
  rw [override] at hargs ⊢
  dsimp only at hargs ⊢
  rw [hargs]
  simp only [override, hgetD, hor]

/-- A check that throws comes to its end if it does not apply. -/
theorem check_eq_ok_iff {ε α : Type} {p : Prop} [Decidable p] {e : ε} {rest : Unit → Except ε α}
    {a : α} : (if p then throw e >>= rest else rest ()) = .ok a ↔ ¬ p ∧ rest () = .ok a := by
  by_cases hp : p
  · rw [if_pos hp]
    exact ⟨nofun, fun h => absurd hp h.1⟩
  · rw [if_neg hp]
    exact ⟨fun h => ⟨hp, h⟩, fun h => h.2⟩

/-- Settings are valid if no number is zero and every pattern is one. -/
theorem validate_eq_ok_iff : s.validate = .ok () ↔ s.timeoutMs ≠ 0 ∧ s.parallelism? ≠ some 0 ∧
    s.maxFailures? ≠ some 0 ∧ ∀ text ∈ s.exclude, CaseRoot.ValidPattern text := by
  have hpatterns : (s.exclude.mapM CaseRoot.pattern >>= fun _ => pure ()) = .ok () ↔
      ∀ text ∈ s.exclude, CaseRoot.ValidPattern text := by
    rw [CaseRoot.mapM_pattern]
    cases hfind : s.exclude.find? fun text => ¬ CaseRoot.ValidPattern text with
    | none =>
      exact ⟨fun _ text htext => by simpa using List.find?_eq_none.1 hfind text htext, fun _ => rfl⟩
    | some text =>
      have hbad : ¬ CaseRoot.ValidPattern text := by simpa using List.find?_some hfind
      exact ⟨nofun, fun hall => absurd (hall text (List.mem_of_find?_eq_some hfind)) hbad⟩
  rw [← hpatterns, validate]
  refine (check_eq_ok_iff (p := s.timeoutMs = 0)).trans (and_congr_right fun _ => ?_)
  refine (check_eq_ok_iff (p := s.parallelism? = some 0)).trans (and_congr_right fun _ => ?_)
  exact check_eq_ok_iff (p := s.maxFailures? = some 0)

theorem one_le_parallelism (h : s.parallelism? ≠ some 0) {cores : Nat} (hcores : 1 ≤ cores) :
    1 ≤ s.parallelism cores := by
  rw [parallelism]
  cases hworkers : s.parallelism? with
  | none => exact hcores
  | some n =>
    refine Nat.one_le_iff_ne_zero.2 ?_
    rintro rfl
    exact h hworkers

/-- An engine can be started if its command is not blank. -/
theorem engineCommand_eq_ok_iff {e : EngineCommand} : s.engineCommand = .ok e ↔
    ∃ command, s.engine.command? = some command ∧
      (∃ c ∈ command.toList, Text.isBlank c = false) ∧
      e = ⟨Text.trimmed command, s.engine.args⟩ := by
  rw [engineCommand]
  cases hcommand : s.engine.command? with
  | none => simp
  | some command =>
    have hblank : (Text.trimmed command).isEmpty = true ↔
        ∀ c ∈ command.toList, Text.isBlank c = true := by
      rw [String.isEmpty_iff, Text.trimmed, String.ofList_eq_empty_iff, Text.trim_eq_nil_iff]
    simp only [Option.map_some, Option.getD_some, Option.some.injEq, exists_eq_left']
    by_cases hempty : (Text.trimmed command).isEmpty = true
    · rw [if_pos hempty]
      constructor
      · intro h
        cases h
      · rintro ⟨⟨c, hc, hnot⟩, -⟩
        rw [hblank.1 hempty c hc] at hnot
        cases hnot
    · have hsome : ∃ c ∈ command.toList, Text.isBlank c = false := by
        simpa [hblank] using hempty
      rw [if_neg hempty, Except.ok.injEq, eq_comm]
      exact (and_iff_right hsome).symm

theorem exists_engineCommand_iff : (∃ e, s.engineCommand = .ok e) ↔ ∃ command,
    s.engine.command? = some command ∧ ∃ c ∈ command.toList, Text.isBlank c = false := by
  constructor
  · rintro ⟨e, he⟩
    obtain ⟨command, hcommand, hblank, -⟩ := engineCommand_eq_ok_iff.1 he
    exact ⟨command, hcommand, hblank⟩
  · rintro ⟨command, hcommand, hblank⟩
    exact ⟨_, engineCommand_eq_ok_iff.2 ⟨command, hcommand, hblank, rfl⟩⟩

/-- An engine is started by its command without the blanks around it. -/
theorem trimmed_engineCommand {e : EngineCommand} (h : s.engineCommand = .ok e) :
    e.args = s.engine.args ∧ ∃ command front back, s.engine.command? = some command ∧
      command.toList = front ++ e.command.toList ++ back ∧
      (∀ c ∈ front, Text.isBlank c = true) ∧ (∀ c ∈ back, Text.isBlank c = true) ∧
      Text.Trimmed e.command.toList := by
  obtain ⟨command, hcommand, -, rfl⟩ := engineCommand_eq_ok_iff.1 h
  obtain ⟨front, back, htext, hfront, hback⟩ := Text.exists_blanks_trim command.toList
  refine ⟨rfl, command, front, back, hcommand, ?_, hfront, hback, ?_⟩
  · rwa [Text.trimmed, String.toList_ofList]
  · rw [Text.trimmed, String.toList_ofList]
    exact Text.trimmed_trim _

/-- What a command line gives is taken, and what it leaves open is kept, but for the arguments of
the engine, which come from where any of command and arguments is given. Giving it again changes
nothing. Settings that are found valid have positive numbers and patterns that no root refuses, and
an engine is started by a command that is not blank, without the blanks around it. -/
theorem override_settles (s : Settings) (o : Overrides) :
    let effective := s.override o
    Chosen o.timeoutMs? s.timeoutMs effective.timeoutMs ∧
    Chosen (o.parallelism?.map some) s.parallelism? effective.parallelism? ∧
    Chosen (o.maxFailures?.map some) s.maxFailures? effective.maxFailures? ∧
    Chosen (o.engine?.map some) s.engine.command? effective.engine.command? ∧
    effective.exclude = s.exclude ∧
    (o.engine? ≠ none ∨ o.engineArgs ≠ [] → effective.engine.args = o.engineArgs) ∧
    (o.engine? = none → o.engineArgs = [] → effective.engine.args = s.engine.args) ∧
    (∀ command, o.engine? = some command → effective.engine = ⟨some command, o.engineArgs⟩) ∧
    effective.override o = effective ∧
    (effective.validate = .ok () →
      1 ≤ effective.timeoutMs ∧ (∀ cores, 1 ≤ cores → 1 ≤ effective.parallelism cores) ∧
      (∀ n, effective.maxFailures? = some n → 1 ≤ n) ∧
      (∀ r : CaseRoot, ∃ r', r.exclude effective.exclude = .ok r') ∧
      ((∃ e, effective.engineCommand = .ok e) ↔ ∃ command,
        effective.engine.command? = some command ∧
          ∃ c ∈ command.toList, Text.isBlank c = false) ∧
      ∀ e, effective.engineCommand = .ok e → e.args = effective.engine.args ∧
        ∃ command front back, effective.engine.command? = some command ∧
          command.toList = front ++ e.command.toList ++ back ∧
          (∀ c ∈ front, Text.isBlank c = true) ∧ (∀ c ∈ back, Text.isBlank c = true) ∧
          Text.Trimmed e.command.toList) := by
  intro effective
  refine ⟨chosen_getD _ _, chosen_or _ _, chosen_or _ _, chosen_or _ _, rfl,
    args_override_of_given, args_override_of_none, fun _ => engine_override,
    override_override s o, fun hvalid => ?_⟩
  obtain ⟨htimeout, hparallelism, hmaxFailures, hpatterns⟩ := validate_eq_ok_iff.1 hvalid
  refine ⟨Nat.one_le_iff_ne_zero.2 htimeout, fun _ => one_le_parallelism hparallelism,
    fun n hn => ?_, fun r => ⟨_, CaseRoot.exclude_eq_ok r hpatterns⟩, exists_engineCommand_iff,
    fun _ => trimmed_engineCommand⟩
  refine Nat.one_le_iff_ne_zero.2 ?_
  rintro rfl
  exact hmaxFailures hn

/-- Settings of a file with an engine and its arguments. -/
def filed : Settings :=
  { default with exclude := ["^skip/"], engine := ⟨some "node", ["--harmony"]⟩ }

/-- A command line with another engine, blanks around it and no arguments for it. -/
def replacing : Overrides := ⟨some 3, none, some " d8\t", [], some 1⟩

theorem override_settles_replacing : (filed.override replacing).validate = .ok () ∧
    (filed.override replacing).engine = ⟨some " d8\t", []⟩ ∧
    (∃ r, (CaseRoot.mk (.ofText "t") []).exclude (filed.override replacing).exclude = .ok r) ∧
    ∃ e, (filed.override replacing).engineCommand = .ok e ∧ e.args = [] := by
  have hvalid : (filed.override replacing).validate = .ok () :=
    validate_eq_ok_iff.2 (by decide +kernel)
  obtain ⟨-, -, -, -, -, -, -, hengine, -, hsettled⟩ := override_settles filed replacing
  obtain ⟨-, -, -, hexclude, hstarts, hargs⟩ := hsettled hvalid
  obtain ⟨e, he⟩ := hstarts.2 ⟨" d8\t", rfl, 'd', by decide⟩
  exact ⟨hvalid, hengine _ rfl, hexclude _, e, he, (hargs e he).1⟩

end Conformance.Settings
