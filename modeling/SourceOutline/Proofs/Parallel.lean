import Mathlib.Data.List.Forall2
import SourceOutline.Proofs.Journal

/-!
# Two computations side by side

Lists and optional values are compared element by element. Two results agree if both are the same
failure or both are values that are related; the first entails the second if it is a failure or
both are values that are related. Recorded computations are coupled if they agree on linked journals
and leave linked journals behind; they are parallel if the link is that the diagnostics are the
same, while events and lookups may differ. These notions go through sequences of steps, so two walks
over different trees are compared one step at a time.
-/

namespace SourceOutline

variable {α β γ δ : Type}

namespace Option

variable {related : α → β → Prop} {first : Option α} {second : Option β}

theorem rel_of_forall
    (forward : ∀ value, first = some value → ∃ value', second = some value' ∧ related value value')
    (backward : ∀ value', second = some value' → ∃ value, first = some value) :
    Option.Rel related first second := by
  cases first with
  | some value =>
      obtain ⟨value', rfl, alike⟩ := forward value rfl
      exact .some alike
  | none =>
      cases second with
      | none => exact .none
      | some value' =>
          obtain ⟨value, given⟩ := backward value' rfl
          cases given

theorem rel_cases (both : Option.Rel related first second) :
    (first = none ∧ second = none) ∨
      ∃ value value', first = some value ∧ second = some value' ∧ related value value' := by
  cases both with
  | none => exact .inl ⟨rfl, rfl⟩
  | some alike => exact .inr ⟨_, _, rfl, rfl, alike⟩

theorem exists_of_rel_some {value : α} (both : Option.Rel related (some value) second) :
    ∃ value', second = some value' ∧ related value value' := by
  cases both with
  | some alike => exact ⟨_, rfl, alike⟩

theorem eq_none_of_rel (both : Option.Rel related none second) : second = none := by
  cases both
  rfl

theorem rel_map {f : α → γ} {g : β → δ} {related' : γ → δ → Prop}
    (both : Option.Rel related first second)
    (alike : ∀ value value', related value value' → related' (f value) (g value')) :
    Option.Rel related' (first.map f) (second.map g) := by
  cases both with
  | none => exact .none
  | some given => exact .some (alike _ _ given)

theorem rel_or {third : Option α} {fourth : Option β} (both : Option.Rel related first second)
    (others : Option.Rel related third fourth) :
    Option.Rel related (first.or third) (second.or fourth) := by
  cases both with
  | none => exact others
  | some alike => exact .some alike

end Option

namespace List

variable {related : α → β → Prop} {values : List α} {values' : List β}

/-- Tests that agree on related values find related values. -/
theorem rel_find? {test : α → Bool} {test' : β → Bool} (each : List.Forall₂ related values values')
    (agree : ∀ value value', related value value' → test value = test' value') :
    Option.Rel related (values.find? test) (values'.find? test') := by
  induction each with
  | nil => exact .none
  | @cons value value' values values' first _ ih =>
      rw [List.find?_cons, List.find?_cons, agree value value' first]
      cases test' value' with
      | true => exact .some first
      | false => exact ih

theorem rel_head? (each : List.Forall₂ related values values') :
    Option.Rel related values.head? values'.head? := by
  cases each with
  | nil => exact .none
  | cons first _ => exact .some first

theorem rel_getLast? (each : List.Forall₂ related values values') :
    Option.Rel related values.getLast? values'.getLast? := by
  rw [← List.head?_reverse, ← List.head?_reverse]
  exact rel_head? (List.forall₂_reverse_iff.mpr each)

/-- The left values may be taken to be members of their list. -/
theorem forall₂_mem (each : List.Forall₂ related values values') :
    List.Forall₂ (fun value value' => value ∈ values ∧ related value value') values values' :=
  (List.forall₂_and_left _ _).mpr ⟨fun _ member => member, each⟩

theorem exists_of_forall₂ (each : List.Forall₂ related values values') {value : α}
    (member : value ∈ values) : ∃ value' ∈ values', related value value' := by
  induction each with
  | nil => cases member
  | cons first _ ih =>
      rcases List.mem_cons.mp member with rfl | later
      · exact ⟨_, List.mem_cons_self, first⟩
      · obtain ⟨value', among, alike⟩ := ih later
        exact ⟨value', List.mem_cons_of_mem _ among, alike⟩

theorem any_eq_of_forall₂ {test : α → Bool} {test' : β → Bool}
    (each : List.Forall₂ related values values')
    (agree : ∀ value value', related value value' → test value = test' value') :
    values.any test = values'.any test' := by
  induction each with
  | nil => rfl
  | @cons value value' values values' first _ ih =>
      rw [List.any_cons, List.any_cons, agree value value' first, ih]

/-- An element is found at its first place if nothing before it passes the test. -/
theorem find?_eq_some_self_iff {test : α → Bool} {before after : List α} {value : α}
    (fresh : value ∉ before) :
    (before ++ value :: after).find? test = some value ↔
      before.any test = false ∧ test value = true := by
  rw [List.find?_append, List.any_eq_false]
  constructor
  · intro found
    cases earlier : before.find? test with
    | some first =>
        rw [earlier] at found
        cases found
        exact absurd (List.mem_of_find?_eq_some earlier) fresh
    | none =>
        rw [earlier] at found
        exact ⟨List.find?_eq_none.mp earlier, List.find?_some found⟩
  · rintro ⟨rejected, passes⟩
    rw [List.find?_eq_none.mpr rejected, Option.none_or, List.find?_cons, passes]

end List

/-- Both results are the same failure, or both are values that are related. -/
inductive Agree (related : α → β → Prop) : Except Failure α → Except Failure β → Prop
  | ok {value : α} {value' : β} (alike : related value value') :
      Agree related (.ok value) (.ok value')
  | error (failure : Failure) : Agree related (.error failure) (.error failure)

namespace Agree

variable {related : α → β → Prop} {result : Except Failure α} {result' : Except Failure β}

theorem bind {related' : γ → δ → Prop} {next : α → Except Failure γ}
    {next' : β → Except Failure δ} (first : Agree related result result')
    (rest : ∀ value value', related value value' → Agree related' (next value) (next' value')) :
    Agree related' (result >>= next) (result' >>= next') := by
  cases first with
  | ok alike => exact rest _ _ alike
  | error failure => exact .error failure

/-- Steps that do the same with related values have the same outcome. -/
theorem bind_eq {next : α → Except Failure γ} {next' : β → Except Failure γ}
    (first : Agree related result result')
    (rest : ∀ value value', related value value' → next value = next' value') :
    (result >>= next) = result' >>= next' := by
  cases first with
  | ok alike => exact rest _ _ alike
  | error failure => rfl

/-- Results that agree have equal images under functions that identify related values. -/
theorem map_eq {f : α → γ} {g : β → γ} (agree : Agree related result result')
    (same : ∀ value value', related value value' → f value = g value') :
    result.map f = result'.map g := by
  cases agree with
  | ok alike => exact congrArg Except.ok (same _ _ alike)
  | error failure => rfl

theorem of_map_eq {f : α → γ} {g : β → γ} (same : result.map f = result'.map g) :
    Agree (fun value value' => f value = g value') result result' := by
  cases result with
  | error failure =>
      cases result' with
      | error failure' =>
          cases same
          exact .error failure
      | ok value' => cases same
  | ok value =>
      cases result' with
      | error failure' => cases same
      | ok value' => exact .ok (Except.ok.inj same)

theorem refl (result : Except Failure α) : Agree Eq result result := by
  cases result with
  | ok value => exact .ok rfl
  | error failure => exact .error failure

theorem eq {result result' : Except Failure α} (agree : Agree Eq result result') :
    result = result' := by
  cases agree with
  | ok same => exact congrArg Except.ok same
  | error failure => rfl

end Agree

/-- If the first result is a value, then the second is a value that is related to it. -/
def Entails (related : α → β → Prop) (result : Except Failure α) (result' : Except Failure β) :
    Prop :=
  ∀ value, result = .ok value → ∃ value', result' = .ok value' ∧ related value value'

namespace Entails

variable {related : α → β → Prop} {result : Except Failure α} {result' : Except Failure β}

theorem of_agree (agree : Agree related result result') : Entails related result result' := by
  rintro value rfl
  cases agree with
  | ok alike => exact ⟨_, rfl, alike⟩

theorem imp {related' : α → β → Prop} (entails : Entails related result result')
    (weaker : ∀ value value', related value value' → related' value value') :
    Entails related' result result' := by
  intro value given
  obtain ⟨value', given', alike⟩ := entails value given
  exact ⟨value', given', weaker value value' alike⟩

theorem bind {related' : γ → δ → Prop} {next : α → Except Failure γ}
    {next' : β → Except Failure δ} (first : Entails related result result')
    (rest : ∀ value value', related value value' →
      Entails related' (next value) (next' value')) :
    Entails related' (result >>= next) (result' >>= next') := by
  intro last given
  obtain ⟨value, here, given⟩ := bind_eq_ok_iff.mp given
  obtain ⟨value', here', alike⟩ := first value here
  obtain ⟨last', given', related⟩ := rest value value' alike last given
  exact ⟨last', bind_eq_ok_iff.mpr ⟨value', here', given'⟩, related⟩

theorem trans {related' : β → γ → Prop} {related'' : α → γ → Prop} {result'' : Except Failure γ}
    (first : Entails related result result') (second : Entails related' result' result'')
    (both : ∀ value value' value'', related value value' → related' value' value'' →
      related'' value value'') : Entails related'' result result'' := by
  intro value given
  obtain ⟨value', given', alike⟩ := first value given
  obtain ⟨value'', given'', alike'⟩ := second value' given'
  exact ⟨value'', given'', both value value' value'' alike alike'⟩

end Entails

namespace Recorded

/-- Started on linked journals, both computations have results that agree and leave linked
journals. -/
def Coupled (linked : Journal → Journal → Prop) (related : α → β → Prop)
    (computation : Recorded α) (computation' : Recorded β) : Prop :=
  ∀ before before', linked before before' →
    Agree related (computation.runFrom before).1 (computation'.runFrom before').1 ∧
      linked (computation.runFrom before).2 (computation'.runFrom before').2

section

variable {linked : Journal → Journal → Prop} {related : α → β → Prop}

theorem coupled_ofExcept {result : Except Failure α} {result' : Except Failure β}
    (agree : Agree related result result') :
    Coupled linked related (ofExcept result) (ofExcept result') :=
  fun _ _ same => ⟨agree, same⟩

theorem coupled_pure {value : α} {value' : β} (alike : related value value') :
    Coupled linked related (pure value) (pure value') :=
  coupled_ofExcept (.ok alike)

theorem Coupled.bind {related' : γ → δ → Prop} {computation : Recorded α}
    {computation' : Recorded β} {next : α → Recorded γ} {next' : β → Recorded δ}
    (first : Coupled linked related computation computation')
    (rest : ∀ value value', related value value' →
      Coupled linked related' (next value) (next' value')) :
    Coupled linked related' (computation >>= next) (computation' >>= next') := by
  intro before before' same
  obtain ⟨agree, left⟩ := first before before' same
  rw [runFrom_bind, runFrom_bind]
  generalize computation.runFrom before = run at agree left ⊢
  generalize computation'.runFrom before' = run' at agree left ⊢
  obtain ⟨result, middle⟩ := run
  obtain ⟨result', middle'⟩ := run'
  cases agree with
  | error failure => exact ⟨.error failure, left⟩
  | ok alike => exact rest _ _ alike middle middle' left

theorem Coupled.map {related' : γ → δ → Prop} {computation : Recorded α}
    {computation' : Recorded β} {f : α → γ} {g : β → δ}
    (first : Coupled linked related computation computation')
    (same : ∀ value value', related value value' → related' (f value) (g value')) :
    Coupled linked related' (f <$> computation) (g <$> computation') := by
  rw [← bind_pure_comp, ← bind_pure_comp]
  exact first.bind fun value value' alike => coupled_pure (same value value' alike)

end

/-- Started with the same diagnostics, both computations have results that agree and leave the
same diagnostics. -/
def Parallel (related : α → β → Prop) (computation : Recorded α) (computation' : Recorded β) :
    Prop :=
  ∀ before before' : Journal, before.diagnostics = before'.diagnostics →
    Agree related (computation.runFrom before).1 (computation'.runFrom before').1 ∧
      (computation.runFrom before).2.diagnostics = (computation'.runFrom before').2.diagnostics

variable {related : α → β → Prop}

theorem parallel_ofExcept {result : Except Failure α} {result' : Except Failure β}
    (agree : Agree related result result') :
    Parallel related (ofExcept result) (ofExcept result') := coupled_ofExcept agree

theorem parallel_pure {value : α} {value' : β} (alike : related value value') :
    Parallel related (pure value) (pure value') := coupled_pure alike

theorem parallel_get :
    Parallel (fun journal journal' => journal.diagnostics = journal'.diagnostics)
      (get : Recorded Journal) get :=
  fun _ _ same => ⟨.ok same, same⟩

theorem parallel_report (event event' : Event) : Parallel Eq (report event) (report event') :=
  fun _ _ same => ⟨.ok rfl, same⟩

theorem parallel_noteLookup (id id' : Nat) : Parallel Eq (noteLookup id) (noteLookup id') :=
  fun _ _ same => ⟨.ok rfl, same⟩

theorem parallel_diagnose (diagnostic : Diagnostic) :
    Parallel Eq (diagnose diagnostic) (diagnose diagnostic) :=
  fun _ _ same => ⟨.ok rfl, congrArg (· ++ [diagnostic]) same⟩

theorem Parallel.bind {related' : γ → δ → Prop} {computation : Recorded α}
    {computation' : Recorded β} {next : α → Recorded γ} {next' : β → Recorded δ}
    (first : Parallel related computation computation')
    (rest : ∀ value value', related value value' → Parallel related' (next value) (next' value')) :
    Parallel related' (computation >>= next) (computation' >>= next') :=
  Coupled.bind first rest

theorem Parallel.map {related' : γ → δ → Prop} {computation : Recorded α}
    {computation' : Recorded β} {f : α → γ} {g : β → δ}
    (first : Parallel related computation computation')
    (same : ∀ value value', related value value' → related' (f value) (g value')) :
    Parallel related' (f <$> computation) (g <$> computation') :=
  Coupled.map first same

/-- Computations are parallel if their images are. -/
theorem parallel_of_map {computation : Recorded α} {computation' : Recorded β} {f : α → γ}
    {g : β → γ} (images : Parallel Eq (f <$> computation) (g <$> computation')) :
    Parallel (fun value value' => f value = g value') computation computation' := by
  intro before before' same
  obtain ⟨agree, left⟩ := images before before' same
  rw [runFrom_map, runFrom_map] at agree left
  exact ⟨.of_map_eq agree.eq, left⟩

end Recorded

end SourceOutline
