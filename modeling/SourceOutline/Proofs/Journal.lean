import SourceOutline.Journal

/-!
# What a recorded computation gives

`runFrom` starts a computation on a given journal. `Gives` says that it succeeds there, with
which value and which journal; the equivalences below take a sequence of steps apart one
step at a time, so proofs about a successful run never look into the monad.

An additive computation never reads the journal: it has one outcome, and it appends the same
notes to whatever was noted before. So a sequence of such computations is known from what each
of them does on the empty journal, where it fails as well as where it succeeds. A computation
succeeds if it gives a value on every journal; `Defined` says the same of one that keeps none.
-/

namespace SourceOutline

section

variable {α β : Type} {result : Except Failure α}

theorem bind_eq_ok_iff {ε : Type} {result : Except ε α} {next : α → Except ε β} {value : β} :
    (result >>= next) = .ok value ↔ ∃ first, result = .ok first ∧ next first = .ok value := by
  cases result with
  | error failure => exact ⟨nofun, nofun⟩
  | ok first => exact ⟨fun rest => ⟨first, rfl, rest⟩, by rintro ⟨_, ⟨⟩, rest⟩; exact rest⟩

theorem bind_error {failure : Failure} (failed : result = .error failure)
    (next : α → Except Failure β) : (result >>= next) = .error failure := by
  rw [failed]
  rfl

theorem map_eq_ok_iff {f : α → β} {value : β} :
    result.map f = .ok value ↔ ∃ first, result = .ok first ∧ f first = value := by
  cases result with
  | error failure => exact ⟨nofun, nofun⟩
  | ok first => simp [Except.map]

/-- The result is a value and no failure. -/
def Defined (result : Except Failure α) : Prop := ∃ value, result = .ok value

instance : Decidable (Defined result) :=
  match result with
  | .ok value => isTrue ⟨value, rfl⟩
  | .error _ => isFalse nofun

theorem defined_ok (value : α) : Defined (.ok value) := ⟨value, rfl⟩

theorem Defined.bind {next : α → Except Failure β} (first : Defined result)
    (rest : ∀ value, result = .ok value → Defined (next value)) : Defined (result >>= next) := by
  obtain ⟨value, given⟩ := first
  obtain ⟨final, ends⟩ := rest value given
  exact ⟨final, bind_eq_ok_iff.mpr ⟨value, given, ends⟩⟩

/-- The first step is known. -/
theorem defined_bind_of_eq {next : α → Except Failure β} {value : α} (given : result = .ok value)
    (rest : Defined (next value)) : Defined (result >>= next) := by
  rw [given]
  exact rest

theorem Defined.map (first : Defined result) (f : α → β) : Defined (result.map f) := by
  obtain ⟨value, rfl⟩ := first
  exact ⟨f value, rfl⟩

end

namespace Journal

attribute [ext] Journal

/-- One journal behind another. -/
instance : Append Journal where
  append first second :=
    { events := first.events ++ second.events
      diagnostics := first.diagnostics ++ second.diagnostics
      lookups := first.lookups ++ second.lookups }

theorem append_empty (journal : Journal) : journal ++ ({} : Journal) = journal :=
  Journal.ext (List.append_nil _) (List.append_nil _) (List.append_nil _)

theorem append_assoc (first second third : Journal) :
    first ++ second ++ third = first ++ (second ++ third) :=
  Journal.ext (List.append_assoc ..) (List.append_assoc ..) (List.append_assoc ..)

/-- Journals in a row. -/
def concat : List Journal → Journal
  | [] => {}
  | journal :: journals => journal ++ concat journals

theorem diagnostics_concat (journals : List Journal) :
    (concat journals).diagnostics = journals.flatMap Journal.diagnostics := by
  induction journals with
  | nil => rfl
  | cons journal journals ih => exact congrArg (journal.diagnostics ++ ·) ih

end Journal

namespace Recorded

variable {α β : Type}

def runFrom (computation : Recorded α) (before : Journal) : Except Failure α × Journal :=
  StateT.run (ExceptT.run computation) before

theorem run_eq_runFrom (computation : Recorded α) : run computation = computation.runFrom {} := rfl

@[simp] theorem runFrom_pure (value : α) (before : Journal) :
    (pure value : Recorded α).runFrom before = (.ok value, before) := rfl

@[simp] theorem runFrom_ofExcept (result : Except Failure α) (before : Journal) :
    (ofExcept result).runFrom before = (result, before) := rfl

theorem runFrom_bind (computation : Recorded α) (next : α → Recorded β) (before : Journal) :
    (computation >>= next).runFrom before =
      match computation.runFrom before with
      | (.ok value, middle) => (next value).runFrom middle
      | (.error failure, middle) => (.error failure, middle) := by
  rcases outcome : computation.runFrom before with ⟨result, middle⟩
  change StateT.run (ExceptT.run (computation >>= next)) before = _
  change StateT.run (ExceptT.run computation) before = (result, middle) at outcome
  rw [ExceptT.run_bind, StateT.run_bind]
  rw [outcome]
  cases result <;> rfl

/-- Started on the journal `before`, the computation succeeds with `value` and leaves the
journal `after`. -/
def Gives (computation : Recorded α) (before : Journal) (value : α) (after : Journal) : Prop :=
  computation.runFrom before = (.ok value, after)

variable {before after : Journal}

/-- A computation gives one value. -/
theorem Gives.unique {computation : Recorded α} {value other : α} {after' : Journal}
    (given : computation.Gives before value after)
    (again : computation.Gives before other after') : value = other :=
  Except.ok.inj (congrArg Prod.fst (given.symm.trans again))

theorem gives_pure_iff {value other : α} :
    (pure value : Recorded α).Gives before other after ↔ value = other ∧ before = after := by
  simp [Gives]

theorem gives_ofExcept_iff {result : Except Failure α} {value : α} :
    (ofExcept result).Gives before value after ↔ result = .ok value ∧ before = after := by
  simp [Gives]

theorem gives_bind_iff {computation : Recorded α} {next : α → Recorded β} {value : β} :
    (computation >>= next).Gives before value after ↔
      ∃ first middle, computation.Gives before first middle ∧
        (next first).Gives middle value after := by
  simp only [Gives, runFrom_bind]
  rcases computation.runFrom before with ⟨_ | first, middle⟩
  · simp
  · constructor
    · intro rest
      exact ⟨first, middle, rfl, rest⟩
    · rintro ⟨_, _, same, rest⟩
      cases same
      exact rest

theorem runFrom_map (f : α → β) (computation : Recorded α) (before : Journal) :
    (f <$> computation).runFrom before =
      ((computation.runFrom before).1.map f, (computation.runFrom before).2) := by
  rw [← bind_pure_comp, runFrom_bind]
  rcases computation.runFrom before with ⟨_ | value, middle⟩ <;> rfl

/-- The computation has one outcome and appends the same notes to every journal. -/
def Additive (computation : Recorded α) : Prop :=
  ∀ before, computation.runFrom before = ((run computation).1, before ++ (run computation).2)

theorem additive_ofExcept (result : Except Failure α) : Additive (ofExcept result) := by
  intro before
  exact congrArg (Prod.mk result) before.append_empty.symm

theorem additive_pure (value : α) : Additive (pure value : Recorded α) :=
  additive_ofExcept (.ok value)

theorem additive_noteLookup (id : Nat) : Additive (noteLookup id) := by
  intro before
  exact congrArg (Prod.mk (Except.ok ())) (Journal.ext (List.append_nil _).symm
    (List.append_nil _).symm rfl)

theorem additive_diagnose (diagnostic : Diagnostic) : Additive (diagnose diagnostic) := by
  intro before
  exact congrArg (Prod.mk (Except.ok ())) (Journal.ext rfl rfl (List.append_nil _).symm)

theorem Additive.run_bind {computation : Recorded α} {next : α → Recorded β}
    (rest : ∀ value, Additive (next value)) :
    run (computation >>= next) =
      match run computation with
      | (.ok value, notes) => ((run (next value)).1, notes ++ (run (next value)).2)
      | (.error failure, notes) => (.error failure, notes) := by
  rw [run_eq_runFrom, runFrom_bind, ← run_eq_runFrom]
  rcases run computation with ⟨_ | value, notes⟩
  · rfl
  · exact rest value notes

theorem Additive.bind {computation : Recorded α} {next : α → Recorded β}
    (first : Additive computation) (rest : ∀ value, Additive (next value)) :
    Additive (computation >>= next) := by
  intro before
  rw [Additive.run_bind rest, runFrom_bind, first before]
  rcases run computation with ⟨_ | value, notes⟩
  · rfl
  · change (next value).runFrom (before ++ notes) = _
    rw [rest value (before ++ notes), Journal.append_assoc]

theorem Additive.map {computation : Recorded α} (first : Additive computation) (f : α → β) :
    Additive (f <$> computation) := by
  rw [← bind_pure_comp]
  exact first.bind fun _ => additive_pure _

/-- What an additive computation gives on some journal, it gives on the empty one. -/
theorem Additive.run_eq {computation : Recorded α} {value : α} (additive : Additive computation)
    (given : computation.Gives before value after) :
    (run computation).1 = .ok value ∧ after = before ++ (run computation).2 := by
  have same := (additive before).symm.trans given
  exact ⟨congrArg Prod.fst same, (congrArg Prod.snd same).symm⟩

/-- The reason for which a computation fails. -/
def failure? (computation : Recorded α) : Option Failure :=
  match (run computation).1 with
  | .ok _ => none
  | .error failure => some failure

theorem failure?_map (f : α → β) (computation : Recorded α) :
    (f <$> computation).failure? = computation.failure? := by
  rw [failure?, failure?, run_eq_runFrom, runFrom_map, ← run_eq_runFrom]
  rcases run computation with ⟨_ | value, notes⟩ <;> rfl

/-- The computation fails in the same way on every journal; what it gives may differ. -/
def Uniform (computation : Recorded α) : Prop := Additive ((fun _ => ()) <$> computation)

theorem Additive.uniform {computation : Recorded α} (additive : Additive computation) :
    Uniform computation := additive.map _

theorem Uniform.error_iff {computation : Recorded α} (uniform : Uniform computation)
    (before : Journal) {failure : Failure} :
    (computation.runFrom before).1 = .error failure ↔ computation.failure? = some failure := by
  have same : (computation.runFrom before).1.map (fun _ => ()) =
      (run computation).1.map (fun _ => ()) := by
    have outcome := congrArg Prod.fst (uniform before)
    rwa [runFrom_map, run_eq_runFrom, runFrom_map] at outcome
  rw [failure?]
  cases first : (computation.runFrom before).1 <;> cases second : (run computation).1 <;>
    simp_all [Except.map]

/-- The computation gives something on a journal exactly if it does not fail. -/
theorem Uniform.gives_iff {computation : Recorded α} (uniform : Uniform computation)
    (before : Journal) :
    (∃ value after, computation.Gives before value after) ↔ computation.failure? = none := by
  constructor
  · rintro ⟨value, after, given⟩
    rw [Option.eq_none_iff_forall_ne_some]
    intro failure failed
    cases (congrArg Prod.fst given).symm.trans ((uniform.error_iff before).mpr failed)
  · intro success
    rcases outcome : computation.runFrom before with ⟨failure | value, after⟩
    · rw [(uniform.error_iff before).mp (congrArg Prod.fst outcome)] at success
      cases success
    · exact ⟨value, after, outcome⟩

section

variable {step : α → Recorded Unit}

theorem additive_forM (each : ∀ item, Additive (step item)) (items : List α) :
    Additive (forM items step) := by
  induction items with
  | nil => exact additive_pure _
  | cons item rest ih =>
      rw [List.forM_cons]
      exact (each item).bind fun _ => ih

/-- Steps in a row have the outcome of the first step that fails. -/
theorem failure?_forM (each : ∀ item, Additive (step item)) (items : List α) :
    (forM items step).failure? = items.findSome? fun item => (step item).failure? := by
  induction items with
  | nil => rfl
  | cons item rest ih =>
      rw [List.forM_cons, List.findSome?_cons, failure?, failure?,
        Additive.run_bind fun _ => additive_forM each rest]
      rcases run (step item) with ⟨_ | _, notes⟩
      · rfl
      · exact ih

/-- Steps in a row that do not fail leave their notes in a row. -/
theorem notes_forM (each : ∀ item, Additive (step item)) {items : List α}
    (success : (forM items step).failure? = none) :
    (run (forM items step)).2 = Journal.concat (items.map fun item => (run (step item)).2) := by
  induction items with
  | nil => rfl
  | cons item rest ih =>
      rw [failure?_forM each, List.findSome?_cons, failure?] at success
      rw [List.forM_cons, Additive.run_bind fun _ => additive_forM each rest, List.map_cons,
        Journal.concat]
      rcases outcome : run (step item) with ⟨_ | _, notes⟩
      · simp [outcome] at success
      · simp only [outcome] at success
        rw [← failure?_forM each] at success
        rw [← ih success]

end

/-- The computation gives a value on every journal. -/
def Succeeds (computation : Recorded α) : Prop :=
  ∀ before, ∃ value after, computation.Gives before value after

theorem succeeds_pure (value : α) : Succeeds (pure value : Recorded α) :=
  fun before => ⟨value, before, rfl⟩

theorem succeeds_ofExcept {result : Except Failure α} (defined : Defined result) :
    Succeeds (ofExcept result) := by
  obtain ⟨value, rfl⟩ := defined
  exact fun before => ⟨value, before, rfl⟩

theorem succeeds_report (event : Event) : Succeeds (report event) := fun _ => ⟨(), _, rfl⟩

theorem succeeds_diagnose (diagnostic : Diagnostic) : Succeeds (diagnose diagnostic) :=
  fun _ => ⟨(), _, rfl⟩

theorem succeeds_noteLookup (id : Nat) : Succeeds (noteLookup id) := fun _ => ⟨(), _, rfl⟩

/-- What comes second may rely on what the first step gives. -/
theorem Succeeds.bind {computation : Recorded α} {next : α → Recorded β}
    (first : Succeeds computation)
    (rest : ∀ before value after, computation.Gives before value after → Succeeds (next value)) :
    Succeeds (computation >>= next) := by
  intro before
  obtain ⟨value, middle, given⟩ := first before
  obtain ⟨final, after, ends⟩ := rest before value middle given middle
  exact ⟨final, after, gives_bind_iff.mpr ⟨value, middle, given, ends⟩⟩

theorem succeeds_bind_of_eq {result : Except Failure α} {next : α → Recorded β} {value : α}
    (given : result = .ok value) (rest : Succeeds (next value)) :
    Succeeds (ofExcept result >>= next) := by
  rw [given]
  exact rest

end Recorded

end SourceOutline
