import SourceOutline.Settings.Load

/-!
# Loading one section

The variables of a section are read before anything is checked, and each field takes its value
from its own variable. A single field that is given replaces that value and touches no other, so
the section with a given field is the checked form of the same values with one of them put in.
-/

namespace SourceOutline.Json

theorem lookup_put_self {α : Type} (key : String) (value : α) (members : List (String × α)) :
    (put key value members).lookup key = some value := by
  induction members with
  | nil => simp [put]
  | cons member members ih =>
      rw [put]
      split
      · next same =>
        subst same
        simp
      · next ne =>
        rw [List.lookup_cons, beq_eq_false_iff_ne.mpr (Ne.symm ne)]
        exact ih

theorem lookup_put_of_ne {α : Type} {key other : String} (ne : other ≠ key) (value : α)
    (members : List (String × α)) :
    (put key value members).lookup other = members.lookup other := by
  induction members with
  | nil => simp [put, ne]
  | cons member members ih =>
      rw [put]
      split
      · next same =>
        subst same
        rw [List.lookup_cons, List.lookup_cons, beq_eq_false_iff_ne.mpr ne]
      · rw [List.lookup_cons, List.lookup_cons, ih]

end SourceOutline.Json

namespace SourceOutline.Settings

theorem exists_of_bind_ok {α β : Type} {result : Except Refusal α} {next : α → Except Refusal β}
    {value : β} (loaded : (result >>= next) = .ok value) :
    ∃ first, result = .ok first ∧ next first = .ok value := by
  cases result with
  | error refusal => cases loaded
  | ok first => exact ⟨first, rfl, loaded⟩

section

variable {α : Type} {values : List (String × Json)} {name : String} {default : α}
  {check : Json → Except (List Problem) α}

/-- A field is its value, read. -/
theorem field_single {json : Json} {value : α} (read : check json = .ok value) :
    field [(name, json)] name default check = ([], value) := by
  unfold field
  rw [List.lookup_cons, beq_self_eq_true]
  dsimp only
  rw [read]

theorem field_single_congr {json other : Json} (alike : check json = check other) :
    field [(name, json)] name default check = field [(name, other)] name default check := by
  unfold field
  rw [List.lookup_cons, List.lookup_cons, beq_self_eq_true]
  dsimp only
  rw [alike]

/-- A field whose value is put in is read from this value. -/
@[simp] theorem field_put_self (json : Json) :
    field (Json.put name json values) name default check =
      field [(name, json)] name default check := by
  unfold field
  rw [Json.lookup_put_self, List.lookup_cons, beq_self_eq_true]

/-- A field without problems keeps its default or has what is read from its value. -/
theorem field_cases (reported : ∀ json problems, check json = .error problems → problems ≠ [])
    (sound : (field values name default check).1 = []) :
    (values.lookup name = none ∧ (field values name default check).2 = default) ∨
      ∃ json, values.lookup name = some json ∧
        check json = .ok (field values name default check).2 := by
  revert sound
  unfold field
  cases values.lookup name with
  | none => exact fun _ => .inl ⟨rfl, rfl⟩
  | some json =>
      dsimp only
      cases checked : check json with
      | ok value => exact fun _ => .inr ⟨json, rfl, checked⟩
      | error problems =>
          exact fun sound => absurd (List.map_eq_nil_iff.mp sound) (reported json problems checked)

/-- The other fields do not change. -/
theorem field_put_of_ne {other : String} (ne : other ≠ name) (json : Json) :
    field (Json.put name json values) other default check = field values other default check := by
  unfold field
  rw [Json.lookup_put_of_ne ne]

end

section

variable {rules : Rules} {environment : Environment} {fields : List (String × Shape)}
  {values : List (String × Json)} {name : String} {shape : Shape}

/-- One variable is read, and then the others. -/
theorem exists_of_readVariables_cons {field : String × Shape}
    (read : readVariables rules environment (field :: fields) = .ok values) :
    ∃ value others, fromEnvironment rules environment field.1 field.2 = .ok value ∧
      readVariables rules environment fields = .ok others ∧
      values = (value.map fun json => (field.1, json)).toList ++ others := by
  unfold readVariables at read
  obtain ⟨value, first, read⟩ := exists_of_bind_ok read
  obtain ⟨others, rest, read⟩ := exists_of_bind_ok read
  exact ⟨value, others, first, rest, (Except.ok.inj read).symm⟩

/-- A value in front is found under its own name only. -/
theorem lookup_optional_append (key : String) (value : Option Json)
    (others : List (String × Json)) :
    ((value.map fun json => (key, json)).toList ++ others).lookup name =
      if name = key then value.or (others.lookup name) else others.lookup name := by
  cases value with
  | none => simp
  | some json =>
      rw [Option.map_some, Option.toList_some, List.singleton_append, List.lookup_cons]
      split
      · next same => rw [if_pos (beq_iff_eq.mp same), Option.some_or]
      · next other => rw [if_neg (beq_eq_false_iff_ne.mp other)]

theorem lookup_readVariables_of_not_mem (unlisted : name ∉ fields.map (·.1))
    (read : readVariables rules environment fields = .ok values) : values.lookup name = none := by
  induction fields generalizing values with
  | nil =>
      cases read
      rfl
  | cons field fields ih =>
      rw [List.map_cons, List.mem_cons, not_or] at unlisted
      obtain ⟨value, others, -, rest, rfl⟩ := exists_of_readVariables_cons read
      rw [lookup_optional_append, if_neg unlisted.1, ih unlisted.2 rest]

/-- A field has the value of its own variable. -/
theorem lookup_readVariables (listed : (name, shape) ∈ fields) (distinct : (fields.map (·.1)).Nodup)
    (read : readVariables rules environment fields = .ok values) :
    fromEnvironment rules environment name shape = .ok (values.lookup name) := by
  induction fields generalizing values with
  | nil => cases listed
  | cons field fields ih =>
      rw [List.map_cons, List.nodup_cons] at distinct
      obtain ⟨value, others, first, rest, rfl⟩ := exists_of_readVariables_cons read
      rw [lookup_optional_append]
      rcases List.mem_cons.mp listed with rfl | later
      · rw [if_pos rfl, lookup_readVariables_of_not_mem distinct.1 rest, Option.or_none, first]
      · have other : name ≠ field.1 := fun same =>
          distinct.1 (List.mem_map.mpr ⟨(name, shape), later, same⟩)
        rw [if_neg other]
        exact ih later distinct.2 rest

theorem readVariables_of_unset
    (unset : ∀ field ∈ fields, fromEnvironment rules environment field.1 field.2 = .ok none) :
    readVariables rules environment fields = .ok [] := by
  induction fields with
  | nil => rfl
  | cons field fields ih =>
      unfold readVariables
      have rest := ih fun other later => unset other (List.mem_cons_of_mem _ later)
      rw [unset field List.mem_cons_self, rest]
      rfl

/-- If the variable of only one field is set, its value is all there is. -/
theorem readVariables_of_alone (listed : (name, shape) ∈ fields)
    (distinct : (fields.map (·.1)).Nodup)
    (alone : ∀ field ∈ fields, field.1 ≠ name →
      fromEnvironment rules environment field.1 field.2 = .ok none) :
    readVariables rules environment fields =
      (fromEnvironment rules environment name shape).map fun value =>
        (value.map fun json => (name, json)).toList := by
  induction fields with
  | nil => cases listed
  | cons field fields ih =>
      rw [List.map_cons, List.nodup_cons] at distinct
      unfold readVariables
      rcases List.mem_cons.mp listed with rfl | later
      · have unset : readVariables rules environment fields = .ok [] :=
          readVariables_of_unset fun other later =>
            alone other (List.mem_cons_of_mem _ later) fun same =>
              distinct.1 (List.mem_map.mpr ⟨other, later, same⟩)
        rw [unset]
        cases fromEnvironment rules environment name shape with
        | error refusal => rfl
        | ok value => exact congrArg Except.ok (List.append_nil _)
      · have other : field.1 ≠ name := fun same =>
          distinct.1 (List.mem_map.mpr ⟨(name, shape), later, same.symm⟩)
        rw [alone field List.mem_cons_self other,
          ih later distinct.2 fun other among => alone other (List.mem_cons_of_mem _ among)]
        cases fromEnvironment rules environment name shape <;> rfl

/-- Where parts cannot be named, a field without a variable has no value. -/
theorem fromEnvironment_of_unset (unset : rules.valueOf? environment name = none)
    (whole : rules.delimiter = "") : fromEnvironment rules environment name shape = .ok none := by
  unfold fromEnvironment
  rw [unset]
  cases shape with
  | plain => rfl
  | structured =>
      have no_part : rules.hasPart environment name = false := by simp [Rules.hasPart, whole]
      dsimp only
      rw [no_part]
      rfl

/-- The variable of a list or another structure is read as JSON. -/
theorem fromEnvironment_of_set {text : String} (set : rules.valueOf? environment name = some text)
    (no_null : rules.nullText = none) :
    fromEnvironment rules environment name .structured =
      match Json.parse text with
      | .ok .null => .ok none
      | .ok json => .ok (some json)
      | .error .deepNesting => .error .deepNesting
      | .error _ => .error (.malformed name) := by
  unfold fromEnvironment
  rw [set, no_null]
  rfl

theorem valueOf?_nil : rules.valueOf? [] name = none := rfl

end

section

variable {fields : List (String × Shape)} {name : String} {shape : Shape} {json : Json}

/-- A field is no directive, so it leaves the rules as they are. -/
theorem Rules.direct_single {rules : Rules} (undirected : name ∉ directiveNames) :
    rules.direct [(name, json)] = rules := by
  have absent (directive : String) (among : directive ∈ directiveNames) :
      [(name, json)].lookup directive = none := by
    have ne : directive ≠ name := fun same => undirected (same ▸ among)
    rw [List.lookup_cons, beq_eq_false_iff_ne.mpr ne]
    rfl
  unfold direct
  dsimp only
  rw [absent "_env_prefix" (by decide), absent "_case_sensitive" (by decide),
    absent "_env_ignore_empty" (by decide), absent "_env_parse_none_str" (by decide),
    absent "_env_nested_delimiter" (by decide)]
  rfl

/-- A field in lower case is meant by its own name. -/
theorem canonical_single (listed : (name, shape) ∈ fields) (lower : Text.lowerCase name = name) :
    canonical fields [(name, json)] = [(name, json)] := by
  obtain ⟨known, found⟩ : ∃ known, fields.find? (fun known => known.1 == name) = some known :=
    Option.isSome_iff_exists.mp (List.find?_isSome.mpr ⟨_, listed, beq_self_eq_true name⟩)
  have called := List.find?_some found
  have same : known.1 = name := beq_iff_eq.mp called
  rw [canonical, List.foldl_cons, List.foldl_nil]
  dsimp only
  rw [lower, found, Option.map_some, Option.getD_some, same]
  rfl

theorem unknownNames_single (listed : (name, shape) ∈ fields) :
    unknownNames fields [(name, json)] = [] := by
  rw [unknownNames, List.map_eq_nil_iff, List.filter_eq_nil_iff]
  intro entry member unlisted
  cases List.mem_singleton.mp member
  have unequal := List.all_eq_true.mp unlisted _ listed
  exact bne_iff_ne.mp unequal rfl

end

namespace Section

variable {α : Type} (spec : Section α) (environment : Environment)

/-- The checked form of the values of a section, or all that is wrong with them. -/
def accept (values : List (String × Json)) : Except Refusal α :=
  match (spec.check values).1 with
  | [] => .ok (spec.check values).2
  | found => .error (.invalid found)

theorem accept_eq_ok_iff {values : List (String × Json)} {value : α} :
    spec.accept values = .ok value ↔ spec.check values = ([], value) := by
  unfold accept
  obtain ⟨problems, checked⟩ := spec.check values
  cases problems with
  | nil => simp
  | cons problem problems => simp

/-- What is given, if it holds no directives and only known names, is put into the values of the
variables. -/
theorem load_eq {given members : List (String × Json)}
    (undirected : spec.rules.direct given = spec.rules)
    (meant : canonical spec.fields
      (given.filter fun entry => !directiveNames.contains entry.1) = members)
    (known : unknownNames spec.fields members = []) :
    spec.load environment given =
      readVariables spec.rules environment spec.fields >>= fun values =>
        spec.accept
          (members.foldl (fun values entry => Json.put entry.1 entry.2 values) values) := by
  unfold load
  dsimp only
  rw [undirected, meant, known]
  refine congrArg (Except.bind _) (funext fun values => ?_)
  rw [List.append_nil]
  rfl

/-- A section for which nothing is given is the checked form of its variables. -/
theorem load_nil :
    spec.load environment [] = readVariables spec.rules environment spec.fields >>= spec.accept :=
  spec.load_eq environment rfl rfl rfl

/-- A field that is given takes the place of its variable. -/
theorem load_single {name : String} {shape : Shape} (listed : (name, shape) ∈ spec.fields)
    (lower : Text.lowerCase name = name) (undirected : name ∉ directiveNames) (json : Json) :
    spec.load environment [(name, json)] =
      readVariables spec.rules environment spec.fields >>= fun values =>
        spec.accept (Json.put name json values) := by
  have kept : (!directiveNames.contains name) = true := by simpa using undirected
  have meant : canonical spec.fields
      ([(name, json)].filter fun entry => !directiveNames.contains entry.1) = [(name, json)] := by
    rw [List.filter_cons, if_pos kept, List.filter_nil, canonical_single listed lower]
  exact spec.load_eq environment (Rules.direct_single undirected) meant
    (unknownNames_single listed)

end Section

end SourceOutline.Settings
