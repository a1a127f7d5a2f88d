import SourceOutline.Proofs.Settings.CommaList
import SourceOutline.Proofs.Settings.Section

/-!
# List settings

Three settings are lists of strings. A list that is given to a section, itself or as a text with
commas, takes the place of the one that would stand there, and nothing else changes. Any text may be
given so, and counts as the items that it holds; reading it is a retraction onto lists of items.

A variable of the environment is not treated so, since it is read as JSON before the field is looked
at: a text with commas is refused there, or stands for something else than its items.
-/

namespace SourceOutline.Settings

/-- The settings that are lists of strings. -/
inductive ListField where
  | fileExtensions
  | ignorePatterns
  | corsOrigins

namespace ListField

/-- The settings of the section that a list stands in. -/
def Holder : ListField → Type
  | fileExtensions | ignorePatterns => ExtractorSettings
  | corsOrigins => ApiSettings

def spec : (field : ListField) → Section field.Holder
  | fileExtensions | ignorePatterns => extractorSection
  | corsOrigins => apiSection

def name : ListField → String
  | fileExtensions => "file_extensions"
  | ignorePatterns => "ignore_patterns"
  | corsOrigins => "cors_origins"

def items : (field : ListField) → field.Holder → List String
  | fileExtensions => ExtractorSettings.fileExtensions
  | ignorePatterns => ExtractorSettings.ignorePatterns
  | corsOrigins => ApiSettings.corsOrigins

/-- The same settings with another list. -/
def withItems : (field : ListField) → List String → field.Holder → field.Holder
  | fileExtensions, list, settings => { (settings : ExtractorSettings) with fileExtensions := list }
  | ignorePatterns, list, settings => { (settings : ExtractorSettings) with ignorePatterns := list }
  | corsOrigins, list, settings => { (settings : ApiSettings) with corsOrigins := list }

theorem listed (field : ListField) : (field.name, Shape.structured) ∈ field.spec.fields := by
  cases field <;> decide

theorem distinct (field : ListField) : (field.spec.fields.map (·.1)).Nodup := by
  cases field <;> decide

theorem lowerCase_name (field : ListField) : Text.lowerCase field.name = field.name := by
  cases field <;> decide

theorem undirected (field : ListField) : field.name ∉ directiveNames := by
  cases field <;> decide

/-- The section for which nothing is set or given. -/
def defaults (field : ListField) : field.Holder := (field.spec.check []).2

/-- The defaults pass their own check. -/
theorem load_defaults (field : ListField) : field.spec.load [] [] = .ok field.defaults := by
  cases field <;> rfl

/-- The list that stands there if nothing is set or given. -/
def fallback (field : ListField) : List String := field.items field.defaults

/-- The problems with the value of a list, and the list. -/
def reading (field : ListField) (values : List (String × Json)) : List Problem × List String :=
  Settings.field values field.name field.fallback readStrings

variable (field : ListField) {values : List (String × Json)}

/-- The list of a checked section is the one that is read. -/
theorem items_check (values : List (String × Json)) :
    field.items (field.spec.check values).2 = (field.reading values).2 := by
  cases field <;> rfl

/-- The problems with the list are among those of the section. -/
theorem reading_problems_subset (values : List (String × Json)) :
    (field.reading values).1 ⊆ (field.spec.check values).1 := by
  intro problem member
  cases field with
  | fileExtensions =>
      exact List.mem_append_left _ (List.mem_append_left _ (List.mem_append_left _ member))
  | ignorePatterns => exact List.mem_append_right _ member
  | corsOrigins => exact List.mem_append_left _ (List.mem_append_right _ member)

/-- Put into a section, a value counts for what is read from it. -/
theorem check_put_congr {json other : Json} (alike : readStrings json = readStrings other) :
    field.spec.check (Json.put field.name json values) =
      field.spec.check (Json.put field.name other values) := by
  cases field <;>
    simp only [spec, name, extractorSection, apiSection, field_put_self, field_put_of_ne, ne_eq,
      String.reduceEq, not_false_eq_true, field_single_congr alike] <;>
    rfl

/-- A list that is put into a section without problems changes the list and nothing else. -/
theorem check_put {json : Json} {items : List String} (given : readStrings json = .ok items)
    (sound : (field.spec.check values).1 = []) :
    field.spec.check (Json.put field.name json values) =
      ([], field.withItems items (field.spec.check values).2) := by
  cases field <;>
    simp only [spec, extractorSection, apiSection, List.append_eq_nil_iff] at sound <;>
    simp only [spec, name, extractorSection, apiSection, field_put_self, field_put_of_ne, ne_eq,
      String.reduceEq, not_false_eq_true, field_single given, sound, List.append_nil] <;>
    rfl

theorem items_of_sound (sound : (field.spec.check values).1 = []) :
    (values.lookup field.name = none ∧
        field.items (field.spec.check values).2 = field.fallback) ∨
      ∃ json, values.lookup field.name = some json ∧
        readStrings json = .ok (field.items (field.spec.check values).2) := by
  rw [items_check]
  refine field_cases (fun _ _ => ne_nil_of_readStrings_error) (List.eq_nil_of_subset_nil ?_)
  rw [← sound]
  exact field.reading_problems_subset values

variable {environment : Environment} {json : Json}

theorem load_single (environment : Environment) (json : Json) :
    field.spec.load environment [(field.name, json)] =
      readVariables field.spec.rules environment field.spec.fields >>= fun values =>
        field.spec.accept (Json.put field.name json values) :=
  field.spec.load_single environment field.listed field.lowerCase_name field.undirected json

/-- The values that a loaded section was checked from. -/
theorem exists_of_load {settings : field.Holder}
    (loaded : field.spec.load environment [] = .ok settings) :
    ∃ values, readVariables field.spec.rules environment field.spec.fields = .ok values ∧
      field.spec.check values = ([], settings) := by
  rw [Section.load_nil] at loaded
  obtain ⟨values, read, accepted⟩ := exists_of_bind_ok loaded
  exact ⟨values, read, field.spec.accept_eq_ok_iff.mp accepted⟩

theorem load_single_congr {other : Json} (alike : readStrings json = readStrings other) :
    field.spec.load environment [(field.name, json)] =
      field.spec.load environment [(field.name, other)] := by
  rw [load_single, load_single]
  refine congrArg (Except.bind _) (funext fun values => ?_)
  rw [Section.accept, Section.accept, field.check_put_congr alike]

/-- A section that loads without the list loads with it, and nothing else changes. -/
theorem load_single_of_load {items : List String} {settings : field.Holder}
    (given : readStrings json = .ok items)
    (loaded : field.spec.load environment [] = .ok settings) :
    field.spec.load environment [(field.name, json)] = .ok (field.withItems items settings) := by
  obtain ⟨values, read, checked⟩ := field.exists_of_load loaded
  rw [load_single, read]
  refine field.spec.accept_eq_ok_iff.mpr ?_
  rw [field.check_put given (by rw [checked]), checked]

/-- A section to which a list is given has this list, if it loads. -/
theorem items_of_load_single {items : List String} {settings : field.Holder}
    (given : readStrings json = .ok items)
    (loaded : field.spec.load environment [(field.name, json)] = .ok settings) :
    field.items settings = items := by
  rw [load_single] at loaded
  obtain ⟨values, -, accepted⟩ := exists_of_bind_ok loaded
  have taken := field.items_check (Json.put field.name json values)
  rwa [field.spec.accept_eq_ok_iff.mp accepted, reading, field_put_self,
    field_single given] at taken

/-- What a section is if the variable of its list is all that is set: the text is JSON, and its
value counts as if it were given. -/
def decoded (field : ListField) (text : String) : Except Refusal field.Holder :=
  match Json.parse text with
  | .ok .null => field.spec.load [] []
  | .ok json => field.spec.load [] [(field.name, json)]
  | .error .deepNesting => .error .deepNesting
  | .error _ => .error (.malformed field.name)

theorem nullText_eq_none : field.spec.rules.nullText = none := by
  cases field <;> rfl

theorem delimiter_eq : field.spec.rules.delimiter = "" := by
  cases field <;> rfl

section

variable {text : String} (set : field.spec.rules.valueOf? environment field.name = some text)

include set

/-- The list of a section whose variable is set is what the text says as JSON. -/
theorem items_of_load {settings : field.Holder}
    (loaded : field.spec.load environment [] = .ok settings) :
    ∃ json, Json.parse text = .ok json ∧
      (json = .null ∧ field.items settings = field.fallback ∨
        readStrings json = .ok (field.items settings)) := by
  obtain ⟨values, read, checked⟩ := field.exists_of_load loaded
  have value := lookup_readVariables field.listed field.distinct read
  have sound : (field.spec.check values).1 = [] := by rw [checked]
  have holds := field.items_of_sound sound
  rw [fromEnvironment_of_set set field.nullText_eq_none] at value
  rw [checked] at holds
  split at value
  · next null =>
    refine ⟨.null, null, ?_⟩
    rcases holds with ⟨-, kept⟩ | ⟨json, found, -⟩
    · exact .inl ⟨rfl, kept⟩
    · cases (Except.ok.inj value).trans found
  · next json _ parsed =>
    refine ⟨json, parsed, .inr ?_⟩
    rcases holds with ⟨missing, -⟩ | ⟨other, found, taken⟩
    · cases (Except.ok.inj value).trans missing
    · cases (Except.ok.inj value).trans found
      exact taken
  · cases value
  · cases value

/-- If no other variable of the section is set, the section is the decoded text. -/
theorem load_of_alone
    (alone : ∀ other ∈ field.spec.fields, other.1 ≠ field.name →
      field.spec.rules.valueOf? environment other.1 = none) :
    field.spec.load environment [] = field.decoded text := by
  have nothing : readVariables field.spec.rules [] field.spec.fields = .ok [] :=
    readVariables_of_unset fun _ _ => fromEnvironment_of_unset valueOf?_nil field.delimiter_eq
  have only := readVariables_of_alone field.listed field.distinct fun other among ne =>
    fromEnvironment_of_unset (alone other among ne) field.delimiter_eq
  rw [Section.load_nil, only, fromEnvironment_of_set set field.nullText_eq_none, decoded,
    Section.load_nil, nothing]
  cases Json.parse text with
  | error unread => cases unread <;> rfl
  | ok json =>
      cases json with
      | null => rfl
      | bool _ | int _ | float _ | string _ | array _ | object _ =>
          dsimp only
          rw [load_single, nothing]
          rfl

end

theorem inkOf_fallback_ne (field : ListField) : Text.inkOf field.fallback ≠ 4 := by
  cases field <;> decide

/-- What becomes of a text that lists items, given to a section or set in its environment. -/
structure Receives (field : ListField) (items : List String) (text : String)
    (environment : Environment) : Prop where
  /-- The text is as good as the list. -/
  given_alike : field.spec.load environment [(field.name, .string text)] =
    field.spec.load environment [(field.name, .strings items)]
  given_holds : ∀ settings,
    field.spec.load environment [(field.name, .string text)] = .ok settings →
      field.items settings = items
  /-- What loads without the list loads with it, and nothing else changes. -/
  given_loads : ∀ settings, field.spec.load environment [] = .ok settings →
    field.spec.load environment [(field.name, .string text)] = .ok (field.withItems items settings)
  given_alone : field.spec.load [] [(field.name, .string text)] =
    .ok (field.withItems items field.defaults)
  /-- In the environment the text is JSON, and never stands for the items. -/
  set_differs : field.spec.rules.valueOf? environment field.name = some text →
    ∀ settings, field.spec.load environment [] = .ok settings →
      (∃ json, Json.parse text = .ok json ∧
        (json = .null ∧ field.items settings = field.fallback ∨
          readStrings json = .ok (field.items settings))) ∧
      field.items settings ≠ items
  set_alone : field.spec.rules.valueOf? environment field.name = some text →
    (∀ other ∈ field.spec.fields, other.1 ≠ field.name →
      field.spec.rules.valueOf? environment other.1 = none) →
    field.spec.load environment [] = field.decoded text

/-- A text with commas is the list of its items where it is given. Where it is set in the
environment it is not: there it is decoded as JSON before its commas are looked at. -/
theorem receives_of_lists (field : ListField) {items : List String} {text : String}
    (some : items ≠ []) (each : ∀ item ∈ items, IsItem item) (lists : Lists items text)
    (environment : Environment) : field.Receives items text environment := by
  have given : readStrings (.string text) = .ok items :=
    congrArg Except.ok (commaList_of_lists lists some each)
  refine ⟨field.load_single_congr (given.trans (readStrings_strings items).symm),
    fun _ => field.items_of_load_single given, fun _ => field.load_single_of_load given,
    field.load_single_of_load given field.load_defaults, fun set settings loaded => ?_,
    fun set => field.load_of_alone set⟩
  obtain ⟨json, parsed, holds⟩ := field.items_of_load set loaded
  refine ⟨⟨json, parsed, holds⟩, fun same => ?_⟩
  rcases holds with ⟨null, kept⟩ | taken
  · -- the word `null` is an item too, but no default has the ink of it
    apply field.inkOf_fallback_ne
    rw [← kept, same, ← lists.ink_eq some each, (Json.parse_takes parsed).2 null]
  · exact lists.readStrings_ne some each parsed (taken.trans (congrArg Except.ok same))

/-- An environment in which two extensions are set as a text with a comma. -/
def twoExtensions : Environment := [("EXTRACTOR_FILE_EXTENSIONS", ".ts, .mts")]

theorem isItem_of_mem_twoExtensions : ∀ item ∈ [".ts", ".mts"], IsItem item := by
  intro item member
  simp only [List.mem_cons, List.not_mem_nil, or_false] at member
  rcases member with rfl | rfl <;> exact ⟨by decide, by decide, by decide⟩

theorem twoExtensions_lists : Lists [".ts", ".mts"] ".ts, .mts" :=
  ⟨[".ts", " .mts"],
    .cons ⟨[], [], rfl, nofun, nofun⟩
      (.cons ⟨[' '], [], rfl, List.forall_mem_singleton.mpr rfl, nofun⟩ .nil), by decide⟩

theorem twoExtensions_received :
    (∀ item ∈ [".ts", ".mts"], IsItem item) ∧ Lists [".ts", ".mts"] ".ts, .mts" ∧
      fileExtensions.spec.rules.valueOf? twoExtensions "file_extensions" = some ".ts, .mts" ∧
      (∀ other ∈ fileExtensions.spec.fields, other.1 ≠ "file_extensions" →
        fileExtensions.spec.rules.valueOf? twoExtensions other.1 = none) ∧
      fileExtensions.Receives [".ts", ".mts"] ".ts, .mts" twoExtensions :=
  ⟨isItem_of_mem_twoExtensions, twoExtensions_lists, by decide, by decide,
    receives_of_lists fileExtensions (List.cons_ne_nil _ _) isItem_of_mem_twoExtensions
      twoExtensions_lists twoExtensions⟩

/-- No settings are loaded, neither of the section nor of the application: the text is no JSON. -/
theorem twoExtensions_refused :
    (∀ item ∈ [".ts", ".mts"], IsItem item) ∧ Lists [".ts", ".mts"] ".ts, .mts" ∧
      fileExtensions.spec.load twoExtensions [] = .error (.malformed "file_extensions") ∧
      Settings.load twoExtensions = .error (.malformed "file_extensions") :=
  ⟨isItem_of_mem_twoExtensions, twoExtensions_lists, rfl, rfl⟩

/-- Reading texts with commas is a retraction onto lists of items. A text that is given to a section
counts as the items that it holds, in their order, none of which is empty, has a comma or has a
blank at an end. These items are read again when they are joined by commas, and so is every list of
such items, whatever blanks are put around its commas. -/
theorem commaList_retracts (field : ListField) (text : String) :
    field.spec.load [] [(field.name, .string text)] =
        .ok (field.withItems (commaList text) field.defaults) ∧
      (∀ item ∈ commaList text, IsItem item ∧ Text.IsTight item) ∧
      (∀ items, commaList text = items ↔ Holds items text) ∧
      commaList (Text.join ',' (commaList text)) = commaList text ∧
      ∀ (items : List String) (other : String), (∀ item ∈ items, IsItem item) →
        Lists items other → commaList other = items := by
  have each := isItem_of_mem_commaList text
  have back : ∀ (items : List String) (other : String), (∀ item ∈ items, IsItem item) →
      Lists items other → commaList other = items :=
    fun items other sound lists => commaList_eq_iff.mpr (lists.holds sound)
  refine ⟨field.load_single_of_load rfl field.load_defaults, fun item member => ?_,
    fun items => commaList_eq_iff, back _ _ each (lists_join _), back⟩
  exact ⟨each item member, (each item member).isTight⟩

/-- Commas without an item between them, and blanks of two kinds. -/
theorem strayCommas_retracted :
    ".mts" ∈ commaList ",.ts ,, .mts\u3000" ∧ IsItem ".mts" ∧ Text.IsTight ".mts" ∧
      Holds [".ts", ".mts"] ",.ts ,, .mts\u3000" ∧
      (∀ item ∈ [".ts", ".mts"], IsItem item) ∧ Lists [".ts", ".mts"] ".ts, .mts" ∧
      commaList ".ts, .mts" = [".ts", ".mts"] := by
  obtain ⟨-, each, holds, -, back⟩ := commaList_retracts fileExtensions ",.ts ,, .mts\u3000"
  have member : ".mts" ∈ commaList ",.ts ,, .mts\u3000" := by decide
  obtain ⟨isItem, isTight⟩ := each ".mts" member
  exact ⟨member, isItem, isTight, (holds [".ts", ".mts"]).mp (by decide),
    isItem_of_mem_twoExtensions, twoExtensions_lists,
    back _ _ isItem_of_mem_twoExtensions twoExtensions_lists⟩

end ListField

end SourceOutline.Settings
