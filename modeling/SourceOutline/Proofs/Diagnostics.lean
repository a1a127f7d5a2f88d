import Mathlib.Data.List.Forall2
import Mathlib.Data.List.TakeWhile
import SourceOutline.Proofs.Extraction
import SourceOutline.Proofs.Outline.Sequence

/-!
# Diagnostics and unresolved bases

A walk has one reason to record a diagnostic: a class whose base denotes no symbol. `Warns` says
what such a diagnostic holds, its place by the line feeds that stand before it (`Locates`), and
`HasBase` what becomes of the base of a class in each case. One lemma about resolving a base gives
both; the diagnostics of a file are then those of its visible nodes in document order.

Every diagnostic is reported when it is recorded. This is kept by every step, so the events show
the diagnostics of a walk that fails as well.
-/

namespace SourceOutline

/-- The diagnostic that an event reports. -/
def Event.diagnostic? : Event → Option Diagnostic
  | diagnosticRecorded diagnostic => some diagnostic
  | _ => none

/-- The events report the diagnostics, one for one and in order. -/
def Journal.Mirrors (journal : Journal) : Prop :=
  journal.events.filterMap Event.diagnostic? = journal.diagnostics

namespace Recorded

variable {α β : Type}

/-- Whether it fails or not, the computation reports the diagnostics that it records. -/
def Mirroring (computation : Recorded α) : Prop :=
  ∀ before : Journal, before.Mirrors → (computation.runFrom before).2.Mirrors

theorem mirroring_ofExcept (result : Except Failure α) : Mirroring (ofExcept result) :=
  fun _ mirrors => mirrors

theorem mirroring_pure (value : α) : Mirroring (pure value : Recorded α) :=
  fun _ mirrors => mirrors

theorem mirroring_get : Mirroring (get : Recorded Journal) := fun _ mirrors => mirrors

theorem mirroring_noteLookup (id : Nat) : Mirroring (noteLookup id) := fun _ mirrors => mirrors

theorem mirroring_report {event : Event} (other : event.diagnostic? = none) :
    Mirroring (report event) := by
  intro before mirrors
  change (before.events ++ [event]).filterMap Event.diagnostic? = before.diagnostics
  rw [List.filterMap_append, List.filterMap_cons_none other, List.filterMap_nil, List.append_nil]
  exact mirrors

theorem mirroring_diagnose (diagnostic : Diagnostic) : Mirroring (diagnose diagnostic) := by
  intro before mirrors
  change (before.events ++ [Event.diagnosticRecorded diagnostic]).filterMap Event.diagnostic? =
    before.diagnostics ++ [diagnostic]
  rw [List.filterMap_append, show before.events.filterMap _ = _ from mirrors]
  rfl

theorem Mirroring.bind {computation : Recorded α} {next : α → Recorded β}
    (first : Mirroring computation) (rest : ∀ value, Mirroring (next value)) :
    Mirroring (computation >>= next) := by
  intro before mirrors
  have middle := first before mirrors
  rw [runFrom_bind]
  rcases outcome : computation.runFrom before with ⟨_ | value, journal⟩ <;>
    rw [outcome] at middle
  · exact middle
  · exact rest value journal middle

theorem mirroring_map_iff {f : α → β} {computation : Recorded α} :
    Mirroring (f <$> computation) ↔ Mirroring computation := by
  simp only [Mirroring, runFrom_map]

theorem mirroring_forM {step : α → Recorded Unit} (each : ∀ item, Mirroring (step item))
    (items : List α) : Mirroring (forM items step) := by
  induction items with
  | nil => exact mirroring_pure _
  | cons item rest ih =>
      rw [List.forM_cons]
      exact (each item).bind fun _ => ih

end Recorded

section

variable (document : Document) (resolver : Resolver)

theorem Site.mirroring_baseName (site : Site) :
    Recorded.Mirroring (site.baseName document resolver) := by
  refine (Recorded.mirroring_noteLookup _).bind fun _ => ?_
  refine (Recorded.mirroring_ofExcept _).bind fun found => ?_
  cases found with
  | some symbol => exact Recorded.mirroring_pure _
  | none =>
      refine (Recorded.mirroring_ofExcept _).bind fun text => ?_
      exact (Recorded.mirroring_diagnose _).bind fun _ => Recorded.mirroring_pure _

theorem Site.mirroring_classTraits (site : Site) :
    Recorded.Mirroring (site.classTraits document resolver) := by
  refine (Recorded.mirroring_ofExcept _).bind fun node => ?_
  refine (Recorded.mirroring_ofExcept _).bind fun name => ?_
  refine (Recorded.mirroring_ofExcept _).bind fun visibility => ?_
  refine (Recorded.mirroring_ofExcept _).bind fun isAbstract => ?_
  cases site.extendsExpression? with
  | none => exact (Recorded.mirroring_pure _).bind fun _ => Recorded.mirroring_pure _
  | some expression =>
      refine Recorded.Mirroring.bind ?_ fun _ => Recorded.mirroring_pure _
      exact Recorded.mirroring_map_iff.mpr (expression.mirroring_baseName document resolver)

theorem Site.mirroring_inspect (site : Site) :
    Recorded.Mirroring (site.inspect document resolver) := by
  refine (Recorded.mirroring_ofExcept _).bind fun kind? => ?_
  cases kind? with
  | none => exact Recorded.mirroring_pure _
  | some kind =>
      refine Recorded.mirroring_map_iff.mpr ?_
      by_cases isClass : kind = .classLike
      · subst isClass
        exact (site.mirroring_classTraits document resolver).bind fun _ =>
          Recorded.mirroring_pure _
      · obtain ⟨result, reads⟩ := site.contribution_of_ne document isClass
        rw [reads]
        exact Recorded.mirroring_ofExcept result

theorem mirroring_collect (path : String) :
    Recorded.Mirroring (collect document path resolver) := by
  rw [collect_eq_outline]
  have outlined : Recorded.Mirroring (outline document resolver [] document.root) := by
    rw [← Recorded.mirroring_map_iff, outline_root_inspects]
    exact Recorded.mirroring_forM (Site.mirroring_inspect document resolver) _
  refine outlined.bind fun forest => ?_
  exact (Recorded.mirroring_report rfl).bind fun _ => Recorded.mirroring_pure _

/-- The events of an extraction report its diagnostics, wherever it ends. -/
theorem mirroring_extract (path : String) : Recorded.Mirroring (extract document path) := by
  rw [extract_eq]
  refine Recorded.Mirroring.bind ?_ fun scopes => ?_
  · refine (Recorded.mirroring_ofExcept _).bind fun _ => ?_
    exact (Recorded.mirroring_report rfl).bind fun _ => Recorded.mirroring_pure _
  refine Recorded.Mirroring.bind ?_ fun _ => ?_
  · rw [reportErrors]
    split
    · exact Recorded.mirroring_report rfl
    · exact Recorded.mirroring_pure _
  refine (mirroring_collect document _ path).bind fun collected => ?_
  exact Recorded.mirroring_get.bind fun _ => Recorded.mirroring_pure _

end

theorem Text.length_toList (bytes : ByteArray) : bytes.toList.length = bytes.size := by
  have loop (i : Nat) (read : List UInt8) :
      (ByteArray.toList.loop bytes i read).length = bytes.size - i + read.length := by
    fun_induction ByteArray.toList.loop bytes i read with
    | case1 i read more ih =>
        rw [ih, List.length_cons]
        omega
    | case2 i read done =>
        rw [List.length_reverse]
        omega
  exact loop 0 []

namespace Document

/-- A position is the place of an offset. The bytes before the offset are the lines above, each
with its line feed, and the beginning of the line that the offset is on. The line is one more than
the line feeds, and the column counts the bytes from the last line feed. -/
def Locates (document : Document) (offset : Nat) (position : Position) : Prop :=
  ∃ above own : List UInt8, (document.content.extract 0 offset).toList = above ++ own ∧
    (above = [] ∨ above.getLast? = some 10) ∧ 10 ∉ own ∧
    position.line = above.count 10 + 1 ∧ above.length + position.column = offset

variable {document : Document} {position : Position}

/-- The lines above end with the last line feed before the offset. -/
theorem exists_locates (document : Document) (offset : Nat) :
    ∃ position, document.Locates offset position := by
  generalize read : (document.content.extract 0 offset).toList = before
  have bounded : before.length ≤ offset := by
    rw [← read, Text.length_toList, ByteArray.size_extract]
    omega
  let above := (before.reverse.dropWhile (· != 10)).reverse
  let own := (before.reverse.takeWhile (· != 10)).reverse
  have split : before = above ++ own := by
    rw [← List.reverse_append, List.takeWhile_append_dropWhile, List.reverse_reverse]
  have sizes : above.length + own.length = before.length := by
    rw [split, List.length_append]
  refine ⟨⟨above.count 10 + 1, offset - above.length⟩, above, own, read.trans split, ?_, ?_, rfl,
    Nat.add_sub_of_le (by omega)⟩
  · have stopped := List.head?_dropWhile_not (· != 10) before.reverse
    rw [List.getLast?_reverse]
    cases rest : before.reverse.dropWhile (· != 10) with
    | nil => exact .inl (congrArg List.reverse rest)
    | cons byte bytes =>
        rw [rest] at stopped
        exact .inr (congrArg some (by simpa using stopped))
  · intro member
    simpa using List.mem_takeWhile_imp (List.mem_reverse.mp member)

/-- No other position is the place of a node's first byte. -/
theorem Locates.eq_position {node : Node} (located : document.Locates node.head.start position) :
    position = document.position node := by
  obtain ⟨above, own, read, ended, open_, line, column⟩ := located
  have scanned : (above ++ own).reverse.takeWhile (· != 10) = own.reverse := by
    rw [List.reverse_append, List.takeWhile_append_of_pos fun byte member => by
      simpa using ne_of_mem_of_not_mem (List.mem_reverse.mp member) open_]
    obtain rfl | last := ended
    · simp
    · rw [← List.head?_reverse] at last
      obtain ⟨rest, reversed⟩ := List.head?_eq_some_iff.mp last
      simp [reversed]
  have feeds : own.count 10 = 0 := List.count_eq_zero.mpr open_
  rw [Document.position, read, scanned, List.count_append, feeds]
  refine (Position.mk.injEq ..).mpr ⟨line, ?_⟩
  simp only [List.length_append, List.length_reverse]
  omega

/-- The place of a node is told by the line feeds before it. -/
theorem locates_position (document : Document) (node : Node) :
    document.Locates node.head.start (document.position node) := by
  obtain ⟨position, located⟩ := document.exists_locates node.head.start
  rwa [← located.eq_position]

/-- The warning about a base expression: its text, and the place where it begins. -/
def Warns (document : Document) (expression : Site) (diagnostic : Diagnostic) : Prop :=
  ∃ text position, document.text expression.node = .ok text ∧
    document.Locates expression.node.head.start position ∧ diagnostic =
      { severity := .warning
        message := "Unable to resolve type: '" ++ text ++ "'"
        position := some position }

end Document

/-- The resolver says that an expression denotes no symbol. -/
def Resolver.rejects (resolver : Resolver) (expression : Site) : Bool :=
  match resolver.symbolAt expression with
  | .ok none => true
  | _ => false

namespace Site

/-- The base expression of a class that denotes no symbol. -/
def unresolvedBase? (resolver : Resolver) (site : Site) : Option Site :=
  if isClassType site.type then site.extendsExpression?.filter resolver.rejects else none

/-- What a class is said to extend: nothing without a base expression, the unknown name if the
expression denotes no symbol, and else the name that the resolver has for the symbol. -/
inductive HasBase (resolver : Resolver) (site : Site) : Option QualifiedName → Prop where
  | absent (found : site.extendsExpression? = none) : HasBase resolver site none
  | unknown {expression : Site} (found : site.extendsExpression? = some expression)
      (rejected : resolver.symbolAt expression = .ok none) :
      HasBase resolver site (some .unknown)
  | named {expression : Site} {symbol : Symbol}
      (found : site.extendsExpression? = some expression)
      (resolved : resolver.symbolAt expression = .ok (some symbol)) :
      HasBase resolver site (some (.ofResolved symbol (resolver.qualifiedName symbol)))

end Site

variable {document : Document} {resolver : Resolver} {site : Site} {before after : Journal}

namespace Recorded

theorem diagnostics_of_noteLookup {id : Nat} {value : Unit}
    (given : (noteLookup id).Gives before value after) :
    after.diagnostics = before.diagnostics := by
  cases given
  rfl

theorem diagnostics_of_diagnose {diagnostic : Diagnostic} {value : Unit}
    (given : (diagnose diagnostic).Gives before value after) :
    after.diagnostics = before.diagnostics ++ [diagnostic] := by
  cases given
  rfl

theorem gives_map_iff {α β : Type} {f : α → β} {computation : Recorded α} {value : β} :
    (f <$> computation).Gives before value after ↔
      ∃ first, computation.Gives before first after ∧ f first = value := by
  rw [← bind_pure_comp, gives_bind_iff]
  constructor
  · rintro ⟨first, middle, given, rest⟩
    obtain ⟨same, rfl⟩ := gives_pure_iff.mp rest
    exact ⟨first, given, same⟩
  · rintro ⟨first, given, same⟩
    exact ⟨first, after, given, gives_pure_iff.mpr ⟨same, rfl⟩⟩

/-- A computation that does not fail gives something. -/
theorem gives_of_failure? {α : Type} {computation : Recorded α}
    (success : computation.failure? = none) :
    ∃ value, computation.Gives {} value (run computation).2 := by
  rw [failure?] at success
  rcases outcome : run computation with ⟨result, notes⟩
  cases result with
  | error failure => simp [outcome] at success
  | ok value => exact ⟨value, outcome⟩

end Recorded

namespace Site

/-- A base that denotes a symbol is named after it. Any other gets the unknown name, and a
warning. -/
theorem baseName_cases {name : QualifiedName}
    (given : (site.baseName document resolver).Gives before name after) :
    (∃ symbol, resolver.symbolAt site = .ok (some symbol) ∧
        name = .ofResolved symbol (resolver.qualifiedName symbol) ∧
        after.diagnostics = before.diagnostics) ∨
      (resolver.symbolAt site = .ok none ∧ name = .unknown ∧
        ∃ diagnostic, document.Warns site diagnostic ∧
          after.diagnostics = before.diagnostics ++ [diagnostic]) := by
  obtain ⟨_, noted, lookup, given⟩ := Recorded.gives_bind_iff.mp given
  obtain ⟨answer, _, asked, given⟩ := Recorded.gives_bind_iff.mp given
  obtain ⟨answered, rfl⟩ := Recorded.gives_ofExcept_iff.mp asked
  have unchanged := Recorded.diagnostics_of_noteLookup lookup
  cases answer with
  | some symbol =>
      obtain ⟨rfl, rfl⟩ := Recorded.gives_pure_iff.mp given
      exact .inl ⟨symbol, answered, rfl, unchanged⟩
  | none =>
      obtain ⟨text, _, read, given⟩ := Recorded.gives_bind_iff.mp given
      obtain ⟨decoded, rfl⟩ := Recorded.gives_ofExcept_iff.mp read
      obtain ⟨_, _, warned, given⟩ := Recorded.gives_bind_iff.mp given
      obtain ⟨rfl, rfl⟩ := Recorded.gives_pure_iff.mp given
      refine .inr ⟨answered, rfl, _, ⟨text, _, decoded, document.locates_position _, rfl⟩, ?_⟩
      rw [Recorded.diagnostics_of_diagnose warned, unchanged]

/-- The base of a class, and the warning about it. -/
theorem classTraits_base {traits : Traits} (type : isClassType site.type = true)
    (given : (site.classTraits document resolver).Gives before traits after) :
    (∃ isAbstract base, traits.detail = .classLike isAbstract base ∧ site.HasBase resolver base) ∧
      ∃ added, after.diagnostics = before.diagnostics ++ added ∧
        List.Forall₂ document.Warns (site.unresolvedBase? resolver).toList added := by
  obtain ⟨node, _, found, given⟩ := Recorded.gives_bind_iff.mp given
  obtain ⟨-, rfl⟩ := Recorded.gives_ofExcept_iff.mp found
  obtain ⟨name, _, read, given⟩ := Recorded.gives_bind_iff.mp given
  obtain ⟨-, rfl⟩ := Recorded.gives_ofExcept_iff.mp read
  obtain ⟨visibility, _, shown, given⟩ := Recorded.gives_bind_iff.mp given
  obtain ⟨-, rfl⟩ := Recorded.gives_ofExcept_iff.mp shown
  obtain ⟨isAbstract, _, marked, given⟩ := Recorded.gives_bind_iff.mp given
  obtain ⟨-, rfl⟩ := Recorded.gives_ofExcept_iff.mp marked
  rw [unresolvedBase?, if_pos type]
  cases extending : site.extendsExpression? with
  | none =>
      rw [extending] at given
      obtain ⟨_, _, nothing, given⟩ := Recorded.gives_bind_iff.mp given
      obtain ⟨rfl, rfl⟩ := Recorded.gives_pure_iff.mp nothing
      obtain ⟨rfl, rfl⟩ := Recorded.gives_pure_iff.mp given
      refine ⟨⟨isAbstract, none, rfl, .absent extending⟩, [], ?_, ?_⟩
      · rw [List.append_nil]
      · exact .nil
  | some expression =>
      rw [extending] at given
      obtain ⟨_, _, mapped, given⟩ := Recorded.gives_bind_iff.mp given
      obtain ⟨base, named, rfl⟩ := Recorded.gives_map_iff.mp mapped
      obtain ⟨rfl, rfl⟩ := Recorded.gives_pure_iff.mp given
      obtain ⟨symbol, resolved, rfl, same⟩ | ⟨rejected, rfl, diagnostic, warns, grown⟩ :=
        baseName_cases named
      · refine ⟨⟨isAbstract, _, rfl, .named extending resolved⟩, [], ?_, ?_⟩
        · rw [same, List.append_nil]
        · simp [Option.filter, Resolver.rejects, resolved]
      · refine ⟨⟨isAbstract, _, rfl, .unknown extending rejected⟩, [diagnostic], grown, ?_⟩
        simpa [Option.filter, Resolver.rejects, rejected] using warns

/-- Nothing but a class is a reason for a diagnostic. -/
theorem inspect_diagnostics_of_other (other : ¬ isClassType site.type = true) :
    (Recorded.run (site.inspect document resolver)).2.diagnostics = [] := by
  cases classified : site.classify document with
  | error failure =>
      rw [inspect_of_error classified]
      rfl
  | ok kind? =>
      cases kind? with
      | none =>
          rw [inspect_of_unclassified classified]
          rfl
      | some kind =>
          have fits := fits_of_classify classified
          rw [inspect_of_classified classified, Recorded.run_eq_runFrom, Recorded.runFrom_map]
          cases kind with
          | classLike => exact absurd fits other
          | _ => rfl

/-- The diagnostics of one node. -/
theorem inspect_diagnostics (success : (site.inspect document resolver).failure? = none) :
    List.Forall₂ document.Warns (site.unresolvedBase? resolver).toList
      (Recorded.run (site.inspect document resolver)).2.diagnostics := by
  by_cases type : isClassType site.type = true
  · rw [inspect_of_classified (classify_class type)] at success ⊢
    obtain ⟨_, given⟩ := Recorded.gives_of_failure? success
    obtain ⟨chain, given, -⟩ := Recorded.gives_map_iff.mp given
    obtain ⟨traits, _, built, given⟩ := Recorded.gives_bind_iff.mp given
    obtain ⟨-, same⟩ := Recorded.gives_pure_iff.mp given
    obtain ⟨-, added, grown, warnings⟩ := classTraits_base type built
    rw [← same, grown]
    exact warnings
  · rw [inspect_diagnostics_of_other type, unresolvedBase?, if_neg type]
    exact .nil

end Site

theorem forM_inspect_diagnostics {sites : List Site}
    (success : (forM sites (Site.inspect document resolver)).failure? = none) :
    List.Forall₂ document.Warns (sites.filterMap (Site.unresolvedBase? resolver))
      (Recorded.run (forM sites (Site.inspect document resolver))).2.diagnostics := by
  have additive := Site.additive_inspect document resolver
  rw [Recorded.notes_forM additive success, Journal.diagnostics_concat, List.flatMap_map]
  rw [Recorded.failure?_forM additive, List.findSome?_eq_none_iff] at success
  induction sites with
  | nil => exact .nil
  | cons site sites ih =>
      have here := Site.inspect_diagnostics (success site List.mem_cons_self)
      have later := ih fun other member => success other (List.mem_cons_of_mem _ member)
      have split : (site :: sites).filterMap (Site.unresolvedBase? resolver) =
          (site.unresolvedBase? resolver).toList ++
            sites.filterMap (Site.unresolvedBase? resolver) := by
        rw [List.filterMap_cons]
        cases site.unresolvedBase? resolver <;> rfl
      rw [List.flatMap_cons, split]
      exact List.rel_append here later

/-- What a successful collection adds to the diagnostics. -/
theorem collect_diagnostics {path : String} {collected : Registry × Nat}
    (success : (collect document path resolver).Gives before collected after) :
    ∃ added, after.diagnostics = before.diagnostics ++ added ∧
      List.Forall₂ document.Warns
        (document.visibleSites.filterMap (Site.unresolvedBase? resolver)) added := by
  rw [collect_eq_outline] at success
  obtain ⟨forest, middle, outlined, success⟩ := Recorded.gives_bind_iff.mp success
  obtain ⟨_, _, reported, success⟩ := Recorded.gives_bind_iff.mp success
  obtain ⟨-, rfl⟩ := Recorded.gives_pure_iff.mp success
  cases reported
  have inspected : ((fun _ => ()) <$> outline document resolver [] document.root).Gives before ()
      middle := Recorded.gives_map_iff.mpr ⟨forest, outlined, rfl⟩
  rw [outline_root_inspects] at inspected
  have additive := Recorded.additive_forM (Site.additive_inspect document resolver)
    document.visibleSites
  obtain ⟨outcome, rfl⟩ := additive.run_eq inspected
  refine ⟨_, rfl, forM_inspect_diagnostics ?_⟩
  rw [Recorded.failure?, outcome]

/-- The element of a class has the base that its node is given. -/
theorem Layout.base_of_class {registry : Registry} {root : Nat} {placed : Placement}
    (layout : Layout document resolver registry root placed) {refs : List Nat}
    (member : (site, refs) ∈ placed) (type : isClassType site.type = true) :
    ∃ ref traits isAbstract base, refs = [ref] ∧ registry.traits? ref = some traits ∧
      traits.detail = .classLike isAbstract base ∧ site.HasBase resolver base := by
  have known : site.kind? document = some .classLike := Site.kind?_of_class type
  obtain ⟨ref, rfl⟩ := List.length_eq_one_iff.mp
    (layout.single site refs member (by rw [known]; decide))
  obtain ⟨owner, -, chained⟩ := layout.chained site [ref] member
  cases elements : site.elements document resolver with
  | nil =>
      rw [elements] at chained
      exact chained.elim
  | cons traits rest =>
      rw [elements] at chained
      have nonempty : site.elements document resolver ≠ [] := by
        rw [elements]
        exact List.cons_ne_nil _ _
      obtain ⟨after, given⟩ := Site.gives_of_elements known nonempty
      rw [elements] at given
      obtain ⟨own, _, built, given⟩ := Recorded.gives_bind_iff.mp given
      obtain ⟨same, -⟩ := Recorded.gives_pure_iff.mp given
      obtain ⟨rfl, -⟩ := List.cons.inj same
      obtain ⟨⟨isAbstract, base, detail, hasBase⟩, -⟩ := Site.classTraits_base type built
      exact ⟨ref, own, isAbstract, base, rfl, chained.1.1, detail, hasBase⟩

theorem bindScopes_gives {moduleName : Option String} {scopes : Scopes}
    (given : (bindScopes document moduleName).Gives before scopes after) :
    Scopes.bind document moduleName = .ok scopes ∧ after.diagnostics = before.diagnostics := by
  obtain ⟨own, _, made, given⟩ := Recorded.gives_bind_iff.mp given
  obtain ⟨bound, rfl⟩ := Recorded.gives_ofExcept_iff.mp made
  obtain ⟨_, _, reported, given⟩ := Recorded.gives_bind_iff.mp given
  obtain ⟨rfl, rfl⟩ := Recorded.gives_pure_iff.mp given
  cases reported
  exact ⟨bound, rfl⟩

theorem diagnostics_of_reportErrors {path : String} {value : Unit}
    (given : (reportErrors document path).Gives before value after) :
    after.diagnostics = before.diagnostics := by
  rw [reportErrors] at given
  split at given <;> cases given <;> rfl

/-- The diagnostics of an extraction are warnings about the bases that denote no symbol, one for
each visible class with such a base and in document order. These classes, and no other, are
given the unknown name in its place; a class without a base expression extends nothing, and any
other class has the name of its resolved base. The events report the diagnostics one for one,
also those of an extraction that fails. -/
theorem extract_diagnostics (document : Document) (path : String) :
    (∀ extraction after, (extract document path).Gives {} extraction after →
      ∃ scopes placed, Scopes.bind document (some (modulePath path).text) = .ok scopes ∧
        Layout document (scopes.resolver document) extraction.registry extraction.root placed ∧
        List.Forall₂ document.Warns
          (document.visibleSites.filterMap (Site.unresolvedBase? (scopes.resolver document)))
          extraction.diagnostics ∧
        (∀ site refs, (site, refs) ∈ placed → isClassType site.type = true →
          ∃ ref traits isAbstract base, refs = [ref] ∧
            extraction.registry.traits? ref = some traits ∧
            traits.detail = .classLike isAbstract base ∧
            site.HasBase (scopes.resolver document) base) ∧
        after.diagnostics = extraction.diagnostics) ∧
    (Recorded.run (extract document path)).2.Mirrors := by
  refine ⟨fun extraction after success => ?_, mirroring_extract document path {} rfl⟩
  rw [extract_eq] at success
  obtain ⟨scopes, _, made, success⟩ := Recorded.gives_bind_iff.mp success
  obtain ⟨_, _, errors, success⟩ := Recorded.gives_bind_iff.mp success
  obtain ⟨⟨registry, root⟩, _, collected, success⟩ := Recorded.gives_bind_iff.mp success
  obtain ⟨journal, _, read, success⟩ := Recorded.gives_bind_iff.mp success
  obtain ⟨rfl, rfl⟩ := Recorded.gives_pure_iff.mp success
  cases read
  obtain ⟨bound, silent⟩ := bindScopes_gives made
  obtain ⟨placed, layout⟩ := exists_layout collected
  obtain ⟨added, grown, warnings⟩ := collect_diagnostics collected
  rw [diagnostics_of_reportErrors errors, silent, List.nil_append] at grown
  refine ⟨scopes, placed, bound, layout, ?_, ?_, rfl⟩
  · rw [grown]
    exact warnings
  · intro site refs member type
    exact layout.base_of_class member type

/-- The tree of `class A {}`, and `class É extends f() {}` on the next line. -/
def computedBase : Document where
  content := "class A {}\nclass É extends f() {}".toUTF8
  root := ⟨⟨0, "program", 0, true, none, 0, 34⟩, [
    ⟨⟨1, "class_declaration", 0, true, none, 0, 10⟩, [
      ⟨⟨2, "type_identifier", 0, true, some "name", 6, 7⟩, []⟩]⟩,
    ⟨⟨3, "class_declaration", 0, true, none, 11, 34⟩, [
      ⟨⟨4, "type_identifier", 0, true, some "name", 17, 19⟩, []⟩,
      ⟨⟨5, "class_heritage", 0, true, none, 20, 31⟩, [
        ⟨⟨6, "extends_clause", 0, true, none, 20, 31⟩, [
          ⟨⟨7, "call_expression", 0, true, some "value", 28, 31⟩, [
            ⟨⟨8, "identifier", 0, true, some "function", 28, 29⟩, []⟩]⟩]⟩]⟩]⟩]⟩

set_option maxRecDepth 10000 in
theorem computedBase_diagnostics : ∃ extraction after scopes,
    (extract computedBase "a.ts").Gives {} extraction after ∧
      extraction.diagnostics =
        [⟨.warning, "Unable to resolve type: 'f()'", some ⟨2, 17⟩⟩] ∧
      List.Forall₂ computedBase.Warns
        (computedBase.visibleSites.filterMap
          (Site.unresolvedBase? (Scopes.resolver scopes computedBase)))
        extraction.diagnostics := by
  have success : ∃ extraction after, (extract computedBase "a.ts").Gives {} extraction after ∧
      extraction.diagnostics =
        [⟨.warning, "Unable to resolve type: 'f()'", some ⟨2, 17⟩⟩] := by
    simp only [extract_eq, collect_eq_outline]
    exact ⟨_, _, rfl, by decide +kernel⟩
  obtain ⟨extraction, after, given, diagnostics⟩ := success
  obtain ⟨scopes, -, -, -, warnings, -⟩ :=
    (extract_diagnostics computedBase "a.ts").1 extraction after given
  exact ⟨extraction, after, scopes, given, diagnostics, warnings⟩

end SourceOutline
