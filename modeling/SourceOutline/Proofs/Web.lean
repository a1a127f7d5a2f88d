import SourceOutline.Proofs.Diagnostics
import SourceOutline.Proofs.Parallel
import SourceOutline.Proofs.Path
import SourceOutline.Proofs.Project.Isolation
import SourceOutline.Web.Application

/-!
# What the web application answers

A submission is refused for its suffix or its length before anything is parsed, and the journal
stays empty. A source text that has no encoding is a failure, and is not parsed either. Every other
submission is extracted under its normalised path: the answer holds the outline, or hides the
failure. A file of a project, extraction under its path in the project, and a
submission of its content under that path therefore have the same outline, if all of them use the
same parser.
-/

namespace SourceOutline

namespace Recorded

variable {α : Type} {computation : Recorded α} {before after : Journal}

theorem runFrom_tryCatch_ok {value : α} (given : computation.runFrom before = (.ok value, after))
    (handler : Failure → Recorded α) :
    (tryCatch computation handler).runFrom before = (.ok value, after) := by
  change StateT.run (ExceptT.run computation) before = _ at given
  rw [runFrom, ExceptT.run_tryCatch, StateT.run_bind, given]
  rfl

theorem runFrom_tryCatch_error {failure : Failure}
    (failed : computation.runFrom before = (.error failure, after))
    (handler : Failure → Recorded α) :
    (tryCatch computation handler).runFrom before = (handler failure).runFrom after := by
  change StateT.run (ExceptT.run computation) before = _ at failed
  rw [runFrom, ExceptT.run_tryCatch, StateT.run_bind, failed]
  rfl

end Recorded

namespace Web

/-- The normalised path of a submission. -/
def Submission.path (submission : Submission) : Path := Path.ofText submission.filePath

/-- The source text of a submission, or why it has no encoding. -/
def Submission.text (submission : Submission) : Except Text.EncodeFault String :=
  Text.ofPoints submission.content

/-- A request posts a submission to have its outline. -/
structure Request.Submits (request : Request) (submission : Submission) : Prop where
  routed : Route.ofPath? request.url.route = some .outline
  posted : Text.upperCase request.method = "POST"
  valid : Submission.ofText (request.body.getD "") = .ok submission

def unsupported (submission : Submission) : Response :=
  detail 422 (.string ("Unsupported file extension: '" ++ submission.path.suffix ++ "'"))

def tooLong (limit : Int) : Response :=
  detail 413 (.string ("Source exceeds " ++ toString limit ++ " bytes"))

/-- The answer with an outline: a module and its diagnostics. -/
def outlined (extraction : Extraction) : Response where
  status := 200
  body := .object [("module", extraction.module.toJson),
    ("diagnostics", .array (extraction.diagnostics.map Diagnostic.toJson))]

namespace Application

/-- The extraction of the text of a submission alone, under its normalised path. -/
def outline (application : Application) (submission : Submission) (text : String) :
    Except Failure Extraction × Journal :=
  Recorded.run (extract (application.parse text submission.path.text) submission.path.text)

/-- A submission has a text, and neither its suffix nor the length of the text is a reason to refuse
it. -/
structure Accepts (application : Application) (submission : Submission) (text : String) :
    Prop where
  suffix : submission.path.suffix ∈ application.settings.extractor.fileExtensions
  encoded : submission.text = .ok text
  length : text.toUTF8.size ≤ application.settings.api.maxContentBytes

variable {application : Application} {request : Request} {submission : Submission} {text : String}

theorem respond_eq (submits : request.Submits submission) :
    application.respond request =
      tryCatch (application.submit submission) fun failure =>
        application.onFailure .outline failure.message := by
  have posted : (Text.upperCase request.method != Route.outline.method) = false := by
    rw [submits.posted]
    rfl
  have received : application.respond request =
      application.receive .outline (request.body.getD "") := by
    rw [respond, submits.routed]
    exact if_neg (Bool.eq_false_iff.mp posted)
  rw [received, receive, submits.valid]

/-- A failure is answered with its status, and is one event more. -/
theorem runFrom_onFailure (application : Application) (route : Route) (reason : String)
    (before : Journal) :
    ∃ response : Response, response.status = 500 ∧
      (application.onFailure route reason).runFrom before =
        (.ok response, { before with
          events := before.events ++ [.unhandledFailure route.path route.method reason] }) :=
  ⟨_, rfl, rfl⟩

/-- The request is answered like the submission that it posts, unless that fails. -/
theorem run_respond_of_submit (submits : request.Submits submission) {response : Response}
    {after : Journal}
    (answered : (application.submit submission).runFrom {} = (.ok response, after)) :
    Recorded.run (application.respond request) = (.ok response, after) := by
  rw [respond_eq submits, Recorded.run_eq_runFrom]
  exact Recorded.runFrom_tryCatch_ok answered _

theorem submit_of_unsupported (application : Application)
    (other : submission.path.suffix ∉ application.settings.extractor.fileExtensions) :
    application.submit submission = pure (unsupported submission) := by
  have missing : application.settings.extractor.fileExtensions.contains
      (Path.ofText submission.filePath).suffix = false := by
    rw [← Bool.not_eq_true, List.contains_iff_mem]
    exact other
  rw [submit, missing]
  rfl

/-- A submission with a known suffix has to be encoded, -/
theorem submit_of_unencodable (application : Application)
    (known : submission.path.suffix ∈ application.settings.extractor.fileExtensions)
    {fault : Text.EncodeFault} (broken : submission.text = .error fault) :
    application.submit submission = application.onFailure .outline fault.message := by
  have found : application.settings.extractor.fileExtensions.contains
      (Path.ofText submission.filePath).suffix = true := List.contains_iff_mem.mpr known
  rw [submit, found, show Text.ofPoints submission.content = _ from broken]
  rfl

/-- and then it is extracted unless it has too many bytes. -/
theorem submit_of_encoded (application : Application)
    (known : submission.path.suffix ∈ application.settings.extractor.fileExtensions)
    (encoded : submission.text = .ok text) :
    application.submit submission =
      if application.settings.api.maxContentBytes < text.toUTF8.size then
        pure (tooLong application.settings.api.maxContentBytes)
      else do
        let extraction ← extract (application.parse text submission.path.text)
          submission.path.text
        Recorded.report (.structureExtracted submission.path.text extraction.elementCount
          extraction.diagnostics.length)
        return outlined extraction := by
  have found : application.settings.extractor.fileExtensions.contains
      (Path.ofText submission.filePath).suffix = true := List.contains_iff_mem.mpr known
  rw [submit, found, show Text.ofPoints submission.content = _ from encoded]
  rfl

/-- A submission that is accepted is answered with its outline, or with the status of a failure. -/
theorem run_respond_of_accepts (submits : request.Submits submission)
    (accepts : application.Accepts submission text) :
    (∀ extraction, (application.outline submission text).1 = .ok extraction →
      (Recorded.run (application.respond request)).1 = .ok (outlined extraction)) ∧
    ∀ failure, (application.outline submission text).1 = .error failure →
      ∃ response, (Recorded.run (application.respond request)).1 = .ok response ∧
        response.status = 500 := by
  rcases outcome : application.outline submission text with ⟨result, journal⟩
  have ran : (extract (application.parse text submission.path.text)
      submission.path.text).runFrom {} = (result, journal) := outcome
  have fits := Int.not_lt.mpr accepts.length
  have submitted := submit_of_encoded application accepts.suffix accepts.encoded
  constructor
  · rintro extraction rfl
    obtain ⟨after, answered⟩ : ∃ after,
        (application.submit submission).runFrom {} = (.ok (outlined extraction), after) := by
      rw [submitted, if_neg fits, Recorded.runFrom_bind_of_gives ran]
      exact ⟨_, rfl⟩
    rw [run_respond_of_submit submits answered]
  · rintro failure rfl
    have failed : (application.submit submission).runFrom {} = (.error failure, journal) := by
      rw [submitted, if_neg fits, Recorded.runFrom_bind, ran]
    obtain ⟨response, status, answered⟩ :=
      application.runFrom_onFailure .outline failure.message journal
    refine ⟨response, ?_, status⟩
    rw [respond_eq submits, Recorded.run_eq_runFrom, Recorded.runFrom_tryCatch_error failed,
      answered]

/-- A refusal leaves nothing in the journal. -/
theorem run_respond_of_pure (submits : request.Submits submission) {response : Response}
    (refused : application.submit submission = pure response) :
    Recorded.run (application.respond request) = (.ok response, {}) := by
  refine run_respond_of_submit submits ?_
  rw [refused]
  exact Recorded.runFrom_pure response {}

/-- A text that cannot be encoded is a failure, and nothing else is in the journal. -/
theorem run_respond_of_unencodable (submits : request.Submits submission) {reason : String}
    (failed : application.submit submission = application.onFailure .outline reason) :
    ∃ response : Response, response.status = 500 ∧
      Recorded.run (application.respond request) =
        (.ok response, { events := [.unhandledFailure "/structure" "POST" reason] }) := by
  obtain ⟨response, status, answered⟩ := application.runFrom_onFailure .outline reason {}
  rw [← failed] at answered
  exact ⟨response, status, run_respond_of_submit submits answered⟩

/-- The same application with another parser. -/
def withParser (application : Application) (parse : String → String → Document) : Application :=
  { application with parse := parse }

/-- How the application answers the submissions that it can read. -/
structure AnswersSubmissions (application : Application) : Prop where
  /-- A suffix that is not configured is refused, and nothing is extracted, whatever the parser. -/
  unsupported : ∀ request submission, request.Submits submission →
    submission.path.suffix ∉ application.settings.extractor.fileExtensions →
    ∀ parse, Recorded.run ((application.withParser parse).respond request) =
      (.ok (unsupported submission), {})
  /-- Otherwise a source text with surrogates is a failure, for it has no bytes to extract from. -/
  unencodable : ∀ request submission fault, request.Submits submission →
    submission.path.suffix ∈ application.settings.extractor.fileExtensions →
    submission.text = .error fault →
    ∀ parse, ∃ response : Response, response.status = 500 ∧
      Recorded.run ((application.withParser parse).respond request) =
        (.ok response, { events := [.unhandledFailure "/structure" "POST" fault.message] })
  /-- A text with too many bytes is refused like a suffix, -/
  tooLong : ∀ request submission text, request.Submits submission →
    submission.path.suffix ∈ application.settings.extractor.fileExtensions →
    submission.text = .ok text → application.settings.api.maxContentBytes < text.toUTF8.size →
    ∀ parse, Recorded.run ((application.withParser parse).respond request) =
      (.ok (tooLong application.settings.api.maxContentBytes), {})
  /-- and every other one is answered by the outline, -/
  outlined : ∀ request submission text, request.Submits submission →
    application.Accepts submission text →
    ∀ extraction, (application.outline submission text).1 = .ok extraction →
      (Recorded.run (application.respond request)).1 = .ok (outlined extraction)
  /-- and with the status of a failure exactly if extraction fails. -/
  failed : ∀ request submission text, request.Submits submission →
    application.Accepts submission text →
    ∃ response, (Recorded.run (application.respond request)).1 = .ok response ∧
      (response.status = 500 ↔ ¬ Defined (application.outline submission text).1)

theorem answersSubmissions (application : Application) : application.AnswersSubmissions where
  unsupported _ _ submits other parse :=
    run_respond_of_pure submits (submit_of_unsupported (application.withParser parse) other)
  unencodable _ _ _ submits known broken parse :=
    run_respond_of_unencodable submits
      (submit_of_unencodable (application.withParser parse) known broken)
  tooLong _ _ _ submits known encoded long parse :=
    run_respond_of_pure submits
      ((submit_of_encoded (application.withParser parse) known encoded).trans (if_pos long))
  outlined _ _ _ submits accepts := (run_respond_of_accepts submits accepts).1
  failed _ submission text submits accepts := by
    obtain ⟨outlines, fails⟩ := run_respond_of_accepts submits accepts
    cases outcome : (application.outline submission text).1 with
    | ok extraction =>
        refine ⟨_, outlines extraction outcome, fun status => ?_, fun undefined => ?_⟩
        · cases status
        · exact absurd (defined_ok extraction) undefined
    | error failure =>
        obtain ⟨response, answered, status⟩ := fails failure outcome
        exact ⟨response, answered, fun _ => nofun, fun _ => status⟩

/-- The application parses texts in the grammar of their paths. -/
def Uses (application : Application) (parser : ByteArray → Grammar → Document) : Prop :=
  ∀ text path, application.parse text path = parser text.toUTF8 (Grammar.ofPath path)

/-- A submission of a file under its path in a project has the outline of the file. -/
theorem outline_eq_alone {parser : ByteArray → Grammar → Document} (uses : application.Uses parser)
    {entry : List String × SourceFile}
    (parsed : entry.2.document =
      parser entry.2.document.content (Grammar.ofPath (Project.nameOf entry)))
    (path : submission.path.text = Project.nameOf entry)
    (content : text.toUTF8 = entry.2.document.content) :
    application.outline submission text = Project.alone entry := by
  rw [outline, Project.alone, uses, path, content, ← parsed]

/-- The surfaces agree. A submission is refused, or answered by what extraction gives under its
normalised path. For a file that is read in a project, the result in the project, extraction under
the path relative to the project, and the answer to a submission under any spelling of that path
carry the same outline. -/
theorem surfaces_agree (application : Application) :
    application.AnswersSubmissions ∧
    ∀ (parser : ByteArray → Grammar → Document) (tree : FileTree) (settings : ExtractorSettings)
      (directory : Path) (present : Bool) (project : Project) (entry : List String × SourceFile),
      application.Uses parser → directory.hasNull = false →
      tree.exists? (tree.resolve directory) = .ok present →
      (Recorded.run (Project.extract tree settings directory)).1 = .ok project →
      entry ∈ Project.discover tree settings (tree.resolve directory) →
      settings.reads entry.2 = true →
      entry.2.document =
        parser entry.2.document.content (Grammar.ofPath (Project.nameOf entry)) →
      ∃ extraction, (Project.nameOf entry, extraction) ∈ project.results ∧
        (Project.alone entry).1 = .ok extraction ∧
        ((∀ part ∈ entry.1, Path.IsName part) →
          (Path.ofText (Project.nameOf entry)).text = Project.nameOf entry) ∧
        ∀ request submission text, request.Submits submission →
          application.Accepts submission text →
          submission.path.text = Project.nameOf entry →
          text.toUTF8 = entry.2.document.content →
          (Recorded.run (application.respond request)).1 = .ok (outlined extraction) := by
  refine ⟨answersSubmissions application, ?_⟩
  intro parser tree settings directory present project entry uses proper asked given member read
    parsed
  obtain ⟨-, accounts⟩ := Project.accounts_of_extract proper asked given
  obtain ⟨⟨_, extraction⟩, among, rfl, alone⟩ :=
    List.exists_of_forall₂ accounts.results (List.mem_filter.mpr ⟨member, read⟩)
  refine ⟨extraction, among, alone, fun names => ?_, ?_⟩
  · have normal : Path.IsNormal ⟨.here, entry.1⟩ := names
    rw [Project.nameOf, normal.ofText_text]
  · intro request submission text submits accepts path content
    have same := outline_eq_alone uses parsed path content
    exact (run_respond_of_accepts submits accepts).1 extraction (same ▸ alone)

end Application

/-- A request that posts a file. The content is written as in JSON. -/
def posting (content path : String) : Request where
  method := "POST"
  url := { path := "/structure" }
  body := some ("\x7b\"content\": \"" ++ content ++ "\", \"file_path\": \"" ++ path ++ "\"\x7d")

theorem posting_submits {content path : String} {submission : Submission}
    (read : (Submission.ofText ((posting content path).body.getD "")).toOption =
      some submission) : (posting content path).Submits submission where
  routed := by
    change Route.ofPath? (Url.route { path := "/structure" }) = some .outline
    decide +kernel
  posted := by
    change Text.upperCase "POST" = "POST"
    decide +kernel
  valid := by
    cases outcome : Submission.ofText ((posting content path).body.getD "") with
    | error refusal =>
        rw [outcome] at read
        cases read
    | ok submission =>
        rw [outcome] at read
        exact congrArg Except.ok (Option.some.inj read)

/-- The text of `computedBase`, which has a byte more than it has characters. -/
def baseText : String := "class A \x7b\x7d\nclass É extends f() \x7b\x7d"

/-- A request that posts it under a path. -/
def postingBase (path : String) : Request :=
  posting "class A \x7b\x7d\\nclass \\u00c9 extends f() \x7b\x7d" path

/-- A directory with nothing but that file. -/
def soleBase : FileTree where
  location := { anchor := .slash, parts := ["work"] }
  entries := [(["src", "a.ts"], .file { document := computedBase })]

theorem mem_discover_soleBase : (["a.ts"], { document := computedBase }) ∈
    Project.discover soleBase {} (soleBase.resolve ⟨.here, ["src"]⟩) := by
  refine List.mem_mergeSort.mpr (List.mem_filter.mpr ⟨?_, by decide +kernel⟩)
  exact FileTree.mem_filesBelow_iff.mpr ⟨by decide, ["src", "a.ts"], List.mem_cons_self, rfl⟩

/-- An application with a limit to the bytes of a text and a parser that knows the file. -/
def baseOnly (limit : Int) : Application where
  settings := { api := { maxContentBytes := limit } }
  parse text _ := { computedBase with content := text.toUTF8 }

/-- The failure to encode `class ? {}`, where the question mark stands for half of a pair. -/
def halfMessage : String :=
  "'utf-8' codec can't encode character '\\ud800' in position 6: surrogates not allowed"

/-- The outline of the file as it is sent. -/
def baseOutline : String :=
  "\x7b\"module\": \x7b\"kind\": \"module\", \"name\": \"a\", \"path\": \".\", " ++
    "\"visibility\": \"public\", \"children\": [" ++
    "\x7b\"kind\": \"class\", \"name\": \"A\", \"visibility\": \"private\", " ++
    "\"is_abstract\": false, \"extends\": null, \"children\": []\x7d, " ++
    "\x7b\"kind\": \"class\", \"name\": \"\\u00c9\", \"visibility\": \"private\", " ++
    "\"is_abstract\": false, \"extends\": [\"unknown?\"], \"children\": []\x7d]\x7d, " ++
    "\"diagnostics\": [\x7b\"severity\": \"warning\", " ++
    "\"message\": \"Unable to resolve type: 'f()'\", \"line\": 2, \"column\": 17\x7d]\x7d"

theorem outlined_computedBase :
    (Project.alone (["a.ts"], { document := computedBase })).1.toOption.map
      (fun extraction => (outlined extraction).body.render .oneLine) = some baseOutline := by
  decide +kernel

/-- The file is refused as a script of another language and above a limit of 33 bytes. Under its path
in a directory, spelled differently, it has the outline that it has in the project. Half of a pair
of surrogates is a failure. -/
theorem soleBase_agrees :
    Recorded.run ((baseOnly 34).respond (postingBase "a.py")) =
        (.ok (unsupported ⟨Text.points baseText, "a.py"⟩), {}) ∧
      Recorded.run ((baseOnly 33).respond (postingBase "./a.ts")) = (.ok (tooLong 33), {}) ∧
      (∃ response : Response, response.status = 500 ∧
        Recorded.run ((baseOnly 34).respond (posting "class \\ud800 \x7b\x7d" "a.ts")) =
          (.ok response, { events := [.unhandledFailure "/structure" "POST" halfMessage] })) ∧
      ∃ project extraction,
        (Recorded.run (Project.extract soleBase {} ⟨.here, ["src"]⟩)).1 = .ok project ∧
          ("a.ts", extraction) ∈ project.results ∧
          (Recorded.run ((baseOnly 34).respond (postingBase "./a.ts"))).1 =
            .ok (outlined extraction) ∧
          (outlined extraction).body.render .oneLine = baseOutline := by
  have script : (postingBase "a.py").Submits ⟨Text.points baseText, "a.py"⟩ :=
    posting_submits (by decide +kernel)
  have spelled : (postingBase "./a.ts").Submits ⟨Text.points baseText, "./a.ts"⟩ :=
    posting_submits (by decide +kernel)
  have halved : (posting "class \\ud800 \x7b\x7d" "a.ts").Submits
      ⟨Text.points "class " ++ 0xD800 :: Text.points " \x7b\x7d", "a.ts"⟩ :=
    posting_submits (by decide +kernel)
  have refused := (Application.surfaces_agree (baseOnly 34)).1.unsupported _ _ script
    (by decide +kernel) (baseOnly 34).parse
  have long := (Application.surfaces_agree (baseOnly 33)).1.tooLong _ _ _ spelled
    (by decide +kernel) (Text.ofPoints_points baseText) (by decide +kernel) (baseOnly 33).parse
  have failed := (Application.surfaces_agree (baseOnly 34)).1.unencodable _ _ ⟨6, 1, 0xD800⟩ halved
    (by decide +kernel) rfl (baseOnly 34).parse
  have message : Text.EncodeFault.message ⟨6, 1, 0xD800⟩ = halfMessage := by decide +kernel
  rw [message] at failed
  obtain ⟨project, given⟩ : Defined
      (Recorded.run (Project.extract soleBase {} ⟨.here, ["src"]⟩)).1 :=
    Project.defined_extract_of_sources (by decide) true (by decide +kernel) (by decide +kernel)
  obtain ⟨extraction, among, alone, -, answers⟩ := (Application.surfaces_agree (baseOnly 34)).2
    (fun content _ => { computedBase with content := content }) soleBase {} ⟨.here, ["src"]⟩ true
    project (["a.ts"], { document := computedBase }) (fun _ _ => rfl) (by decide)
    (by decide +kernel) given mem_discover_soleBase (by decide +kernel) rfl
  refine ⟨refused, long, failed, project, extraction, given, among, ?_, ?_⟩
  · exact answers _ _ _ spelled
      ⟨by decide +kernel, Text.ofPoints_points baseText, by decide +kernel⟩ (by decide +kernel) rfl
  · have shown := outlined_computedBase
    rw [alone] at shown
    exact Option.some.inj shown

end Web

end SourceOutline
