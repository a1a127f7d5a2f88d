import SourceOutline.Extraction
import SourceOutline.Settings.Load
import SourceOutline.Web.Body
import SourceOutline.Web.Url

/-!
# The web application

The application answers two kinds of requests: whether it is alive, and for the outline of a
source text. A submission is refused before any extraction if its suffix is not configured
or if it is too long. When extraction fails, or the source text has no encoding to extract from,
the answer hides the reason, except in development.
-/

namespace SourceOutline.Web

structure Request where
  method : String
  url : Url
  body : Option String := none

structure Response where
  status : Nat
  body : Json

structure Application where
  settings : Settings
  /-- The parser: the syntax tree of a source text in the grammar of a path. -/
  parse : String → String → Document

/-- What a path is for. -/
inductive Route where
  | health
  | outline
  deriving DecidableEq, Repr

/-- The route at a path; slashes at its end are overlooked. -/
def Route.ofPath? (path : String) : Option Route :=
  match String.ofList (path.toList.reverse.dropWhile (· == '/')).reverse with
  | "/health" => some .health
  | "/structure" => some .outline
  | _ => none

def Route.method : Route → String
  | health => "GET"
  | outline => "POST"

def Route.path : Route → String
  | health => "/health"
  | outline => "/structure"

def detail (status : Nat) (detail : Json) : Response :=
  { status := status, body := .object [("detail", detail)] }

namespace Application

/-- The answer to a request that could not be carried out, for a reason in words. -/
def onFailure (application : Application) (route : Route) (reason : String) :
    Recorded Response := do
  Recorded.report (.unhandledFailure route.path route.method reason)
  let message :=
    if application.settings.isDevelopment then reason else "An unexpected error occurred"
  return {
    status := 500
    body := .object [("error", .string "Internal server error"), ("message", .string message)] }

/-- Answer a submission. -/
def submit (application : Application) (submission : Submission) : Recorded Response := do
  let path := Path.ofText submission.filePath
  if !application.settings.extractor.fileExtensions.contains path.suffix then
    return detail 422 (.string ("Unsupported file extension: '" ++ path.suffix ++ "'"))
  match Text.ofPoints submission.content with
  | .error fault => application.onFailure .outline fault.message
  | .ok content =>
    let limit := application.settings.api.maxContentBytes
    if limit < content.utf8ByteSize then
      return detail 413 (.string ("Source exceeds " ++ toString limit ++ " bytes"))
    let extraction ← extract (application.parse content path.text) path.text
    Recorded.report
      (.structureExtracted path.text extraction.elementCount extraction.diagnostics.length)
    return { status := 200, body := .object extraction.members }

/-- Answer a body. Complaints that cannot be sent are a failure. -/
def receive (application : Application) (route : Route) (body : String) : Recorded Response :=
  match Submission.ofText body with
  | .error .unreadable => return detail 400 (.string "There was an error parsing the body")
  | .error (.complaints complaints) =>
    match Complaint.unsendable? complaints with
    | none => return detail 422 (.array (complaints.map Complaint.toJson))
    | some reason => application.onFailure route reason
  | .ok submission =>
    tryCatch (application.submit submission) fun failure =>
      application.onFailure route failure.message

/-- Answer a request. -/
def respond (application : Application) (request : Request) : Recorded Response :=
  match Route.ofPath? request.url.route with
  | none => return detail 404 (.string "Not Found")
  | some route =>
    if Text.upperCase request.method != route.method then
      return detail 405 (.string "Method Not Allowed")
    else
      match route with
      | .health =>
        return {
          status := 200
          body := .object [("status", .string "healthy"),
            ("version", .string application.settings.appVersion)] }
      | .outline => application.receive route (request.body.getD "")

/-- Answer a request between start-up and shut-down. -/
def serve (application : Application) (request : Request) : Recorded Response := do
  let settings := application.settings
  Recorded.report
    (.startingApplication settings.appName settings.appVersion settings.environment)
  let response ← application.respond request
  Recorded.report .shuttingDownApplication
  return response

end Application

end SourceOutline.Web
