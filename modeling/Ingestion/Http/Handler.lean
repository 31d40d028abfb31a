import Ingestion.Decoding
import Ingestion.Encoding
import Ingestion.Http.MediaType
import Ingestion.Http.Router
import Ingestion.Json.Reader
import Ingestion.Request.Service

/-!
# The HTTP interface

Requests and responses, and what the service does for each route. What a client is told of an
error depends on its kind; of an internal error it is told nothing but that.
-/

namespace Ingestion.Http

/-- A request of a client. -/
structure HttpRequest where
  method : String
  target : Target
  contentType : Option String := none
  body : String := ""
deriving DecidableEq, Repr, Inhabited

namespace HttpRequest

/-- Whether a text is the name of a method. -/
def isMethod (s : String) : Bool :=
  !s.isEmpty && s.toList.all MediaType.isTokenChar

/-- Whether a text can be the value of a header: no control character but a tab stands in it. -/
def isHeaderValue (s : String) : Bool :=
  s.toList.all fun c => (32 ≤ c.toNat && c.toNat != 127) || c == '\t'

/-- The request of the parts it is sent in, unless one of them cannot be sent. -/
def of? (method target : String) (contentType : Option String) (body : String) :
    Option HttpRequest := do
  guard (isMethod method && contentType.all isHeaderValue)
  return { method, target := ← Target.ofText? target, contentType, body }

end HttpRequest

/-- What a response carries. -/
inductive Content where
  | none
  | text (s : String)
  | json (j : Json)
deriving Inhabited

/-- The response to a request. -/
structure HttpResponse where
  status : Nat
  content : Content := .none
deriving Inhabited

namespace HttpResponse

/-- A response that refuses a request before the service sees it. -/
def refusal (status : Nat) : HttpResponse :=
  { status }

/-- A response with a JSON body. -/
def json (status : Nat) (j : Json) : HttpResponse :=
  { status, content := .json j }

end HttpResponse

/-! ## Errors -/

/-- The status for a kind of error. -/
def statusOf : ErrorKind → Nat
  | .badInput => 400
  | .notFound => 404
  | .emptyPlan => 422
  | .internal => 500

/-- What a client is told of an error. -/
def publicMessage (e : RequestError) : String :=
  match e.kind with
  | .internal => "Internal server error"
  | _ => e.message

/-- The body for an error. -/
def errorBody (e : RequestError) : Json :=
  .object [("error", .string (publicMessage e))]

/-- The response to a request with a result. -/
def respond {α : Type} (success : α → HttpResponse) : Except RequestError α → HttpResponse
  | .ok a => success a
  | .error e => .json (statusOf e.kind) (errorBody e)

/-- Answers with the result of a request. -/
def answer {α : Type} (request : Request α) (success : α → HttpResponse) :
    Program HttpResponse := do
  return respond success (← request.run)

/-! ## Bodies -/

/-- The status for a body that does not hold the datum that is asked for. -/
def statusOfFault : Json.Fault → Nat
  | .malformed => 400
  | .mismatched => 422

/-- Reads a JSON body, or gives the status that refuses it. -/
def readBody {α : Type} (d : Json.Decoder α) (r : HttpRequest) : Except Nat α :=
  if r.contentType.any MediaType.isJson then
    match d.ofRead (Json.Document.read r.body) with
    | .ok a => .ok a
    | .error fault => .error (statusOfFault fault)
  else .error 415

/-- Answers with what a body asks for. -/
def withBody {α : Type} (d : Json.Decoder α) (r : HttpRequest)
    (next : α → Program HttpResponse) : Program HttpResponse :=
  match readBody d r with
  | .ok a => next a
  | .error status => return .refusal status

/-- Answers with what an identifier in the path asks for. -/
def withId (piece : List Char) (next : Uuid → Program HttpResponse) : Program HttpResponse :=
  match pathId? piece with
  | some id => next id
  | none => return .refusal 400

/-! ## Routes -/

/-- Answers a request to read what a route stands for, if there is something to read. -/
def get? (target : Target) : Route → Option (Program HttpResponse)
  | .health => some (return { status := 200, content := .text "OK" })
  | .blueprints => some <|
    match queryOfForm? target.query with
    | some q => answer (Service.list q) fun l => .json 200 l.toJson
    | none => return .refusal 400
  | .schedule => some do
    return .json 200 (.ofList ScheduledBlueprint.toJson (← Service.schedule))
  | .blueprint id => some <| withId id fun id =>
    answer (Service.get id) fun b => .json 200 b.toJson
  | .projectBlueprint name => some <|
    match pathText? name with
    | some name =>
      answer (Service.getByProject name) fun b => .json 200 (.ofOption Blueprint.toJson b)
    | none => return .refusal 400
  | .trigger _ => none

/-- Runs a blueprint. A request without a content type runs it under the default policy, whatever
its body holds. -/
def triggerBlueprint (r : HttpRequest) (id : Uuid) : Program HttpResponse :=
  let run (policy : SyncPolicy) :=
    answer (Service.trigger id policy) fun p => .json 200 p.toJson
  if r.contentType.isSome then withBody SyncPolicy.decoder r run else run {}

/-- Answers a request by its method and route. A method that the route does not have is
refused. -/
def dispatch (r : HttpRequest) (route : Route) : Program HttpResponse :=
  match r.method, route with
  | "GET", route => (get? r.target route).getD (return .refusal 405)
  | "HEAD", route =>
    match get? r.target route with
    | some response => do return { (← response) with content := .none }
    | none => return .refusal 405
  | "POST", .blueprints => withBody Draft.decoder r fun d =>
    answer (Service.create d) fun b => .json 201 b.toJson
  | "PATCH", .blueprint id => withId id fun id => withBody Patch.decoder r fun p =>
    answer (Service.patch id p) fun b => .json 200 b.toJson
  | "DELETE", .blueprint id => withId id fun id =>
    answer (Service.delete id) fun _ => { status := 204 }
  | "POST", .trigger id => withId id (triggerBlueprint r)
  | _, _ => return .refusal 405

/-- Answers a request. -/
def handle (r : HttpRequest) : Program HttpResponse :=
  match Route.ofPath? r.target.path with
  | some route => dispatch r route
  | none => return .refusal 404

end Ingestion.Http
