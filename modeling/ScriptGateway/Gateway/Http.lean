import ScriptGateway.Gateway.Form
import ScriptGateway.Gateway.Route
import ScriptGateway.Payload.Xml

/-!
# HTTP

Requests and responses as they travel. The query may ask for a format; that is settled first, then
the body of a `POST` is read as a form, and only then is the request handled. Pages of other
services may be mounted in front.
-/

set_option autoImplicit false

namespace ScriptGateway

/-! ## Formats -/

inductive Format
  | json
  | xml
  deriving DecidableEq, Repr

namespace Format

def named? (name : String) : Option Format :=
  if name = "json" then some json else if name = "xml" then some xml else none

def mediaType : Format → String
  | json => "application/json"
  | xml => "text/xml"

/-- Texts are labelled with their encoding. -/
def contentType (f : Format) : String :=
  match f with
  | json => f.mediaType
  | xml => f.mediaType ++ "; charset=utf-8"

def write : Format → Payload → String
  | json => Payload.toJson
  | xml => Payload.toXml

end Format

structure HttpRequest where
  method : String
  path : String
  /-- The query as it was sent. -/
  query : String
  body : List UInt8
  deriving Repr

structure HttpResponse where
  status : Nat
  contentType : Option String
  body : String
  deriving DecidableEq, Repr

def Response.render (r : Response) (f : Format) : HttpResponse :=
  ⟨r.status, some f.contentType, f.write r.payload⟩

namespace HttpResponse

/-- A short answer of the service itself. -/
def detail (status : Nat) (text : String) : HttpResponse :=
  ⟨status, some Format.json.contentType, "\x7b\"detail\":\"" ++ text ++ "\"\x7d"⟩

def notFound : HttpResponse := detail 404 "Not Found"

def methodNotAllowed : HttpResponse := detail 405 "Method Not Allowed"

/-- Sends the caller to the same path with or without a slash at its end. -/
def redirect : HttpResponse := ⟨307, none, ""⟩

def unsupportedFormat (name : String) : HttpResponse :=
  Response.render ⟨400, .error ("Unsupported format '" ++ name ++ "'")⟩ .json

def badBody (f : Format) : HttpResponse :=
  Response.render ⟨400, .error "Request body is not valid UTF-8"⟩ f

end HttpResponse

/-- A page of another service. -/
structure Page where
  path : String
  body : String
  deriving DecidableEq, Repr

namespace HttpRequest

/-- The path that a request addresses: a slash and a single line. A line feed at the very end does
not count. -/
def addressed? (path : String) : Option String :=
  match path.toList with
  | '/' :: rest =>
    let line := Text.dropFinalNewline rest
    if '\n' ∈ line then none else some (String.ofList ('/' :: line))
  | _ => none

/-- The request asks for the page. -/
def wants (q : HttpRequest) (p : Page) : Bool := q.method = "GET" && addressed? q.path = some p.path

/-- The path would be answered with a slash more at its end, or without those that are there. -/
def isMisspelt (q : HttpRequest) : Bool :=
  let cs := q.path.toList
  (addressed? (String.ofList
    (if cs.getLast? = some '/' then Text.dropEndWhile (· = '/') cs else cs ++ ['/']))).isSome

/-- The format that the query asks for, or the name of one that there is not. -/
def format (q : HttpRequest) : Except String Format :=
  match (Form.values q.query.toList).get? "format" with
  | none => .ok .json
  | some name => match Format.named? name with
    | some f => .ok f
    | none => .error name

/-- The parameters of a request, unless its body is no text. Only a `POST` has any. -/
def params? (q : HttpRequest) : Option (OrderedMap String String) :=
  if q.method = "POST" then (Text.decode? q.body).map Form.values else some .empty

end HttpRequest

/-- What a request led to: the scripts that were run for it, and the response or the fault that kept
it from one. -/
structure Exchange where
  scripts : List String
  outcome : Except Fault HttpResponse
  deriving Repr

namespace Exchange

/-- An answer for which no script was run. -/
def plain (r : HttpResponse) : Exchange := ⟨[], .ok r⟩

def ofHandled (f : Format) (h : Handled) : Exchange := ⟨h.scripts, h.outcome.map (·.render f)⟩

end Exchange

/-- Answers a request to a path, the methods `GET` and `POST` alone. -/
def Barrier.answerAt (b : Barrier) (execute : Executor) (q : HttpRequest) (path : String) :
    Option Exchange :=
  match Method.of q.method with
  | .other => some (.plain .methodNotAllowed)
  | method =>
    match q.format with
    | .error name => some (.plain (.unsupportedFormat name))
    | .ok f =>
      match q.params? with
      | none => some (.plain (.badBody f))
      | some params => (b.handle execute ⟨method, path, params⟩).map (.ofHandled f)

/-- Answers a request, with the given pages in front. There is no answer while the load has not
ended. -/
def Barrier.answer (b : Barrier) (execute : Executor) (pages : List Page) (q : HttpRequest) :
    Option Exchange :=
  match pages.find? q.wants with
  | some p => some (.plain ⟨200, some Format.json.contentType, p.body⟩)
  | none =>
    match HttpRequest.addressed? q.path with
    | some path => b.answerAt execute q path
    | none => some (.plain (if q.isMisspelt then .redirect else .notFound))

end ScriptGateway
