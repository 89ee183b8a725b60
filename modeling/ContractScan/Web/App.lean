import ContractScan.Network.Fetch
import ContractScan.Web.Cors
import ContractScan.Wire.Model

/-!
# The service

Two routes, one that analyzes an address and one that tells that the service is alive, and the pages
that describe them, which production does without. A body is checked before anything is asked of the
outside world. A path with a slash too many or too few is redirected.
-/

namespace ContractScan.Web

open ContractScan.Network ContractScan.Wire ContractScan.Text

/-- What a route does. -/
inductive Endpoint where
  | health
  | analyze
  | page
  | description
  deriving DecidableEq, Repr

/-- A route. -/
structure Route where
  path : String
  methods : List String
  endpoint : Endpoint
  deriving DecidableEq, Repr

/-- The routes of the service. -/
def routes (app : Settings) : List Route :=
  [⟨"/openapi.json", ["GET", "HEAD"], .description⟩] ++
    (if app.isProduction then []
      else ["/docs", "/docs/oauth2-redirect", "/redoc"].map fun p => ⟨p, ["GET", "HEAD"], .page⟩) ++
    [⟨"/api/analyze", ["POST"], .analyze⟩, ⟨"/health", ["GET"], .health⟩]

/-- The version of the service. -/
def version : String := "0.1.0"

/-- A step of a path as a value. -/
def stepValue : PathStep → Json
  | .field n => .str n
  | .index n => .int n

/-- An issue as a value. -/
def issueValue (i : Issue) : Json :=
  .obj [("type", .str i.problem.code), ("loc", .arr (i.path.map stepValue)),
    ("msg", .str i.problem.message)]

/-- The response to a request whose body is not what it should be. -/
def unprocessable (issues : List Issue) : HttpResponse :=
  refusal 422 (.arr (issues.map issueValue))

/-- Whether a content type stands for JSON; without one, the body is taken for JSON. -/
def isJsonType (contentType : Option String) : Bool :=
  match contentType with
  | none => true
  | some t =>
    let name := (trim (t.toList.takeWhile (· != ';'))).map Char.toLower
    let subtype := (name.dropWhile (· != '/')).drop 1
    t.isEmpty ||
      (name.takeWhile (· != '/') == "application".toList && !subtype.contains '/' &&
        (subtype == "json".toList || "+json".toList.isSuffixOf subtype))

/-- What a body is worth: a request, or the response that refuses it. -/
def readBody (r : HttpRequest) : Except HttpResponse AnalyzeRequest :=
  if r.body.isEmpty then .error (unprocessable [⟨[.field "body"], .missing⟩])
  else if isJsonType (r.header? "content-type") then
    match Json.readBytes r.body with
    | .ok v =>
      match (fromParts AnalyzeRequest.checkParts (.value v)).under (.field "body") with
      | .valid q => .ok q
      | .invalid is => .error (unprocessable is)
    | .error (.malformed offset) =>
      .error (unprocessable [⟨[.field "body", .index offset], .notJson⟩])
    | .error _ => .error (refusal 400 (.str "There was an error parsing the body"))
  else .error (unprocessable [⟨[.field "body"], .noFields⟩])

/-- The response when something went wrong inside. -/
def internalError : HttpResponse := ⟨500, .text "Internal Server Error", []⟩

/-- What the service did: its response and the requests it made. A failure inside is not shared across
origins. -/
structure Served where
  response : HttpResponse
  requests : List Request := []
  /-- Whether something went wrong inside. -/
  failed : Bool := false

/-- The answer about facts: what is told of them and their report; none if they cannot be told. -/
def answerFor (services : Settings) (info : ContractInfo) : Option AnalyzeResponse :=
  match Report.generate { contextLines := services.snippetContextLines } info with
  | .error _ => none
  | .ok report =>
    match ContractSummary.check (.ofContractInfo info), checkReport (.ofReport report) with
    | .valid facts, .valid analysis => some ⟨facts, analysis⟩
    | _, _ => none

/-- Answers a request for the analysis of an address. -/
def serveAnalysis (services : Settings) (scripts : Scripts) (q : AnalyzeRequest) : Served :=
  let run := fetch services q.address scripts
  match run.result with
  | .error (.summary _) => ⟨internalError, run.requests, true⟩
  | .error .invalidAddress =>
    ⟨refusal 400 (.str (FetchError.invalidAddress.message?.getD "")), run.requests, false⟩
  | .error .noProvider =>
    ⟨refusal 502 (.str (FetchError.noProvider.message?.getD "")), run.requests, false⟩
  | .ok info =>
    match answerFor services info with
    | some a => ⟨⟨200, .json (a.dump .camel), []⟩, run.requests, false⟩
    | none => ⟨internalError, run.requests, true⟩

/-- Does what a route does. -/
def Endpoint.serve (e : Endpoint) (services : Settings) (scripts : Scripts) (r : HttpRequest) : Served :=
  match e with
  | .health => { response := ⟨200, .json (.obj [("status", .str "healthy"), ("version", .str version)]), []⟩ }
  | .page => { response := ⟨200, .page, []⟩ }
  | .description => { response := ⟨200, .description, []⟩ }
  | .analyze =>
    match readBody r with
    | .error refused => { response := refused }
    | .ok q => serveAnalysis services scripts q

/-- The path with the slash at its end dropped, or added if it has none. -/
def otherSlash (path : List Char) : List Char :=
  if path.getLast? = some '/' then (path.reverse.dropWhile (· == '/')).reverse else path ++ ['/']

/-- Where the service stands. -/
def baseUrl : String := "http://testserver"

/-- Finds the route of a request and does what it does. -/
def dispatch (app services : Settings) (scripts : Scripts) (r : HttpRequest) : Served :=
  let here := (routes app).filter (·.path == r.path)
  match here.find? (·.methods.contains r.method), here with
  | some route, _ => route.endpoint.serve services scripts r
  -- a path that is known without the method is refused, never redirected
  | none, route :: _ =>
    { response := (refusal 405 (.str "Method Not Allowed")).withHeaders
        [("allow", ", ".intercalate route.methods)] }
  | none, [] =>
    let other := String.ofList (otherSlash r.path.toList)
    if r.path != "/" && (routes app).any (·.path == other) then
      { response := ⟨307, .nothing, [("location", baseUrl ++ other ++ r.query)]⟩ }
    else { response := refusal 404 (.str "Not Found") }

/-- Answers a request: `app` says which pages and origins there are, `services` what the analysis is
done with. -/
def handle (app services : Settings) (scripts : Scripts) (r : HttpRequest) : Served :=
  match r.header? "origin", r.header? "access-control-request-method" with
  | none, _ => dispatch app services scripts r
  | some origin, asked =>
    -- only an OPTIONS request that names a method asks for permission
    match if r.method = "OPTIONS" then asked else none with
    | some method => { response := preflight app.corsOrigins origin method }
    | none =>
      let served := dispatch app services scripts r
      if served.failed then served
      else { served with response := served.response.withHeaders (sharingHeaders app.corsOrigins origin) }

end ContractScan.Web
