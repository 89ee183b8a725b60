import ContractScan.Json.Bytes

/-!
# HTTP -- requests and responses of the service
-/

namespace ContractScan.Web

/-- A request to the service. -/
structure HttpRequest where
  method : String
  /-- The path, with a query after it if there is one. -/
  target : String
  /-- The headers. -/
  headers : List (String × String)
  body : Json.Bytes

/-- What a response holds. -/
inductive Content where
  | json (v : Json)
  | text (s : String)
  | page
  | description
  | nothing

/-- A response of the service. -/
structure HttpResponse where
  status : Nat
  content : Content
  /-- The headers that are told apart from the type of the content. -/
  headers : List (String × String) := []

/-- The type of a content. -/
def Content.type : Content → String
  | .json _ => "application/json"
  | .text _ => "text/plain"
  | .page => "text/html"
  | .description => "application/json"
  | .nothing => ""

/-- The value of a header, whose name counts without regard to case. -/
def HttpRequest.header? (r : HttpRequest) (name : String) : Option String :=
  (r.headers.find? fun h => h.1.map Char.toLower == name).map (·.2)

/-- The path without the query. -/
def HttpRequest.path (r : HttpRequest) : String :=
  String.ofList (r.target.toList.takeWhile (· != '?'))

/-- The query with its question mark, if there is one. -/
def HttpRequest.query (r : HttpRequest) : String :=
  match r.target.toList.dropWhile (· != '?') with
  | ['?'] => ""
  | q => String.ofList q

/-- A response that tells what went wrong. -/
def refusal (status : Nat) (detail : Json) : HttpResponse := ⟨status, .json (.obj [("detail", detail)]), []⟩

/-- A response with more headers. -/
def HttpResponse.withHeaders (r : HttpResponse) (hs : List (String × String)) : HttpResponse :=
  { r with headers := r.headers ++ hs }

end ContractScan.Web
