import ContractScan.Web.Http

/-!
# Sharing across origins

A browser asks before it lets a page of another origin use the service. Credentials are always allowed;
an origin is echoed if it is one of those allowed, or if all are. A question before a request, a
preflight, is answered at once, whatever its path.
-/

namespace ContractScan.Web

/-- The methods that may be used across origins. -/
def sharedMethods : List String := ["DELETE", "GET", "HEAD", "OPTIONS", "PATCH", "POST", "PUT"]

/-- Whether an origin is allowed. -/
def allowsOrigin (allowed : List String) (origin : String) : Bool :=
  allowed.contains "*" || allowed.contains origin

/-- The headers for an origin. -/
def sharingHeaders (allowed : List String) (origin : String) : List (String × String) :=
  (if allowsOrigin allowed origin then [("access-control-allow-origin", origin)] else []) ++
    [("access-control-allow-credentials", "true")]

/-- The answer to a preflight. -/
def preflight (allowed : List String) (origin method : String) : HttpResponse :=
  let failures :=
    (if allowsOrigin allowed origin then [] else ["origin"]) ++
      (if sharedMethods.contains method then [] else ["method"])
  let headers := sharingHeaders allowed origin
  if failures.isEmpty then ⟨200, .text "OK", headers⟩
  else ⟨400, .text ("Disallowed CORS " ++ ", ".intercalate failures), headers⟩

end ContractScan.Web
