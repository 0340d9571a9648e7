import TenantGateway.Http.Message

/-! # Sharing with other origins

Sharing answers with pages of other origins. All methods and headers are allowed, and credentials
too, so the answer names the origin it is shared with.
-/
namespace TenantGateway.Http.Cors

def allows (origins : List String) (origin : String) : Bool :=
  origins.contains "*" || origins.contains origin

def allowOrigin (origins : List String) (origin : String) : List (String × String) :=
  if allows origins origin then [("access-control-allow-origin", origin)] else []

/-- Every answer depends on the origin; one to a page of another origin says what it may do. -/
def share (origins : List String) (origin : Option String) (a : Answer) : Answer :=
  match origin with
  | none => a.withHeaders [("vary", "Origin")]
  | some origin =>
    a.withHeaders (("access-control-allow-credentials", "true") :: ("vary", "Origin") ::
      allowOrigin origins origin)

def methods : List String :=
  ["DELETE", "GET", "HEAD", "OPTIONS", "PATCH", "POST", "PUT", "QUERY"]

def failures (origins : List String) (origin method : String) (r : Request) : List String :=
  (if allows origins origin then [] else ["origin"]) ++
    (if methods.contains method then [] else ["method"]) ++
    (if (r.header? "access-control-request-private-network").isSome then ["private-network"]
      else [])

/-- The answer to a page that asks in advance whether it may send a request. -/
def preflight (origins : List String) (origin method : String) (r : Request) : Answer :=
  let answer :=
    match failures origins origin method r with
    | [] => Answer.plain 200 "OK"
    | fs => Answer.plain 400 ("Disallowed CORS " ++ ", ".intercalate fs)
  answer.withHeaders
    ([("vary", "Origin, Access-Control-Request-Method, Access-Control-Request-Headers, " ++
        "Access-Control-Request-Private-Network"),
      ("access-control-allow-credentials", "true"),
      ("access-control-allow-methods", ", ".intercalate methods),
      ("access-control-max-age", "600")] ++
      allowOrigin origins origin ++
      (match r.header? "access-control-request-headers" with
      | some headers => [("access-control-allow-headers", headers)]
      | none => []))

def preflight? (r : Request) : Option (String × String) :=
  if r.method = "OPTIONS" then
    match r.header? "origin", r.header? "access-control-request-method" with
    | some origin, some method => some (origin, method)
    | _, _ => none
  else none

end TenantGateway.Http.Cors
