import CollectionQuery.Http.Message
import CollectionQuery.Text.Split

/-!
# Requests from other origins

A page of an allowed origin may call the service with all methods and headers, and with credentials.
Such a page first asks with a request of its own whether it may; that request is answered here and
reaches nothing else.  A page of a public network may not call a service of a private one.
-/

namespace CollectionQuery.Http.CrossOrigin

open CollectionQuery.Text

/-- The methods that a page may use. -/
def methods : List String :=
  ["DELETE", "GET", "HEAD", "OPTIONS", "PATCH", "POST", "PUT", "QUERY"]

/-- The headers that the answer to a question depends on. -/
def questionHeaders : List String :=
  ["Origin", "Access-Control-Request-Method", "Access-Control-Request-Headers",
    "Access-Control-Request-Private-Network"]

/-- Whether pages of an origin may call the service. -/
def isAllowed (origins : List String) (origin : String) : Bool :=
  "*" ∈ origins || origin ∈ origins

/-- Whether a request only asks what a page may do. -/
def isQuestion (r : Request) : Bool :=
  (r.headers.get? "origin").isSome && r.method == "OPTIONS" &&
    (r.headers.get? "access-control-request-method").isSome

/-- The answer to such a question. -/
def answer (origins : List String) (r : Request) : Response :=
  let origin := (r.headers.get? "origin").getD ""
  let method := (r.headers.get? "access-control-request-method").getD ""
  let originOk := isAllowed origins origin
  let methodOk := method ∈ methods
  let network := (r.headers.get? "access-control-request-private-network").isSome
  let base : Headers := [("vary", joinWith ", " questionHeaders),
    ("access-control-allow-methods", joinWith ", " methods), ("access-control-max-age", "600"),
    ("access-control-allow-credentials", "true")]
  let allowed : Headers := if originOk then [("access-control-allow-origin", origin)] else []
  let asked : Headers := match r.headers.get? "access-control-request-headers" with
    | some names => [("access-control-allow-headers", names)]
    | none => []
  let failures := (if originOk then [] else ["origin"]) ++
    (if methodOk then [] else ["method"]) ++ (if network then ["private-network"] else [])
  let response :=
    if failures.isEmpty then Response.plain 200 "OK"
    else .plain 400 ("Disallowed CORS " ++ joinWith ", " failures)
  response.withHeaders (base ++ allowed ++ asked)

/-- The header that tells an origin that it may use a response. -/
def originHeader (origins : List String) (r : Request) (origin : String) : Headers :=
  if "*" ∈ origins && !(r.headers.get? "cookie").isSome then [("access-control-allow-origin", "*")]
  else if isAllowed origins origin then [("access-control-allow-origin", origin)]
  else []

/-- The headers that a response has because of the origin of its request. -/
def headersFor (origins : List String) (r : Request) : Headers :=
  ("vary", "Origin") :: match r.headers.get? "origin" with
    | none => []
    | some origin => ("access-control-allow-credentials", "true") :: originHeader origins r origin

end CollectionQuery.Http.CrossOrigin
