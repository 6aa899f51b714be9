import CollectionQuery.Http.Body
import CollectionQuery.Http.CrossOrigin
import CollectionQuery.Http.Route
import CollectionQuery.RawQuery.UrlText
import CollectionQuery.Service
import CollectionQuery.Text.Blank
import CollectionQuery.Value.Text

/-!
# Exchanges

What a request leads to: the store afterwards, the log and the response.  Failures that the service
expects are responses of their own; any other ends the exchange with a bare server error, without
the headers that all other responses have, and without an entry for the request.

A row that was written stays written even if it cannot be shown in the response.
-/

/-! ## Identifiers of requests

A request may bring an identifier of its own: ASCII letters, digits, points, underscores and dashes,
at most 128 of them.  Any other request gets a fresh one.
-/

namespace CollectionQuery.RequestId

/-- Whether a character may stand in an identifier. -/
def isAllowed (c : Char) : Bool := c.isAlphanum || c == '.' || c == '_' || c == '-'

/-- The identifier that a request brings, blanks around it left out. -/
def given? (header : Value) : Option String :=
  let text := Text.strip header.textOrEmpty
  if text ≠ "" ∧ text.length ≤ 128 ∧ text.toList.all isAllowed then some text else none

end CollectionQuery.RequestId

/-! ## Requests and responses -/

namespace CollectionQuery.Http

open CollectionQuery.Text

/-- The outcome of an exchange. -/
structure Exchange where
  /-- The store afterwards. -/
  store : Store
  /-- What was recorded. -/
  log : List LogEntry
  response : Response

/-- A response, or the fault that leaves none. -/
abbrev Reply := Option Response

/-- The reply to an outcome; `status` is that of a success. -/
def Reply.ofResult (status : Nat) : Except Failure Value → Reply
  | .ok v => if isWritable v then some (.json status v) else none
  | .error f => match f.status?, f.message? with
    | some code, some message => if f.isWritable then some (.detail code message) else none
    | _, _ => none

/-- What an action leads to, before the headers that all responses have. -/
structure Handled where
  /-- The store afterwards. -/
  store : Store
  /-- What was recorded. -/
  log : List LogEntry
  reply : Reply

namespace Handled

/-- A reply that leaves the store alone and records nothing. -/
def say (s : Store) (r : Response) : Handled := ⟨s, [], some r⟩

/-- What reading leads to. -/
def read (s : Store) (o : Outcome Value) : Handled := ⟨s, o.log, .ofResult 200 o.result⟩

/-- What writing leads to. -/
def write (status : Nat) (result : Store × Outcome Value) : Handled :=
  ⟨result.1, result.2.log, .ofResult status result.2.result⟩

end Handled

/-- The place of a page as an object. -/
def describePage (m : PageMeta) : Value := .object [
  ("currentPage", .int m.currentPage), ("items", .int m.items), ("totalItems", .int m.totalItems),
  ("totalPages", .int m.totalPages), ("hasNextPage", .bool m.hasNextPage),
  ("hasPreviousPage", .bool m.hasPreviousPage)]

/-- A page as an object.  A number in it that is not finite is shown as null. -/
def showPage (p : Page Value) : Value :=
  .object [("data", .list (finiteItems p.data)), ("meta", describePage p.info)]

def Request.params (settings : Settings) (r : Request) : Outcome QueryParams :=
  .ofExcept (QueryParams.ofRaw settings (.ofUrlText r.query))

/-- A page of a collection. -/
def listPage (settings : Settings) (s : Store) (a : Audience) (name : String) (r : Request) :
    Outcome Value := do
  let q ← r.params settings
  let page ← Service.list settings s a name q
  pure (showPage page)

/-- Does what a request with an object as its body asks for. -/
def withObject (settings : Settings) (s : Store) (r : Request) (run : Value → Handled) : Handled :=
  match r.object settings with
  | .ok payload => run payload
  | .error fault => ⟨s, [], fault.response?⟩

/-- Does what a request asks for. -/
def Action.run (settings : Settings) (s : Store) (occasion : Occasion) (r : Request) :
    Action → Handled
  | landing => .say s (.json 200 (.object
      [("service", .text settings.serviceName), ("status", .text "ok")]))
  | health => .say s (.json 200 (.object [("status", .text "ok")]))
  | describe => .say s (.json 200 Service.describe)
  | schema => .say s (.json 200 (.object []))
  | guide => .say s (.page 200)
  | list name => .read s (listPage settings s .staff name r)
  | listPublic name => .read s (listPage settings s .everyone name r)
  | get name id => .read s (do Service.get s name (.text id) (← r.params settings))
  | create name => withObject settings s r fun payload =>
      .write 201 (Service.create s occasion name payload)
  | update name id => withObject settings s r fun payload =>
      .write 200 (Service.update s occasion name (.text id) payload)
  | delete name id => .write 200 (Service.delete s occasion name (.text id))

/-- Whether a character may stand in the name of a host. -/
def isHostChar (c : Char) : Bool :=
  UrlText.isUnreserved c || c ∈ "%!$&\x27()*+,;=".toList

/-- Whether a text names a host: a name, or an address in brackets. -/
def isHost (text : List Char) : Bool :=
  match text with
  | '[' :: rest => match rest.reverse with
    | ']' :: inner => !inner.isEmpty && inner.all fun c =>
        (Uuid.hexValue? c).isSome || c == ':' || c == '.'
    | _ => false
  | _ => !text.isEmpty && text.all isHostChar

/-- The greatest number of a port. -/
def maxPort : Nat := 65535

/-- Whether a text names a host and perhaps a port. -/
def isAuthority (text : String) : Bool :=
  let digits := (text.toList.reverse.takeWhile Char.isDigit).reverse
  match text.toList.reverse.dropWhile Char.isDigit with
  | ':' :: host => isHost host.reverse && !digits.isEmpty && Number.ofDigits digits ≤ maxPort
  | _ => isHost text.toList

/-- The host that a request is addressed to; `own` is the name of the service itself. -/
def Request.host (own : String) (r : Request) : String :=
  ((r.headers.get? "host").filter isAuthority).getD own

/-- The address that a request is redirected to. -/
def location (host path query : String) : String :=
  let full := "http://".toList ++ host.toList ++ UrlText.pathText path.toList ++
    (if query = "" then [] else '?' :: query.toList)
  String.ofList (UrlText.escape UrlText.isAddressChar full)

/-- Finds out what a request asks for, and does it. -/
def dispatch (settings : Settings) (own : String) (s : Store) (occasion : Occasion) (r : Request) :
    Handled :=
  match Destination.of r.method r.path with
  | .action a => a.run settings s occasion r
  | .wrongMethod allowed => .say s
      ((Response.detail 405 "Method Not Allowed").withHeaders [("allow", joinWith ", " allowed)])
  | .redirect path => .say s ⟨307, [("location", location (r.host own) path r.query)], .text ""⟩
  | .nowhere => .say s (.detail 404 "Not Found")

/-- The headers of all responses that are not bare server errors. -/
def commonHeaders (requestId : String) : Headers := [
  ("x-content-type-options", "nosniff"), ("x-frame-options", "DENY"),
  ("referrer-policy", "no-referrer"), ("cross-origin-resource-policy", "same-origin"),
  ("cache-control", "no-store"), ("x-request-id", requestId)]

/-- The identifier of a request; `fresh` is that of one that brings none. -/
def Request.id (r : Request) (fresh : String) : String :=
  (RequestId.given? (.text ((r.headers.get? "x-request-id").getD ""))).getD fresh

/-- The path as it is recorded, which is in an address without tabs and line ends. -/
def Request.recordedPath (r : Request) : String :=
  String.ofList ((UrlText.pathText r.path.toList).filter fun c => c ∉ ['\t', '\n', '\r'])

/-- A response as it is sent: without content if only the headers were asked for. -/
def Response.sentFor (r : Request) (response : Response) : Response :=
  if r.method = "HEAD" then { response with content := .text "" } else response

/-- Carries out a request.  `own` is the name of the service as a host, and `freshRequestId` the
identifier of a request that brings none. -/
def exchange (settings : Settings) (own : String) (s : Store) (occasion : Occasion)
    (freshRequestId : String) (r : Request) : Exchange :=
  let origins := settings.originList
  let handled :=
    if CrossOrigin.isQuestion r then Handled.say s (CrossOrigin.answer origins r)
    else
      let h := dispatch settings own s occasion r
      { h with reply := h.reply.map fun reply =>
          reply.withHeaders (CrossOrigin.headersFor origins r) }
  match handled.reply with
  | none => ⟨handled.store, handled.log, Response.serverError.sentFor r⟩
  | some reply =>
    let id := r.id freshRequestId
    ⟨handled.store,
      handled.log ++ [.answered r.method r.recordedPath reply.status id],
      (reply.withHeaders (commonHeaders id)).sentFor r⟩

end CollectionQuery.Http
