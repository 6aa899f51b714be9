import CollectionQuery.Http.Message
import CollectionQuery.Json.Reader
import CollectionQuery.Settings
import CollectionQuery.Text.LetterCase
import CollectionQuery.Text.Blank
import CollectionQuery.Text.Split
import CollectionQuery.Text.WideUnits

/-!
# The body of a request

A body that is to set a row has to be a JSON object, sent with a content type of JSON; its units may
have one, two or four bytes.  A body of any other kind is described in the response: where it is
wrong, how, and what was given instead.  What was given cannot be shown if a number in it is not
finite or a text in it has half a surrogate pair.
-/

namespace CollectionQuery.Http

open CollectionQuery.Text

/-- What is wrong with a body. -/
inductive BodyFault where
  /-- There is none, or it is null. -/
  | missing
  /-- It is no object. -/
  | notObject (given : Value)
  /-- It is no JSON document. -/
  | notJson (cause : Json.Cause) (offset : Nat)
  /-- It is a JSON document that cannot be read. -/
  | unreadable

namespace BodyFault

/-- The description of a fault at a place of the body. -/
def description (kind message : String) (place : List Value) (given : Value)
    (context : List (String × Value)) : Value :=
  .object [("detail", .list [.object (
    [("type", .text kind), ("loc", .list (.text "body" :: place)), ("msg", .text message),
      ("input", given)] ++ context)])]

/-- The response to a request with a faulty body, if it can be written. -/
def response? : BodyFault → Option Response
  | missing => some (.json 422 (description "missing" "Field required" [] .null []))
  | notObject given =>
    let said := description "dict_type" "Input should be a valid dictionary" [] given []
    if isWritable said then some (.json 422 said) else none
  | notJson cause offset => some (.json 422 (description "json_invalid" "JSON decode error"
      [.int offset] (.object []) [("ctx", .object [("error", .text cause.message)])]))
  | unreadable => some (.detail 400 "There was an error parsing the body")

end BodyFault

/-- The kind of a content type, in small letters and without its parameters. -/
def mediaType (contentType : String) : String :=
  lower (strip (String.ofList (contentType.toList.takeWhile (· ≠ ';'))))

/-- Whether a content type announces JSON. -/
def isJsonType (contentType : String) : Bool :=
  match splitOnChar '/' (mediaType contentType) with
  | ["application", kind] => kind == "json" || "+json".toList.isSuffixOf kind.toList
  | _ => false

/-- The text of a body, without a byte order mark in front. -/
def bodyText? (text : String) : Option AnyText :=
  match text.toList with
  | c :: rest =>
    if c.toNat = 0xFEFF then some (.whole (String.ofList rest))
    else (decodeWide? (c :: rest)).map .ofPoints
  | [] => some ""

/-- The JSON document in a body.  At most `limit` lists and objects may be open in it at once. -/
def readDocument (limit : Nat) (text : String) : Except BodyFault Value :=
  match bodyText? text with
  | none => .error .unreadable
  | some text => match Json.readSource (.of text) limit text.shown.toList with
    | .ok document => .ok document.toValue
    | .error fault =>
      if fault.cause.isSyntactic then .error (.notJson fault.cause fault.offset)
      else .error .unreadable

/-- The object in the body of a request. -/
def Request.object (settings : Settings) (r : Request) : Except BodyFault Value :=
  if r.body = "" then .error .missing
  else if !((r.headers.get? "content-type").map isJsonType).getD false then
    .error (.notObject (.text r.body))
  else do
    match ← readDocument settings.nesting.body r.body with
    | .null => .error .missing
    | .object members => .ok (.object members)
    | .mixed members => .ok (.mixed members)
    | other => .error (.notObject other)

end CollectionQuery.Http
