import LabelPress.Profile
import LabelPress.Text.Utf8

/-!
# The rendering service

A remote service turns programs into images. A client describes its requests as data and reads the
replies; the transport between them is not its concern. One request is made for one rendering, and
it is never repeated.
-/

namespace LabelPress.Preview

/-- The body of a reply: an image of a known size, or other bytes. -/
inductive Content where
  | image (width height : Nat)
  | bytes (octets : List UInt8)
  deriving DecidableEq

/-- The size of the image that a body is. -/
def Content.imageSize : Content → Except Fault (Nat × Nat)
  | .image width height => .ok (width, height)
  | .bytes _ => .error .notAnImage

/-- A request to the service. Its body is a program text in UTF-8. -/
structure Request where
  url : Text
  body : List UInt8
  headers : List (Text × Text)
  timeout : Value

/-- What comes back for a request. -/
inductive Reply where
  /-- An answer of the service. -/
  | answer (status : Int) (headers : List (Text × Text)) (content : Content)
  /-- The transport did not get through. -/
  | unreachable (reason : Text)
  /-- Something outside the transport went wrong. -/
  | broken (fault : Fault)

/-- A rendered label. -/
structure Rendering where
  content : Content
  contentType : Text
  deriving DecidableEq

/-- The media type that is asked for, and assumed where a reply names none. -/
def imageType : Text := "image/png".toText

/-- A client of a service at an address. -/
structure Client where
  base : Text
  timeout : Value

namespace Client

/-- The address of the public service. -/
def publicBase : Text := "http://api.labelary.com/v1".toText

/-- The seconds after which a request is given up. -/
def standardTimeout : Value := .float 15

/-- A client of the service at an address, whose slashes at the end do not count. -/
def ofBase (base : Text) (timeout : Value := standardTimeout) : Client where
  base := (base.reverse.dropWhile (· == .scalar '/')).reverse
  timeout := timeout

/-- The client of the service at an address that is a value. -/
def ofValue (base : Value) (timeout : Value := standardTimeout) : Except Fault Client :=
  match base with
  | .text base => .ok (ofBase base timeout)
  | _ => .error .missingMember

/-- The client that named arguments describe. -/
def ofArguments (given : List (Text × Value)) : Except Fault Client := do
  Value.bindArguments [] ["base_url", "timeout"] given
  ofValue ((Value.lookup? "base_url".toText given).getD (.text publicBase))
    ((Value.lookup? "timeout".toText given).getD standardTimeout)

/-- The address at which labels of a profile are rendered. -/
def url (client : Client) (profile : Profile) : Text :=
  client.base ++ "/printers/".toText ++ profile.resolution.name ++ "/labels/".toText ++
    profile.size.name ++ "/0/".toText

/-- The request for the rendering of a program. -/
def request (client : Client) (markup : Text) (profile : Profile := {}) :
    Except Fault Request := do
  return {
    url := client.url profile
    body := ← markup.toUtf8
    headers := [("Accept".toText, imageType),
      ("Content-Type".toText, "application/x-www-form-urlencoded".toText)]
    timeout := client.timeout }

end Client

/-- The value of a header, whose name is compared without regard to case. Of several headers of one
name the last counts. -/
def header? (name : Text) (headers : List (Text × Text)) : Option Text :=
  (headers.reverse.find? fun header =>
    header.1.map CodePoint.toLower == name.map CodePoint.toLower).map Prod.snd

/-- The rendering in a reply: the body of an answer with a status from 200 to 299. -/
def Reply.rendering : Reply → Except Fault Rendering
  | .answer status headers content =>
    if 200 ≤ status ∧ status < 300 then
      .ok { content, contentType := (header? "Content-Type".toText headers).getD imageType }
    else .error (.naming [.int status] (.serviceStatus status))
  | .unreachable reason => .error (.serviceUnreachable reason)
  | .broken fault => .error fault

end LabelPress.Preview
