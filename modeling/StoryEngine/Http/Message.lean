import StoryEngine.Error
import StoryEngine.Json.Printer
import StoryEngine.Json.Record
import StoryEngine.Text.Case
import StoryEngine.Text.Quoted

/-!
# HTTP messages

Requests with a JSON body and the responses to them. The method of a request is a token of visible
ASCII characters and is sent in upper case.
-/

namespace StoryEngine.Http

/-- Content type of JSON bodies. -/
def jsonContentType : String := "application/json; charset=utf-8"

/-- Whether a character may stand in a token. -/
def isTokenChar (c : Char) : Bool :=
  c.isAlphanum || "!#$%&'*+-.^_`|~".contains c

/-- Whether a text is a token: not empty, and all its characters may stand in one. -/
def isToken (s : String) : Bool :=
  s ≠ "" && s.toList.all isTokenChar

/-- A request to send. -/
structure Request where
  method : String
  url : String
  headers : List (String × String)
  body : Option String
  deriving DecidableEq, Repr

/-- A response received. -/
structure Response where
  status : UInt16
  body : String
  deriving DecidableEq, Repr

namespace Request

/-- A request with a JSON body; the method must be a token. -/
def json (method url : String) (body : Json) : Except EngineError Request :=
  if isToken method then
    .ok {
      method := Text.uppercase method
      url := url
      headers := [("Content-Type", jsonContentType)]
      body := some body.compact }
  else
    .error (.validation s!"Invalid HTTP method: {Text.quote method}")

/-- The request line shown in messages. -/
def display (request : Request) : String :=
  s!"{request.method} {request.url}"

end Request

namespace Response

/-- Whether the status is one of success. -/
def isSuccess (response : Response) : Bool :=
  response.status / 100 = 2

/-- Reads a response. -/
def ofRaw (raw : Json.Raw) : Json.Decoded Response := do
  let fields ← raw.record ["status", "body"]
  let status ← fields.required "status" Json.Raw.word16
  let body ← fields.required "body" Json.Raw.text
  pure { status, body }

/-- The response as JSON. -/
def toJson (response : Response) : Json :=
  .obj [("body", .str response.body), ("status", .nat response.status.toNat)]

end Response

end StoryEngine.Http
