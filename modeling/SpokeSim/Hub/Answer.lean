import SpokeSim.Json.Parser
import SpokeSim.Text.Utf8

/-!
# Answers

An answer is a status and a body.  The body is a document, a text that claims to be one, or bytes
that claim to be a text.

* `Body.text`: the body as text.
* `Body.draft`: the body taken for a document.
* `statusLine`: a status with its standard phrase.
-/

namespace SpokeSim

/-- The body of an answer. -/
inductive Body where
  /-- A document, to be written compactly. -/
  | document (j : Json)
  | text (s : String)
  | bytes (bs : List UInt8)
deriving Inhabited

namespace Body

/-- The body as text, unless it is bytes that are none. -/
def text? : Body → Except Text.Utf8Fault String
  | document j => .ok j.compact
  | text s => .ok s
  | bytes bs => Text.decode bs

/-- The text of the body, or nothing if it has none. -/
def shown (b : Body) : String := b.text?.toOption.getD ""

/-- The body taken for a document. -/
def draft : Body → Except Text.Utf8Fault Json.Draft
  | document j => .ok (.ofJson j)
  | text s => .ok (.ofText s)
  | bytes bs => (Text.decode bs).map .ofText

/-- The bytes of the body. -/
def toBytes : Body → List UInt8
  | document j => j.compact.toUTF8.toList
  | text s => s.toUTF8.toList
  | bytes bs => bs

end Body

/-- What the hub says to a request. -/
structure Answer where
  status : Nat
  body : Body
deriving Inhabited

/-- Whether a status tells of a failure, of the client or of the server. -/
def isFailure (status : Nat) : Bool := 400 ≤ status && status ≤ 599

/-- The standard phrase of a status. -/
def statusPhrase? : Nat → Option String
  | 100 => some "Continue"
  | 101 => some "Switching Protocols"
  | 102 => some "Processing"
  | 200 => some "OK"
  | 201 => some "Created"
  | 202 => some "Accepted"
  | 203 => some "Non Authoritative Information"
  | 204 => some "No Content"
  | 205 => some "Reset Content"
  | 206 => some "Partial Content"
  | 207 => some "Multi-Status"
  | 208 => some "Already Reported"
  | 226 => some "IM Used"
  | 300 => some "Multiple Choices"
  | 301 => some "Moved Permanently"
  | 302 => some "Found"
  | 303 => some "See Other"
  | 304 => some "Not Modified"
  | 305 => some "Use Proxy"
  | 307 => some "Temporary Redirect"
  | 308 => some "Permanent Redirect"
  | 400 => some "Bad Request"
  | 401 => some "Unauthorized"
  | 402 => some "Payment Required"
  | 403 => some "Forbidden"
  | 404 => some "Not Found"
  | 405 => some "Method Not Allowed"
  | 406 => some "Not Acceptable"
  | 407 => some "Proxy Authentication Required"
  | 408 => some "Request Timeout"
  | 409 => some "Conflict"
  | 410 => some "Gone"
  | 411 => some "Length Required"
  | 412 => some "Precondition Failed"
  | 413 => some "Payload Too Large"
  | 414 => some "URI Too Long"
  | 415 => some "Unsupported Media Type"
  | 416 => some "Range Not Satisfiable"
  | 417 => some "Expectation Failed"
  | 418 => some "I'm a teapot"
  | 421 => some "Misdirected Request"
  | 422 => some "Unprocessable Entity"
  | 423 => some "Locked"
  | 424 => some "Failed Dependency"
  | 425 => some "Too Early"
  | 426 => some "Upgrade Required"
  | 428 => some "Precondition Required"
  | 429 => some "Too Many Requests"
  | 431 => some "Request Header Fields Too Large"
  | 451 => some "Unavailable For Legal Reasons"
  | 500 => some "Internal Server Error"
  | 501 => some "Not Implemented"
  | 502 => some "Bad Gateway"
  | 503 => some "Service Unavailable"
  | 504 => some "Gateway Timeout"
  | 505 => some "HTTP Version Not Supported"
  | 506 => some "Variant Also Negotiates"
  | 507 => some "Insufficient Storage"
  | 508 => some "Loop Detected"
  | 510 => some "Not Extended"
  | 511 => some "Network Authentication Required"
  | _ => none

/-- A status with its phrase. -/
def statusLine (status : Nat) : String :=
  toString status ++ " " ++ (statusPhrase? status).getD "<unknown status code>"

end SpokeSim
