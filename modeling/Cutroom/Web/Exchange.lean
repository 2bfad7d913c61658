import Cutroom.Web.Url

/-! Requests and responses of the web, and a network, which answers as it is told. -/

namespace Cutroom

/-- A request as it is sent. --/
structure Request where
  method : String
  /-- Where it goes; whoever signs in there is not part of it. -/
  address : Url
  /-- The headers that sign the request, in order. -/
  authorization : List String
  contentType : Option String
  body : ByteArray

/-- What a request asks the server for. --/
def Request.target (r : Request) : String := r.address.target

structure Response where
  status : Nat
  /-- The place that the response points to. -/
  location : Option String
  /-- The body, none where it breaks off. -/
  body : Option ByteArray

/-- Why no usable response comes back. --/
inductive ExchangeError where
  /-- The request cannot be put together. -/
  | unsendable
  /-- No request can be sent to the address. -/
  | unreachable (text : String)
  /-- The server hung up. -/
  | hungUp (url : Url)
  /-- The responses lead on and on. -/
  | astray (url : Url)
  /-- The body of the response is not what it should be. -/
  | unreadable

def ExchangeError.message : ExchangeError → String
  | unsendable => "builder error"
  | unreachable text => "builder error for url (" ++ text ++ ")"
  | hungUp url => "error sending request for url (" ++ url.text ++ ")"
  | astray url => "error following redirect for url (" ++ url.text ++ ")"
  | unreadable => "error decoding response body"

namespace Response

/-- The standard reasons of the status codes. --/
def reasons : List (Nat × String) :=
  [(100, "Continue"), (101, "Switching Protocols"), (102, "Processing"), (103, "Early Hints"),
    (200, "OK"), (201, "Created"), (202, "Accepted"), (203, "Non Authoritative Information"),
    (204, "No Content"), (205, "Reset Content"), (206, "Partial Content"), (207, "Multi-Status"),
    (208, "Already Reported"), (226, "IM Used"),
    (300, "Multiple Choices"), (301, "Moved Permanently"), (302, "Found"), (303, "See Other"),
    (304, "Not Modified"), (305, "Use Proxy"), (307, "Temporary Redirect"), (308, "Permanent Redirect"),
    (400, "Bad Request"), (401, "Unauthorized"), (402, "Payment Required"), (403, "Forbidden"),
    (404, "Not Found"), (405, "Method Not Allowed"), (406, "Not Acceptable"),
    (407, "Proxy Authentication Required"), (408, "Request Timeout"), (409, "Conflict"), (410, "Gone"),
    (411, "Length Required"), (412, "Precondition Failed"), (413, "Payload Too Large"), (414, "URI Too Long"),
    (415, "Unsupported Media Type"), (416, "Range Not Satisfiable"), (417, "Expectation Failed"),
    (418, "I'm a teapot"), (421, "Misdirected Request"), (422, "Unprocessable Entity"), (423, "Locked"),
    (424, "Failed Dependency"), (425, "Too Early"), (426, "Upgrade Required"), (428, "Precondition Required"),
    (429, "Too Many Requests"), (431, "Request Header Fields Too Large"),
    (451, "Unavailable For Legal Reasons"),
    (500, "Internal Server Error"), (501, "Not Implemented"), (502, "Bad Gateway"),
    (503, "Service Unavailable"), (504, "Gateway Timeout"), (505, "HTTP Version Not Supported"),
    (506, "Variant Also Negotiates"), (507, "Insufficient Storage"), (508, "Loop Detected"),
    (510, "Not Extended"), (511, "Network Authentication Required")]

/-- The status code with its reason. --/
def statusText (r : Response) : String :=
  String.ofList (Decimal.numeral r.status) ++ " " ++ (reasons.lookup r.status).getD "<unknown status code>"

def isSuccess (r : Response) : Bool := 200 ≤ r.status && r.status < 300

/-- A response that points nowhere, with its whole body. --/
def whole (status : Nat) (body : ByteArray) : Response := ⟨status, none, some body⟩

/-- What arrives of a response. Some codes stand for a response without a body. A code of less than two
    hundred only announces a response, which then never comes, unless the code ends the exchange; a code that
    is not of three digits is none. --/
def received? (r : Response) : Option Response :=
  if r.status = 101 ∨ r.status = 204 ∨ r.status = 304 then some { r with body := some ByteArray.empty }
  else if 200 ≤ r.status ∧ r.status < 1000 then some r
  else none

end Response

/-- A network. Each request to an address that is reached takes the next response; where that is none, or where the
    responses have run out, the server hangs up. Nobody answers elsewhere. --/
structure Network where
  reached : Url → Bool
  responses : List (Option Response)
  /-- The requests that have arrived, in order. -/
  requests : List Request

namespace Network

/-- A network with one server, to which nothing has been sent. --/
def ofServer (authority : String) (responses : List (Option Response)) : Network where
  reached u := u.scheme = "http" && u.authority = authority
  responses := responses
  requests := []

/-- Hands over one request. --/
def deliver (n : Network) (r : Request) : Option Response × Network :=
  if n.reached r.address then
    ((n.responses.headD none).bind Response.received?,
      { n with responses := n.responses.drop 1, requests := n.requests ++ [r] })
  else (none, n)

end Network
end Cutroom
