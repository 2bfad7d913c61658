import Cutroom.Job.Record
import Cutroom.Job.Status
import Cutroom.Json.Reader
import Cutroom.Json.Writer
import Cutroom.Text.Digits
import Cutroom.Text.Bytes
import Cutroom.Web.MediaType
import Cutroom.Web.Redirect

/-! The service behind its web interface. Every request is classified by what was asked for, so that each kind
    of request has its own kind of failure. -/

namespace Cutroom

structure Credentials where
  email : String
  password : String

def Credentials.toJson (c : Credentials) : Json :=
  .object [("email", .string c.email), ("password", .string c.password)]

/-- The answer to an upload: the job, or what went wrong with the file. --/
structure UploadReply where
  job : Option JobId
  duration : Option Seconds
  status : Option JobStatus
  message : Option String
  error : Option String

namespace UploadReply

def ofJson? (v : Json) : Option UploadReply := do
  let [job, duration, status, message, error] ←
    v.slots? (Json.named ["job_id", "duration", "status", "message", "error"]) | none
  some {
    job := ← job.orElse (Json.nullable JobId.ofJson?) none
    duration := ← duration.orElse (Json.nullable Json.float?) none
    status := ← status.orElse (Json.nullable JobStatus.ofJson?) none
    message := ← message.orElse (Json.nullable Json.string?) none
    error := ← error.orElse (Json.nullable Json.string?) none }

/-- The receipt of an accepted upload; a length that cannot be is left out. --/
def receipt (r : UploadReply) : Except JobError Receipt :=
  match r.error, r.job with
  | some error, _ => .error (.upload ((r.message.map fun m => m ++ ": " ++ error).getD error))
  | none, none => .error (.missing "job_id")
  | none, some job =>
    .ok ⟨job, r.duration.filter fun d => d.isFinite && 0.0 ≤ d, r.status.getD .queued⟩

end UploadReply

/-- A request that is yet to be sent: where it goes, and the type and the bytes of its body. --/
structure Draft where
  method : String
  path : String
  parameters : List (String × String)
  /-- The token goes along. -/
  signed : Bool
  content : Option (String × ByteArray)

namespace Draft

def get (path : String) : Draft := ⟨"GET", path, [], true, none⟩

def post (path type : String) (body : ByteArray) : Draft := ⟨"POST", path, [], true, some (type, body)⟩

def postJson (path : String) (v : Json) : Draft := post path "application/json" v.line.toUTF8

end Draft

/-- A client of the service at a base address. --/
structure Client where
  base : String
  token : Option String
  /-- What separates the parts of an upload. -/
  boundary : String
  network : Network

namespace Client

def dropSlashes (cs : List Char) : List Char := (cs.reverse.dropWhile (· = '/')).reverse

/-- A client without a token; slashes at the end of the base address are dropped. --/
def opened (base boundary : String) (network : Network) : Client :=
  ⟨String.ofList (dropSlashes base.toList), none, boundary, network⟩

def url (c : Client) (path : String) : String := c.base ++ path

/-! ### Sending -/

/-- Characters that a header may carry. --/
def isHeaderChar (c : Char) : Bool := c = '\t' || (0x20 ≤ c.toNat && c.toNat != 0x7F)

/-- A header as it arrives, without spaces and tabs at its ends. --/
def headerValue (s : String) : String :=
  let blank (c : Char) : Bool := c = ' ' || c = '\t'
  String.ofList ((s.toList.dropWhile blank).reverse.dropWhile blank).reverse

/-- The header that signs a request with the token. --/
def signature (token : String) : String := headerValue ("Bearer " ++ token)

/-- The header that signs a request with what the address gives away. --/
def accountSignature (user : String) (password : Option String) : String :=
  "Basic " ++ String.ofList (Base64.encode (user ++ ":" ++ password.getD "").toUTF8.toList)

/-- The request that is sent to an address with parameters. What the address gives away comes before the token, and is
    not part of where the request goes. --/
def asked (c : Client) (d : Draft) (u : Url) : Request where
  method := d.method
  address := u.withoutAccount.withParameters d.parameters
  authorization :=
    (u.account?.map fun a => accountSignature a.1 a.2).toList ++
      (if d.signed then c.token.map signature else none).toList
  contentType := d.content.map (·.1)
  body := (d.content.map (·.2)).getD ByteArray.empty

/-- The token can be sent. --/
def canSign (c : Client) : Bool := (c.token.getD "").toList.all isHeaderChar

/-- The request of a draft, unless there is a reason why it cannot be sent. --/
def request (c : Client) (d : Draft) : Except ExchangeError Request :=
  match Url.ofText? (c.url d.path) with
  | none => .error .unsendable
  | some u =>
    if u.hostName?.isNone then .error (.unreachable u.text)
    else if d.signed && !c.canSign then .error .unsendable
    else if (c.asked d u).address.takesRequests then .ok (c.asked d u)
    else .error (.unreachable (c.asked d u).address.text)

/-- Sends a request and waits for the response. --/
def send (c : Client) (d : Draft) : Except ExchangeError Response × Client :=
  match c.request d with
  | .error e => (.error e, c)
  | .ok r =>
    let (answer, network) := c.network.send r
    (answer, { c with network := network })

/-! ### Responses -/

/-- What is said about a response that is no success. --/
def refusal (r : Response) : String :=
  r.statusText ++ " - " ++ Text.trim (Text.marked (r.body.getD ByteArray.empty))

/-- The response to a request that succeeded; `kind` is the failure of this kind of request. --/
def succeeded (kind : String → JobError) : Except ExchangeError Response → Except JobError Response
  | .error e => .error (kind e.message)
  | .ok r => if r.isSuccess then .ok r else .error (kind (refusal r))

/-- What is taken from the body of a response. --/
def taken {α : Type} (kind : String → JobError) (take : ByteArray → Option α) (r : Response) : Except JobError α :=
  match r.body.bind take with
  | some a => .ok a
  | none => .error (kind ExchangeError.unreadable.message)

/-- The record in the body of a response. --/
def decoded {α : Type} (kind : String → JobError) (decode : Json → Option α) : Response → Except JobError α :=
  taken kind fun bytes => (Json.readBytes? bytes).bind decode

/-- Sends a request and decodes the response. --/
def fetch {α : Type} (c : Client) (kind : String → JobError) (d : Draft)
    (read : Response → Except JobError α) : Except JobError α × Client :=
  let (answer, c) := c.send d
  ((succeeded kind answer).bind read, c)

/-! ### The account -/

/-- The token in the answer to a login. --/
def tokenOf? (v : Json) : Option (Option String) := do
  let [token] ← v.slots? [["access_token"]] | none
  token.orElse (Json.nullable Json.string?) none

def unsigned (d : Draft) : Draft := { d with signed := false }

/-- Exchanges credentials for a token, and keeps it for later requests. --/
def login (c : Client) (credentials : Credentials) : Except JobError String × Client :=
  match c.fetch .auth (unsigned (.postJson "/auth/login" credentials.toJson)) (decoded .auth tokenOf?) with
  | (.error e, c) => (.error e, c)
  | (.ok none, c) => (.error (.missing "access_token"), c)
  | (.ok (some token), c) => (.ok token, { c with token := some token })

def register (c : Client) (credentials : Credentials) : Except JobError Unit × Client :=
  c.fetch .auth (unsigned (.postJson "/auth/register" credentials.toJson)) fun _ => .ok ()

/-! ### Jobs -/

/-- A file name between quotes. --/
def quotedName (name : String) : String :=
  String.ofList (name.toList.flatMap fun c =>
    if c = '\x22' ∨ c = '\x5c' ∨ c = '\r' ∨ c = '\n' then ['\x5c', c] else [c])

/-- The body of an upload: its one part is the file. --/
def uploadBody (boundary : String) (file : UploadFile) (type : String) : ByteArray :=
  let head := "--" ++ boundary ++ "\r\nContent-Disposition: form-data; name=\"file\"; filename=\"" ++
    quotedName file.name ++ "\"\r\nContent-Type: " ++ type ++ "\r\n\r\n"
  head.toUTF8 ++ file.bytes ++ ("\r\n--" ++ boundary ++ "--\r\n").toUTF8

def upload (c : Client) (file : UploadFile) : Except JobError Receipt × Client :=
  match MediaType.normal? file.type with
  | none => (.error (.upload ExchangeError.unsendable.message), c)
  | some type =>
    let draft := Draft.post "/jobs/upload" ("multipart/form-data; boundary=" ++ c.boundary)
      (uploadBody c.boundary file type)
    c.fetch .upload draft fun r => (decoded .upload UploadReply.ofJson? r).bind UploadReply.receipt

def jobPath (job : JobId) (rest : String) : String := "/jobs/" ++ job.text ++ rest

def submitPrompt (c : Client) (job : JobId) (prompt : String) : Except JobError Unit × Client :=
  c.fetch .prompt (.postJson (jobPath job "/prompt") (.object [("prompt", .string prompt)])) fun _ => .ok ()

def status (c : Client) (job : JobId) : Except JobError StatusReport × Client :=
  c.fetch .poll (.get (jobPath job "")) (decoded .poll StatusReport.ofJson?)

def download (c : Client) (job : JobId) (options : Option ExportOptions) : Except JobError ByteArray × Client :=
  let parameters := (options.map ExportOptions.query).getD []
  c.fetch .export { Draft.get (jobPath job "/download") with parameters := parameters } (taken .export some)

/-- The previous jobs; a service that does not know the request has none. --/
def history (c : Client) : Except JobError (List JobSummary) × Client :=
  let (answer, c) := c.send (.get "/jobs/history")
  match answer with
  | .ok r =>
    if r.status = 404 ∨ r.status = 405 then (.ok [], c)
    else ((succeeded .history (.ok r)).bind (decoded .history (Json.list? JobSummary.ofJson?)), c)
  | .error e => (.error (.history e.message), c)

def downloadUrl (c : Client) (job : JobId) : String := c.url (jobPath job "/download")

end Client

instance : JobService Client where
  upload := Client.upload
  submitPrompt := Client.submitPrompt
  status := Client.status
  download := Client.download
  history := Client.history
  downloadUrl := Client.downloadUrl

end Cutroom
