import Cutroom.Command.Arguments
import Cutroom.Desk.Editor
import Cutroom.Storage.Settings
import Cutroom.Storage.Token
import Cutroom.Storage.FilePath
import Cutroom.Timeline.Clock

/-! Carrying out what the command line asks for. A run changes the disk, talks to the service and prints; all of
    it is computed from the world that the run finds. -/

namespace Cutroom.Command

/-- The world in which a command runs. --/
structure World where
  disk : Disk
  network : Network
  /-- The data directory of the user. -/
  home : FilePath
  /-- The address of the service in the environment. -/
  apiUrl : Option String
  /-- What separates the parts of an upload. -/
  boundary : String
  stamp : Wait → String

/-- What a run has printed and changed so far. --/
structure Progress where
  disk : Disk
  network : Network
  out : List Char
  err : List Char

/-- Why a run fails, with what lies behind it. --/
structure Complaint where
  text : String
  cause : Option String

/-- A run that has come to its end, well or not. --/
abbrev Outcome := Except Complaint Unit × Progress

/-- The outcome of the whole program. --/
structure Report where
  code : Nat
  out : String
  err : String
  disk : Disk
  network : Network

namespace Complaint

def plain (text : String) : Complaint := ⟨text, none⟩

def ofFailure (f : Failure) : Complaint := ⟨f.message, f.cause?⟩

def during (activity : String) (cause : String) : Complaint := ⟨activity, some cause⟩

/-- A text with four spaces in front of each line. --/
def indentedLines (cs : List Char) : List Char :=
  [' ', ' ', ' ', ' '] ++ cs.flatMap fun c => if c = '\n' then ['\n', ' ', ' ', ' ', ' '] else [c]

def chars (c : Complaint) : List Char :=
  let cause := match c.cause with
    | some text => "\n\nCaused by:\n".toList ++ indentedLines text.toList
    | none => []
  "Error: ".toList ++ c.text.toList ++ cause ++ ['\n']

end Complaint

namespace Progress

def say (p : Progress) (line : String) : Progress := { p with out := p.out ++ line.toList ++ ['\n'] }

def sayAll (p : Progress) (lines : List String) : Progress := lines.foldl say p

/-- Prints the alerts of a session. --/
def warn (p : Progress) (alerts : List Alert) : Progress :=
  alerts.foldl (fun p a => { p with err := p.err ++ ("Error: " ++ a.message).toList ++ ['\n'] }) p

def done (p : Progress) : Outcome := (.ok (), p)

def fail (p : Progress) (c : Complaint) : Outcome := (.error c, p)

/-- Takes over the disk and the network of an editor. --/
def keep (p : Progress) (e : Editor Client) : Progress :=
  { p with disk := e.disk, network := e.watch.service.network }

end Progress

/-! ### The account -/

def login (p : Progress) (c : Client) (t : TokenStore) (credentials : Credentials) : Outcome :=
  match c.login credentials with
  | (.error e, c) => { p with network := c.network }.fail (.plain e.message)
  | (.ok token, c) =>
    let p := { p with network := c.network }
    match t.save token p.disk with
    | (.error f, disk) => { p with disk := disk }.fail (.ofFailure f)
    | (.ok _, disk) => ({ p with disk := disk }.say ("Logged in as " ++ credentials.email)).done

def register (p : Progress) (c : Client) (credentials : Credentials) : Outcome :=
  match c.register credentials with
  | (.error e, c) => { p with network := c.network }.fail (.plain e.message)
  | (.ok _, c) =>
    ({ p with network := c.network }.say
      ("Registered " ++ credentials.email ++ ". Run \x60editverse-cli login\x60 to sign in.")).done

def logout (p : Progress) (t : TokenStore) : Outcome :=
  match t.clear p.disk with
  | (.error f, disk) => { p with disk := disk }.fail (.ofFailure f)
  | (.ok false, disk) => ({ p with disk := disk }.say "Not logged in").done
  | (.ok true, disk) => ({ p with disk := disk }.say "Logged out").done

/-! ### Videos -/

/-- What is said about a finished upload. --/
def uploadLines (s : Session) (job : JobId) : List String :=
  let duration := match s.job.bind Job.duration with
    | some d => "Duration: " ++ detailText d
    | none => "Duration: unknown"
  let preview := match s.source with
    | some (.remote url) => ["Preview: " ++ url]
    | _ => []
  ["Job ID: " ++ job.text, duration] ++ preview

def upload (p : Progress) (e : Editor Client) (file : FilePath) : Outcome :=
  let (answer, e) := e.uploadPath file
  let p := (p.keep e).warn e.session.alerts
  match answer with
  | .error err => p.fail (.plain err.message)
  | .ok job => (p.sayAll (uploadLines e.session job)).done

/-- The messages of the assistant behind the first ones. --/
def replyLines (log : ChatLog) (skipped : Nat) : List String :=
  ((log.messages.filter fun m => m.role == .assistant).drop skipped).map fun m => "Assistant: " ++ m.content

/-- Copies the finished video to where the user wants it. --/
def saveRender (p : Progress) (render : FilePath) : Option FilePath → Outcome
  | none => (p.say ("Edited video: " ++ Text.quoted render.text)).done
  | some target =>
    match p.disk.copy render target with
    | (.error err, disk) =>
      { p with disk := disk }.fail (.during ("copying render to " ++ Text.quoted target.text) err.message)
    | (.ok _, disk) => ({ p with disk := disk }.say ("Saved edited video to " ++ Text.quoted target.text)).done

/-- Requests an edit of the job that is open, and waits for what comes of it. --/
def request (p : Progress) (e : Editor Client) (prompt : String) (output : Option FilePath) : Outcome :=
  let skipped := e.session.chat.count .assistant
  match e.sendPrompt prompt with
  | (.error err, e) => ((p.keep e).sayAll (replyLines e.session.chat skipped)).fail (.plain err.message)
  | (.ok _, e) =>
    let (_, e) := e.wait
    let p := (p.keep e).sayAll ("Prompt sent, waiting for the job to finish..." :: replyLines e.session.chat skipped)
    let p := p.warn e.session.alerts
    match e.session.source with
    | some (.file render) => saveRender p render output
    | _ => p.done

def edit (p : Progress) (e : Editor Client) (prompt : String) (output : Option FilePath) :
    FilePath ⊕ JobId → Outcome
  | .inl file =>
    let (answer, e) := e.uploadPath file
    let p := (p.keep e).warn e.session.alerts
    match answer with
    | .error err => p.fail (.plain err.message)
    | .ok job =>
      let told := p.say ("Uploaded " ++ Text.quoted file.text ++ " as job " ++ job.text)
      request told { e with session := { e.session with alerts := [] } } prompt output
  | .inr job =>
    match e.openJob job with
    | (.error err, e) => (p.keep e).fail (.during "opening job" err.message)
    | (.ok _, e) => request p e prompt output

/-! ### Jobs -/

/-- What the service says about a job, line by line. --/
def statusLines (job : JobId) (r : StatusReport) : List String :=
  ["Job " ++ job.text ++ ": " ++ r.status.text] ++
    (r.duration.map fun d => "  duration: " ++ detailText d).toList ++
    (r.prompt.map fun s => "  prompt:   " ++ s).toList ++
    (r.reply.map fun s => "  reply:    " ++ s).toList ++
    (r.error.map fun s => "  error:    " ++ s).toList

def status (p : Progress) (c : Client) (job : JobId) : Outcome :=
  match c.status job with
  | (.error e, c) => { p with network := c.network }.fail (.plain e.message)
  | (.ok r, c) => ({ p with network := c.network }.sayAll (statusLines job r)).done

/-- Writes a download, together with the directories that hold it. --/
def saveDownload (p : Progress) (output : FilePath) (bytes : ByteArray) : Outcome :=
  match p.disk.ensureParent output with
  | (.error e, disk) => { p with disk := disk }.fail (.plain e.message)
  | (.ok _, disk) =>
    match disk.write output bytes with
    | (.error e, disk) => { p with disk := disk }.fail (.during ("writing " ++ Text.quoted output.text) e.message)
    | (.ok _, disk) =>
      let size := String.ofList (Decimal.numeral bytes.size)
      ({ p with disk := disk }.say ("Saved " ++ size ++ " bytes to " ++ Text.quoted output.text)).done

def download (p : Progress) (c : Client) (job : JobId) (output : FilePath) (options : ExportOptions) : Outcome :=
  match c.download job (some options) with
  | (.error e, c) => { p with network := c.network }.fail (.plain e.message)
  | (.ok bytes, c) => saveDownload { p with network := c.network } output bytes

/-- A text with spaces behind it up to a width, in characters. --/
def padded (width : Nat) (s : String) : String :=
  s ++ String.ofList (List.replicate (width - s.toList.length) ' ')

/-- One row of the table of previous jobs. --/
def summaryLine (j : JobSummary) : String :=
  String.intercalate "  " [j.id.text, padded 10 j.status.text, j.created.getD "-", j.prompt.getD ""]

def historyLines (json : Bool) (jobs : List JobSummary) : List String :=
  if json then [(Json.ofList JobSummary.toJson jobs).page]
  else if jobs.isEmpty then ["No previous jobs"]
  else jobs.map summaryLine

/-- Lists the previous jobs; where the service cannot tell, there are none. --/
def history (p : Progress) (c : Client) (json : Bool) : Outcome :=
  let (answer, c) := c.history
  ({ p with network := c.network }.sayAll (historyLines json (answer.toOption.getD []))).done

/-! ### The program -/

/-- The settings of a run: those of a file, then the environment, then the command line. --/
def settings (w : World) (i : Invocation) : Except Failure Settings :=
  let stored := match i.config with
    | some path => Settings.load w.disk path
    | none => Settings.loadOrDefault w.disk w.home
  stored.map fun s =>
    let s := s.withEnvironment w.apiUrl
    { s with apiUrl := i.apiUrl.getD s.apiUrl }

def perform (w : World) (s : Settings) (t : TokenStore) (c : Client) (task : Task) : Outcome :=
  let p : Progress := ⟨w.disk, w.network, [], []⟩
  let e : Editor Client := Editor.opened c s.pollPolicy w.disk (s.rendersDir w.home) w.stamp
  match task with
  | .login credentials => login p c t credentials
  | .register credentials => register p c credentials
  | .logout => logout p t
  | .upload file => upload p e file
  | .edit source prompt output => edit p e prompt output source
  | .status job => status p c job
  | .download job output options => download p c job output options
  | .history json => history p c json

def invoke (w : World) (i : Invocation) : Outcome :=
  let p : Progress := ⟨w.disk, w.network, [], []⟩
  match settings w i with
  | .error f => p.fail (.ofFailure f)
  | .ok s =>
    let t : TokenStore := ⟨s.tokenPath w.home⟩
    match t.load w.disk with
    | .error f => p.fail (.ofFailure f)
    | .ok token => perform w s t { Client.opened s.apiUrl w.boundary w.network with token := token } i.task

def usage : String :=
  "Usage: editverse-cli [OPTIONS] <COMMAND>\n\nCommands: login, register, logout, upload, edit, status, " ++
    "download, history\nOptions: --api-url <URL>, --config <FILE>, -v, -h, -V\n"

/-- The whole program: what it prints, what it leaves behind and the code it ends with. --/
def run (w : World) (args : List String) : Report :=
  match read args with
  | .error .usage => ⟨2, "", usage, w.disk, w.network⟩
  | .error .help => ⟨0, usage, "", w.disk, w.network⟩
  | .error .version => ⟨0, "editverse-cli 0.1.0\n", "", w.disk, w.network⟩
  | .ok i =>
    match invoke w i with
    | (.ok _, p) => ⟨0, String.ofList p.out, String.ofList p.err, p.disk, p.network⟩
    | (.error c, p) => ⟨1, String.ofList p.out, String.ofList (p.err ++ c.chars), p.disk, p.network⟩

end Cutroom.Command
