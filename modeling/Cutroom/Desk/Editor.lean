import Cutroom.Desk.Action
import Cutroom.Job.Poll

/-! An editor works on a session with a service and a disk. Requests are made one at a time, and what comes
    of each is told to the session. After a prompt the job is polled; the events of the poll queue up until
    they are asked for, and reach the session only then. -/

namespace Cutroom

structure Editor (σ : Type) where
  watch : Watch σ
  session : Session
  disk : Disk
  /-- Where finished videos are kept. -/
  rendersDir : FilePath
  responder : Responder
  /-- How a moment is written in the name of a file. -/
  stamp : Wait → String

namespace Editor

variable {σ : Type}

def opened (service : σ) (policy : PollPolicy) (disk : Disk) (rendersDir : FilePath) (stamp : Wait → String) :
    Editor σ :=
  ⟨Watch.idle service policy, .opened, disk, rendersDir, .standard, stamp⟩

def isPolling (e : Editor σ) : Bool := e.watch.isActive

/-- The service after a request. --/
def withService (e : Editor σ) (service : σ) : Editor σ := { e with watch := { e.watch with service := service } }

/-- Does something to the session alone. --/
def act (e : Editor σ) (a : Action) : Except SessionError Answer × Editor σ :=
  let (answer, session) := e.session.act a
  (answer, { e with session := session })

variable [JobService σ]

def sleep (e : Editor σ) (wait : Wait) : Editor σ := { e with watch := e.watch.sleep wait }

/-- Lets the time of an answer pass, if it takes any. --/
def awaits (e : Editor σ) : Option Wait → Editor σ
  | some wait => e.sleep wait
  | none => e

/-- Takes the turns of the poll that are due already, as happens while the disk is at work. --/
def settle (e : Editor σ) : Editor σ := e.sleep 0

/-! ### Jobs -/

/-- Uploads a video and starts anew with it. A failure only raises an alert. --/
def upload (e : Editor σ) (file : UploadFile) : Except SessionError JobId × Editor σ :=
  match JobService.upload e.watch.service file with
  | (.error err, service) =>
    (.error (.job err), { e.withService service with session := e.session.uploadFailed err })
  | (.ok receipt, service) =>
    let url := JobService.downloadUrl service receipt.job
    (.ok receipt.job,
      { e with
        watch := { e.watch with service := service }.cancel
        session := e.session.uploaded receipt (.remote url) })

/-- The name under which a file is sent. --/
def sentName (path : FilePath) : String := path.fileName?.getD "video.mp4"

/-- Uploads a file of the disk. --/
def uploadPath (e : Editor σ) (path : FilePath) : Except SessionError JobId × Editor σ :=
  let e := e.settle
  match e.disk.read path with
  | .ok bytes => e.upload (UploadFile.ofBytes (sentName path) bytes)
  | .error err =>
    let err := JobError.upload (path.text ++ ": " ++ err.message)
    (.error (.job err), { e with session := e.session.uploadFailed err })

/-- Starts anew with a job that exists, as if its video had just been uploaded. --/
def openJob (e : Editor σ) (job : JobId) : Except SessionError Unit × Editor σ :=
  match JobService.status e.watch.service job with
  | (.error err, service) => (.error (.job err), e.withService service)
  | (.ok report, service) =>
    let url := JobService.downloadUrl service job
    let session := e.session.uploaded ⟨job, report.duration, report.status⟩ (.remote url)
    (.ok (),
      { e with
        watch := { e.watch with service := service }.cancel
        session := session.observe job report })

/-- Requests an edit, and starts to poll for what comes of it. --/
def sendPrompt (e : Editor σ) (text : String) : Except SessionError JobId × Editor σ :=
  match e.session.beginPrompt text with
  | (.error err, session) => (.error err, { e with session := session })
  | (.ok job, session) =>
    match JobService.submitPrompt e.watch.service job (Text.trim text) with
    | (.ok _, service) =>
      (.ok job, { e with session := session, watch := { e.watch with service := service }.start job })
    | (.error err, service) =>
      (.error (.job err), { e.withService service with session := session.promptFailed err })

/-- The editor with one more message of the user in its conversation. --/
def asking (e : Editor σ) (text : String) : Editor σ :=
  { e with session := { e.session with chat := e.session.chat.user text } }

/-- Chats with the assistant; no job is concerned. --/
def ask (e : Editor σ) (text : String) : Except SessionError String × Editor σ :=
  let text := Text.trim text
  if text.isEmpty then (.error .emptyMessage, e)
  else
    let asked := e.asking text
    let (answer, pause) := e.responder.respond asked.session.chat
    let answered := asked.awaits pause
    match answer with
    | .error err => (.error (.job err), answered)
    | .ok reply =>
      (.ok reply, { answered with session := { asked.session with chat := asked.session.chat.assistant reply } })

/-! ### Events -/

/-- Where the video of a job is stored at a moment. --/
def renderPath (e : Editor σ) (job : JobId) : FilePath :=
  e.rendersDir.child (job.text ++ "-" ++ e.stamp e.watch.now ++ ".mp4")

/-- Writes a finished video to disk. --/
def store (e : Editor σ) (render : PendingRender) : Except DiskError FilePath × Disk :=
  match e.disk.ensureTree e.rendersDir with
  | (.error err, disk) => (.error err, disk)
  | (.ok _, disk) =>
    match disk.write (e.renderPath render.job) render.video with
    | (.error err, disk) => (.error err, disk)
    | (.ok _, disk) => (.ok (e.renderPath render.job), disk)

/-- Stores a finished video and lets the preview play it. --/
def finishRender (e : Editor σ) (render : PendingRender) : Editor σ :=
  match e.store render with
  | (.ok path, disk) =>
    { e with disk := disk, session := e.session.editCompleted render.job render.reply (.file path) }
  | (.error err, disk) =>
    { e with disk := disk, session := e.session.renderUnavailable render.job render.reply err.message }

/-- Takes an event into the session. --/
def handle (e : Editor σ) (event : JobEvent) : Editor σ :=
  match e.session.apply event with
  | (none, session) => { e with session := session }
  | (some render, session) => finishRender (settle { e with session := session }) render

/-- Takes the first event of the queue. --/
def takeUnread (e : Editor σ) : Option JobEvent × Editor σ :=
  match e.watch.unread with
  | [] => (none, e)
  | event :: rest => (some event, { e with watch := { e.watch with unread := rest } }.handle event)

/-- The next event; where none is queued, time passes until the running poll has learned something. There
    is none when no poll runs. --/
def next (e : Editor σ) : Option JobEvent × Editor σ :=
  if e.watch.unread.isEmpty then takeUnread { e with watch := e.watch.advanceToTurn } else e.takeUnread

/-- Takes events up to the first final one, at most `fuel` of them. --/
def waitFuel : Nat → Editor σ → List JobEvent × Editor σ
  | 0, e => ([], e)
  | fuel + 1, e =>
    match e.next with
    | (none, e) => ([], e)
    | (some event, e) =>
      if event.isFinal then ([event], e)
      else
        let (events, e) := waitFuel fuel e
        (event :: events, e)

/-- No more events than these can still come: each turn has two at most. --/
def eventsLeft (e : Editor σ) : Nat := e.watch.unread.length + 2 * e.watch.turnsLeft

/-- Takes events up to the final one of the running poll. --/
def wait (e : Editor σ) : List JobEvent × Editor σ := waitFuel (e.eventsLeft + 1) e

/-- Waits no longer for the requested edit, and drops what its poll has sent. --/
def cancelPoll (e : Editor σ) : Bool × Editor σ :=
  match e.watch.stop with
  | (true, watch) =>
    (true, { e with watch := watch.drain, session := e.session.editCancelled?.getD e.session })
  | (false, watch) => (false, { e with watch := watch })

/-! ### Downloads -/

/-- Where an export goes when no place is given. --/
def exportPath (e : Editor σ) (job : JobId) (options : ExportOptions) : FilePath :=
  e.rendersDir.child (job.text ++ "-export-" ++ options.resolution.text ++ "." ++ options.format.text)

/-- Writes a file together with the directories that hold it. --/
def writeFile (disk : Disk) (path : FilePath) (bytes : ByteArray) : Except DiskError Unit × Disk :=
  match disk.ensureParent path with
  | (.ok _, disk) => disk.write path bytes
  | outcome => outcome

/-- Downloads the present video in a chosen form. --/
def exportVideo (e : Editor σ) (options : ExportOptions) (target : Option FilePath) :
    Except SessionError FilePath × Editor σ :=
  match e.session.job with
  | none => (.error .noJob, e)
  | some job =>
    match JobService.download e.watch.service job.id (some options) with
    | (.error err, service) =>
      (.error (.job err), { e.withService service with session := e.session.exportFailed err.message })
    | (.ok bytes, service) =>
      let e := (e.withService service).settle
      let path := target.getD (e.exportPath job.id options)
      match writeFile e.disk path bytes with
      | (.ok _, disk) => (.ok path, { e with disk := disk })
      | (.error err, disk) =>
        (.error (.disk err),
          { e with
            disk := disk
            session := e.session.exportFailed ("could not save " ++ path.text ++ ": " ++ err.message) })

/-- The previous jobs, none when the service cannot tell. --/
def history (e : Editor σ) : List JobSummary × Editor σ :=
  let (answer, service) := JobService.history e.watch.service
  (answer.toOption.getD [], e.withService service)

end Editor
end Cutroom
