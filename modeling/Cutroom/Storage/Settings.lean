import Cutroom.Job.Poll
import Cutroom.Json.Reader
import Cutroom.Json.Record
import Cutroom.Json.Writer
import Cutroom.Storage.Failure
import Cutroom.Text.Letter

/-! The settings of the editor, kept as a JSON file. Every setting has a default value. -/

namespace Cutroom

structure Settings where
  apiUrl : String
  /-- Seconds between two status requests. -/
  pollInterval : UInt64
  maxAttempts : UInt32
  /-- The longest wait after failed requests, in seconds. -/
  maxBackoff : UInt64
  /-- The longest time that a request may take, in seconds. -/
  requestTimeout : Option UInt64
  dataDir : Option FilePath
deriving DecidableEq

namespace Settings

def standard : Settings := ⟨"http://localhost:8000", 10, 180, 60, none, none⟩

def fileName : String := "config.json"

def toJson (s : Settings) : Json :=
  .object
    [("api_base_url", .string s.apiUrl), ("poll_interval_secs", .integer s.pollInterval.toNat),
      ("max_poll_attempts", .integer s.maxAttempts.toNat), ("max_poll_backoff_secs", .integer s.maxBackoff.toNat),
      ("request_timeout_secs", .ofOption (fun n : UInt64 => .integer n.toNat) s.requestTimeout),
      ("data_dir", .ofOption (fun p : FilePath => .string p.text) s.dataDir)]

def path? (v : Json) : Option FilePath := v.string?.map FilePath.mk

def fields : List String :=
  ["api_base_url", "poll_interval_secs", "max_poll_attempts", "max_poll_backoff_secs", "request_timeout_secs",
    "data_dir"]

def ofJson? (v : Json) : Option Settings := do
  let [apiUrl, pollInterval, maxAttempts, maxBackoff, requestTimeout, dataDir] ←
    v.slots? (Json.named fields) | none
  some {
    apiUrl := ← apiUrl.orElse Json.string? standard.apiUrl
    pollInterval := ← pollInterval.orElse Json.word64? standard.pollInterval
    maxAttempts := ← maxAttempts.orElse Json.word32? standard.maxAttempts
    maxBackoff := ← maxBackoff.orElse Json.word64? standard.maxBackoff
    requestTimeout := ← requestTimeout.orElse (Json.nullable Json.word64?) none
    dataDir := ← dataDir.orElse (Json.nullable path?) none }

/-! ### Where the settings come from -/

/-- Takes the address of the service from the environment, unless it is blank there. --/
def withEnvironment (s : Settings) (apiUrl : Option String) : Settings :=
  match apiUrl with
  | some url => if (Text.trim url).isEmpty then s else { s with apiUrl := Text.trim url }
  | none => s

def load (d : Disk) (path : FilePath) : Except Failure Settings :=
  match d.readText path with
  | .error e => .error (.during .reading path e)
  | .ok text =>
    match (Json.read? text).bind ofJson? with
    | some s => .ok s
    | none => .error (.malformed path)

/-- Settings that name no data directory are rooted in the given one. --/
def rooted (s : Settings) (dir : FilePath) : Settings := { s with dataDir := some (s.dataDir.getD dir) }

/-- The settings in a directory, the default ones if it has none. --/
def loadOrDefault (d : Disk) (dir : FilePath) : Except Failure Settings :=
  let path := dir.child fileName
  if d.exists? path then (load d path).map fun s => s.rooted dir else .ok (standard.rooted dir)

def page (s : Settings) : String := s.toJson.page

/-- Writes the settings to a file, together with the directories that hold it. --/
def save (s : Settings) (path : FilePath) (d : Disk) : Except Failure Unit × Disk :=
  match d.ensureParent path with
  | (.error e, d) => (.error (.during .creating (path.parent?.getD path) e), d)
  | (.ok _, d) =>
    match d.write path s.page.toUTF8 with
    | (.error e, d) => (.error (.during .writing path e), d)
    | (.ok _, d) => (.ok (), d)

/-! ### What the settings say -/

/-- The data directory, `usual` where none is named. --/
def directory (s : Settings) (usual : FilePath) : FilePath := s.dataDir.getD usual

def tokenPath (s : Settings) (usual : FilePath) : FilePath := (s.directory usual).child "token"

def rendersDir (s : Settings) (usual : FilePath) : FilePath := (s.directory usual).child "renders"

/-- A job is asked about at least once, and with at least a second between two requests. --/
def pollPolicy (s : Settings) : PollPolicy :=
  ⟨Wait.seconds (max s.pollInterval 1).toNat, max s.maxAttempts 1, Wait.seconds s.maxBackoff.toNat⟩

end Settings
end Cutroom
