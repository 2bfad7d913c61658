import Cutroom.Command.Option
import Cutroom.Storage.FilePath
import Cutroom.Web.Client

/-! Reading the arguments of the command line from left to right. The first argument that cannot be, or that
    asks for help, ends the reading. An argument that starts with a hyphen is never the value of an option,
    unless it is joined to the option. -/

namespace Cutroom.Command

/-- Why no command is carried out. --/
inductive Stop where
  | usage
  | help
  | version
deriving DecidableEq

/-- What is to be done. --/
inductive Task where
  | login (c : Credentials)
  | register (c : Credentials)
  | logout
  | upload (file : FilePath)
  | edit (source : FilePath ⊕ JobId) (prompt : String) (output : Option FilePath)
  | status (job : JobId)
  | download (job : JobId) (output : FilePath) (options : ExportOptions)
  | history (json : Bool)

structure Invocation where
  task : Task
  apiUrl : Option String
  config : Option FilePath

/-- The arguments read so far: the options with their values, the word, the option that awaits its value, and
    whether only words can follow. --/
structure Scan where
  given : List (Key × String)
  word : Option String
  pending : Option Key
  onlyWords : Bool

namespace Scan

def empty : Scan := ⟨[], none, none, false⟩

/-- An option has got its value. No option may be given twice. --/
def put (s : Scan) (k : Key) (value : String) : Except Stop Scan :=
  if (s.given.lookup k).isSome || !k.accepts value then .error .usage
  else
    match k with
    | .help => .error .help
    | .version => .error .version
    | _ => .ok { s with given := s.given ++ [(k, value)], pending := none }

/-- An option behind two hyphens, with its value behind an equals sign if it has one there. --/
def long (keys : List Key) (s : Scan) (cs : List Char) : Except Stop Scan :=
  let (name, rest) := cs.span (· != '=')
  match keys.find? (fun k => k.long == String.ofList name), rest with
  | none, _ => .error .usage
  | some k, [] => if k.isFlag then s.put k "" else .ok { s with pending := some k }
  | some k, _ :: value => if k.isFlag then .error .usage else s.put k (String.ofList value)

/-- Options of one letter each behind a single hyphen; what follows a letter that takes a value is the
    value. --/
def letters (keys : List Key) (s : Scan) : List Char → Except Stop Scan
  | [] => .ok s
  | c :: cs =>
    match keys.find? (fun k => k.short? == some c) with
    | none => .error .usage
    | some k =>
      if k.isFlag then (s.put k "").bind fun s => letters keys s cs
      else
        match cs with
        | [] => .ok { s with pending := some k }
        | '=' :: value => s.put k (String.ofList value)
        | value => s.put k (String.ofList value)

/-- An argument that is no option: the value that an option awaits, or the word. --/
def plain (v : Verb) (s : Scan) (text : String) : Except Stop Scan :=
  match s.pending with
  | some k => if s.onlyWords then .error .usage else s.put k text
  | none =>
    if v.takesWord && s.word.isNone && v.acceptsWord text then .ok { s with word := some text }
    else .error .usage

/-- An argument in front of words alone, if it is an option. --/
def option? (keys : List Key) (s : Scan) (text : String) : Option (Except Stop Scan) :=
  match s.pending, text.toList with
  | none, '-' :: '-' :: c :: cs => some (s.long keys (c :: cs))
  | none, '-' :: c :: cs => some (s.letters keys (c :: cs))
  | some _, '-' :: _ :: _ => some (.error .usage)
  | _, _ => none

/-- The next argument behind a command. --/
def step (v : Verb) (s : Scan) (text : String) : Except Stop Scan :=
  if s.onlyWords then s.plain v text
  else if text = "--" then .ok { s with onlyWords := true }
  else (s.option? (v.keys ++ Verb.everywhere) text).getD (s.plain v text)

end Scan

/-! ### Invocations -/

def required {α : Type} : Option α → Except Stop α
  | some a => .ok a
  | none => .error .usage

/-- The source of an edit: a file or a job, and not both. --/
def sourceOf (s : Scan) : Except Stop (FilePath ⊕ JobId) :=
  match s.given.lookup .file, s.given.lookup .job with
  | some file, none => .ok (.inl ⟨file⟩)
  | none, some job => .ok (.inr ⟨job⟩)
  | _, _ => .error .usage

def credentials (s : Scan) : Except Stop Credentials := do
  .ok ⟨← required (s.given.lookup .email), ← required (s.given.lookup .password)⟩

/-- What a command with its options asks for. --/
def task (v : Verb) (s : Scan) : Except Stop Task := do
  let value (k : Key) : Option String := s.given.lookup k
  match v with
  | .login => .ok (.login (← credentials s))
  | .register => .ok (.register (← credentials s))
  | .logout => .ok .logout
  | .upload => .ok (.upload ⟨← required s.word⟩)
  | .edit => .ok (.edit (← sourceOf s) (← required (value .prompt)) ((value .output).map FilePath.mk))
  | .status => .ok (.status ⟨← required s.word⟩)
  | .download =>
    .ok (.download ⟨← required s.word⟩ ⟨← required (value .output)⟩
      ⟨((value .format).bind ExportFormat.ofText?).getD .mp4,
        ((value .resolution).bind ExportResolution.ofText?).getD .hd1080⟩)
  | .history => .ok (.history (value .json).isSome)

/-- The arguments behind a command; an option given here wins over the same one in front. --/
def behind (before : Scan) (v : Verb) (args : List String) : Except Stop Invocation := do
  let s ← args.foldlM (Scan.step v) Scan.empty
  if s.pending.isSome then .error .usage
  .ok {
    task := ← task v s
    apiUrl := s.given.lookup .apiUrl <|> before.given.lookup .apiUrl
    config := (s.given.lookup .config <|> before.given.lookup .config).map FilePath.mk }

/-- A request for help, on a command or on all of them. --/
def helpOn : List String → Stop
  | [] | ["help"] => .help
  | [name] => if (Verb.names.lookup name).isSome then .help else .usage
  | _ => .usage

/-- All arguments, from the options in front of the command on. --/
def readFrom (s : Scan) : List String → Except Stop Invocation
  | [] => .error .usage
  | text :: rest =>
    match s.pending, s.option? (.version :: Verb.everywhere) text with
    | some k, none => (s.put k text).bind fun s => readFrom s rest
    | _, some outcome => if text = "--" then .error .usage else outcome.bind fun s => readFrom s rest
    | none, none =>
      match Verb.names.lookup text with
      | some v => behind s v rest
      | none => .error (if text = "help" then helpOn rest else .usage)

def read (args : List String) : Except Stop Invocation := readFrom .empty args

end Cutroom.Command
