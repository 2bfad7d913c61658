import Cutroom.Job.Media

/-! The options of the command line: their names, and which values they accept. -/

namespace Cutroom.Command

inductive Key where
  | help
  | version
  | verbose
  | apiUrl
  | config
  | email
  | password
  | file
  | job
  | prompt
  | output
  | format
  | resolution
  | json
deriving DecidableEq

namespace Key

/-- The name behind two hyphens. --/
def long : Key → String
  | help => "help"
  | version => "version"
  | verbose => "verbose"
  | apiUrl => "api-url"
  | config => "config"
  | email => "email"
  | password => "password"
  | file => "file"
  | job => "job"
  | prompt => "prompt"
  | output => "output"
  | format => "format"
  | resolution => "resolution"
  | json => "json"

/-- The letter behind a single hyphen. --/
def short? : Key → Option Char
  | help => some 'h'
  | version => some 'V'
  | verbose => some 'v'
  | prompt => some 'p'
  | output => some 'o'
  | _ => none

/-- The option stands alone, without a value. --/
def isFlag : Key → Bool
  | help | version | verbose | json => true
  | _ => false

/-- The value is a path, and so not empty. --/
def isPath : Key → Bool
  | config | file | output => true
  | _ => false

def accepts (k : Key) (value : String) : Bool :=
  if k.isPath then !value.isEmpty
  else
    match k with
    | format => (ExportFormat.ofText? value).isSome
    | resolution => (ExportResolution.ofText? value).isSome
    | _ => true

end Key

/-- The commands, each with the options and the word that it takes. --/
inductive Verb where
  | login
  | register
  | logout
  | upload
  | edit
  | status
  | download
  | history
deriving DecidableEq

namespace Verb

def names : List (String × Verb) :=
  [("login", login), ("register", register), ("logout", logout), ("upload", upload), ("edit", edit),
    ("status", status), ("download", download), ("history", history)]

/-- Options that may stand in front of the command or behind it. --/
def everywhere : List Key := [.apiUrl, .config, .verbose, .help]

def keys : Verb → List Key
  | login | register => [.email, .password]
  | edit => [.file, .job, .prompt, .output]
  | download => [.output, .format, .resolution]
  | history => [.json]
  | logout | upload | status => []

/-- The command takes a word that is no option. --/
def takesWord : Verb → Bool
  | upload | status | download => true
  | _ => false

/-- The word is accepted: a file to upload has a name. --/
def acceptsWord (v : Verb) (word : String) : Bool := v != upload || !word.isEmpty

end Verb
end Cutroom.Command
