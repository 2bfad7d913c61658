import Cutroom.Storage.Disk

/-! Failures of what is kept on disk: what was being done with which file, and why that failed. -/

namespace Cutroom

inductive Activity where
  | reading
  | parsing
  | creating
  | writing
  | removing
deriving DecidableEq

def Activity.text : Activity → String
  | reading => "reading"
  | parsing => "parsing"
  | creating => "creating"
  | writing => "writing"
  | removing => "removing"

inductive Failure where
  /-- The disk failed, and no more is said about it. -/
  | bare (cause : DiskError)
  /-- The disk failed during an activity. -/
  | during (activity : Activity) (path : FilePath) (cause : DiskError)
  /-- The text of a file does not hold what it should. -/
  | malformed (path : FilePath)
deriving DecidableEq

namespace Failure

def message : Failure → String
  | bare cause => cause.message
  | during activity path _ => activity.text ++ " " ++ path.text
  | malformed path => Activity.parsing.text ++ " " ++ path.text

/-- What lies behind the message, if anything does. --/
def cause? : Failure → Option String
  | bare _ => none
  | during _ _ cause => some cause.message
  | malformed _ => some "the text is no configuration"

end Failure
end Cutroom
