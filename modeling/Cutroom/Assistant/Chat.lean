import Cutroom.Job.Poll
import Cutroom.Text.Letter

/-! The conversation with the assistant. It only ever grows, and its messages are numbered from one. -/

namespace Cutroom

inductive Role where
  | user
  | assistant
deriving DecidableEq

structure ChatMessage where
  id : Nat
  role : Role
  content : String
deriving DecidableEq

structure ChatLog where
  messages : List ChatMessage
deriving DecidableEq

namespace ChatLog

def greeting : String :=
  "Hello! I'm your AI assistant. I can help you edit your video, suggest improvements, or answer any " ++
    "questions about Editverse AI features."

/-- The number of the next message. --/
def nextId (log : ChatLog) : Nat := (log.messages.getLast?.map fun m => m.id + 1).getD 1

def push (log : ChatLog) (role : Role) (content : String) : ChatLog :=
  ⟨log.messages ++ [⟨log.nextId, role, content⟩]⟩

/-- A conversation starts with a greeting. --/
def opened : ChatLog := push ⟨[]⟩ .assistant greeting

def user (log : ChatLog) (content : String) : ChatLog := log.push .user content

def assistant (log : ChatLog) (content : String) : ChatLog := log.push .assistant content

def size (log : ChatLog) : Nat := log.messages.length

def count (log : ChatLog) (role : Role) : Nat := (log.messages.filter fun m => m.role == role).length

/-- The latest message of the user. --/
def request? (log : ChatLog) : Option String :=
  (log.messages.reverse.find? fun m => m.role == .user).map ChatMessage.content

end ChatLog

/-- Who answers the user in a conversation. --/
structure Responder where
  /-- The answer to a conversation, or why there is none, and the time that it takes; none where no time passes. -/
  respond : ChatLog → Except JobError String × Option Wait

namespace Responder

def acknowledge (request : String) : String :=
  "I understand you want to " ++ Text.lowercase request ++
    ". Let me help you with that! You can use the tools in the toolbar to make those edits."

/-- Answers without the service: it repeats the latest message of the user after a pause. --/
def acknowledging (pause : Wait) : Responder where
  respond log :=
    match log.request? with
    | some request => (.ok (acknowledge request), some pause)
    | none => (.error (.missing "user message"), none)

def standard : Responder := acknowledging (Wait.seconds 1)

end Responder
end Cutroom
