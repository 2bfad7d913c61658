import Cutroom.Desk.Session
import Cutroom.Json.Record

/-! What belongs to a session, as JSON records. -/

namespace Cutroom

namespace VideoSource

def toJson : VideoSource → Json
  | remote url => .object [("Remote", .string url)]
  | file path => .object [("File", .string path.text)]

def ofJson? : Json → Option VideoSource
  | .object [("Remote", .string url)] => some (remote url)
  | .object [("File", .string path)] => some (file ⟨path⟩)
  | _ => none

end VideoSource

namespace AlertKind

def names : List (String × AlertKind) := [("Upload", upload), ("Export", .export)]

def text : AlertKind → String
  | upload => "Upload"
  | .export => "Export"

def toJson (k : AlertKind) : Json := .string k.text

def ofJson? (v : Json) : Option AlertKind := v.choice? names

end AlertKind

namespace Alert

def toJson (a : Alert) : Json := .object [("kind", a.kind.toJson), ("message", .string a.message)]

def ofJson? (v : Json) : Option Alert := do
  let [kind, message] ← v.slots? (Json.named ["kind", "message"]) | none
  some { kind := ← kind.required AlertKind.ofJson?, message := ← message.required Json.string? }

end Alert

namespace Role

def names : List (String × Role) := [("user", user), ("assistant", assistant)]

def text : Role → String
  | user => "user"
  | assistant => "assistant"

def toJson (r : Role) : Json := .string r.text

def ofJson? (v : Json) : Option Role := v.choice? names

end Role

namespace ChatMessage

def toJson (m : ChatMessage) : Json :=
  .object [("id", .integer m.id), ("role", m.role.toJson), ("content", .string m.content)]

def ofJson? (v : Json) : Option ChatMessage := do
  let [id, role, content] ← v.slots? (Json.named ["id", "role", "content"]) | none
  some {
    id := (← id.required Json.word64?).toNat
    role := ← role.required Role.ofJson?
    content := ← content.required Json.string? }

end ChatMessage
end Cutroom
