import Cutroom.Json.Record
import Cutroom.Timeline.Clock
import Cutroom.Timeline.History
import Cutroom.Timeline.Playhead

/-! The parts of the timeline as JSON records. A decoded record is what its fields say: a span is not
    checked again, while a playhead and a zoom are refused when they could not have been stored. -/

namespace Cutroom

namespace Identifier

def toJson (id : Identifier) : Json := .string id.text

def ofJson? (v : Json) : Option Identifier := do
  let text ← Json.string? v
  let u ← Uuid.ofText? text
  some (.known u)

end Identifier

namespace MediaRef

def toJson (m : MediaRef) : Json := .string m.text

def ofJson? (v : Json) : Option MediaRef := (Json.string? v).map MediaRef.mk

end MediaRef

namespace Clip

def toJson (c : Clip) : Json :=
  .object
    [("id", c.id.toJson), ("name", .string c.name), ("start", .ofFloat c.start), ("end", .ofFloat c.stop),
      ("source", .ofOption MediaRef.toJson c.source)]

def ofJson? (v : Json) : Option Clip := do
  let [id, name, start, stop, source] ← v.slots? (Json.named ["id", "name", "start", "end", "source"]) | none
  some {
    id := ← id.required Identifier.ofJson?
    name := ← name.required Json.string?
    start := ← start.required Json.float?
    stop := ← stop.required Json.float?
    source := ← source.orElse (Json.nullable MediaRef.ofJson?) none }

end Clip

namespace Snapshot

def toJson (s : Snapshot) : Json :=
  .object [("clips", .ofList Clip.toJson s.clips), ("audio_tracks", .ofList Clip.toJson s.audio)]

def ofJson? (v : Json) : Option Snapshot := do
  let [clips, audio] ← v.slots? (Json.named ["clips", "audio_tracks"]) | none
  some {
    clips := ← clips.required (Json.list? Clip.ofJson?)
    audio := ← audio.required (Json.list? Clip.ofJson?) }

end Snapshot

namespace Track

def toJson (t : Track) : Json :=
  .object [("left", .ofFloat t.left), ("width", .ofFloat t.width), ("scroll_offset", .ofFloat t.scroll)]

def ofJson? (v : Json) : Option Track := do
  let [left, width, scroll] ← v.slots? (Json.named ["left", "width", "scroll_offset"]) | none
  some {
    left := ← left.required Json.float?
    width := ← width.required Json.float?
    scroll := ← scroll.orElse Json.float? 0.0 }

end Track

namespace Zoom

def toJson (z : Zoom) : Json := .integer z.percent

/-- Decodes a zoom; a percentage out of bounds is refused and handed back. --/
def ofJson? (v : Json) : Option (Except Nat Zoom) := do
  let percent ← Json.word32? v
  match ofPercent? percent.toNat with
  | some z => some (.ok z)
  | none => some (.error percent.toNat)

end Zoom

namespace Drag

def names : List (String × Drag) := [("Idle", idle), ("Dragging", dragging)]

def toJson : Drag → Json
  | idle => .string "Idle"
  | dragging => .string "Dragging"

def ofJson? (v : Json) : Option Drag := v.choice? names

end Drag

namespace Playhead

def toJson (p : Playhead) : Json :=
  .object [("current_time", .ofFloat p.time), ("duration", .ofFloat p.duration), ("drag", p.drag.toJson)]

/-- Decodes a stored playhead, and checks it. --/
def ofJson? (v : Json) : Option (Except PlayheadError Playhead) := do
  let [time, duration, drag] ← v.slots? (Json.named ["current_time", "duration", "drag"]) | none
  let time ← time.required Json.float?
  let duration ← duration.required Json.float?
  let drag ← drag.orElse Drag.ofJson? .idle
  some (restore time duration drag)

end Playhead

namespace ClockFormat

def names : List (String × ClockFormat) := [("Short", short), ("Detail", detail), ("Ruler", ruler)]

def toJson : ClockFormat → Json
  | short => .string "Short"
  | detail => .string "Detail"
  | ruler => .string "Ruler"

def ofJson? (v : Json) : Option ClockFormat := v.choice? names

end ClockFormat
end Cutroom
