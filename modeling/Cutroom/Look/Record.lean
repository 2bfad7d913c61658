import Cutroom.Json.Record
import Cutroom.Look.Panels
import Cutroom.Timeline.Record

/-! The state of the side panels as JSON records. -/

namespace Cutroom

namespace Adjustment

def names : List (String × Adjustment) :=
  [("brightness", brightness), ("contrast", contrast), ("saturation", saturation), ("hue", hue),
    ("highlight", highlight), ("shadows", shadows), ("temperature", temperature), ("tint", tint),
    ("sharpness", sharpness), ("vignette", vignette)]

def text : Adjustment → String
  | brightness => "brightness"
  | contrast => "contrast"
  | saturation => "saturation"
  | hue => "hue"
  | highlight => "highlight"
  | shadows => "shadows"
  | temperature => "temperature"
  | tint => "tint"
  | sharpness => "sharpness"
  | vignette => "vignette"

def toJson (a : Adjustment) : Json := .string a.text

def ofJson? (v : Json) : Option Adjustment := v.choice? names

end Adjustment

namespace Adjustments

/-- The position of a slider, in or out of its range, takes 32 bits. --/
def level? (v : Json) : Option Int := Json.integer? (-2147483648) 2147483647 v

def toJson (a : Adjustments) : Json :=
  .object (Adjustment.names.map fun k => (k.1, .integer (a.get k.2)))

def ofJson? (v : Json) : Option Adjustments := do
  let slots ← v.slots? (Json.named (Adjustment.names.map (·.1)))
  let [brightness, contrast, saturation, hue, highlight, shadows, temperature, tint, sharpness, vignette] ←
    slots.mapM (Json.Slot.required level?) | none
  some ⟨brightness, contrast, saturation, hue, highlight, shadows, temperature, tint, sharpness, vignette⟩

end Adjustments

namespace Position

def toJson (p : Position) : Json := .object [("x", .ofFloat p.x), ("y", .ofFloat p.y)]

def ofJson? (v : Json) : Option Position := do
  let [x, y] ← v.slots? (Json.named ["x", "y"]) | none
  some { x := ← x.required Json.float?, y := ← y.required Json.float? }

end Position

namespace Effect

def toJson (e : Effect) : Json :=
  .object
    [("id", e.id.toJson), ("name", .string e.name), ("start_time", .ofFloat e.start),
      ("duration", .ofFloat e.duration)]

def ofJson? (v : Json) : Option Effect := do
  let [id, name, start, duration] ← v.slots? (Json.named ["id", "name", "start_time", "duration"]) | none
  some {
    id := ← id.required Identifier.ofJson?
    name := ← name.required Json.string?
    start := ← start.required Json.float?
    duration := ← duration.required Json.float? }

end Effect

namespace Transition

def toJson (t : Transition) : Json :=
  .object [("id", t.id.toJson), ("name", .string t.name), ("clip_id", t.clip.toJson)]

def ofJson? (v : Json) : Option Transition := do
  let [id, name, clip] ← v.slots? (Json.named ["id", "name", "clip_id"]) | none
  some {
    id := ← id.required Identifier.ofJson?
    name := ← name.required Json.string?
    clip := ← clip.required Identifier.ofJson? }

end Transition

namespace TextStyle

def members (s : TextStyle) : List (String × Json) :=
  [("text", .string s.text), ("font", .string s.font), ("style", .string s.style), ("color", .string s.color)]

def toJson (s : TextStyle) : Json := .object s.members

def ofSlots? (slots : List Json.Slot) : Option TextStyle := do
  let [text, font, style, color] ← slots.mapM (Json.Slot.required Json.string?) | none
  some ⟨text, font, style, color⟩

def ofJson? (v : Json) : Option TextStyle := do
  ofSlots? (← v.slots? (Json.named ["text", "font", "style", "color"]))

end TextStyle

namespace TextOverlay

/-- The members of the style stand among those of the overlay. --/
def toJson (t : TextOverlay) : Json :=
  .object ([("id", t.id.toJson)] ++ t.style.members ++ [("position", t.position.toJson)])

def within? (room : Nat) (v : Json) : Option TextOverlay := do
  let id :: position :: style ←
    v.sharedSlots? room ["id", "position", "text", "font", "style", "color"] | none
  some {
    id := ← id.required Identifier.ofJson?
    style := ← TextStyle.ofSlots? style
    position := ← position.required Position.ofJson? }

/-- A document is read 127 levels deep, and the overlay is one of them. --/
def ofJson? : Json → Option TextOverlay := within? 126

end TextOverlay

namespace Sticker

def toJson (s : Sticker) : Json :=
  .object
    [("id", s.id.toJson), ("name", .string s.name), ("glyph", .string s.glyph),
      ("position", s.position.toJson)]

def ofJson? (v : Json) : Option Sticker := do
  let [id, name, glyph, position] ← v.slots? (Json.named ["id", "name", "glyph", "position"]) | none
  some {
    id := ← id.required Identifier.ofJson?
    name := ← name.required Json.string?
    glyph := ← glyph.required Json.string?
    position := ← position.required Position.ofJson? }

end Sticker

namespace Panels

def toJson (p : Panels) : Json :=
  .object
    [("adjustments", p.adjustments.toJson), ("active_filter", .ofOption .string p.filter),
      ("effects", .ofList Effect.toJson p.effects), ("transition", .ofOption Transition.toJson p.transition),
      ("texts", .ofList TextOverlay.toJson p.texts), ("stickers", .ofList Sticker.toJson p.stickers)]

def ofJson? (v : Json) : Option Panels := do
  let [adjustments, filter, effects, transition, texts, stickers] ←
    v.slots? (Json.named ["adjustments", "active_filter", "effects", "transition", "texts", "stickers"]) | none
  some {
    adjustments := ← adjustments.required Adjustments.ofJson?
    filter := ← filter.optional Json.string?
    effects := ← effects.required (Json.list? Effect.ofJson?)
    transition := ← transition.optional Transition.ofJson?
    texts := ← texts.required (Json.list? (TextOverlay.within? 124))
    stickers := ← stickers.required (Json.list? Sticker.ofJson?) }

end Panels
end Cutroom
