import Cutroom.Identifier
import Cutroom.Look.Adjustment
import Cutroom.Timeline.Seconds

/-! What the side panels have applied to the video: slider positions, a filter, effects, a transition, and
    texts and stickers laid over the picture. None of it touches the lanes or the edit history. -/

namespace Cutroom

/-- The length of an effect that is dropped at the playhead. --/
def effectLength : Seconds := 3.0

/-- A place in the frame, in percent of its width and height. --/
structure Position where
  x : Float
  y : Float
deriving BEq

namespace Position

def center : Position := ⟨50.0, 50.0⟩

end Position

structure Effect where
  id : Identifier
  name : String
  start : Seconds
  duration : Seconds
deriving BEq

structure Transition where
  id : Identifier
  name : String
  clip : Identifier
deriving BEq

structure TextStyle where
  text : String
  font : String
  style : String
  color : String
deriving DecidableEq

def TextStyle.standard : TextStyle := ⟨"Your Text Here", "Inter", "default", "#ffffff"⟩

structure TextOverlay where
  id : Identifier
  style : TextStyle
  position : Position
deriving BEq

structure Sticker where
  id : Identifier
  name : String
  glyph : String
  position : Position
deriving BEq

structure Panels where
  adjustments : Adjustments
  filter : Option String
  effects : List Effect
  transition : Option Transition
  texts : List TextOverlay
  stickers : List Sticker
deriving BEq

namespace Panels

def untouched : Panels := ⟨Adjustments.neutral, none, [], none, [], []⟩

def applyFilter (p : Panels) (f : FilterPreset) : Panels :=
  { p with filter := some f.id, adjustments := p.adjustments.merge f.values }

def applyPreset (p : Panels) (preset : AdjustmentPreset) : Panels :=
  { p with adjustments := p.adjustments.merge preset.values }

def addEffect (p : Panels) (fresh : Identifier) (name : String) (start : Seconds) : Panels :=
  { p with effects := p.effects ++ [⟨fresh, name, start, effectLength⟩] }

/-- Applies a transition in the place of the one before. --/
def setTransition (p : Panels) (fresh : Identifier) (name : String) (clip : Identifier) : Panels :=
  { p with transition := some ⟨fresh, name, clip⟩ }

def addText (p : Panels) (fresh : Identifier) (style : TextStyle) : Panels :=
  { p with texts := p.texts ++ [⟨fresh, style, .center⟩] }

def addSticker (p : Panels) (fresh : Identifier) (name glyph : String) : Panels :=
  { p with stickers := p.stickers ++ [⟨fresh, name, glyph, .center⟩] }

end Panels
end Cutroom
