import Cutroom.Text.Letter

/-! The sliders of the look panel, each with a range of its own, and the presets that set several of them
    at once. -/

namespace Cutroom

inductive Adjustment where
  | brightness
  | contrast
  | saturation
  | hue
  | highlight
  | shadows
  | temperature
  | tint
  | sharpness
  | vignette
deriving DecidableEq

namespace Adjustment

/-- The least and the greatest value of a slider. --/
def range : Adjustment → Int × Int
  | hue => (-180, 180)
  | sharpness | vignette => (0, 100)
  | _ => (-100, 100)

/-- The value in the range of the slider nearest to the given one. --/
def nearest (key : Adjustment) (value : Int) : Int := max key.range.1 (min key.range.2 value)

end Adjustment

/-- The positions of the ten sliders. --/
structure Adjustments where
  brightness : Int
  contrast : Int
  saturation : Int
  hue : Int
  highlight : Int
  shadows : Int
  temperature : Int
  tint : Int
  sharpness : Int
  vignette : Int
deriving DecidableEq

namespace Adjustments

def neutral : Adjustments := ⟨0, 0, 0, 0, 0, 0, 0, 0, 0, 0⟩

def get (a : Adjustments) : Adjustment → Int
  | .brightness => a.brightness
  | .contrast => a.contrast
  | .saturation => a.saturation
  | .hue => a.hue
  | .highlight => a.highlight
  | .shadows => a.shadows
  | .temperature => a.temperature
  | .tint => a.tint
  | .sharpness => a.sharpness
  | .vignette => a.vignette

/-- Moves one slider to a value, in range or not. --/
def put (a : Adjustments) (value : Int) : Adjustment → Adjustments
  | .brightness => { a with brightness := value }
  | .contrast => { a with contrast := value }
  | .saturation => { a with saturation := value }
  | .hue => { a with hue := value }
  | .highlight => { a with highlight := value }
  | .shadows => { a with shadows := value }
  | .temperature => { a with temperature := value }
  | .tint => { a with tint := value }
  | .sharpness => { a with sharpness := value }
  | .vignette => { a with vignette := value }

/-- Moves one slider as near to a value as its range allows. --/
def set (a : Adjustments) (key : Adjustment) (value : Int) : Adjustments := a.put (key.nearest value) key

/-- Moves several sliders, one after the other. --/
def merge (a : Adjustments) (values : List (Adjustment × Int)) : Adjustments :=
  values.foldl (fun a v => a.set v.1 v.2) a

end Adjustments

structure AdjustmentPreset where
  name : String
  values : List (Adjustment × Int)

structure FilterPreset where
  id : String
  name : String
  values : List (Adjustment × Int)

open Adjustment in
def adjustmentPresets : List AdjustmentPreset :=
  [⟨"Natural", [(brightness, 0), (contrast, 0), (saturation, 0)]⟩,
    ⟨"Vibrant", [(brightness, 10), (contrast, 15), (saturation, 30)]⟩,
    ⟨"Moody", [(brightness, -20), (contrast, 30), (saturation, -10)]⟩,
    ⟨"Bright", [(brightness, 30), (contrast, 10), (saturation, 10)]⟩]

open Adjustment in
def filterPresets : List FilterPreset :=
  [⟨"none", "None", [(brightness, 0), (contrast, 0), (saturation, 0), (hue, 0)]⟩,
    ⟨"vivid", "Vivid", [(saturation, 50), (contrast, 10)]⟩,
    ⟨"dramatic", "Dramatic", [(contrast, 50), (saturation, 20)]⟩,
    ⟨"warm", "Warm", [(temperature, 30), (saturation, 20)]⟩,
    ⟨"cool", "Cool", [(hue, 180), (saturation, 10)]⟩,
    ⟨"vintage", "Vintage", [(temperature, 40), (contrast, 10), (saturation, -20)]⟩,
    ⟨"black-white", "B&W", [(saturation, -100)]⟩,
    ⟨"noir", "Noir", [(saturation, -100), (contrast, 50)]⟩,
    ⟨"faded", "Faded", [(brightness, 10), (contrast, -10), (saturation, -20)]⟩,
    ⟨"cold", "Cold", [(brightness, -10), (saturation, 50), (hue, 200)]⟩,
    ⟨"sunset", "Sunset", [(temperature, 40), (saturation, 50), (hue, -30)]⟩,
    ⟨"ocean", "Ocean", [(saturation, 20), (hue, 180), (brightness, 5)]⟩,
    ⟨"forest", "Forest", [(saturation, 30), (hue, 90)]⟩,
    ⟨"neon", "Neon", [(saturation, 100), (contrast, 20), (brightness, 10)]⟩,
    ⟨"soft", "Soft", [(brightness, 5), (contrast, -5), (saturation, -10)]⟩,
    ⟨"harsh", "Harsh", [(contrast, 40), (saturation, 20)]⟩]

/-- The filter of a name or an id, letter case aside. --/
def findFilter? (text : String) : Option FilterPreset :=
  filterPresets.find? fun f => Text.sameLetters f.id text || Text.sameLetters f.name text

def findPreset? (name : String) : Option AdjustmentPreset :=
  adjustmentPresets.find? fun p => Text.sameLetters p.name name

end Cutroom
