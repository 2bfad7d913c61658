/-! The values of a JSON document.

    Whole numbers that fit a 64-bit word, signed or not, are kept apart from the other numbers, which are
    doubles. `unreadable` stands for a value that is well formed and yet denotes nothing: a number beyond the
    doubles, a text with half of a surrogate pair or with bytes that are no character, or an object with such a
    text for a key. It may be skipped over, and decodes to nothing. -/

namespace Cutroom

inductive Json where
  | null
  | bool (b : Bool)
  | integer (n : Int)
  | real (x : Float)
  | string (s : String)
  | array (items : List Json)
  | object (members : List (String × Json))
  | unreadable
deriving Inhabited

namespace Json

/-- A double as a JSON value; one that is not finite has no number and is written as null. --/
def ofFloat (x : Float) : Json := if x.isFinite then .real x else .null

/-- An optional value, null when there is none. --/
def ofOption {α : Type} (encode : α → Json) : Option α → Json
  | some a => encode a
  | none => .null

def ofList {α : Type} (encode : α → Json) (xs : List α) : Json := .array (xs.map encode)

end Json
end Cutroom
