import Cutroom.Json.Token

/-! Reading a JSON text: the tokens are put together from left to right, the containers that are still
    open being held on a stack. -/

namespace Cutroom.Json

/-- The members of an object, last first. A key that cannot be read is none. --/
abbrev Members := List (Option String × Json)

/-- The object with the members, which is unreadable if one of its keys is. --/
def ofMembers (members : Members) : Json :=
  match members.reverse.mapM fun m => m.1.map fun key => (key, m.2) with
  | some members => .object members
  | none => .unreadable

/-- A container that is still open, its contents last first. --/
inductive Container where
  | array (items : List Json)
  | object (members : Members)
  /-- An object of which the last key awaits its value. -/
  | member (members : Members) (key : Option String)

/-- What may stand next. --/
inductive Turn where
  | value
  | itemOrClose
  | keyOrClose
  | key
  | colon (key : Option String)
  | separator
  | done (v : Json)

structure Build where
  stack : List Container
  turn : Turn

/-- Puts a complete value where it belongs. --/
def Build.put (stack : List Container) (v : Json) : Option Build :=
  match stack with
  | [] => some ⟨[], .done v⟩
  | .array items :: rest => some ⟨.array (v :: items) :: rest, .separator⟩
  | .member members key :: rest => some ⟨.object ((key, v) :: members) :: rest, .separator⟩
  | .object _ :: _ => none

def Build.openValue (stack : List Container) : Token → Option Build
  | .bare v => Build.put stack v
  | .quoted text => Build.put stack ((text.map Json.string).getD .unreadable)
  | .openBracket => some ⟨.array [] :: stack, .itemOrClose⟩
  | .openBrace => some ⟨.object [] :: stack, .keyOrClose⟩
  | _ => none

def Build.close : List Container → Token → Option Build
  | .array items :: rest, .closeBracket => Build.put rest (.array items.reverse)
  | .object members :: rest, .closeBrace => Build.put rest (ofMembers members)
  | _, _ => none

def Build.openKey (stack : List Container) : Token → Option Build
  | .quoted text => some ⟨stack, .colon text⟩
  | _ => none

def Build.step (b : Build) (t : Token) : Option Build :=
  match b.turn, t with
  | .value, t => Build.openValue b.stack t
  | .itemOrClose, .closeBracket => Build.close b.stack .closeBracket
  | .itemOrClose, t => Build.openValue b.stack t
  | .keyOrClose, .closeBrace => Build.close b.stack .closeBrace
  | .keyOrClose, t => Build.openKey b.stack t
  | .key, t => Build.openKey b.stack t
  | .colon key, .colon =>
    match b.stack with
    | .object members :: rest => some ⟨.member members key :: rest, .value⟩
    | _ => none
  | .separator, .comma =>
    match b.stack with
    | .array _ :: _ => some ⟨b.stack, .value⟩
    | .object _ :: _ => some ⟨b.stack, .key⟩
    | _ => none
  | .separator, t => Build.close b.stack t
  | _, _ => none

def Build.finish (b : Build) : Option Json :=
  match b.turn with
  | .done v => some v
  | _ => none

def ofTokens? (ts : List Token) : Option Json :=
  (ts.foldlM Build.step ⟨[], .value⟩).bind Build.finish

/-- The value of a JSON text, none when the text is not one whole document. --/
def read? (text : String) : Option Json := (tokens? text.toList).bind ofTokens?

/-- The value of a JSON text in UTF-8. A quoted text that is damaged is passed over like any other that cannot be
    read. --/
def readBytes? (bytes : ByteArray) : Option Json := (damagedTokens? (Text.characters bytes)).bind ofTokens?

end Cutroom.Json
