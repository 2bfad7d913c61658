import Cutroom.Json.Value

/-! Decoding records. A record is an object whose members are found by their keys, or an array of its
    fields in their order. In an object unknown keys are passed over, and a key of the record may occur
    only once; in an array no item may be left over. -/

namespace Cutroom.Json

/-- What a record finds for one of its fields: a value, no member of that name, or nothing because the
    array has ended. --/
inductive Slot where
  | given (v : Json)
  | absent
  | ended

/-- The values of the members with one of the names, in order. --/
def membersNamed (names : List String) (members : List (String × Json)) : List Json :=
  (members.filter fun m => names.contains m.1).map (·.2)

/-- The slot of a field in an object, none when it is there twice. --/
def slot? (names : List String) (members : List (String × Json)) : Option Slot :=
  match membersNamed names members with
  | [] => some .absent
  | [v] => some (.given v)
  | _ => none

/-- The slots of a record for fields with the given names. --/
def slots? (fields : List (List String)) : Json → Option (List Slot)
  | .object members => fields.mapM fun names => slot? names members
  | .array items =>
    if items.length ≤ fields.length then
      some (items.map .given ++ List.replicate (fields.length - items.length) .ended)
    else none
  | _ => none

/-- Fields that have one name each. --/
def named (names : List String) : List (List String) := names.map fun n => [n]

mutual

/-- Whether there is nothing unreadable in a value and no more than so many arrays and objects lie in one
    another. --/
def readsIn (room : Nat) : Json → Bool
  | .unreadable => false
  | .array items => 0 < room && itemsReadIn (room - 1) items
  | .object members => 0 < room && membersReadIn (room - 1) members
  | _ => true

def itemsReadIn (room : Nat) : List Json → Bool
  | [] => true
  | v :: rest => readsIn room v && itemsReadIn room rest

def membersReadIn (room : Nat) : List (String × Json) → Bool
  | [] => true
  | (_, v) :: rest => readsIn room v && membersReadIn room rest

end

/-- The slots of an object for fields with the given names, where a field holds members of its own among
    them. To tell whose they are every other member is read too. --/
def sharedSlots? (room : Nat) (names : List String) : Json → Option (List Slot)
  | .object members =>
    if members.all fun m => names.contains m.1 || m.2.readsIn room then
      (named names).mapM fun names => slot? names members
    else none
  | _ => none

namespace Slot

/-- A field that must be there. --/
def required {α : Type} (decode : Json → Option α) : Slot → Option α
  | given v => decode v
  | _ => none

/-- A field that stands for its default value where it is missing. --/
def orElse {α : Type} (decode : Json → Option α) (default : α) : Slot → Option α
  | given v => decode v
  | _ => some default

/-- An optional field, null or no member of an object when there is nothing; an array must hold it. --/
def optional {α : Type} (decode : Json → Option α) : Slot → Option (Option α)
  | given .null => some none
  | given v => (decode v).map some
  | absent => some none
  | ended => none

end Slot

/-! ### Values without fields -/

/-- Null for none. --/
def nullable {α : Type} (decode : Json → Option α) : Json → Option (Option α)
  | .null => some none
  | v => (decode v).map some

def string? : Json → Option String
  | .string s => some s
  | _ => none

/-- A whole number between two bounds. --/
def integer? (low high : Int) : Json → Option Int
  | .integer n => if low ≤ n ∧ n ≤ high then some n else none
  | _ => none

/-- The double of a number, the nearest one where a whole number has none. --/
def float? : Json → Option Float
  | .integer n => some (Float.ofInt n)
  | .real x => if x.isFinite then some x else none
  | _ => none

def word32? (v : Json) : Option UInt32 := (integer? 0 4294967295 v).map fun n => UInt32.ofNat n.toNat

def word64? (v : Json) : Option UInt64 := (integer? 0 18446744073709551615 v).map fun n => UInt64.ofNat n.toNat

def list? {α : Type} (decode : Json → Option α) : Json → Option (List α)
  | .array items => items.mapM decode
  | _ => none

/-- One of several names, as a text or as the only key of an object that holds null. --/
def choice? {α : Type} (names : List (String × α)) : Json → Option α
  | .string s => names.lookup s
  | .object [(s, .null)] => names.lookup s
  | _ => none

end Cutroom.Json
