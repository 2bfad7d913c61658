import Cutroom.Decimal.Numeral
import Cutroom.Text.Digits

/-! Identifiers of clips, tracks, effects, transitions and overlays.

    An identifier that comes from a document has 128 bits, written in hexadecimal. One that is made while
    editing carries a running number instead, so that it differs from every other one that is made and
    from all that were read. -/

namespace Cutroom

/-- Thirty-two hexadecimal digits. --/
structure Uuid where
  digits : List (Fin 16)
  count : digits.length = 32
deriving DecidableEq

namespace Uuid

/-- The identifier of zeros. --/
def zero : Uuid := ⟨List.replicate 32 ⟨0, by decide⟩, rfl⟩

/-- The five groups of the written form, joined by hyphens. --/
def hyphenated (cs : List Char) : List Char :=
  cs.take 8 ++ '-' :: (cs.drop 8).take 4 ++ '-' :: (cs.drop 12).take 4 ++ '-' :: (cs.drop 16).take 4 ++
    '-' :: cs.drop 20

def chars (u : Uuid) : List Char := hyphenated (u.digits.map Hex.small)

def text (u : Uuid) : String := String.ofList u.chars

/-- Thirty-two digits without hyphens. --/
def plain? (cs : List Char) : Option Uuid := do
  let ds ← cs.mapM Hex.digit?
  if h : ds.length = 32 then some ⟨ds, h⟩ else none

/-- Digits in groups of eight, four, four, four and twelve, with hyphens between the groups. --/
def grouped? (cs : List Char) : Option Uuid :=
  if cs.length = 36 then
    match cs.drop 8, cs.drop 13, cs.drop 18, cs.drop 23 with
    | '-' :: _, '-' :: _, '-' :: _, '-' :: rest =>
      plain? (cs.take 8 ++ (cs.drop 9).take 4 ++ (cs.drop 14).take 4 ++ (cs.drop 19).take 4 ++ rest)
    | _, _, _, _ => none
  else none

/-- The name space that may stand in front of a grouped identifier, in letters of either case. --/
def namespaceChars : List Char := ['u', 'r', 'n', ':', 'u', 'u', 'i', 'd', ':']

/-- Reads an identifier: plain, grouped, grouped in braces or grouped behind its name space. --/
def ofChars? (cs : List Char) : Option Uuid :=
  if cs.length = 32 then plain? cs
  else if cs.length = 36 then grouped? cs
  else if cs.length = 38 ∧ cs.head? = some '\x7b' ∧ cs.getLast? = some '\x7d' then grouped? ((cs.drop 1).take 36)
  else if cs.length = 45 ∧ (cs.take 9).map Char.toLower = namespaceChars then grouped? (cs.drop 9)
  else none

def ofText? (s : String) : Option Uuid := ofChars? s.toList

end Uuid

/-- A known identifier, or the `n`-th one made. --/
inductive Identifier where
  | known (u : Uuid)
  | made (n : Nat)
deriving DecidableEq

namespace Identifier

def text : Identifier → String
  | known u => u.text
  | made n => String.ofList (['n', 'e', 'w', '-'] ++ Decimal.numeral n)

end Identifier
end Cutroom
