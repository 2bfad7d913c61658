import Cutroom.Decimal.Numeral
import Cutroom.Text.Digits
import Cutroom.Web.Domain
import Cutroom.Web.Percent

/-! Hosts of addresses. A host of the web is a domain name or a number, in one of two versions: the first has four
    bytes, which are written in decimal digits, the second has eight pieces of sixteen bits, which are written in
    hexadecimal digits between brackets. Elsewhere a host that is no number is any text. -/

namespace Cutroom

inductive Host where
  | named (name : String)
  | v4 (n : Nat)
  | v6 (pieces : List Nat)
deriving DecidableEq

namespace Host

/-! ### Numbers of the first version -/

/-- The value of digits to a base, none where one is not below it. --/
def valueTo? (base : Nat) (cs : List Char) : Option Nat :=
  cs.foldl (fun n? c => do
    let n ← n?
    let d ← Hex.digit? c
    if d.val < base then some (base * n + d.val) else none) (some 0)

/-- A part of a number: hexadecimal behind `0x`, octal behind another zero, otherwise decimal. --/
def part? : List Char → Option Nat
  | [] => none
  | ['0'] => some 0
  | '0' :: 'x' :: cs | '0' :: 'X' :: cs => valueTo? 16 cs
  | '0' :: cs => valueTo? 8 cs
  | cs => valueTo? 10 cs

/-- The parts between the dots, where one dot at the end is left out. --/
def dottedParts (cs : List Char) : List (List Char) :=
  let parts := cs.splitOn '.'
  if 1 < parts.length ∧ parts.getLast? = some [] then parts.dropLast else parts

/-- A name of which the last part is numeric must be a number. --/
def endsInNumber (cs : List Char) : Bool :=
  let last := (dottedParts cs).getLast?.getD []
  (!last.isEmpty && last.all Decimal.isDigit) || (part? last).isSome

/-- The number of at most four parts. All but the last are bytes; the last one has the bytes that are left. --/
def v4? (cs : List Char) : Option Host := do
  let parts := dottedParts cs
  if 4 < parts.length then none
  let values ← parts.mapM part?
  let bytes := values.dropLast
  let last ← values.getLast?
  if bytes.any (255 < ·) || Nat.pow 256 (4 - bytes.length) ≤ last then none
  else some (.v4 ((List.range bytes.length).foldl (fun n i => n + bytes.getD i 0 * Nat.pow 256 (3 - i)) last))

/-! ### Numbers of the second version -/

/-- A byte in decimal digits, without a zero in front. --/
def byte? (cs : List Char) : Option Nat :=
  if cs.isEmpty || !cs.all Decimal.isDigit || (cs.head? = some '0' && cs.length != 1) then none
  else if 255 < Decimal.value cs then none
  else some (Decimal.value cs)

/-- The two pieces that four bytes make. --/
def bytePieces? (cs : List Char) : Option (List Nat) := do
  let [a, b, c, d] ← (cs.splitOn '.').mapM byte? | none
  some [256 * a + b, 256 * c + d]

/-- A piece, of four digits at most. --/
def piece? (cs : List Char) : Option Nat := if cs.isEmpty || 4 < cs.length then none else Hex.value? cs

/-- The pieces of a text with colons between them; at the end four bytes may stand for two pieces. --/
def pieces? (bytesAtEnd : Bool) (cs : List Char) : Option (List Nat) := do
  if cs.isEmpty then some []
  else
    let texts := cs.splitOn ':'
    let first ← texts.dropLast.mapM piece?
    let last := texts.getLast?.getD []
    match piece? last with
    | some n => some (first ++ [n])
    | none => if bytesAtEnd then (bytePieces? last).map (first ++ ·) else none

/-- Splits a text at the first two colons in a row. --/
def splitAtGap : List Char → List Char × Option (List Char)
  | [] => ([], none)
  | ':' :: ':' :: cs => ([], some cs)
  | c :: cs =>
    let (before, after) := splitAtGap cs
    (c :: before, after)

/-- A number of eight pieces, some of which, being zero, two colons in a row may stand for. --/
def v6? (cs : List Char) : Option Host := do
  match splitAtGap cs with
  | (all, none) =>
    let pieces ← pieces? true all
    if pieces.length = 8 then some (.v6 pieces) else none
  | (before, some after) =>
    let before ← pieces? false before
    let after ← pieces? true after
    let size := before.length + after.length
    if size < 8 then some (.v6 (before ++ List.replicate (8 - size) 0 ++ after)) else none

/-! ### Reading -/

/-- What stands between brackets, none where the closing one is missing. --/
def inBrackets? (cs : List Char) : Option (List Char) :=
  if cs.getLast? = some ']' then some cs.dropLast else none

/-- A host of the web: a number, or a name in which bytes may be percent-encoded. --/
def ofWeb? : List Char → Option Host
  | '[' :: cs => (inBrackets? cs).bind v6?
  | cs => do
    let name ← Domain.ofText? (← Percent.text? cs).toList
    if name.isEmpty then none
    else if endsInNumber name then v4? name
    else some (.named (String.ofList name))

/-- Characters that no host may contain. --/
def isDenied (c : Char) : Bool :=
  c.toNat = 0 ||
    ['\t', '\n', '\r', ' ', '#', '/', ':', '<', '>', '?', '@', '[', '\x5c', ']', '^', '|'].contains c

/-- A host of an address that is not of the web. --/
def ofOther? : List Char → Option Host
  | '[' :: cs => (inBrackets? cs).bind v6?
  | cs => if cs.any isDenied then none else some (.named (String.ofList (Percent.encode Percent.isForeign cs)))

/-! ### Writing -/

/-- The length of the zeros that a list starts with. --/
def zeros (pieces : List Nat) : Nat := (pieces.takeWhile (· = 0)).length

/-- The place and the length of the first longest run of zeros, of which there are two at least. --/
def gap? (pieces : List Nat) : Option (Nat × Nat) :=
  let runs := (List.range pieces.length).map fun i => (i, zeros (pieces.drop i))
  runs.foldl (fun best run => if max 1 ((best.map Prod.snd).getD 0) < run.2 then some run else best) none

def colonChars (pieces : List Nat) : List Char := [':'].intercalate (pieces.map Hex.numeral)

def v6Chars (pieces : List Nat) : List Char :=
  match gap? pieces with
  | some (place, size) => colonChars (pieces.take place) ++ [':', ':'] ++ colonChars (pieces.drop (place + size))
  | none => colonChars pieces

/-- The host by itself, without the brackets that it has in an address. --/
def name : Host → String
  | named name => name
  | v4 n => String.ofList (['.'].intercalate ([3, 2, 1, 0].map fun k => Decimal.numeral (n / Nat.pow 256 k % 256)))
  | v6 pieces => String.ofList (v6Chars pieces)

/-- The host in an address. --/
def text : Host → String
  | v6 pieces => "[" ++ name (v6 pieces) ++ "]"
  | h => h.name

end Host
end Cutroom
