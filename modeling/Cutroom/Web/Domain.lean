import Cutroom.Text.Composed
import Cutroom.Text.MarkTable
import Cutroom.Web.Domain.Direction
import Cutroom.Web.Domain.Joining
import Cutroom.Web.Domain.RefusedTable
import Cutroom.Web.Domain.ReplacedTable
import Cutroom.Web.Domain.SpelledTable
import Cutroom.Web.Punycode

/-! Domain names, which may be written in any script. A name is a series of labels with dots between them. Its
    characters are replaced by those that they stand for, each label is checked, and a label that is not ASCII is
    written in ASCII behind a mark of its own. -/

namespace Cutroom.Domain

/-! ### Characters -/

/-- Characters of ASCII that no name may hold. --/
def isDenied (c : Char) : Bool :=
  c.toNat ≤ 0x20 || c.toNat = 0x7F ||
    ['#', '%', '/', ':', '<', '>', '?', '@', '[', '\x5c', ']', '^', '|'].contains c

/-- The characters that a character stands for, none if names may not hold it. --/
def meaning? (c : Char) : Option (List Char) :=
  if refusedTable.holds c then none
  else
    match (replacedTable.row? c.toNat).bind fun r => Text.Shift.image? r c.toNat with
    | some d => some [d]
    | none => some ((spelledTable.find? c).getD [c])

/-- The characters that a text stands for, composed. --/
def meant? (cs : List Char) : Option (List Char) := (cs.mapM meaning?).map fun parts => Text.composed parts.flatten

/-- A text that stands for itself. --/
def isNormal (cs : List Char) : Bool := cs.all (fun c => meaning? c == some [c]) && Text.composed cs == cs

/-! ### Joiners -/

/-- The class of the signs that suppress a vowel, behind which any joiner may stand. --/
def vowelSuppressor : Nat := 9

/-- The nearest of some characters that is not transparent joins in one of two ways. --/
def nearestJoins (ways : List Joining) (cs : List Char) : Bool :=
  match cs.dropWhile fun c => Joining.of? c = some .transparent with
  | c :: _ => ((Joining.of? c).map ways.contains).getD false
  | [] => false

/-- A joiner may stand behind a sign that suppresses a vowel. A non-joiner may also stand between two letters that
    would join. What is before it comes last character first. --/
def mayJoin (c : Char) (before after : List Char) : Bool :=
  (before.head?.map fun d => Text.combiningClass d == vowelSuppressor).getD false ||
    (c.toNat = 0x200C && nearestJoins [.behind, .both] before && nearestJoins [.before, .both] after)

/-- Every joiner stands where it may; `before` comes last character first. --/
def joinsWell (before : List Char) : List Char → Bool
  | [] => true
  | c :: cs => ((c.toNat != 0x200C && c.toNat != 0x200D) || mayJoin c before cs) && joinsWell (c :: before) cs

/-! ### Directions -/

/-- Characters that make the directions of a whole name matter. --/
def turns (c : Char) : Bool := Direction.of c = .left || Direction.of c = .arabicNumber

/-- A label whose direction is plain: it starts with a letter, ends with a letter or a number of the same direction,
    marks aside, and holds nothing of the other direction. Running to the left it has only one kind of numbers. --/
def runsOneWay (cs : List Char) : Bool :=
  let ds := cs.map Direction.of
  let last := (ds.reverse.dropWhile (· = .mark)).head?
  match ds with
  | [] => true
  | .right :: _ => (last = some .right || last = some .number) && !ds.contains .left && !ds.contains .arabicNumber
  | .left :: _ =>
    (last = some .left || last = some .number || last = some .arabicNumber) && !ds.contains .right &&
      !(ds.contains .number && ds.contains .arabicNumber)
  | _ => false

/-! ### Labels -/

/-- What stands in front of a label that is written in ASCII for one that is not. --/
def marker : List Char := ['x', 'n', '-', '-']

/-- A label in the characters that are meant, none if it is not sound. One that is not ASCII must not pass for one
    that is written in ASCII, nor start with what belongs to the character before it. --/
def label? (cs : List Char) : Option (List Char) := do
  let label ←
    if marker.isPrefixOf cs then (Punycode.decode? (cs.drop 4)).filter fun l => !l.all Punycode.isAscii && isNormal l
    else some cs
  let startsWithMark := (label.head?.map Text.markTable.holds).getD false
  if marker.isPrefixOf label || startsWithMark || !joinsWell [] label then none else some label

/-- A label in ASCII. --/
def ascii (label : List Char) : List Char :=
  if label.all Punycode.isAscii then label else marker ++ Punycode.encode label

/-- A label in ASCII that is written for no other one. --/
def isPlain (label : List Char) : Bool := label.all Punycode.isAscii && !marker.isPrefixOf label

/-- A name in ASCII whose labels are not all plain, none if there is no such name. --/
def encoded? (cs : List Char) : Option (List Char) := do
  let labels ← ((← meant? cs).splitOn '.').mapM label?
  if labels.any (·.any isDenied) then none
  else if labels.any (·.any turns) && !labels.all runsOneWay then none
  else some (['.'].intercalate (labels.map ascii))

/-- A name in ASCII, none if there is no such name. Plain labels need nothing but small letters. --/
def ofText? (cs : List Char) : Option (List Char) :=
  let small := cs.map Char.toLower
  if !(small.splitOn '.').all isPlain then encoded? cs
  else if small.any isDenied then none
  else some small

end Cutroom.Domain
