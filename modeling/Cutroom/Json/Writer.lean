import Cutroom.Decimal.Printed
import Cutroom.Json.Value
import Cutroom.Text.Digits

/-! Writing JSON texts, on one line or with two spaces of indentation for each level. Only the quote, the
    backslash and the control characters are escaped. -/

namespace Cutroom.Json

/-- How a character is written inside a quoted text. --/
def escapedChar (c : Char) : List Char :=
  if c = '\x22' then ['\x5c', '\x22']
  else if c = '\x5c' then ['\x5c', '\x5c']
  else if c = '\x08' then ['\x5c', 'b']
  else if c = '\x0c' then ['\x5c', 'f']
  else if c = '\n' then ['\x5c', 'n']
  else if c = '\r' then ['\x5c', 'r']
  else if c = '\t' then ['\x5c', 't']
  else if c.toNat < 0x20 then ['\x5c', 'u', '0', '0'] ++ Hex.pair Hex.small c.toNat
  else [c]

def quotedText (s : String) : List Char := '\x22' :: s.toList.flatMap escapedChar ++ ['\x22']

/-- A finite double by its shortest digits; a point shows that it is no whole number of the other kind. --/
def realText (x : Float) : List Char :=
  let cs := (Decimal.shortestText x).toList
  if cs.contains '.' then cs else cs ++ ['.', '0']

/-- A value that has no parts. --/
def scalarText : Json → List Char
  | .bool true => ['t', 'r', 'u', 'e']
  | .bool false => ['f', 'a', 'l', 's', 'e']
  | .integer n => Decimal.integral n
  | .real x => if x.isFinite then realText x else ['n', 'u', 'l', 'l']
  | .string s => quotedText s
  | _ => ['n', 'u', 'l', 'l']

mutual

/-- The text of a value on one line, without spaces. --/
def compact : Json → List Char
  | .array items => '[' :: compactItems items ++ [']']
  | .object members => '\x7b' :: compactMembers members ++ ['\x7d']
  | v => scalarText v

def compactItems : List Json → List Char
  | [] => []
  | [v] => compact v
  | v :: rest => compact v ++ ',' :: compactItems rest

def compactMembers : List (String × Json) → List Char
  | [] => []
  | [(k, v)] => quotedText k ++ ':' :: compact v
  | (k, v) :: rest => quotedText k ++ ':' :: compact v ++ ',' :: compactMembers rest

end

/-- A new line at a level of indentation. --/
def newline (level : Nat) : List Char := '\n' :: List.replicate (2 * level) ' '

mutual

/-- The text of a value with each item and member on a line of its own. --/
def indented (level : Nat) : Json → List Char
  | .array [] => ['[', ']']
  | .array items => '[' :: newline (level + 1) ++ indentedItems (level + 1) items ++ newline level ++ [']']
  | .object [] => ['\x7b', '\x7d']
  | .object members =>
    '\x7b' :: newline (level + 1) ++ indentedMembers (level + 1) members ++ newline level ++ ['\x7d']
  | v => scalarText v

def indentedItems (level : Nat) : List Json → List Char
  | [] => []
  | [v] => indented level v
  | v :: rest => indented level v ++ ',' :: newline level ++ indentedItems level rest

def indentedMembers (level : Nat) : List (String × Json) → List Char
  | [] => []
  | [(k, v)] => quotedText k ++ ':' :: ' ' :: indented level v
  | (k, v) :: rest =>
    quotedText k ++ ':' :: ' ' :: indented level v ++ ',' :: newline level ++ indentedMembers level rest

end

def line (v : Json) : String := String.ofList (compact v)

def page (v : Json) : String := String.ofList (indented 0 v)

end Cutroom.Json
