import Cutroom.Json.Number
import Cutroom.Text.Digits
import Cutroom.Text.Bytes

/-! The tokens of a JSON text: punctuation, quoted texts, and bare words with the value they denote. A text is
    scanned one character at a time; what a quoted text or a bare word has gathered is turned into a token
    when its last character has been seen. -/

namespace Cutroom.Json

inductive Token where
  | openBrace
  | closeBrace
  | openBracket
  | closeBracket
  | comma
  | colon
  | bare (v : Json)
  /-- A quoted text, none where it holds half of a surrogate pair or bytes that are no character. -/
  | quoted (text : Option String)

/-! ### Bare words -/

/-- What a bare word denotes: one of the three names, or a number. --/
def bare? (cs : List Char) : Option Json :=
  if cs = ['n', 'u', 'l', 'l'] then some .null
  else if cs = ['t', 'r', 'u', 'e'] then some (.bool true)
  else if cs = ['f', 'a', 'l', 's', 'e'] then some (.bool false)
  else (written? cs).map Written.value

/-! ### Quoted texts -/

/-- A piece of a quoted text: a character as it stands, a 16-bit unit that was escaped, or bytes that are no
    character. --/
inductive Piece where
  | plain (c : Char)
  | unit (n : Nat)
  | broken

/-- The characters of a quoted text; escaped units of a surrogate pair must stand together. --/
def assemble : List Piece → Option (List Char)
  | [] => some []
  | .plain c :: rest => (assemble rest).map (c :: ·)
  | .broken :: _ => none
  | .unit n :: .unit m :: rest =>
    if Text.isHigh n then
      if Text.isLow m then (assemble rest).map (Text.paired n m :: ·) else none
    else if Text.isLow n then none
    else (assemble (.unit m :: rest)).map (Char.ofNat n :: ·)
  | .unit n :: rest =>
    if Text.isHigh n || Text.isLow n then none else (assemble rest).map (Char.ofNat n :: ·)

/-- The character that a letter behind a backslash stands for. --/
def escaped? (c : Char) : Option Char :=
  if c = '\x22' ∨ c = '\x5c' ∨ c = '/' then some c
  else if c = 'b' then some '\x08'
  else if c = 'f' then some '\x0c'
  else if c = 'n' then some '\n'
  else if c = 'r' then some '\r'
  else if c = 't' then some '\t'
  else none

/-! ### Scanning -/

/-- Where the scan stands. What has been gathered is held last first. --/
inductive Mode where
  | between
  | word (seen : List Char)
  | quoted (seen : List Piece)
  | escape (seen : List Piece)
  | unit (seen : List Piece) (digits value : Nat)

structure Scan where
  mode : Mode
  tokens : List Token

def isSpace (c : Char) : Bool := c = ' ' || c = '\n' || c = '\t' || c = '\r'

def punctuation? (c : Char) : Option Token :=
  if c = '\x7b' then some .openBrace
  else if c = '\x7d' then some .closeBrace
  else if c = '[' then some .openBracket
  else if c = ']' then some .closeBracket
  else if c = ',' then some .comma
  else if c = ':' then some .colon
  else none

/-- A character that is not inside a quoted text, after what came before it has been ended. --/
def Scan.open (tokens : List Token) (c : Char) : Scan :=
  if isSpace c then ⟨.between, tokens⟩
  else if c = '\x22' then ⟨.quoted [], tokens⟩
  else match punctuation? c with
    | some t => ⟨.between, t :: tokens⟩
    | none => ⟨.word [c], tokens⟩

/-- The character ends a bare word. --/
def ends (c : Char) : Bool := isSpace c || c = '\x22' || (punctuation? c).isSome

def closeText (seen : List Piece) : Token := .quoted ((assemble seen.reverse).map String.ofList)

def Scan.step (s : Scan) (c : Char) : Option Scan :=
  match s.mode with
  | .between => some (Scan.open s.tokens c)
  | .word seen =>
    if ends c then (bare? seen.reverse).map fun v => Scan.open (.bare v :: s.tokens) c
    else some ⟨.word (c :: seen), s.tokens⟩
  | .quoted seen =>
    if c = '\x22' then some ⟨.between, closeText seen :: s.tokens⟩
    else if c = '\x5c' then some ⟨.escape seen, s.tokens⟩
    else if c.toNat < 0x20 then none
    else some ⟨.quoted (.plain c :: seen), s.tokens⟩
  | .escape seen =>
    if c = 'u' then some ⟨.unit seen 0 0, s.tokens⟩
    else (escaped? c).map fun d => ⟨.quoted (.plain d :: seen), s.tokens⟩
  | .unit seen digits value =>
    (Hex.digit? c).map fun d =>
      let value := value * 16 + d.val
      if digits = 3 then ⟨.quoted (.unit value :: seen), s.tokens⟩
      else ⟨.unit seen (digits + 1) value, s.tokens⟩

/-- The tokens at the end of the text, in order. --/
def Scan.finish (s : Scan) : Option (List Token) :=
  match s.mode with
  | .between => some s.tokens.reverse
  | .word seen => (bare? seen.reverse).map fun v => (Token.bare v :: s.tokens).reverse
  | _ => none

def tokens? (text : List Char) : Option (List Token) :=
  (text.foldlM Scan.step ⟨.between, []⟩).bind Scan.finish

/-- Goes on with a character, or with bytes that are none. Such bytes are noticed where they cannot stand; in a
    quoted text they matter only if the text is read. --/
def Scan.feed (s : Scan) : Option Char → Option Scan
  | some c => s.step c
  | none =>
    match s.mode with
    | .quoted seen => some ⟨.quoted (.broken :: seen), s.tokens⟩
    | _ => none

/-- The tokens of a text that may be damaged. --/
def damagedTokens? (text : List (Option Char)) : Option (List Token) :=
  (text.foldlM Scan.feed ⟨.between, []⟩).bind Scan.finish

end Cutroom.Json
