import Cutroom.Text.Digits
import Cutroom.Text.Bytes
import Cutroom.Text.Letter
import Cutroom.Web.Exchange

/-! Requests and responses as the bytes that travel over a connection. A connection carries one request and its
    response, which ends with the connection unless its head tells its length. -/

namespace Cutroom

namespace Request

/-- A line of the head, if there is something to say. --/
def header (name : String) : Option String → String
  | some value => name ++ ": " ++ value ++ "\r\n"
  | none => ""

def head (r : Request) : String :=
  r.method ++ " " ++ r.target ++ " HTTP/1.1\r\n" ++ header "Host" (some r.address.authority) ++
    header "Accept" (some "*/*") ++
    String.join (r.authorization.map fun a => header "Authorization" (some a)) ++ header "Content-Type" r.contentType ++
    header "Content-Length" (r.contentType.map fun _ => String.ofList (Decimal.numeral r.body.size)) ++
    header "Connection" (some "close") ++ "\r\n"

def wire (r : Request) : ByteArray := r.head.toUTF8 ++ r.body

end Request

namespace Response

/-- The longest head that is read, in bytes. --/
def headLimit : Nat := 65536

/-- The place behind the first empty line, counted from `n`. --/
def headEnd? (n : Nat) : List UInt8 → Option Nat
  | [] => none
  | 13 :: 10 :: 13 :: 10 :: _ => some (n + 4)
  | _ :: rest => headEnd? (n + 1) rest

/-- The status code in the first line of a head. --/
def statusCode? (line : List Char) : Option Nat :=
  match ((line.dropWhile (· != ' ')).drop 1).takeWhile (· != ' ') with
  | [] => none
  | ds => if ds.all Decimal.isDigit then some (Decimal.value ds) else none

/-- The value of a header by its name in small letters, if the line is that header. --/
def headerIn? (name : List Char) (line : List Char) : Option (List Char) :=
  match line.span (· != ':') with
  | (n, ':' :: value) => if n.map Char.toLower = name then some (Text.trimmed value) else none
  | _ => none

def header? (name : String) (lines : List (List Char)) : Option (List Char) :=
  lines.findSome? (headerIn? name.toList)

/-- The line at a place, without its end. --/
def lineAt (bytes : ByteArray) (place : Nat) : List Char :=
  ((bytes.extract place (place + 128)).toList.takeWhile (· != 13)).map fun b => Char.ofNat b.toNat

/-- The contents of the chunks from a place on, `fuel` of them at most; they end with an empty one. --/
def chunks? (bytes : ByteArray) : Nat → Nat → ByteArray → Option ByteArray
  | 0, _, _ => none
  | fuel + 1, place, done =>
    let line := lineAt bytes place
    let start := place + line.length + 2
    match Hex.value? (line.takeWhile (· != ';')) with
    | none => none
    | some size =>
      if size = 0 then some done
      else if bytes.size < start + size then none
      else chunks? bytes fuel (start + size + 2) (done ++ bytes.extract start (start + size))

/-- The body behind a head, in the form that the head tells; none where it breaks off. --/
def body? (lines : List (List Char)) (bytes : ByteArray) : Option ByteArray :=
  if (header? "transfer-encoding" lines).map (·.map Char.toLower) = some "chunked".toList then
    chunks? bytes (bytes.size + 1) 0 ByteArray.empty
  else
    match header? "content-length" lines with
    | none => some bytes
    | some ds => if bytes.size < Decimal.value ds then none else some (bytes.extract 0 (Decimal.value ds))

/-- Reads the bytes that a server has sent until the connection ended, none where not even the head is whole. --/
def ofWire? (bytes : ByteArray) : Option Response := do
  let size ← headEnd? 0 (bytes.extract 0 headLimit).toList
  let lines := ((Text.readable (bytes.extract 0 size)).toList.filter (· != '\r')).splitOn '\n'
  let status ← statusCode? (lines.headD [])
  some ⟨status, (header? "location" lines).map String.ofList, body? lines (bytes.extract size bytes.size)⟩

end Response
end Cutroom
