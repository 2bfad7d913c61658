import Cutroom.Web.Exchange

/-! Responses that lead elsewhere. A response of certain codes that points to a place is no answer: the request is sent
    again, to that place. Whoever is there learns how the request was signed only if they are at the same endpoint of
    the same host as the one who has sent it there. -/

namespace Cutroom

namespace Url

/-- The address that a reference without a scheme stands for, where it is found at an address of the web. --/
def behind? (u : Url) (cs : List Char) : Option Url :=
  let site := (u.scheme ++ "://").toList ++ u.userChars ++ u.authority.toList
  let folder := (u.path.toList.reverse.dropWhile (· != '/')).reverse
  match cs with
  | [] => some { u with fragment := none }
  | '#' :: _ => ofText? (String.ofList (site ++ u.targetChars ++ cs))
  | '?' :: _ => ofText? (String.ofList (site ++ u.path.toList ++ cs))
  | c :: rest =>
    if isSlash .web c then
      if (rest.take 1).any (isSlash .web) then ofText? (String.ofList (u.scheme.toList ++ ':' :: cs))
      else ofText? (String.ofList (site ++ cs))
    else ofText? (String.ofList (site ++ folder ++ cs))

/-- The address that a reference stands for, where it is found at an address of the web. Before a reference that names
    no host the scheme of that address may stand. --/
def joined? (u : Url) (reference : String) : Option Url :=
  let cs := cleaned reference.toList
  match schemeOf? cs with
  | none => u.behind? cs
  | some (scheme, rest) =>
    if scheme = u.scheme.toList && !((rest.take 1).any (isSlash .web) && ((rest.drop 1).take 1).any (isSlash .web)) then
      u.behind? rest
    else ofText? reference

/-- Both addresses have the same endpoint at the same host. --/
def sameEndpoint (u v : Url) : Bool := u.hostName? = v.hostName? && u.endpoint? = v.endpoint?

end Url

namespace Request

/-- The body of a form is made while it is sent, so that it can be sent only once. --/
def isRepeatable (r : Request) : Bool := !"multipart/".toList.isPrefixOf (r.contentType.getD "").toList

/-- What is sent elsewhere after a response with this code, if anything is: the same once more, or a request without a
    body. --/
def again? (r : Request) (status : Nat) : Option Request :=
  if status = 301 ∨ status = 302 ∨ status = 303 then
    some { r with method := "GET", contentType := none, body := ByteArray.empty }
  else if (status = 307 ∨ status = 308) ∧ r.isRepeatable then some r
  else none

/-- The request as it goes to another address. --/
def movedTo (r : Request) (u : Url) : Request :=
  { r with address := u, authorization := if u.sameEndpoint r.address then r.authorization else [] }

/-- The request that takes the place of one with this response; none where the response is the answer. --/
def onward? (r : Request) (response : Response) : Option Request := do
  let next ← r.again? response.status
  let u ← r.address.joined? (← response.location)
  if u.isNameable then some (next.movedTo u) else none

end Request

namespace Network

/-- How often a request may be led elsewhere. --/
def patience : Nat := 10

/-- Sends a request to wherever the responses lead, `hops` times at most. --/
def follow (hops : Nat) (n : Network) (r : Request) : Except ExchangeError Response × Network :=
  match n.deliver r with
  | (none, n) => (.error (.hungUp r.address), n)
  | (some response, n) =>
    match r.onward? response with
    | none => (.ok response, n)
    | some next =>
      match hops with
      | 0 => (.error (.astray r.address), n)
      | hops + 1 =>
        if next.address.isPage then follow hops n next else (.error (.unreachable next.address.text), n)

/-- Sends a request and waits for the response that is its answer. --/
def send : Network → Request → Except ExchangeError Response × Network := follow patience

end Network
end Cutroom
