import Cutroom.Command.Needs
import Cutroom.Command.Pace
import Cutroom.Storage.Stamp
import Cutroom.Storage.Survey
import Cutroom.Web.Wire
import Std.Async.DNS
import Std.Async.TCP
import Std.Time.DateTime.Timestamp

/-! The program on a real disk and a real network. It looks at the part of the disk that the run needs, answers
    each request of the run with what the server sends, and carries out the changes when the run has ended. The
    run itself is computed anew whenever one more response is known; what it has asked for stays the same. -/

namespace Cutroom.Command

/-! ### The disk -/

/-- What is at a location of the real disk. --/
def look (place : Location) : IO (Option Node) := do
  try
    let path ← IO.FS.realPath place.text
    if ← path.isDir then return some .dir
    return some (.file (← IO.FS.readBinFile path))
  catch _ => return none

/-- The part of the real disk that some paths pass through. --/
def survey (home : Location) (paths : List FilePath) : IO Disk := do
  let places := (paths.flatMap fun p => p.passed home).eraseDups
  let nodes ← places.filterMapM fun place => return (← look place).map fun n => (place, n)
  return { nodes := nodes, home := home }

def carryOut : Change → IO Unit
  | .makeDirectory place => IO.FS.createDir place.text
  | .write place bytes => IO.FS.writeBinFile place.text bytes
  | .remove place => IO.FS.removeFile place.text

/-! ### The network -/

/-- A connection to a server, to the first of its addresses that accepts one. --/
def connect (url : Url) : IO (Option Std.Async.TCP.Socket.Client) := do
  let endpoint := url.endpoint?.getD 0
  let addresses ← (Std.Async.DNS.getAddrInfo (url.hostName?.getD "") (toString endpoint)).block
  for address in addresses do
    try
      let socket ← Std.Async.TCP.Socket.Client.mk
      let target : Std.Net.SocketAddress := match address with
        | .v4 a => .v4 ⟨a, endpoint.toUInt16⟩
        | .v6 a => .v6 ⟨a, endpoint.toUInt16⟩
      (socket.connect target).block
      return some socket
    catch _ => continue
  return none

/-- All that a server sends until the connection ends or breaks off. --/
partial def receive (socket : Std.Async.TCP.Socket.Client) (received : ByteArray) : IO ByteArray := do
  let more ← try (socket.recv? 65536).block catch _ => pure none
  match more with
  | some bytes => receive socket (received ++ bytes)
  | none => return received

/-- Sends a request; none when no response comes back. --/
def exchange (request : Request) : IO (Option Response) := do
  try
    let some socket ← connect request.address | return none
    (socket.send request.wire).block
    return Response.ofWire? (← receive socket ByteArray.empty)
  catch _ => return none

/-! ### The run -/

/-- Computes the run, and sends the requests that it makes one after the other. --/
partial def converse (w : World) (args : List String) (needs : Needs) (past : List Exchanged) : IO Report := do
  let network := { w.network with responses := past.map Exchanged.response }
  let report := run { w with network := network } args
  match report.network.requests[past.length]? with
  | some request =>
    IO.sleep (min (pause needs.policy past request / Nat.pow 10 6) 4294967295).toUInt32
    let response ← exchange request
    converse w args needs (past ++ [⟨request, response⟩])
  | none => return report

/-- The data directory of the user. --/
def dataDirectory : IO FilePath := do
  let usual := (⟨(← IO.getEnv "HOME").getD "/tmp"⟩ : FilePath).child ".local/share"
  let named : FilePath := ⟨(← IO.getEnv "XDG_DATA_HOME").getD ""⟩
  return (if named.isAbsolute then named else usual).child "editverse"

/-- A separator that is in no file. --/
def freshBoundary : IO String := do
  let groups ← (List.range 4).mapM fun _ => do
    return String.ofList (((← IO.getRandomBytes 8).toList).flatMap fun b => Hex.pair Hex.small b.toNat)
  return String.intercalate "-" groups

/-- The world as it is before anything of the disk is known. --/
def world : IO World := do
  let now ← Std.Time.Timestamp.now
  let start := now.toMillisecondsSinceUnixEpoch.val.toNat
  return {
    disk := { nodes := [], home := (⟨(← IO.currentDir).toString⟩ : FilePath).parts }
    network := ⟨fun u => u.scheme = "http", [], []⟩
    home := ← dataDirectory
    apiUrl := ← IO.getEnv "EDITVERSE_API_URL"
    boundary := ← freshBoundary
    stamp := fun wait => Stamp.text (start + wait / Nat.pow 10 6) }

/-- The world with all that a run needs of the disk: first the settings, then what they lead to. --/
def surveyed (w : World) (args : List String) : IO World := do
  let w := { w with disk := ← survey w.disk.home (needs w args).paths }
  return { w with disk := ← survey w.disk.home (needs w args).paths }

/-- Carries out the changes of a run and prints what it says. --/
def settle (before : Disk) (report : Report) : IO UInt32 := do
  (← IO.getStdout).putStr report.out
  (← IO.getStderr).putStr report.err
  try
    (before.changes report.disk).forM carryOut
    return report.code.toUInt32
  catch e =>
    (← IO.getStderr).putStrLn ("Error: " ++ toString e)
    return 1

end Cutroom.Command

open Cutroom.Command in
def main (args : List String) : IO UInt32 := do
  let w ← surveyed (← world) args
  settle w.disk (← converse w args (needs w args) [])
