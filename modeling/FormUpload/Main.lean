import FormUpload.CommandLine.Run
import Std.Async.DNS
import Std.Async.TCP
import Std.Async.Timer

/-!
# The program

Hands arguments, environment, files and network to `CommandLine.run`, and shows the
console that comes of it.

What a run asks of the network shows only in the run.  So it is run with the
deliveries that are known, the first request without one is sent, and so on until
every request has its delivery; a run makes few enough requests that this ends.

Requests go over plain TCP, to the proxy that `HTTP_PROXY` names or else to the host
itself.
-/

namespace FormUpload.Program

open FormUpload.Text
open FormUpload.CommandLine (Console FileReader UploadArguments)
open Std.Async
open Std.Async.TCP.Socket (Client)

/-! ## §1. Files. -/

/-- The number of an error, which may be given by its negation in 32 bits. -/
def numberOf (code : UInt32) : Int := code.toInt32.toInt.natAbs

/-- The number of an error of the operating system. -/
def errorNumber : IO.Error → Int
  | .otherError code _ | .resourceBusy code _ | .resourceVanished code _
  | .unsupportedOperation code _ | .hardwareFault code _ | .unsatisfiedConstraints code _
  | .illegalOperation code _ | .protocolError code _ | .timeExpired code _
  | .interrupted _ code _ | .noFileOrDirectory _ code _ | .alreadyExists _ code _
  | .invalidArgument _ code _ | .permissionDenied _ code _ | .resourceExhausted _ code _
  | .inappropriateType _ code _ | .noSuchThing _ code _ => numberOf code
  | .unexpectedEof | .userError _ => 0

/-- Reads a file. -/
def readFile (path : String) : IO (Except FileFault Bytes) := do
  try return .ok (← IO.FS.readBinFile path).toList
  catch e => return .error (.system (errorNumber e))

/-- Reads files, and finds them again by their paths. -/
def fileReader (paths : List String) : IO FileReader := do
  let contents ← paths.mapM fun path => return (bytesOf path, ← readFile path)
  return fun path => (contents.lookup path).getD (.error (.system FileTree.missing))

/-! ## §2. Connections. -/

/-- Host and port that a request goes to. -/
def destination? (proxy : Option String) (r : Http.Request) : Option (String × Nat) := do
  -- octets are not encrypted here, so no TLS connection can be made
  if r.secure then none
  else
    let url ← (Url.parse (proxy.getD r.target)).toOption
    let host ← url.hostText?
    return (host.replace "[" "" |>.replace "]" "", ← Http.portMeant url)

/-- Connects to the first address that can be connected to. -/
def connectFirst (port : UInt16) : List Std.Net.IPAddr → Async (Option Client)
  | [] => return none
  | address :: r => do
      let place : Std.Net.SocketAddress := match address with
        | .v4 a => .v4 ⟨a, port⟩
        | .v6 a => .v6 ⟨a, port⟩
      let client ← Client.mk
      try
        client.connect place
        return some client
      catch _ => connectFirst port r

/-- The next octets of a connection; nothing inside if it is closed, nothing at all
if the deadline passes first. -/
def nextOctets (client : Client) (deadline : Option Nat) : Async (Option (Option ByteArray)) := do
  match deadline with
  | none => return some (← client.recv? 65536)
  | some t =>
      let left := t - (← IO.monoMsNow)
      Selectable.one #[
        .case (client.recvSelector 65536) fun octets => return some octets,
        .case (← Selector.sleep (.ofNat left)) fun _ => return none]

/-- Reads an answer to its end. -/
partial def collect (client : Client) (deadline : Option Nat) (read : Bytes) :
    Async Http.Delivery := do
  if Http.isComplete read then return .received 0 read false
  else
    match ← nextOctets client deadline with
    | none => return .received 0 read true
    | some none => return .received 0 read false
    | some (some octets) => collect client deadline (read ++ octets.toList)

/-- Sends a request and reads what comes back. -/
def deliver (proxy : Option String) (deadline : Option Nat) (r : Http.Request) :
    Async Http.Delivery := do
  match destination? proxy r with
  | none => return .refused
  | some (host, port) =>
      try
        let addresses ← DNS.getAddrInfo host ""
        match ← connectFirst (UInt16.ofNat port) addresses.toList with
        | none => return .refused
        | some client =>
            client.send ⟨(r.octets proxy.isSome).toArray⟩
            collect client deadline []
      catch _ => return .refused

/-! ## §3. Runs. -/

/-- Four random numbers. -/
def randomBoundary : IO Multipart.Boundary := do
  let octets := (← IO.getRandomBytes 32).toList
  let number (place : Nat) : UInt64 :=
    ((octets.drop (8 * place)).take 8).foldl (fun n b => n * 256 + b.toUInt64) 0
  return ⟨number 0, number 1, number 2, number 3⟩

/-- Runs an upload with the deliveries that are known, and again with one more as long
as it makes a request without one. -/
def settle (upload : Http.Network → Option Console) (deliver : Http.Request → IO Http.Delivery) :
    (room : Nat) → List Http.Delivery → IO (Option Console)
  | 0, known => return upload (.scripted known)
  | room + 1, known => do
      let shown := upload (.scripted known)
      match shown.bind (·.exchanges[known.length]?) with
      | none => return shown
      | some next => settle upload deliver room (known ++ [← deliver next.request])

/-- Runs the upload command. -/
def upload (a : UploadArguments) : IO (Option Console) := do
  let read ← fileReader (a.files.map (·.2))
  let boundary ← randomBoundary
  let proxy ← IO.getEnv "HTTP_PROXY"
  let started ← IO.monoMsNow
  let deadline := a.timeout.map fun seconds => started + seconds * 1000
  settle (fun network => CommandLine.runUpload read network boundary a)
    (fun request => (deliver proxy deadline request).block) (Http.redirectLimit + 1) []

/-- Shows what a run shows. -/
def present (c : Console) : IO UInt32 := do
  (← IO.getStdout).putStr c.stdout
  (← IO.getStderr).putStr c.stderr
  return UInt32.ofNat c.exitCode

/-- Runs a command line. -/
def run (arguments : List String) : IO UInt32 := do
  let environment ← IO.getEnv "FORMPOST_ENDPOINT"
  match CommandLine.readArguments environment arguments with
  | .error fault => present (CommandLine.usageConsole environment fault)
  | .ok a =>
      match ← upload a with
      | some console => present console
      | none => return 1

end FormUpload.Program

/-- The program. -/
def main (arguments : List String) : IO UInt32 := FormUpload.Program.run arguments
