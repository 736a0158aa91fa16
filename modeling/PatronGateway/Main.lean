import PatronGateway.Gateway.Replay
import PatronGateway.Http.Wire
import PatronGateway.Log.Line
import PatronGateway.Program.Startup
import Std.Async.DNS
import Std.Async.Signal
import Std.Async.TCP
import Std.Async.Timer

/-!
# The program

The outer layer: it gathers what the program is started with, moves bytes between
sockets and the gateway, and prints the log.  What is decided, is decided by
`Program.launch`, `Request.receive` and `State.attempt`; requests are served one
after the other, until somebody interrupts the program.  This layer has neither TLS
nor the tables of charsets: no connection to an address with https comes about, and
in a charset that goes by a table only ASCII can be read.
-/

namespace PatronGateway
namespace Main

open Cache (Moment)
open Gateway (Attempt State)
open Http (Outgoing Reaction Received Reply Request Response)
open Log (Event)
open Net (Address ListenError)
open Program (Inputs Ready)
open Std.Async (Async Selectable Selector)
open Std.Async.TCP.Socket (Client Server)
open Std.Net (IPAddr IPv4Addr IPv6Addr SocketAddress)

/-- The clock, in nanoseconds since the beginning of 1970. -/
def now : IO Moment := do
  return (← Std.Time.Timestamp.now).toNanosecondsSinceUnixEpoch.toInt.toNat

/-- Prints events. -/
def printLog (events : List Event) : IO Unit := do
  let t := Time.Instant.ofEpoch (← now)
  for e in events do
    IO.println (e.lineAt t)
  (← IO.getStdout).flush

/-- The variables that the program is started with. -/
def environment : IO Config.Variables := do
  let bytes ← IO.FS.readBinFile "/proc/self/environ"
  return (Text.splitOn 0 bytes.toList).filterMap fun entry =>
    (Text.splitFirst? '=' (Text.Utf8.decodeLossy entry).toList).map fun v =>
      (String.ofList v.1, String.ofList v.2)

/-- What there is at a path.  What is there and cannot be read counts as a
directory. -/
def filesAt (path : String) : IO Config.Directory := do
  try
    return [(path, ← IO.FS.readFile path)]
  catch
  | .noFileOrDirectory .. => return []
  | _ => return [(path ++ "/unreadable", "")]

/-- What the program is started with.  Of the files only those that it may ask for are
read. -/
def inputs (arguments : List String) : IO Inputs := do
  let vs ← environment
  let settings ← filesAt ".env"
  let (all, _) := Program.gatherVariables ⟨arguments, vs, settings⟩
  let path := (Program.configPath arguments all).1
  let besides := Config.Format.byExtension.map fun e => path ++ "." ++ e.1
  let files ← (path :: besides).mapM filesAt
  return ⟨arguments, vs, settings ++ files.flatten⟩

/-- The number of the reason why a call of the system has failed. -/
def errorCode : IO.Error → Nat
  | .permissionDenied _ code _ | .alreadyExists _ code _ | .invalidArgument _ code _
  | .resourceExhausted _ code _ | .noSuchThing _ code _ | .resourceBusy code _
  | .unsupportedOperation code _ | .otherError code _ =>
    if code.toNat < 2 ^ 31 then code.toNat else 2 ^ 32 - code.toNat
  | _ => 0

/-- An address of the system, with a port. -/
def withPort (address : IPAddr) (port : Nat) : SocketAddress :=
  match address with
  | .v4 a => .v4 ⟨a, port.toUInt16⟩
  | .v6 a => .v6 ⟨a, port.toUInt16⟩

/-- The address of the system that an address stands for. -/
def systemAddress (address : Address) : IPAddr :=
  match address with
  | .ipv4 octets =>
    let octet (i : Nat) := (octets.getD i 0).toUInt8
    .v4 (.ofParts (octet 0) (octet 1) (octet 2) (octet 3))
  | .ipv6 pieces =>
    let piece (i : Nat) := (pieces.getD i 0).toUInt16
    .v6 (.ofParts (piece 0) (piece 1) (piece 2) (piece 3) (piece 4) (piece 5) (piece 6) (piece 7))

/-- Listens at an address. -/
def listen (address : Address) (port : Nat) : IO (Except ListenError Server) := do
  try
    let server ← Server.mk
    server.bind (withPort (systemAddress address) port)
    server.listen 1024
    return .ok server
  catch e => return .error ⟨errorCode e⟩

/-- Connects to the first of some addresses that can be connected to. -/
def connect (addresses : List IPAddr) (port : Nat) : Async Client := do
  match addresses with
  | [] => throw (.userError "no address")
  | address :: rest =>
    try
      let client ← Client.mk
      client.connect (withPort address port)
      return client
    catch e => if rest.isEmpty then throw e else connect rest port

/-- The bytes that come next on a connection; none at its end. -/
def receive (client : Client) : Async Bytes := do
  return ((← client.recv? 65536).map fun bytes => bytes.toList).getD []

/-- Sends bytes. -/
def send (client : Client) (bytes : Bytes) : Async Unit :=
  client.send ⟨bytes.toArray⟩

/-- Receives an answer that has begun with some bytes. -/
partial def receiveReply (client : Client) (start : Moment) (seen : Bytes) : Async Reaction := do
  let more ← receive client
  let delay := (← now) - start
  match Reply.receive delay more.isEmpty (seen ++ more) with
  | .complete reply => return .reply reply
  | .malformed => return .close
  | .partly => receiveReply client start (seen ++ more)

/-- Sends a request and receives its answer.  Without TLS at hand, nobody can be
talked to who asks for it. -/
def exchange (request : Outgoing) : Async Reaction := do
  if request.url.scheme != "http".toList then return .close
  let start ← now
  try
    let host := Http.hostName request.url
    let addresses ← Std.Async.DNS.getAddrInfo host ""
    let client ← connect addresses.toList (request.url.port.getD 80)
    send client request.toWire
    receiveReply client start []
  catch _ => return .close

/-- The reaction to a request, which is waited for a number of nanoseconds. -/
def reactionTo (patience : Nat) (request : Outgoing) : Async Reaction :=
  Async.race (exchange request) do
    Std.Async.sleep (.ofNat ((patience + 999999) / 1000000))
    return .hang patience

/-- Serves a request, with a bound on the number of requests that it leads to. -/
def answer (state : State) (start : Moment) (id : String) (request : Request) :
    Nat → List Reaction → Async (Response × State)
  | 0, _ => return (.bare 500, state)
  | bound + 1, known => do
    match state.attempt start id request known with
    | .answers response next => return (response, next)
    | .asks outgoing =>
      let reaction ← reactionTo state.services.patience outgoing
      answer state start id request bound (known ++ [reaction])

/-- Receives a request that has begun with some bytes. -/
partial def receiveRequest (client : Client) (seen : Bytes) : Async (Option Request) := do
  match Request.receive seen with
  | .complete request => return some request
  | .malformed => return none
  | .partly =>
    let more ← receive client
    if more.isEmpty then return none else receiveRequest client (seen ++ more)

/-- Serves the request of a connection. -/
def serveConnection (state : State) (client : Client) : Async State := do
  try
    match ← receiveRequest client [] with
    | none =>
      send client ((Response.bare 400).toWire "GET")
      return state
    | some request =>
      let id := Text.Uuid.spell (Text.Uuid.markRandom (← IO.getRandomBytes 16).toList)
      let start ← now
      let (response, next) ← answer state start id request (Gateway.attemptLimit + 1) []
      send client (response.toWire request.method)
      client.shutdown
      return next
  catch _ => return state

/-- Serves one connection after the other, until the program is interrupted. -/
partial def serveAll (server : Server) (interrupt : Selector Unit) (state : State) :
    Async Unit := do
  let next ← Selectable.one #[
    .case interrupt fun _ => return none,
    .case server.acceptSelector fun client => return some client]
  match next with
  | none => return ()
  | some client => serveAll server interrupt (← serveConnection state client)

/-- The clock of the gateway. -/
def calendar : Gateway.Calendar where
  dateAt := Time.Instant.ofEpoch
  secondsAt moment := moment / 1000000000

/-- Ends with a failure. -/
def fail (failure : Program.Failure) : IO UInt32 := do
  IO.eprintln failure.message
  return failure.exitCode.toUInt32

/-- Serves requests with a gateway that is ready. -/
def serve (ready : Ready) : IO UInt32 := do
  let server ← listen ready.config.address ready.config.server.port
  match ready.listen (server.map fun _ => ()), server with
  | .ok events, .ok server =>
    printLog events
    let waiter ← Std.Async.Signal.Waiter.mk .sigint true
    let state := State.start ready.services calendar ready.config.cache
    (serveAll server waiter.selector state).block
    printLog ready.interrupt
    return 0
  | .error failure, _ => fail failure
  | _, .error e => fail (.listening e)

end Main
end PatronGateway

open PatronGateway in
/-- Starts the program and serves requests until it is interrupted. -/
def main (arguments : List String) : IO UInt32 := do
  let launch := Program.launch .blank (← Main.inputs arguments)
  for warning in launch.warnings do
    IO.eprintln warning
  Main.printLog launch.log
  match launch.result with
  | .error failure => Main.fail failure
  | .ok ready => Main.serve ready
