import ReviewBot.CommandLine.Identifier
import ReviewBot.CommandLine.Run
import ReviewBot.Host.Rest
import ReviewBot.Http.Redirect
import ReviewBot.Http.Wire
import ReviewBot.Webhook.Address
import Std.Async.DNS
import Std.Async.Signal
import Std.Async.TCP
import Std.Time.DateTime.Timestamp

set_option autoImplicit false

/-!
# The program

The machine that the program runs on, as far as its commands use it. Connections are plain; a server
that speaks only through an encrypted one counts as out of reach.
-/

namespace ReviewBot.Main

open Std.Async
open Std.Net

/-- What stands at a path. -/
def look (path : String) : IO PathState := do
  try
    return .file (← IO.FS.readBinFile path).data.toList
  catch
    | .noFileOrDirectory _ _ _ => return .missing
    | .inappropriateType _ 21 _ => return .directory
    | .inappropriateType _ _ _ => return .missing
    | e => return .unreadable (toString e)

/-- Writes a file. -/
def write (path : String) (content : Bytes) : IO (Except Error Unit) := do
  try
    IO.FS.writeBinFile path ⟨content.toArray⟩
    return .ok ()
  catch e => return .error (.io (toString e))

/-- All bytes of the standard input. -/
def input : IO Bytes := do
  let stream ← IO.getStdin
  let mut all : ByteArray := .empty
  repeat
    let next ← stream.read 65536
    if next.isEmpty then break
    all := all ++ next
  return all.data.toList

/-- The environment variables that replace settings. -/
def environment : IO Environment := do
  let values ← SettingVariable.all.mapM fun v => return (v.name, ← IO.getEnv v.name)
  return fun name => (values.lookup name).join

/-- A port at an address. -/
def atPort (port : Nat) : IPAddr → SocketAddress
  | .v4 address => .v4 ⟨address, port.toUInt16⟩
  | .v6 address => .v6 ⟨address, port.toUInt16⟩

/-- The address of a host and a port. -/
def address? (host : String) (port : Nat) : IO (Option SocketAddress) := do
  match IPv4Addr.ofString host with
  | some address => return some (atPort port (.v4 address))
  | none =>
    let found ← (DNS.getAddrInfo host (toString port)).block
    return found[0]?.map (atPort port)

/-- The bytes that come up to the end of a connection, or up to where `complete` holds. -/
def receive (client : TCP.Socket.Client) (complete : Bytes → Bool) : IO Bytes := do
  let mut all : ByteArray := .empty
  repeat
    match ← (client.recv? 65536).block with
    | none => break
    | some next =>
      all := all ++ next
      if complete all.data.toList then break
  return all.data.toList

/-- Sends bytes. -/
def send (client : TCP.Socket.Client) (bytes : Bytes) : IO Unit :=
  (client.send ⟨bytes.toArray⟩).block

/-- Sends a request to a host and a port, and waits for the response. -/
def exchange (r : HttpRequest) (host : String) (port : Nat) : IO (Option HttpResponse) := do
  try
    let some address ← address? host port | return none
    let client ← TCP.Socket.Client.mk
    (client.connect address).block
    send client r.message.bytes
    return HttpResponse.ofWire? (← receive client fun _ => false)
  catch _ => return none

/-- Sends a request, if that takes no more than a plain connection. -/
def submit (r : HttpRequest) : IO (Option HttpResponse) := do
  if r.url.scheme ≠ "http" then return none
  let some authority := r.url.authority | return none
  match ListenAddress.read authority with
  | .ok a => exchange r a.host a.port
  | .error _ => exchange r authority 80

/-- Answers the one request on a connection. -/
def answer (server : WebhookServer IO) (client : TCP.Socket.Client) : IO Unit := do
  let bytes ← receive client fun bytes => (Request.ofWire? bytes).isSome
  match Request.ofWire? bytes with
  | some request =>
    send client (← server.answer request).message.bytes
    client.shutdown.block
  | none => pure ()

/-- The next connection, or nothing when the program is interrupted first. -/
def nextConnection (listener : TCP.Socket.Server) (interruption : Signal.Waiter) :
    Async (Option TCP.Socket.Client) :=
  Selectable.one
    #[.case interruption.selector fun _ => pure none,
      .case listener.acceptSelector fun client => pure (some client)]

/-- Takes connections until the program is interrupted; each is answered on its own. -/
def takeConnections (listener : TCP.Socket.Server) (interruption : Signal.Waiter)
    (server : WebhookServer IO) : IO Unit := do
  repeat
    match ← (nextConnection listener interruption).block with
    | some client => let _ ← IO.asTask (answer server client)
    | none => break

/-- Listens on an address until the program is interrupted. Reviews run in the background. -/
def listen (text : String) (server : WebhookServer IO) : IO (Except Error Unit) := do
  match ListenAddress.read text with
  | .error e => return .error e
  | .ok a =>
    try
      let some address ← address? a.host a.port | return .error (.io "unknown host")
      let listener ← TCP.Socket.Server.mk
      listener.bind address
      listener.listen 128
      let background : WebhookServer IO :=
        { server with dispatch := fun pr => do let _ ← IO.asTask (server.dispatch pr) }
      takeConnections listener (← Signal.Waiter.mk .sigint true) background
      return .ok ()
    catch e => return .error (.io (toString e))

/-- The time in seconds since the beginning of 1970. -/
def now : IO Int := return (← Std.Time.Timestamp.now).toSecondsSinceUnixEpoch.toInt

/-- The machine itself. -/
def machine : IO (Machine IO) := do
  let environment ← environment
  let wire : Wire IO := ⟨submit⟩
  return {
    files := ⟨look, write⟩
    environment := environment
    input := input
    network := wire.network
    library := Rest.library wire.network
    now := now
    identifiers := return identifier (← IO.getRandomBytes 16).data.toList
    listen := listen }

end ReviewBot.Main

/-- Runs the program. -/
def main (arguments : List String) : IO UInt32 := do
  let exit ← (← ReviewBot.Main.machine).run arguments
  (← IO.getStdout).putStr exit.output
  match exit.complaint with
  | some complaint => (← IO.getStderr).putStrLn complaint
  | none => pure ()
  return exit.code.toUInt32
