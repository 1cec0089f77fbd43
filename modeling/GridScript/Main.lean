import GridScript.Launcher
import GridScript.Link.Stream
import GridScript.Link.Tape
import Std.Async.DNS
import Std.Async.TCP
import Std.Async.Timer

/-!
# The program

The program is `launch` over a tape: whenever a session breaks off because the tape has ended, the
use of the link that is due is brought about over a real connection, its end goes on the tape, and
the launch is repeated. What it prints is shown as far as it is new.
-/

open Std.Async Std.Net

namespace GridScript.CommandLine

/-! ### The system -/

/-- The words of the system for an error, with its number if it has one. -/
def systemReason : IO.Error → String
  | .noFileOrDirectory _ code details | .interrupted _ code details
  | .inappropriateType _ code details | .permissionDenied _ code details
  | .noSuchThing _ code details | .invalidArgument _ code details
  | .resourceExhausted _ code details | .resourceVanished code details
  | .unsupportedOperation code details | .timeExpired code details
  | .otherError code details =>
    details.capitalize ++ " (os error " ++ Nat.repr (osNumber code) ++ ")"
  | e => toString e
where
  /-- Some numbers come with their sign turned. -/
  osNumber (code : UInt32) : Nat :=
    if code < 0x80000000 then code.toNat else UInt32.size - code.toNat

/-- The result of an action, or the words of the system for why it has none. -/
def attempted {α : Type} (action : IO α) : IO (Except String α) := do
  return (← action.toBaseIO).mapError systemReason

/-- The files that a launch with these arguments may read, with what is in them. -/
def filesFor (args : List String) : IO (List (String × Except String (List UInt8))) := do
  let paths := match Asked.ofArgs args with
    | some (.run options _) => options.script :: options.config.toList
    | some (.tokens script _) => [script]
    | _ => []
  paths.mapM fun (path : String) => do
    return (path, (← attempted (IO.FS.readBinFile path)).map ByteArray.toList)

/-! ### Connections -/

/-- **A connection to a far end**, and the bytes that have come and not been received. -/
structure Connection where
  socket : TCP.Socket.Client
  peer : String
  arrived : IO.Ref (List UInt8)

/-- The internet addresses that an address may stand for. -/
def addressesOf (address : String) : IO (List IPAddr) := do
  match IPv4Addr.ofString address, IPv6Addr.ofString address with
  | some ip, _ => return [.v4 ip]
  | none, some ip => return [.v6 ip]
  | none, none => return (← (DNS.getAddrInfo address "").block).toList

/-- Connects to an internet address. -/
def connectTo (ip : IPAddr) (port : UInt16) : IO Connection := do
  let socket ← TCP.Socket.Client.mk
  let shownPort := ":" ++ Nat.repr port.toNat
  let peer ← match ip with
    | .v4 ip => do
      (socket.connect (.v4 ⟨ip, port⟩)).block
      pure (ip.toString ++ shownPort)
    | .v6 ip => do
      (socket.connect (.v6 ⟨ip, port⟩)).block
      pure ("[" ++ ip.toString ++ "]" ++ shownPort)
  socket.noDelay
  return ⟨socket, peer, ← IO.mkRef []⟩

/-- Connects to the first internet address where someone listens. -/
def connectOnce (c : Connecting) : IO Connection := do
  let mut failure := IO.userError "no address found"
  for ip in ← addressesOf c.address do
    match ← (connectTo ip c.port).toBaseIO with
    | .ok connection => return connection
    | .error e => failure := e
  throw failure

/-- **Connects**, as patiently as is asked for. -/
def connect (c : Connecting) : IO (Except LinkError Connection) := do
  let started ← IO.monoMsNow
  let mut attempts := 1
  let mut result ← attempted (connectOnce c)
  repeat
    match result with
    | .ok _ => break
    | .error _ =>
      let waited := (← IO.monoMsNow) - started
      if c.timeout.any (· ≤ waited) then break
      IO.sleep c.interval.toUInt32
      attempts := attempts + 1
      result ← attempted (connectOnce c)
  return result.mapError (c.gaveUp attempts)

namespace Connection

variable (c : Connection)

/-- The bytes that come next, `some none` at the end of them, or `none` if the time passes first. -/
def nextBytes (milliseconds : Nat) : IO (Option (Option ByteArray)) :=
  Async.block do
    Selectable.one #[
      .case (c.socket.recvSelector 4096) fun bytes => return some bytes,
      .case (← Selector.sleep (.ofNat (max milliseconds 1))) fun _ => return none]

/-- Receives a line. -/
def receive (milliseconds : Nat) : IO UseEnd := do
  let mut arrived ← c.arrived.get
  c.arrived.set []
  repeat
    if let some (line, rest) := Stream.firstLine? arrived then
      c.arrived.set rest
      return (Stream.textOf line).map some
    match ← attempted (c.nextBytes milliseconds) with
    | .error reason => return .error (.system reason)
    | .ok none => break
    | .ok (some none) => return (Stream.lastLine c.peer arrived).map some
    | .ok (some (some bytes)) => arrived := arrived ++ bytes.toList
  return .ok none

/-- **Brings a use of the link about.** -/
def bringAbout : LinkUse → IO UseEnd
  | .send line => do
    let bytes := Utf8.encode line ++ [0x0A]
    let sent ← attempted (c.socket.send bytes.toByteArray).block
    return (sent.mapError .system).map fun () => none
  | .receive milliseconds => c.receive milliseconds
  | .close => do
    discard <| attempted c.socket.shutdown.block
    return .ok none

end Connection

/-! ### Launching -/

/-- **Launches, again and again, until the launch comes to its end**, and gives the exit code. -/
def run (args : List String) : IO UInt32 := do
  let files ← filesFor args
  let mut connection : Option (Except LinkError Connection) := none
  let mut ends : Array UseEnd := #[]
  let mut passes := 1024
  let mut shown := 0
  let mut exitCode := none
  while exitCode.isNone do
    let known := ends.toList
    let refused := match connection with
      | some (.error e) => some e
      | _ => none
    let host : Host Tape :=
      { contents := fun path => (files.lookup path).getD (.error "not read")
        link := Tape.link
        connect := fun c => match refused with
          | some e => .error e
          | none => .ok ⟨c, known, none⟩ }
    let outcome := launch host passes args
    let printed := outcome.printed.toList
    IO.print (String.ofList (printed.drop shown))
    (← IO.getStdout).flush
    -- a longer tape only goes on with the same output, so the rest of it is what is new
    shown := printed.length
    exitCode := outcome.exitCode
    match outcome.exitCode, outcome.used with
    | some _, _ => IO.eprint outcome.reported
    | none, some ⟨connecting, _, some due⟩ =>
      match connection with
      | none => connection := some (← connect connecting)
      | some (.error _) => passes := passes * 2
      | some (.ok c) => ends := ends.push (← c.bringAbout due)
    | none, _ => passes := passes * 2
  return (exitCode.getD 1).toUInt32

end GridScript.CommandLine

/-- The program. -/
def main (args : List String) : IO UInt32 :=
  GridScript.CommandLine.run args
