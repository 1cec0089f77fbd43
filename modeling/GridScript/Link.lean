import GridScript.Abort
import GridScript.Diagnostic

/-!
# Links to a far end

* `LinkError` is what can go wrong between the script's side and the far end.
* `Link` carries lines both ways; its state is its own.
-/

namespace GridScript

/-- **What can go wrong on the way to the far end and back.** Requests and responses are given as
the lines that they are. -/
inductive LinkError where
  /-- No response has come in time. -/
  | noResponse (request : String) (milliseconds : Nat)
  /-- The far end has rejected the parameters. -/
  | rejected (request : String)
  /-- The far end does not know the request. -/
  | unknownRequest (request : String)
  /-- The response is not the one to this request. -/
  | wrongResponse (request expected found : String)
  /-- The response is one to this request, and its fields cannot be read. -/
  | unreadableResponse (request response : String)
  /-- With the gems found, more would be held than can be counted. -/
  | tooManyGems (held : UInt32) (found : UInt8)
  /-- There is no connection, or there is none any more. -/
  | connection (reason : String)
  /-- The system cannot read or write. -/
  | system (reason : String)
  deriving DecidableEq, Repr

namespace LinkError

/-- The message. -/
def message : LinkError → String
  | noResponse request ms =>
    "no response to '" ++ request ++ "' within " ++ Nat.repr ms ++ " ms"
  | rejected request =>
    "'" ++ request ++ "' failed: the agent rejected its parameters (CMDFAIL)"
  | unknownRequest request =>
    "'" ++ request ++ "' is not a command the agent recognizes (CMDERR)"
  | wrongResponse request expected found =>
    "expected '" ++ expected ++ "' in response to '" ++ request ++ "' but received '" ++ found ++
      "'"
  | unreadableResponse request response =>
    "malformed response to '" ++ request ++ "': '" ++ response ++ "'"
  | tooManyGems held found =>
    "cannot take " ++ Nat.repr found.toNat ++ " gems while holding " ++ Nat.repr held.toNat ++
      ": the count would overflow"
  | connection reason => "connection error: " ++ reason
  | system reason => "i/o error: " ++ reason

/-- The number of the message. -/
def code : LinkError → Code
  | noResponse .. => ⟨300⟩
  | rejected _ => ⟨301⟩
  | unknownRequest _ => ⟨302⟩
  | wrongResponse .. => ⟨303⟩
  | unreadableResponse .. => ⟨304⟩
  | tooManyGems .. => ⟨306⟩
  | connection _ | system _ => ⟨305⟩

/-- The error as a diagnostic, which is about no place yet. -/
def diagnostic (e : LinkError) : Diagnostic := .ofMessage e.code e.message

/-- What is said of a link that has been closed. -/
def closed : LinkError := connection "transport is closed"

end LinkError

/-- **A link with states `χ`.** -/
structure Link (χ : Type) where
  /-- Sends a line, without its end. -/
  send : String → EStateM (Trouble LinkError) χ Unit
  /-- The next line that comes, without its end, or `none` if none comes in that many
  milliseconds. -/
  receive : Nat → EStateM (Trouble LinkError) χ (Option String)
  /-- Gives the link up. -/
  close : EStateM (Trouble LinkError) χ Unit

end GridScript
