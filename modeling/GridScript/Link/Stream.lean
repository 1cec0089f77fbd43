import GridScript.Link
import GridScript.Text.Blank
import GridScript.Text.Utf8

/-!
# Lines over a stream of bytes

A connection carries bytes. A line sent ends with a line feed; a line received ends with one, or
with the end of the stream.

* `Stream.firstLine?` and `Stream.textOf` are how bytes become lines and lines text.
* `Stream.link` is the link over a connection to a far end that reacts to each line it gets.
-/

namespace GridScript

/-- **What a far end does when a line reaches it**: the bytes it writes, and whether it then ends
its side of the connection. -/
structure Reaction where
  written : List UInt8
  ends : Bool

/-- **A far end with states `φ`** that reacts to each line. -/
structure FarEnd (φ : Type) where
  react : List UInt8 → φ → Reaction × φ

namespace FarEnd

/-- **A far end with its reactions laid down beforehand**, one for each line. To further lines it
does not react. -/
def rehearsed : FarEnd (List Reaction) where
  react _ reactions := (reactions.head?.getD ⟨[], false⟩, reactions.tail)

/-- **A far end that hands each line to a link** and writes what comes back. If the link breaks off,
it ends its side. -/
def relay {χ : Type} (ch : Link χ) : FarEnd χ where
  react line s :=
    match (do ch.send (Utf8.decode line); ch.receive 0 : EStateM (Trouble LinkError) χ _) s with
    | .ok (some answer) s => (⟨Utf8.encode answer ++ [0x0A], false⟩, s)
    | .ok none s | .error (.failed _) s => (⟨[], false⟩, s)
    | .error (.aborted _) s => (⟨[], true⟩, s)

end FarEnd

/-- **A connection to a far end.** -/
structure Stream (φ : Type) where
  /-- The address and port of the far end. -/
  peer : String
  far : φ
  /-- Bytes sent since the last line feed. -/
  unended : List UInt8
  /-- The lines that have reached the far end, in order. -/
  delivered : List (List UInt8)
  /-- Bytes that have come and not been received. -/
  arrived : List UInt8
  /-- `true` once the far end has ended its side. -/
  ended : Bool
  /-- `true` once this side has been given up. -/
  closed : Bool

namespace Stream

variable {φ : Type}

/-- A fresh connection. -/
def connected (peer : String) (far : φ) : Stream φ :=
  ⟨peer, far, [], [], [], false, false⟩

/-- One byte reaches the far end. Once it has ended its side it writes nothing more. -/
def deliver (farEnd : FarEnd φ) (s : Stream φ) (b : UInt8) : Stream φ :=
  if b = 0x0A then
    let line := s.unended
    let (reaction, far) := farEnd.react line s.far
    { s with
      far
      unended := []
      delivered := s.delivered ++ [line]
      -- the line itself still arrives there, only its answer does not come back
      arrived := if s.ended then s.arrived else s.arrived ++ reaction.written
      ended := s.ended || reaction.ends }
  else { s with unended := s.unended ++ [b] }

/-- **Sends a line**, whose end is added. -/
def send (farEnd : FarEnd φ) (line : String) :
    EStateM (Trouble LinkError) (Stream φ) Unit := fun s =>
  if s.closed then .error (.failed .closed) s
  else .ok () ((Utf8.encode line ++ [0x0A]).foldl (deliver farEnd) s)

/-- **The first line among bytes**, with its line feed, and the bytes behind it, or `none` if it is
not whole. -/
def firstLine? (bytes : List UInt8) : Option (List UInt8 × List UInt8) :=
  match bytes.span (· != 0x0A) with
  | (line, lineFeed :: rest) => some (line ++ [lineFeed], rest)
  | (_, []) => none

/-- **The text of a line**, without the line feeds and carriage returns at its end. -/
def textOf (line : List UInt8) : Except LinkError String :=
  match Utf8.decode? line with
  | some text =>
    .ok (String.ofList (Blank.dropAtEnd (fun c => c == '\n' || c == '\r') text.toList))
  | none => .error (.system "stream did not contain valid UTF-8")

/-- What it means for the bytes that have come in that nothing more will come: they are the last
line, unless there are none. -/
def lastLine (peer : String) (bytes : List UInt8) : Except LinkError String :=
  if bytes.isEmpty then .error (.connection ("connection closed by " ++ peer)) else textOf bytes

/-- **Receives a line.** If none has come whole and the far end may still write, the time passes,
and what has come of the line is lost. -/
def receive : EStateM (Trouble LinkError) (Stream φ) (Option String) := fun s =>
  -- a line that cannot be read as text is taken all the same
  let give (line : Except LinkError String) (s : Stream φ) :=
    match line with
    | .ok text => EStateM.Result.ok (some text) s
    | .error e => .error (.failed e) s
  if s.closed then .error (.failed .closed) s
  else
    match firstLine? s.arrived with
    | some (line, rest) => give (textOf line) { s with arrived := rest }
    | none =>
      if s.ended then give (lastLine s.peer s.arrived) { s with arrived := [] }
      else .ok none { s with arrived := [] }

/-- **The link over a connection.** Giving it up twice does no harm. -/
def link (farEnd : FarEnd φ) : Link (Stream φ) where
  send := send farEnd
  receive _ := receive
  close := modify fun s => { s with closed := true }

end Stream

end GridScript
