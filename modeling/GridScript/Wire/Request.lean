import GridScript.Grid.Cell
import GridScript.Grid.Coord
import GridScript.Text.Blank

/-!
# Request lines

The script's side sends one request a line. A request either commands the far end to change
something or queries something, and each has one written form. Reading is more lenient than writing:
blanks between parameters do not count, and queries may have any parameters.

* `Request.line` writes a request, `Request.ofLine` reads one.
* `Request.expected` is what a successful response looks like.
-/

namespace GridScript

/-- **A request.** -/
inductive Request where
  | goTo (place : Coord)
  | askLocation
  | face (direction : Direction)
  | askFacing
  | holdGems (count : UInt32)
  | askGems
  | putCell (place : Coord) (cell : Cell)
  | askCell (place : Coord)
  | loadGrid (name : String)
  | askSize
  | showMessages (on : Bool)
  | stop
  deriving DecidableEq, Repr

/-- **What a successful response looks like.** -/
inductive Expected where
  /-- Exactly this line. -/
  | exactly (line : String)
  /-- These words, and fields behind them. -/
  | fieldsAfter (head : String)
  deriving DecidableEq, Repr

/-- **Why a line is no request.** -/
inductive Rejection where
  /-- The first word is no request. -/
  | unknownCommand
  /-- The parameters do not fit the first word. -/
  | badParameters
  deriving DecidableEq, Repr

namespace Rejection

/-- The line that rejects parameters. -/
def failLine : String := "CMDFAIL"

/-- The line that rejects a first word. -/
def errorLine : String := "CMDERR"

/-- The line that tells of a rejection. -/
def line : Rejection → String
  | unknownCommand => errorLine
  | badParameters => failLine

end Rejection

namespace Request

/-- **The written form.** -/
def line : Request → String
  | goTo c => "GOTO " ++ c.text
  | askLocation => "GETLOC"
  | face d => "FACE " ++ d.name
  | askFacing => "GETDIR"
  | holdGems n => "GIVEROB " ++ Numeral.ofNat n.toNat
  | askGems => "GETJEWLCNT"
  | putCell c cell => "SETGRID " ++ c.text ++ " " ++ cell.text
  | askCell c => "GETGRID " ++ c.text
  | loadGrid name => "LOADGRID " ++ name
  | askSize => "GETSIZE"
  | showMessages on => "SHOWMSGS " ++ if on then "ON" else "OFF"
  | stop => "STOP"

/-- The line that acknowledges a command. -/
def acknowledgement (r : Request) : String := "ACK " ++ r.line

/-- **What a successful response looks like**: a query is answered with words that depend on the
question, a command with its own line behind `ACK`. -/
def expected : Request → Expected
  | askLocation => .fieldsAfter "ROBISAT"
  | askFacing => .fieldsAfter "ROBISFACING"
  | askGems => .fieldsAfter "ROBHAS"
  | askCell c => .fieldsAfter ("GRID " ++ c.text)
  | askSize => .fieldsAfter "GRIDSIZE"
  | r => .exactly r.acknowledgement

/-- `true` for the requests that are acknowledged. -/
def isCommand (r : Request) : Bool :=
  match r.expected with
  | .exactly _ => true
  | .fieldsAfter _ => false

/-- Two coordinates. -/
def coordOf? : List String → Option Coord
  | [x, y] => do return ⟨← Numeral.readInt32? x, ← Numeral.readInt32? y⟩
  | _ => none

/-- The request with a first word and parameters, which are also given as text. -/
def ofParts (keyword : String) (rest : String) : Except Rejection Request :=
  let args := Blank.words rest
  let orBad (r : Option Request) : Except Rejection Request :=
    match r with
    | some r => .ok r
    | none => .error .badParameters
  match keyword with
  | "GOTO" => orBad ((coordOf? args).map goTo)
  | "GETLOC" => .ok askLocation
  | "FACE" =>
    match args with
    | [d] => orBad ((Direction.ofName? d).map face)
    | _ => .error .badParameters
  | "GETDIR" => .ok askFacing
  | "GIVEROB" =>
    match args with
    | [n] => orBad ((Numeral.readUInt32? n).map holdGems)
    | _ => .error .badParameters
  | "GETJEWLCNT" => .ok askGems
  | "SETGRID" =>
    match args with
    | [x, y, cell] => orBad do return putCell (← coordOf? [x, y]) (← Cell.ofText? cell)
    | _ => .error .badParameters
  | "GETGRID" => orBad ((coordOf? args).map askCell)
  | "LOADGRID" =>
    -- a name may hold blanks, so it is the rest of the line and not a word of it
    let name := Blank.trim rest
    if name.isEmpty then .error .badParameters else .ok (loadGrid name)
  | "GETSIZE" => .ok askSize
  | "SHOWMSGS" =>
    match args with
    | ["ON"] => .ok (showMessages true)
    | ["OFF"] => .ok (showMessages false)
    | _ => .error .badParameters
  | "STOP" => .ok stop
  | _ => .error .unknownCommand

/-- **The request that a line is.** Carriage returns at its end do not count, and its first word
ends at the first space. -/
def ofLine (line : String) : Except Rejection Request :=
  let cs := Blank.dropAtEnd (· == '\r') line.toList
  let (keyword, rest) := cs.span (· != ' ')
  ofParts (String.ofList keyword) (String.ofList rest.tail)

end Request

end GridScript
