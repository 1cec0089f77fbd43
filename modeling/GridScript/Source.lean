import GridScript.Text.Utf8

/-!
# Script sources

A source is a named buffer of bytes. A place in it is given by the bytes that are still to be read
there, so that going back to a place means reading the same bytes once more.

* `Source.offsetOf` counts the bytes before a place.
* `Source.locate` gives an offset its line and column.
* `Source.lineText` shows one line.
-/

namespace GridScript

/-- **A place in a source**, as the bytes from there on to the end. -/
abbrev Position := List UInt8

namespace Byte

/-- The byte that ends a line. -/
abbrev lineFeed : UInt8 := 0x0A

/-- The byte that some systems put before the end of a line. -/
abbrev carriageReturn : UInt8 := 0x0D

/-- **The blanks of the script language**: tab, line feed, vertical tab, form feed, carriage return
and space. No other byte separates tokens. -/
def isBlank (b : UInt8) : Bool :=
  (0x09 ≤ b && b ≤ 0x0D) || b == 0x20

end Byte

/-- **A point in a source, for people**: its offset in bytes, and its line and column, which count
from 1. -/
structure Location where
  offset : Nat
  line : Nat
  column : Nat
  deriving DecidableEq, Repr

namespace Location

/-- Where every source starts. -/
def start : Location := ⟨0, 1, 1⟩

/-- The line and the column, with a colon between them. -/
def display (l : Location) : String :=
  Nat.repr l.line ++ ":" ++ Nat.repr l.column

end Location

/-- **A script**: what it is called, and its bytes. -/
structure Source where
  name : String
  bytes : List UInt8

namespace Source

variable (src : Source)

/-- The number of bytes. -/
def size : Nat := src.bytes.length

/-- The place at an offset. Past the end there is only the end. -/
def positionAt (offset : Nat) : Position := src.bytes.drop offset

/-- The number of bytes before a place of this source. -/
def offsetOf (p : Position) : Nat := src.size - p.length

/-- **The line and column of an offset.** The line counts the line feeds before it and the column
the bytes since the last of them; a line feed belongs to the line that it ends. An offset past the
end is taken for the end. -/
def locate (offset : Nat) : Location :=
  let before := src.bytes.take offset
  { offset := before.length
    line := before.count Byte.lineFeed + 1
    column := (before.reverse.takeWhile (· != Byte.lineFeed)).length + 1 }

/-- The lines of the source, without the line feeds between them. There is always at least one. -/
def lines : List (List UInt8) :=
  src.bytes.splitOnP (· == Byte.lineFeed)

/-- A line without the carriage returns at its end. -/
def withoutReturns (line : List UInt8) : List UInt8 :=
  (line.reverse.dropWhile (· == Byte.carriageReturn)).reverse

/-- **The text of a line**, counted from 1, without its end. -/
def lineText (line : Nat) : Option String :=
  if line = 0 then none
  else src.lines[line - 1]?.map fun bytes => Utf8.decode (withoutReturns bytes)

end Source

end GridScript
