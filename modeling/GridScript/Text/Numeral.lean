/-!
# Numbers in lines of text

A number on the wire is an optional sign and ASCII digits. Leading zeros are fine, a sign alone is
not a number, and a number outside its range is refused like any other wrong text.

* `Numeral.readUInt32?` reads a count; its sign can only be `+`.
* `Numeral.readInt32?` reads a coordinate.
* `Numeral.hexValue?` reads hexadecimal digits, which stand in escapes.
* `Numeral.ofNat` and `Numeral.ofInt` write the shortest form, which reads back.
-/

namespace GridScript.Numeral

/-- The value of one ASCII digit. -/
def digit? (c : Char) : Option Nat :=
  if '0' ≤ c ∧ c ≤ '9' then some (c.toNat - '0'.toNat) else none

/-- The value of the digits, read on from the value `seen` of those before them. -/
def digitsAfter (seen : Nat) : List Char → Option Nat
  | [] => some seen
  | c :: cs => (digit? c).bind fun d => digitsAfter (seen * 10 + d) cs

/-- The value of one or more digits. -/
def digits? : List Char → Option Nat
  | [] => none
  | cs => digitsAfter 0 cs

/-- A natural number: digits, with at most a `+` before them. -/
def readNat? (s : String) : Option Nat :=
  match s.toList with
  | '+' :: cs => digits? cs
  | cs => digits? cs

/-- An integer: digits, with at most one sign before them. -/
def readInt? (s : String) : Option Int :=
  match s.toList with
  | '-' :: cs => (digits? cs).map fun n => -(n : Int)
  | '+' :: cs => (digits? cs).map Int.ofNat
  | cs => (digits? cs).map Int.ofNat

/-- **A number below `bound`**, with at most a `+` before it. -/
def readBelow? (bound : Nat) (s : String) : Option Nat :=
  (readNat? s).filter (· < bound)

/-- **A count**: a natural number below 2 ^ 32. -/
def readUInt32? (s : String) : Option UInt32 :=
  (readBelow? UInt32.size s).map Nat.toUInt32

/-- **A coordinate**: an integer from -2 ^ 31 up to 2 ^ 31 - 1. -/
def readInt32? (s : String) : Option Int32 :=
  ((readInt? s).filter fun i => Int32.minValue.toInt ≤ i ∧ i ≤ Int32.maxValue.toInt).map Int32.ofInt

/-- The value of a hexadecimal digit. -/
def hexDigit? (c : Char) : Option Nat :=
  if '0' ≤ c ∧ c ≤ '9' then some (c.toNat - '0'.toNat)
  else if 'a' ≤ c ∧ c ≤ 'f' then some (c.toNat - 'a'.toNat + 10)
  else if 'A' ≤ c ∧ c ≤ 'F' then some (c.toNat - 'A'.toNat + 10)
  else none

/-- The value of hexadecimal digits, the first of which counts most. -/
def hexValue? (cs : List Char) : Option Nat :=
  cs.foldlM (fun n c => (hexDigit? c).map (n * 16 + ·)) 0

/-- The decimal digits of a natural number, without leading zeros. -/
def ofNat (n : Nat) : String := Nat.repr n

/-- The decimal digits of an integer, after a `-` if it is negative. -/
def ofInt : Int → String
  | .ofNat n => ofNat n
  | .negSucc n => "-" ++ ofNat (n + 1)

end GridScript.Numeral
