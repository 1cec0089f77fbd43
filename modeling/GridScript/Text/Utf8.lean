/-!
# Bytes as text

Scripts, agent lines and settings files arrive as bytes. Where a message or a token has to show
some of them as text, bytes that spell no character are shown as U+FFFD, one for each longest run
that begins a character and does not finish it.

* `Utf8.decode` reads any bytes, with a replacement for what is no text.
* `Utf8.decode?` reads only bytes that are text throughout.
* `Utf8.encode` gives the bytes of a text.
-/

namespace GridScript.Utf8

/-- The character shown for bytes that spell none. -/
def replacement : Char := '\uFFFD'

/-- **A character begun and not finished**: how many bytes it still needs, the range that the next
of them must lie in, and the bits read so far. The range is narrower than `80`-`BF` only for the
second byte, where it keeps out overlong spellings, surrogates and values past U+10FFFF. -/
structure Begun where
  needed : Nat
  low : UInt8
  high : UInt8
  bits : Nat

/-- **The first byte of a character**: what it completes at once, and what it begins. -/
def first (b : UInt8) : List Char × Option Begun :=
  if b < 0x80 then ([Char.ofNat b.toNat], none)
  else if b < 0xC2 then ([replacement], none)
  else if b < 0xE0 then ([], some ⟨1, 0x80, 0xBF, b.toNat - 0xC0⟩)
  else if b < 0xF0 then
    ([], some ⟨2, if b = 0xE0 then 0xA0 else 0x80, if b = 0xED then 0x9F else 0xBF,
      b.toNat - 0xE0⟩)
  else if b < 0xF5 then
    ([], some ⟨3, if b = 0xF0 then 0x90 else 0x80, if b = 0xF4 then 0x8F else 0xBF,
      b.toNat - 0xF0⟩)
  else ([replacement], none)

/-- **One more byte**: the characters it settles and what is begun after it. A byte that cannot
continue what is begun ends it with a replacement and is then read as a first byte. -/
def step : Option Begun → UInt8 → List Char × Option Begun
  | none, b => first b
  | some p, b =>
    if p.low ≤ b ∧ b ≤ p.high then
      -- six more bits, behind those read so far
      let bits := p.bits * 64 + (b.toNat - 0x80)
      if p.needed ≤ 1 then ([Char.ofNat bits], none)
      else ([], some ⟨p.needed - 1, 0x80, 0xBF, bits⟩)
    else
      let (cs, next) := first b
      (replacement :: cs, next)

/-- The characters of the remaining bytes, after what is already begun. -/
def decodeAfter : Option Begun → List UInt8 → List Char
  | none, [] => []
  | some _, [] => [replacement]
  | begun, b :: rest =>
    let (cs, next) := step begun b
    cs ++ decodeAfter next rest

/-- **Any bytes as text**, with a replacement for each longest piece that is none. -/
def decode (bytes : List UInt8) : String :=
  String.ofList (decodeAfter none bytes)

/-- Bytes as text, if all of them are text. -/
def decode? (bytes : List UInt8) : Option String :=
  String.fromUTF8? bytes.toByteArray

/-- The bytes of a text. -/
def encode (s : String) : List UInt8 :=
  s.toUTF8.data.toList

end GridScript.Utf8
