import GridScript.Token.Lexemes

/-!
# How scripts are spelled

The lexical grammar, without anything that reads. A script is some tokens with a gap in front of
each of them and one behind the last. A word goes on for as long as it can, so whether some bytes
are a token depends on what follows them; a comment that no line feed ends goes on to the end of the
script. Apart from that the pieces do not look at each other.

* `Spelling.IsGap` — blanks and comments.
* `Spelling.IsItems`, `Spelling.IsToken` — what is between quotes, and what spells a token.
* `Spelling.Spelled` — the tokens up to some place.
* `Spelling.Offends` — what cannot be read, and the number of the message about it.
-/

namespace GridScript

namespace Spelling

/-! ### Bytes -/

abbrev slash : UInt8 := 0x2F

abbrev star : UInt8 := 0x2A

abbrev quote : UInt8 := 0x22

abbrev backslash : UInt8 := 0x5C

/-- Tab, line feed, vertical tab, form feed, carriage return and space. -/
def blanks : List UInt8 := [0x09, 0x0A, 0x0B, 0x0C, 0x0D, 0x20]

/-- What a word stops at: the blanks, the semicolon and the braces. -/
def stops : List UInt8 := blanks ++ [0x3B, 0x7B, 0x7D]

/-- The bytes that may stand behind a backslash, and what they stand for there. -/
def escapes : List (UInt8 × UInt8) :=
  [(0x6E, 0x0A), (0x74, 0x09), (0x62, 0x08), (0x72, 0x0D), (0x66, 0x0C),
    (backslash, backslash), (quote, quote), (0x27, 0x27)]

/-- What no word begins with: marks, a quote, and the two ways to begin a comment. -/
def openings : List (List UInt8) :=
  Mark.all.map (fun m => [m.byte]) ++ [[quote], [slash, slash], [slash, star]]

/-! ### Gaps -/

/-- **A gap**, in front of the rest of the script. -/
inductive IsGap : (gap rest : Position) → Prop
  | nil (rest : Position) : IsGap [] rest
  | blank {b : UInt8} {gap rest : Position} (hb : b ∈ blanks) (h : IsGap gap rest) :
    IsGap (b :: gap) rest
  /-- A comment up to the end of its line. -/
  | line {text gap rest : Position} (htext : Byte.lineFeed ∉ text) (h : IsGap gap rest) :
    IsGap (slash :: slash :: (text ++ Byte.lineFeed :: gap)) rest
  /-- A comment on the last line, which is not ended. -/
  | lastLine {text : Position} (htext : Byte.lineFeed ∉ text) :
    IsGap (slash :: slash :: text) []
  /-- A comment up to the first `*/` behind the `/*` that opens it. -/
  | block {text gap rest : Position} (htext : ¬ [star, slash] <:+: text) (h : IsGap gap rest) :
    IsGap (slash :: star :: (text ++ star :: slash :: gap)) rest

/-! ### Tokens -/

/-- **What is written between quotes**, and the bytes that it stands for. -/
inductive IsItems : (written bytes : List UInt8) → Prop
  | nil : IsItems [] []
  | byte {b : UInt8} {written bytes : List UInt8} (hquote : b ≠ quote) (hbackslash : b ≠ backslash)
    (hline : b ≠ Byte.lineFeed) (h : IsItems written bytes) : IsItems (b :: written) (b :: bytes)
  | escape {c d : UInt8} {written bytes : List UInt8} (hc : (c, d) ∈ escapes)
    (h : IsItems written bytes) : IsItems (backslash :: c :: written) (d :: bytes)

/-- **What spells a token**, in front of the rest of the script. -/
inductive IsToken : (written : List UInt8) → Token → (rest : Position) → Prop
  | mark (m : Mark) (rest : Position) : IsToken [m.byte] (.mark m) rest
  | quoted {items bytes : List UInt8} (h : IsItems items bytes) (rest : Position) :
    IsToken (quote :: (items ++ [quote])) (.quoted (Utf8.decode bytes)) rest
  /-- A word ends only at the end of the script or where it has to stop. -/
  | word {written : List UInt8} {rest : Position} (hne : written ≠ [])
    (hbytes : ∀ b ∈ written, b ∉ stops) (hmaximal : ∀ b ∈ rest.head?, b ∈ stops)
    (hopening : ∀ o ∈ openings, ¬ o <+: written) :
    IsToken written (.word (Utf8.decode written)) rest

/-! ### Scripts -/

/-- **The tokens from one place up to another**, each with the place behind it, and with a gap in
front of each. -/
inductive Spelled : Position → List (Token × Position) → Position → Prop
  | nil (last : Position) : Spelled last [] last
  | cons {gap written after last : Position} {t : Token} {ts : List (Token × Position)}
    (hgap : IsGap gap (written ++ after)) (ht : IsToken written t after)
    (h : Spelled after ts last) : Spelled (gap ++ (written ++ after)) ((t, after) :: ts) last

/-- **What cannot be read**, with the number of the message about it. -/
inductive Offends : Position → Code → Prop
  /-- A comment without an end. -/
  | comment {text : Position} (htext : ¬ [star, slash] <:+: text) :
    Offends (slash :: star :: text) ⟨103⟩
  /-- A quoted text whose line ends. -/
  | lineEnds {items bytes : List UInt8} (h : IsItems items bytes) (rest : Position) :
    Offends (quote :: (items ++ Byte.lineFeed :: rest)) ⟨100⟩
  /-- A quoted text without an end. -/
  | ends {items bytes : List UInt8} (h : IsItems items bytes) : Offends (quote :: items) ⟨100⟩
  /-- A quoted text that ends in a backslash. -/
  | endsInEscape {items bytes : List UInt8} (h : IsItems items bytes) :
    Offends (quote :: (items ++ [backslash])) ⟨100⟩
  /-- A backslash before a byte that may not stand there. -/
  | badEscape {items bytes : List UInt8} (h : IsItems items bytes) {c : UInt8}
    (hc : c ∉ escapes.map Prod.fst) (rest : Position) :
    Offends (quote :: (items ++ backslash :: c :: rest)) ⟨101⟩

end Spelling

end GridScript
