import GridScript.Diagnostic
import GridScript.Token

/-!
# From bytes to tokens

Between tokens there may be blanks, comments from `//` to the end of the line, and comments from
`/*` to the first `*/` behind it. A token is a mark, a text in double quotes on one line, or a run
of other bytes up to a blank, a semicolon or a brace. A run may hold marks and quotes of the other
kinds: `a!b(c),d` is one word.

* `Gap.skip` drops what may stand between two tokens.
* `scanQuoted` reads on behind an opening quote.
* `scan` reads the next token, if there is one.
-/

namespace GridScript

/-- **What can be wrong with the spelling of a script.** -/
inductive SpellingError where
  /-- The line ends inside a quoted text, which so far reads `seen`. -/
  | lineEndsInQuotes (seen : String)
  /-- The script ends inside a quoted text. -/
  | endsInQuotes
  /-- The script ends behind the backslash of an escape. -/
  | endsInEscape
  /-- A backslash stands before a byte with which it forms no escape. -/
  | badEscape (byte : UInt8)
  /-- The script ends inside a comment. -/
  | endsInComment
  /-- A token is wanted and the script has ended. -/
  | endsEarly
  deriving DecidableEq, Repr

namespace SpellingError

/-- The number of the message. -/
def code : SpellingError → Code
  | lineEndsInQuotes _ | endsInQuotes | endsInEscape => ⟨100⟩
  | badEscape _ => ⟨101⟩
  | endsInComment => ⟨103⟩
  | endsEarly => ⟨102⟩

/-- The message. A byte that forms no escape is shown as the character with its number. -/
def message : SpellingError → String
  | lineEndsInQuotes seen => "end of line reached while parsing string \"" ++ seen
  | endsInQuotes => "end of input reached while parsing string"
  | endsInEscape => "end of input reached inside escape sequence"
  | badEscape byte =>
    "unrecognized escape sequence '\\" ++ (Char.ofNat byte.toNat).toString ++ "'"
  | endsInComment => "end of input reached inside '/*' comment"
  | endsEarly => "reached end of input while parsing; missing '\x7d'?"

end SpellingError

/-- **A place where the spelling is wrong**: what is wrong, the place that the message is about, and
the place where reading stopped. -/
structure Misspelling where
  error : SpellingError
  shown : Position
  stop : Position
  deriving DecidableEq, Repr

/-- **What is being skipped between two tokens.** -/
inductive Gap where
  /-- Blanks, up to a comment or a token. -/
  | blanks
  /-- A comment that the end of its line ends. -/
  | line
  /-- A comment that `*/` ends, and the place where it begins. -/
  | block (opening : Position)

namespace Gap

/-- **The place behind the gap**, which is the first byte of the next token or the end. -/
def skip : Gap → Position → Except Misspelling Position
  | blanks, [] => .ok []
  | blanks, b :: rest =>
    if Byte.isBlank b then skip blanks rest
    else if b = 0x2F then
      -- a slash opens a comment only together with the next byte, else it begins a word
      match rest with
      | [] => .ok [b]
      | c :: after =>
        if c = 0x2F then skip line after
        -- the star that opens does not close as well, so `/*/` is still open
        else if c = 0x2A then skip (block (b :: c :: after)) after
        else .ok (b :: c :: after)
    else .ok (b :: rest)
  | line, [] => .ok []
  | line, b :: rest => if b = Byte.lineFeed then skip blanks rest else skip line rest
  | block opening, [] => .error ⟨.endsInComment, opening, []⟩
  | block opening, b :: rest =>
    if b = 0x2A then
      match rest with
      | [] => .error ⟨.endsInComment, opening, []⟩
      | c :: after =>
        -- `c` is looked at once more, for it may be the star that closes
        if c = 0x2F then skip blanks after else skip (block opening) (c :: after)
    else skip (block opening) rest

end Gap

/-- **The byte that an escape stands for**, by the byte behind its backslash. -/
def escaped? (b : UInt8) : Option UInt8 :=
  if b = 0x6E then some 0x0A
  else if b = 0x74 then some 0x09
  else if b = 0x62 then some 0x08
  else if b = 0x72 then some 0x0D
  else if b = 0x66 then some 0x0C
  else if b = 0x5C ∨ b = 0x22 ∨ b = 0x27 then some b
  else none

/-- **The rest of a quoted text** and the place behind its closing quote. The bytes read so far are
in `seen`, the last of them first. -/
def scanQuoted (opening : Position) (seen : List UInt8) :
    Position → Except Misspelling (String × Position)
  | [] => .error ⟨.endsInQuotes, opening, []⟩
  | b :: rest =>
    if b = 0x22 then .ok (Utf8.decode seen.reverse, rest)
    else if b = Byte.lineFeed then
      .error ⟨.lineEndsInQuotes (Utf8.decode seen.reverse), opening, rest⟩
    else if b = 0x5C then
      match rest with
      -- this is shown at the end, while an open text is shown where it opens
      | [] => .error ⟨.endsInEscape, [], []⟩
      | c :: after =>
        match escaped? c with
        | some d => scanQuoted opening (d :: seen) after
        -- the byte that forms no escape has not been read, and scanning may go on there
        | none => .error ⟨.badEscape c, c :: after, c :: after⟩
    else scanQuoted opening (b :: seen) rest

/-- `true` for the bytes that a word may hold. -/
def isWordByte (b : UInt8) : Bool :=
  !(Byte.isBlank b || b == 0x3B || b == 0x7B || b == 0x7D)

/-- **The token at a place that no gap precedes**, and the place behind it. -/
def scanToken (b : UInt8) (rest : Position) : Except Misspelling (Token × Position) :=
  match Mark.ofByte? b with
  | some m => .ok (.mark m, rest)
  | none =>
    if b = 0x22 then
      (scanQuoted (b :: rest) [] rest).map fun (text, after) => (.quoted text, after)
    else
      .ok (.word (Utf8.decode (b :: rest.takeWhile isWordByte)), rest.dropWhile isWordByte)

/-- **The next token** and the place behind it, or `none` if only a gap is left. -/
def scan (p : Position) : Except Misspelling (Option (Token × Position)) :=
  match Gap.blanks.skip p with
  | .error e => .error e
  | .ok [] => .ok none
  | .ok (b :: rest) => (scanToken b rest).map some

end GridScript
