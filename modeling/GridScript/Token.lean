import GridScript.Text.Quoted

/-!
# Tokens

A script is a sequence of marks, quoted texts and words. Whether a word is a keyword, the name of a
procedure or a number is not settled here: it depends on where the word stands.

* `Token.isSpelled` compares a mark or a word with a spelling; a quoted text has none.
* `Token.display` is how messages show a token.
-/

namespace GridScript

/-- **The marks**, each of which is a token of its own wherever it begins one. -/
inductive Mark where
  | semicolon
  | openBrace
  | closeBrace
  | bang
  | openParen
  | closeParen
  | comma
  deriving DecidableEq, Repr

namespace Mark

/-- All marks. -/
def all : List Mark :=
  [semicolon, openBrace, closeBrace, bang, openParen, closeParen, comma]

/-- The byte that a mark is written as. -/
def byte : Mark → UInt8
  | semicolon => 0x3B
  | openBrace => 0x7B
  | closeBrace => 0x7D
  | bang => 0x21
  | openParen => 0x28
  | closeParen => 0x29
  | comma => 0x2C

/-- The mark that a byte is, if it is one. -/
def ofByte? (b : UInt8) : Option Mark :=
  all.find? (·.byte == b)

/-- The mark as text. -/
def spelling (m : Mark) : String :=
  (Char.ofNat m.byte.toNat).toString

end Mark

/-- **A token.** It does not know where it stands. -/
inductive Token where
  /-- A mark. -/
  | mark (m : Mark)
  /-- A quoted text, without its quotes and with its escapes resolved. -/
  | quoted (text : String)
  /-- A bare run of other characters. -/
  | word (text : String)
  deriving DecidableEq, Repr

namespace Token

/-- **`true` for a mark or a word written like this.** A quoted text is never one of the spellings
of the language, so `"main"` in quotes is no `main`. -/
def isSpelled (spelling : String) : Token → Bool
  | mark m => m.spelling == spelling
  | word w => w == spelling
  | quoted _ => false

/-- The token as messages show it. Only a quoted text is shown in quotes. -/
def display : Token → String
  | mark m => m.spelling
  | quoted s => Quoted.quote s
  | word w => w

/-- The word, if the token is one. -/
def word? : Token → Option String
  | word w => some w
  | _ => none

/-- What messages show for the next token, or for the end of the script where there is none. -/
def displayNext : Option Token → String
  | some t => t.display
  | none => "end of input"

/-- **The words with a meaning of their own**: those that shape a script, that choose and repeat,
that direct a run, that command the agent, and that ask it. -/
def keywords : List String :=
  ["proc", "main", "if", "else", "while", "do", "call", "init", "print", "grid", "gems",
    "step", "turnL", "turnR", "take", "drop",
    "leftclear", "rightclear", "frontclear", "backclear", "seejem", "hasjem",
    "facingN", "facingS", "facingE", "facingW", "not"]

end Token

end GridScript
