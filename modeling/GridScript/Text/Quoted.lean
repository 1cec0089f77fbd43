import GridScript.Text.Printable

/-!
# Quoted text

How a message shows a string token, so that it cannot be taken for a word and its ends can be seen.

* `Quoted.quote` puts a text between double quotes and escapes what is in the way.
-/

namespace GridScript.Quoted

/-- The lower-case hexadecimal digits of a number, without leading zeros. -/
def hex (n : Nat) : String :=
  String.ofList (Nat.toDigits 16 n)

/-- **One character inside the quotes**: the quote, the backslash and the four commonest controls
have short escapes, other characters without a shape are given by their code point, and the rest
stand for themselves. An apostrophe needs no escape. -/
def escape (c : Char) : String :=
  match c with
  | '"' => "\\\""
  | '\\' => "\\\\"
  | '\t' => "\\t"
  | '\r' => "\\r"
  | '\n' => "\\n"
  | '\x00' => "\\0"
  | c => if Printable.isPlain c then c.toString else "\\u\x7b" ++ hex c.toNat ++ "\x7d"

/-- **A text between double quotes**, with every character that needs it escaped. -/
def quote (s : String) : String :=
  "\"" ++ s.toList.foldl (fun shown c => shown ++ escape c) "" ++ "\""

end GridScript.Quoted
