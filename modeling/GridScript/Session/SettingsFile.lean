import GridScript.Session.Settings

/-!
# Settings files

A settings file is a TOML document of settings: lines `name = value`, comments and blank lines. The
values of settings are strings, integers and truth values, so a document with tables, dotted names,
arrays, dates or fractions is never one of settings, and is refused without being read to its end.

* `SettingsFile.parse` reads the lines as a record of values.
* `Settings.ofFile` reads the settings.
-/

namespace GridScript

namespace SettingsFile

/-! ### Blanks and comments -/

/-- `true` for the blanks inside a line. -/
def isSpace (c : Char) : Bool := c == ' ' || c == '\t'

/-- The characters behind any blanks of the line. -/
def skipSpace (cs : List Char) : List Char := cs.dropWhile isSpace

/-- **`true` for the characters that may stand as themselves**: tabs, and all that are no
controls. -/
def isLiteral (c : Char) : Bool :=
  c == '\t' || (0x20 ≤ c.toNat && c.toNat != 0x7F)

/-- The characters behind the end of a line, or `none` if the line goes on. A carriage return alone
ends no line. -/
def lineEnd? : List Char → Option (List Char)
  | '\n' :: rest => some rest
  | '\r' :: '\n' :: rest => some rest
  | _ => none

/-- The characters behind a comment, if there is one. -/
def skipComment : List Char → List Char
  | '#' :: rest => rest.dropWhile isLiteral
  | cs => cs

/-- **The next line**, behind blanks and a comment, or nothing at the end of the file. -/
def nextLine? (cs : List Char) : Option (List Char) :=
  match skipComment (skipSpace cs) with
  | [] => some []
  | rest => lineEnd? rest

/-! ### Strings -/

/-- The character that an escape without digits stands for. -/
def escaped? : Char → Option Char
  | 'b' => some '\x08'
  | 't' => some '\t'
  | 'n' => some '\n'
  | 'f' => some '\x0c'
  | 'r' => some '\r'
  | '"' => some '"'
  | '\\' => some '\\'
  | _ => none

/-- The character with a number, which is no surrogate. -/
def charOf? (n : Nat) : Option Char :=
  if n < 0xD800 ∨ (0xE000 ≤ n ∧ n < 0x110000) then some (Char.ofNat n) else none

/-- The character with hexadecimal digits. -/
def charOfHex? (digits : List Char) : Option Char :=
  (Numeral.hexValue? digits).bind charOf?

/-- **A string between double quotes**, on one line, and what follows it. The characters read so far
are in `seen`, the last of them first; this holds of all readers of strings here. -/
def readBasic (seen : List Char) : List Char → Option (String × List Char)
  | [] => none
  | '"' :: rest => some (String.ofList seen.reverse, rest)
  | '\\' :: 'u' :: a :: b :: c :: d :: rest =>
    (charOfHex? [a, b, c, d]).bind fun e => readBasic (e :: seen) rest
  | '\\' :: 'U' :: a :: b :: c :: d :: e :: f :: g :: h :: rest =>
    (charOfHex? [a, b, c, d, e, f, g, h]).bind fun e => readBasic (e :: seen) rest
  | '\\' :: c :: rest => (escaped? c).bind fun e => readBasic (e :: seen) rest
  | c :: rest => if isLiteral c then readBasic (c :: seen) rest else none

/-- **A string between apostrophes**, on one line and without escapes. -/
def readPlain (seen : List Char) : List Char → Option (String × List Char)
  | [] => none
  | '\'' :: rest => some (String.ofList seen.reverse, rest)
  | c :: rest => if isLiteral c then readPlain (c :: seen) rest else none

/-- **A string between three double quotes**, which may have many lines. One or two quotes are part
of it, also just before the end. While `joining`, which starts at a backslash that ends a line,
blanks and line ends are passed over. -/
def readLongBasic (joining : Bool) (seen : List Char) : List Char → Option (String × List Char)
  | [] => none
  | '"' :: '"' :: '"' :: '"' :: '"' :: rest =>
    some (String.ofList ('"' :: '"' :: seen).reverse, rest)
  | '"' :: '"' :: '"' :: '"' :: rest => some (String.ofList ('"' :: seen).reverse, rest)
  | '"' :: '"' :: '"' :: rest => some (String.ofList seen.reverse, rest)
  | '\\' :: 'u' :: a :: b :: c :: d :: rest =>
    (charOfHex? [a, b, c, d]).bind fun e => readLongBasic false (e :: seen) rest
  | '\\' :: 'U' :: a :: b :: c :: d :: e :: f :: g :: h :: rest =>
    (charOfHex? [a, b, c, d, e, f, g, h]).bind fun e => readLongBasic false (e :: seen) rest
  | '\\' :: c :: rest =>
    -- blanks may stand between the backslash and the end of its line
    if (lineEnd? (skipSpace (c :: rest))).isSome then readLongBasic true seen (c :: rest)
    else (escaped? c).bind fun e => readLongBasic false (e :: seen) rest
  | '\r' :: '\n' :: rest =>
    readLongBasic joining (if joining then seen else '\n' :: seen) rest
  | c :: rest =>
    if joining && (isSpace c || c == '\n') then readLongBasic true seen rest
    else if isLiteral c || c == '\n' then readLongBasic false (c :: seen) rest
    else none

/-- **A string between three apostrophes**, which may have many lines and has no escapes. -/
def readLongPlain (seen : List Char) : List Char → Option (String × List Char)
  | [] => none
  | '\'' :: '\'' :: '\'' :: '\'' :: '\'' :: rest =>
    some (String.ofList ('\'' :: '\'' :: seen).reverse, rest)
  | '\'' :: '\'' :: '\'' :: '\'' :: rest => some (String.ofList ('\'' :: seen).reverse, rest)
  | '\'' :: '\'' :: '\'' :: rest => some (String.ofList seen.reverse, rest)
  | '\r' :: '\n' :: rest => readLongPlain ('\n' :: seen) rest
  | c :: rest => if isLiteral c || c == '\n' then readLongPlain (c :: seen) rest else none

/-- What a long string begins with: a line end right behind its opening does not count. -/
def skipFirstLineEnd (cs : List Char) : List Char := (lineEnd? cs).getD cs

/-! ### Integers and truth values -/

/-- The value of digits of a base, the first of which is behind at most one underscore if there are
digits `before` it. -/
def digitsAfter (base : Nat) (before : Bool) (seen : Nat) : List Char → Option Nat
  | [] => if before then some seen else none
  | '_' :: c :: rest =>
    if before then
      ((Numeral.hexDigit? c).filter (· < base)).bind fun d =>
        digitsAfter base true (seen * base + d) rest
    else none
  | c :: rest =>
    ((Numeral.hexDigit? c).filter (· < base)).bind fun d =>
      digitsAfter base true (seen * base + d) rest

/-- One or more digits of a base, which single underscores may separate. -/
def digits? (base : Nat) (cs : List Char) : Option Nat := digitsAfter base false 0 cs

/-- A decimal number, without leading zeros. -/
def decimal? : List Char → Option Nat
  | ['0'] => some 0
  | '0' :: _ => none
  | cs => digits? 10 cs

/-- **An integer**: decimal with at most a sign, or hexadecimal, octal or binary without one. It
fits into 64 bits, one of them for the sign. -/
def integer? (cs : List Char) : Option Int :=
  let value : Option Int :=
    match cs with
    | '0' :: 'x' :: ds => (digits? 16 ds).map Int.ofNat
    | '0' :: 'o' :: ds => (digits? 8 ds).map Int.ofNat
    | '0' :: 'b' :: ds => (digits? 2 ds).map Int.ofNat
    | '+' :: ds => (decimal? ds).map Int.ofNat
    | '-' :: ds => (decimal? ds).map fun n => -(n : Int)
    | ds => (decimal? ds).map Int.ofNat
  value.filter fun i => Int64.minValue.toInt ≤ i ∧ i ≤ Int64.maxValue.toInt

/-- A bare value: a truth value or an integer. -/
def bare? (cs : List Char) : Option Json :=
  match String.ofList cs with
  | "true" => some (.bool true)
  | "false" => some (.bool false)
  | _ => (integer? cs).map .int

/-! ### Lines -/

/-- `true` for the characters of a name without quotes. -/
def isNameChar (c : Char) : Bool := c.isAlphanum || c == '_' || c == '-'

/-- **The name of a setting**, in quotes or not, and what follows it. -/
def readName : List Char → Option (String × List Char)
  | '"' :: rest => readBasic [] rest
  | '\'' :: rest => readPlain [] rest
  | cs =>
    match cs.span isNameChar with
    | ([], _) => none
    | (name, rest) => some (String.ofList name, rest)

/-- **A value**, and what follows it. -/
def readValue : List Char → Option (Json × List Char)
  | '"' :: '"' :: '"' :: rest => (readLongBasic false [] (skipFirstLineEnd rest)).map text
  | '"' :: rest => (readBasic [] rest).map text
  | '\'' :: '\'' :: '\'' :: rest => (readLongPlain [] (skipFirstLineEnd rest)).map text
  | '\'' :: rest => (readPlain [] rest).map text
  | cs =>
    let (word, rest) := cs.span fun c => !(isSpace c || c == '\n' || c == '\r' || c == '#')
    (bare? word).map (·, rest)
where
  text (s : String × List Char) : Json × List Char := (.text s.1, s.2)

/-- **A line `name = value`**, and what follows it. -/
def readSetting (cs : List Char) : Option ((String × Json) × List Char) := do
  let (name, rest) ← readName cs
  let '=' :: rest := skipSpace rest | none
  let (value, rest) ← readValue (skipSpace rest)
  return ((name, value), rest)

/-- The settings on all lines. The bound is on the number of lines. -/
def readLines : (bound : Nat) → List Char → Option (List (String × Json))
  | 0, _ => none
  | _, [] => some []
  | bound + 1, cs =>
    match nextLine? cs with
    | some rest => readLines bound rest
    | none => do
      let (setting, rest) ← readSetting (skipSpace cs)
      let rest ← nextLine? rest
      let settings ← readLines bound rest
      return setting :: settings

/-- **A document as a record of values.** A byte order mark at its start does not count. -/
def parse (text : String) : Option Json :=
  let cs := match text.toList with
    | '\uFEFF' :: cs => cs
    | cs => cs
  (readLines (cs.length + 1) cs).map .record

end SettingsFile

/-- **The settings of a file with this text.** -/
def Settings.ofFile (text : String) : Except SettingsError Settings :=
  match (SettingsFile.parse text).bind ofJson? with
  | some c => .ok c
  | none => .error .notSettings

end GridScript
