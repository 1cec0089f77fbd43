import GridScript.Json

/-!
# Reading JSON

* `Json.parse` reads one value, with nothing but blanks around it.
-/

namespace GridScript

namespace Json

/-- `true` for the blanks of JSON. -/
def isGap (c : Char) : Bool :=
  c == ' ' || c == '\t' || c == '\n' || c == '\r'

/-- The characters behind any blanks. -/
def skipGap (cs : List Char) : List Char := cs.dropWhile isGap

/-- The character behind a backslash that has no number. -/
def escaped? : Char → Option Char
  | '"' => some '"'
  | '\\' => some '\\'
  | '/' => some '/'
  | 'b' => some '\x08'
  | 'f' => some '\x0c'
  | 'n' => some '\n'
  | 'r' => some '\r'
  | 't' => some '\t'
  | _ => none

/-- **The code points of a string**, which may be surrogates, and what follows its closing quote.
Those read so far are in `seen`, the last of them first. -/
def readCodePoints (seen : List Nat) : List Char → Option (List Nat × List Char)
  | [] => none
  | '"' :: rest => some (seen.reverse, rest)
  -- half of a pair of surrogates is let through here, and `charsOf` judges it
  | '\\' :: 'u' :: a :: b :: c :: d :: rest =>
    (Numeral.hexValue? [a, b, c, d]).bind fun n => readCodePoints (n :: seen) rest
  | '\\' :: c :: rest =>
    (escaped? c).bind fun e => readCodePoints (e.toNat :: seen) rest
  | c :: rest => if c.toNat < 0x20 then none else readCodePoints (c.toNat :: seen) rest

/-- **The characters of code points.** Two surrogates that form a pair are one character; any other
surrogate is no text. -/
def charsOf : List Nat → Option (List Char)
  | [] => some []
  | high :: rest =>
    if 0xD800 ≤ high ∧ high < 0xDC00 then
      match rest with
      | low :: rest =>
        if 0xDC00 ≤ low ∧ low < 0xE000 then
          let n := 0x10000 + (high - 0xD800) * 0x400 + (low - 0xDC00)
          (charsOf rest).map (Char.ofNat n :: ·)
        else none
      | [] => none
    else if 0xDC00 ≤ high ∧ high < 0xE000 then none
    else (charsOf rest).map (Char.ofNat high :: ·)

/-- A string behind its opening quote. -/
def readString (cs : List Char) : Option (Option String × List Char) :=
  (readCodePoints [] cs).map fun (codes, rest) => ((charsOf codes).map String.ofList, rest)

/-- One or more digits. -/
def readDigits (cs : List Char) : Option (List Char × List Char) :=
  match cs.span Char.isDigit with
  | ([], _) => none
  | found => some found

/-- The digits before the point: a zero stands alone. -/
def readWhole : List Char → Option (List Char × List Char)
  | '0' :: rest => if rest.head?.any Char.isDigit then none else some (['0'], rest)
  | cs => readDigits cs

/-- A point and digits, if there is a point. -/
def readFraction : List Char → Option (List Char × List Char)
  | '.' :: rest => (readDigits rest).map fun (ds, rest) => ('.' :: ds, rest)
  | cs => some ([], cs)

/-- An exponent, if there is one. -/
def readExponent : List Char → Option (List Char × List Char)
  | c :: rest =>
    if c = 'e' ∨ c = 'E' then
      match rest with
      | s :: digits =>
        if s = '+' ∨ s = '-' then
          (readDigits digits).map fun (ds, rest) => (c :: s :: ds, rest)
        else (readDigits (s :: digits)).map fun (ds, rest) => (c :: ds, rest)
      | [] => none
    else some ([], c :: rest)
  | [] => some ([], [])

/-- **A number**, as it is written. -/
def readNumber (cs : List Char) : Option (Json × List Char) := do
  let (sign, cs) := match cs with
    | '-' :: rest => (['-'], rest)
    | cs => ([], cs)
  let (whole, cs) ← readWhole cs
  let (fraction, cs) ← readFraction cs
  let (exponent, cs) ← readExponent cs
  return (.number (String.ofList (sign ++ whole ++ fraction ++ exponent)), cs)

/-- One or more items with commas between them, up to the closing bracket. The bound is on their
number. -/
def readItems (item : List Char → Option (Json × List Char)) :
    (bound : Nat) → List Char → Option (List Json × List Char)
  | 0, _ => none
  | bound + 1, cs => do
    let (j, rest) ← item cs
    match skipGap rest with
    | ',' :: rest =>
      let (js, rest) ← readItems item bound rest
      return (j :: js, rest)
    | ']' :: rest => return ([j], rest)
    | _ => none

/-- One or more members with commas between them, up to the closing brace. -/
def readMembers (value : List Char → Option (Json × List Char)) :
    (bound : Nat) → List Char → Option (List (Option String × Json) × List Char)
  | 0, _ => none
  | bound + 1, cs => do
    let '"' :: rest := skipGap cs | none
    let (key, rest) ← readString rest
    let ':' :: rest := skipGap rest | none
    let (j, rest) ← value rest
    match skipGap rest with
    | ',' :: rest =>
      let (js, rest) ← readMembers value bound rest
      return ((key, j) :: js, rest)
    | '\x7d' :: rest => return ([(key, j)], rest)
    | _ => none

/-- **A value**, and what follows it. The bound is on how deep values are inside one another. -/
def readValue : (bound : Nat) → List Char → Option (Json × List Char)
  | 0, _ => none
  | bound + 1, cs =>
    match skipGap cs with
    | 'n' :: 'u' :: 'l' :: 'l' :: rest => some (.null, rest)
    | 't' :: 'r' :: 'u' :: 'e' :: rest => some (.bool true, rest)
    | 'f' :: 'a' :: 'l' :: 's' :: 'e' :: rest => some (.bool false, rest)
    | '"' :: rest => (readString rest).map fun (s, rest) => (.string s, rest)
    | '[' :: rest =>
      match skipGap rest with
      | ']' :: rest => some (.array [], rest)
      | rest => (readItems (readValue bound) (rest.length + 1) rest).map fun (js, rest) =>
          (.array js, rest)
    | '\x7b' :: rest =>
      match skipGap rest with
      | '\x7d' :: rest => some (.object [], rest)
      | rest => (readMembers (readValue bound) (rest.length + 1) rest).map fun (js, rest) =>
          (.object js, rest)
    -- what begins like nothing above is a number or no value
    | cs => readNumber cs

/-- **The value that a text is**, with nothing but blanks around it. -/
def parse (s : String) : Option Json :=
  let cs := s.toList
  match readValue (cs.length + 1) cs with
  | some (j, rest) => if (skipGap rest).isEmpty then some j else none
  | none => none

end Json

end GridScript
