import GridScript.Text.Numeral
import GridScript.Text.Quoted

/-!
# JSON values

Tokens and diagnostics can be shown as JSON, and diagnostics and settings can be read from it.

* `Json` keeps what a reader may have to tell apart: the order of members, members of one name, and
  how a number is written.
* `Json.compact` writes a value without any blanks.
* `Json.fieldsOf` reads a record, which is an object or an array of its fields in order.
-/

namespace GridScript

/-- **A JSON value.** A string is missing where its escapes spell half of a surrogate pair, which is
correct JSON and no text. -/
inductive Json where
  | null
  | bool (b : Bool)
  /-- A number, as it is written. -/
  | number (literal : String)
  | string (s : Option String)
  | array (items : List Json)
  | object (members : List (Option String × Json))

namespace Json

/-! ### Making values -/

/-- A text. -/
def text (s : String) : Json := string (some s)

/-- A natural number. -/
def nat (n : Nat) : Json := number (Numeral.ofNat n)

/-- An integer. -/
def int (i : Int) : Json := number (Numeral.ofInt i)

/-- An object with these members. -/
def record (members : List (String × Json)) : Json :=
  object (members.map fun (k, v) => (some k, v))

/-- A value that may be missing. -/
def optional {α : Type} (f : α → Json) : Option α → Json
  | none => null
  | some a => f a

/-! ### Writing -/

/-- One character of a written string. Only quotes, backslashes and controls are escaped. -/
def escape (c : Char) : String :=
  match c with
  | '"' => "\\\""
  | '\\' => "\\\\"
  | '\x08' => "\\b"
  | '\t' => "\\t"
  | '\n' => "\\n"
  | '\x0c' => "\\f"
  | '\r' => "\\r"
  | c =>
    if c.toNat < 0x10 then "\\u000" ++ Quoted.hex c.toNat
    else if c.toNat < 0x20 then "\\u00" ++ Quoted.hex c.toNat
    else c.toString

/-- A written string. -/
def quote (s : String) : String :=
  "\"" ++ s.toList.foldl (fun written c => written ++ escape c) "" ++ "\""

/-- What stands for a string in writing; one that is no text is left empty. -/
def quoteIfText (s : Option String) : String := quote (s.getD "")

mutual

/-- **The value in writing**, without blanks. -/
def compact : Json → String
  | null => "null"
  | bool true => "true"
  | bool false => "false"
  | number literal => literal
  | string s => quoteIfText s
  | array items => "[" ++ String.intercalate "," (compactItems items) ++ "]"
  | object members => "\x7b" ++ String.intercalate "," (compactMembers members) ++ "\x7d"

/-- The items of an array in writing. -/
def compactItems : List Json → List String
  | [] => []
  | j :: js => compact j :: compactItems js

/-- The members of an object in writing. -/
def compactMembers : List (Option String × Json) → List String
  | [] => []
  | (k, j) :: js => (quoteIfText k ++ ":" ++ compact j) :: compactMembers js

end

/-! ### Taking values apart -/

/-- The text of a string. -/
def text? : Json → Option String
  | string s => s
  | _ => none

/-- The value of a truth value. -/
def bool? : Json → Option Bool
  | bool b => some b
  | _ => none

/-- The items of an array. -/
def items? : Json → Option (List Json)
  | array items => some items
  | _ => none

/-- **The value of an integer**: digits after at most a `-`, from -2 ^ 63 up to 2 ^ 64 - 1. What has
a point or an exponent is no integer, and neither is `-0`, which only floating point tells from
0. -/
def int? : Json → Option Int
  | number literal =>
    if literal = "-0" then none
    else (Numeral.readInt? literal).filter fun i => Int64.minValue.toInt ≤ i ∧ i < UInt64.size
  | _ => none

/-- The value of a natural number below `bound`. -/
def natBelow? (bound : Nat) (j : Json) : Option Nat :=
  (j.int?).bind fun i => if 0 ≤ i ∧ i.toNat < bound then some i.toNat else none

/-- The value at a name in an object. -/
def get? (name : String) : Json → Option Json
  | object members => (members.find? (·.1 == some name)).map (·.2)
  | _ => none

/-- **How a record may be given.** -/
structure RecordRule where
  /-- Members that the record does not have are passed over. -/
  passesOver : Bool
  /-- An array may end before the last field. -/
  maySkipLast : Bool

/-- **The fields of a record**, in the order of their names. In an object each may stand once, or be
missing; a name that is no text makes it no record. In an array they stand in order. -/
def fieldsOf (rule : RecordRule) (names : List String) : Json → Option (List (Option Json))
  | object members =>
    let known (k : Option String) : Bool := k.any names.contains
    if members.all fun (k, _) => k.isSome && (known k || rule.passesOver) then
      names.mapM fun name =>
        -- twice the same member is a mistake, whatever the values are
        match members.filter (·.1 == some name) with
        | [] => some none
        | [(_, v)] => some (some v)
        | _ => none
    else none
  | array items =>
    if items.length = names.length ∨ (rule.maySkipLast ∧ items.length < names.length) then
      some (items.map some ++ List.replicate (names.length - items.length) none)
    else none
  | _ => none

end Json

end GridScript
