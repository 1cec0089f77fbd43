import GridScript.Source

/-!
# Diagnostics

Everything that can go wrong in a run ends as a diagnostic: a numbered message, which points at a
place in the script if it is about one.

* `Diagnostic.ofMessage` gives a numbered message the category of its number.
* `Source.annotate` makes it about a place, unless it is about one already.
* `Diagnostic.display` is the line that people see.
-/

namespace GridScript

/-- **What a diagnostic is about**: the spelling of the script, its grammar, the conversation with
the agent, or the settings and files around a run. -/
inductive Category where
  | lex
  | grammar
  | protocol
  | config
  deriving DecidableEq, Repr

namespace Category

/-- The name shown in messages. -/
def name : Category → String
  | lex => "lex"
  | grammar => "syntax"
  | protocol => "protocol"
  | config => "config"

/-- The category with a name. -/
def ofName? : String → Option Category
  | "lex" => some lex
  | "syntax" => some grammar
  | "protocol" => some protocol
  | "config" => some config
  | _ => none

end Category

/-- **The number of a message.** Each hundred is a category of its own. -/
structure Code where
  number : UInt16
  deriving DecidableEq, Repr

namespace Code

/-- The category of a number. One outside the four hundreds counts as a matter of grammar. -/
def category (c : Code) : Category :=
  match c.number.toNat / 100 with
  -- 2 is among the others: its messages are those of grammar
  | 1 => .lex
  | 3 => .protocol
  | 4 => .config
  | _ => .grammar

/-- The number behind an `E`. -/
def display (c : Code) : String :=
  "E" ++ Nat.repr c.number.toNat

end Code

/-- **A numbered message**, with the place it is about and the line of the script at that place. -/
structure Diagnostic where
  code : Code
  category : Category
  message : String
  location : Option Location
  sourceLine : Option String
  deriving DecidableEq, Repr

namespace Diagnostic

/-- A message that is about no place. -/
def ofMessage (code : Code) (message : String) : Diagnostic :=
  ⟨code, code.category, message, none, none⟩

/-- The same message, about this place and line. -/
def about (d : Diagnostic) (location : Location) (sourceLine : String) : Diagnostic :=
  { d with location := some location, sourceLine := some sourceLine }

/-- `true` if the message is about no place yet. -/
def isUnlocated (d : Diagnostic) : Bool := d.location.isNone

/-- **The line that people see**: the place if there is one, the number, the category, the
message. -/
def display (d : Diagnostic) : String :=
  let place := match d.location with
    | some l => l.display ++ ": "
    | none => ""
  place ++ d.code.display ++ " [" ++ d.category.name ++ "] " ++ d.message

end Diagnostic

namespace Source

/-- The location of the first byte from a place on that is no blank, or of the end. Messages point
there, and not at the blanks before what they are about. -/
def locateNext (src : Source) (p : Position) : Location :=
  src.locate (src.offsetOf (p.dropWhile Byte.isBlank))

/-- **A diagnostic made to be about a place of this source.** One that is about a place already
stays as it is. -/
def annotate (src : Source) (p : Position) (d : Diagnostic) : Diagnostic :=
  if d.isUnlocated then
    let location := src.locateNext p
    d.about location ((src.lineText location.line).getD "")
  else d

end Source

end GridScript
