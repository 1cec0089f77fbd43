import GridScript.Wire.Request

/-!
# Response lines

The far end answers each request with one line.

* `Response` is what it can say, and `Response.line` how it says it.
* `fieldsAfter?` reads the fields of an answer, and `Query` what they stand for.
-/

namespace GridScript

/-- **An answer to a request.** -/
inductive Response where
  /-- The command has been carried out. -/
  | done (command : Request)
  /-- The request has been rejected, and nothing has changed. -/
  | rejected (reason : Rejection)
  | location (place : Coord)
  | facing (direction : Direction)
  | gemCount (count : UInt32)
  | cell (place : Coord) (cell : Cell)
  | size (size : GridSize)
  deriving DecidableEq, Repr

namespace Response

/-- **The written form.** -/
def line : Response → String
  | .done r => r.acknowledgement
  | .rejected reason => reason.line
  | .location c => "ROBISAT " ++ c.text
  | .facing d => "ROBISFACING " ++ d.name
  | .gemCount n => "ROBHAS " ++ Numeral.ofNat n.toNat
  | .cell c content => "GRID " ++ c.text ++ " " ++ content.text
  | .size s =>
    "GRIDSIZE " ++ Numeral.ofInt s.width.toInt ++ " " ++ Numeral.ofInt s.height.toInt

end Response

/-- The characters behind those at the start, if it starts with them. -/
def afterHead? : (head line : List Char) → Option (List Char)
  | [], rest => some rest
  | _ :: _, [] => none
  | h :: hs, c :: cs => if h = c then afterHead? hs cs else none

/-- **The fields of an answer** that starts with the words of `head`, or `none` if it does not. -/
def fieldsAfter? (head line : String) : Option (List String) :=
  match afterHead? head.toList line.toList with
  | none => none
  | some [] => some []
  | some (c :: rest) =>
    -- without a space the last word of the head is only the beginning of a longer one
    if c = ' ' then some ((Blank.wordsOfChars (c :: rest)).map String.ofList) else none

/-- **A question to the far end**: the words that its answer begins with, and how the fields behind
them are to be read. -/
structure Query (α : Type) where
  request : Request
  head : String
  read : List String → Option α
  expected_request : request.expected = .fieldsAfter head := by rfl

namespace Query

/-- One field. -/
def one {α : Type} (read : String → Option α) : List String → Option α
  | [field] => read field
  | _ => none

/-- Where is the agent? -/
def location : Query Coord :=
  { request := .askLocation, head := "ROBISAT", read := Request.coordOf? }

/-- Which way does it face? -/
def facing : Query Direction :=
  { request := .askFacing, head := "ROBISFACING", read := one Direction.ofName? }

/-- How many gems does it hold? -/
def gemCount : Query UInt32 :=
  { request := .askGems, head := "ROBHAS", read := one Numeral.readUInt32? }

/-- How large is the grid? -/
def gridSize : Query GridSize :=
  { request := .askSize
    head := "GRIDSIZE"
    read := fun fields => (Request.coordOf? fields).map fun c => ⟨c.x, c.y⟩ }

/-- What does a cell hold? -/
def cell (c : Coord) : Query Cell :=
  { request := .askCell c, head := "GRID " ++ c.text, read := one Cell.ofText? }

end Query

end GridScript
