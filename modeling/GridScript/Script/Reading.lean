import GridScript.Agent
import GridScript.Script.Failure
import GridScript.Text.Numeral
import GridScript.Token.Lexemes

/-!
# Reading a script

A reading takes tokens off the front of a sequence. Where it fails it leaves the sequence at the
token that it could not use, or behind it if it had taken it already.

* `Reading.take` takes the next token, `Reading.peek` only looks at it.
* `Reading.name`, `Reading.integer`, `Reading.text`, `Reading.test` take one thing of their kind.
-/

namespace GridScript

/-- **A reading**: what it gives, and what is left to be read. -/
abbrev Reading := EStateM (Halt Failure) Lexemes

namespace Reading

/-- The place where reading stands, before any gap. -/
def place : Reading Position := fun ls => .ok ls.place ls

/-- The reading of something that the grammar does not allow at a place. -/
def fail {α : Type} (e : GrammarError) (place : Position) : Reading α :=
  throw (.failed (.grammar e place))

/-- **The next token, which stays there.** There may be none; a misspelling fails. -/
def peek : Reading (Option Token)
  | ls@(.finish _) => .ok none ls
  | ls@(.token _ t _) => .ok (some t) ls
  | ls@(.misspelt _ e _) => .error (.failed (.spelling e.error e.shown)) ls

/-- **The next token, which is taken.** There has to be one: a whole script ends on a closing brace,
so if there is none, a block has not been closed. -/
def take : Reading Token
  | .finish _ => .error (.failed (.spelling .endsEarly [])) (.finish [])
  | .token _ t rest => .ok t rest
  | .misspelt _ e rest => .error (.failed (.spelling e.error e.shown)) rest

/-- Takes the next token, which has to be spelled like this. -/
def expect (spelling : String) : Reading Unit := do
  let place ← place
  let token ← take
  unless token.isSpelled spelling do
    fail (.unexpected spelling token) place

/-- `true` if the next token is spelled like this. -/
def nextIs (spelling : String) : Reading Bool := do
  return (← peek).any (·.isSpelled spelling)

/-- **`true` for names**: one or more ASCII letters and underscores. -/
def isName (word : String) : Bool :=
  let cs := word.toList
  !cs.isEmpty && cs.all fun c => c.isAlpha || c == '_'

/-- Takes a name. -/
def name : Reading String := do
  let place ← place
  match ← take with
  | .word w => if isName w then return w else fail (.notName (.word w)) place
  | other => fail (.notName other) place

/-- **Takes a number**: one or more ASCII digits, up to 2 ^ 32 - 1. -/
def integer : Reading UInt32 := do
  let place ← place
  let token ← take
  -- the digits themselves are kept, for a message shows them as they are written
  match token.word?.bind fun w => (Numeral.digits? w.toList).map (w, ·) with
  | none => fail (.notInteger token) place
  | some (digits, n) =>
    if n < UInt32.size then return n.toUInt32 else fail (.integerTooLarge digits) place

/-- Takes a quoted text. -/
def text : Reading String := do
  let place ← place
  match ← take with
  | .quoted s => return s
  | other => fail (.notString other) place

/-- Takes the name of a grid, which may be quoted or a word. -/
def gridName : Reading String := do
  let place ← place
  match ← take with
  | .quoted s | .word s => return s
  | other => fail (.notGridName other) place

/-- **A test**: a condition, which may be negated. -/
structure Test where
  condition : Condition
  negated : Bool
  deriving DecidableEq, Repr

/-- Takes a test. The negation is a `!` that stands alone or the word `not`. -/
def test : Reading Test := do
  let negated := (← peek).any fun t => t.isSpelled "!" || t.isSpelled "not"
  if negated then discard take
  -- an error is about what is negated, so its place is behind the negation
  let place ← place
  let token ← take
  match token.word?.bind Condition.ofWord? with
  | some condition => return ⟨condition, negated⟩
  | none => fail (.notCondition token) place

end Reading

end GridScript
