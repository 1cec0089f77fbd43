import GridScript.Abort
import GridScript.Token.Scan

/-!
# How a script fails

* `GrammarError` is what can be wrong with the tokens of a script.
* `Failure` is everything that makes a run fail: a misread script, an agent that refuses, output
  that cannot be written. Its place is kept apart from its cause.
* `Failure.diagnostic` is the message, about a place of the script.
* `Halt` is how a run ends early.
-/

namespace GridScript

/-- **What can be wrong with the tokens of a script.** -/
inductive GrammarError where
  /-- Another token has to stand here. -/
  | unexpected (expected : String) (found : Token)
  /-- The body of a procedure has to begin here. -/
  | bodyExpected (procedure : String) (found : Option Token)
  /-- A script has to have a `main`. -/
  | mainExpected
  /-- A name has to stand here. -/
  | notName (found : Token)
  /-- A number has to stand here. -/
  | notInteger (found : Token)
  /-- The number is past 2 ^ 32 - 1. -/
  | integerTooLarge (digits : String)
  /-- A quoted text has to stand here. -/
  | notString (found : Token)
  /-- The name of a grid, quoted or not, has to stand here. -/
  | notGridName (found : Token)
  /-- An instruction has to begin here. -/
  | notInstruction (found : Token)
  /-- A condition has to stand here. -/
  | notCondition (found : Token)
  /-- One more move or a semicolon has to stand here. -/
  | notMove (found : Token)
  /-- Only a grid or gems can be set up. -/
  | notInitTarget (found : Token)
  /-- No procedure has this name. -/
  | undeclared (procedure : String)
  /-- So many calls are active already that no other may begin. -/
  | tooManyCalls (procedure : String) (limit : Nat)
  deriving DecidableEq, Repr

namespace GrammarError

/-- The number of the message. -/
def code : GrammarError → Code
  | unexpected .. | bodyExpected .. => ⟨200⟩
  | mainExpected => ⟨102⟩
  | notName _ => ⟨201⟩
  | notInteger _ | integerTooLarge _ => ⟨202⟩
  | notString _ | notGridName _ => ⟨203⟩
  | notInstruction _ => ⟨204⟩
  | notCondition _ => ⟨205⟩
  | notMove _ => ⟨206⟩
  | notInitTarget _ => ⟨207⟩
  | undeclared _ => ⟨208⟩
  | tooManyCalls .. => ⟨209⟩

/-- The message. -/
def message : GrammarError → String
  | unexpected expected found => "expected '" ++ expected ++ "' but found '" ++ found.display ++ "'"
  | bodyExpected procedure found =>
    "expected '\x7b' to open procedure '" ++ procedure ++ "' but found '" ++
      Token.displayNext found ++ "'"
  | mainExpected => "reached end of input before 'main'"
  | notName found =>
    "invalid name '" ++ found.display ++ "': names may only contain letters and underscores"
  | notInteger found => "expected an integer but found '" ++ found.display ++ "'"
  | integerTooLarge digits => "integer '" ++ digits ++ "' is out of range"
  | notString found =>
    "expected a string but found '" ++ found.display ++ "'; strings must be quoted"
  | notGridName found => "expected a grid name but found '" ++ found.display ++ "'"
  | notInstruction found => "'" ++ found.display ++ "' is not a recognized instruction"
  | notCondition found => "'" ++ found.display ++ "' is not a recognized test condition"
  | notMove found => "expected a command or ';' but found '" ++ found.display ++ "'"
  | notInitTarget found =>
    "'" ++ found.display ++ "' is not a valid argument for init; expected 'grid' or 'gems'"
  | undeclared procedure => "procedure '" ++ procedure ++ "' is not declared"
  | tooManyCalls procedure limit =>
    "call to '" ++ procedure ++ "' exceeds the maximum call depth of " ++ Nat.repr limit

end GrammarError

/-- **What makes a run fail**, with the place that its message is about. -/
inductive Failure where
  /-- The script is misspelled. -/
  | spelling (e : SpellingError) (place : Position)
  /-- The tokens form no script. -/
  | grammar (e : GrammarError) (place : Position)
  /-- The agent refuses a request made by the instruction at this place. -/
  | refused (reason : Diagnostic) (place : Position)
  /-- A printed line cannot be written. -/
  | unwritten (reason : String)
  deriving DecidableEq, Repr

namespace Failure

/-- **The message of a failure** in a script. It is about the place of the failure; a refusal that
is about a place already keeps it, and output that cannot be written is about no place. -/
def diagnostic (src : Source) : Failure → Diagnostic
  | spelling e place => src.annotate place (.ofMessage e.code e.message)
  | grammar e place => src.annotate place (.ofMessage e.code e.message)
  | refused reason place => src.annotate place reason
  | unwritten reason => .ofMessage ⟨402⟩ ("could not write print output: " ++ reason)

end Failure

/-- **How a run ends early**: it fails, something it uses breaks off, or it is given up because a
loop has made as many passes as it may. -/
inductive Halt (ε : Type) where
  | failed (e : ε)
  | aborted (a : Abort)
  | unfinished
  deriving DecidableEq, Repr

namespace Halt

/-- The same end, with its failure seen as another. -/
def map {ε ε' : Type} (f : ε → ε') : Halt ε → Halt ε'
  | failed e => failed (f e)
  | aborted a => aborted a
  | unfinished => unfinished

/-- Trouble of something that a run uses, as an end of the run. -/
def ofTrouble {ε : Type} : Trouble ε → Halt ε
  | .failed e => failed e
  | .aborted a => aborted a

end Halt

end GridScript
