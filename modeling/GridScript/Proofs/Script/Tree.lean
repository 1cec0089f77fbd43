import GridScript.Script.Reading
import GridScript.Token.Lexemes

/-!
# Scripts as trees

The documented grammar of the script language, as a type of trees: what an interpreter that built
a tree would build. Nothing that runs uses them. A tree knows how its tests, numbers and grid names
are spelled, so it is written in one way, as a sequence of tokens.

* `Tree.Instruction`, `Tree.Body`, `Tree.Sequence` — instructions inside one another.
* `Tree.Script` — procedures and a main block, in which every `else` belongs to the nearest `if`.
* `Tree.Script.tokens` — how a script is written.
* `Source.Renders` — a source that is read as those tokens, whatever gaps stand between them.
-/

namespace GridScript

namespace Condition

/-- The word of the script language for a condition. -/
def keyword : Condition → String
  | clear .left => "leftclear"
  | clear .right => "rightclear"
  | clear .front => "frontclear"
  | clear .back => "backclear"
  | seesGem => "seejem"
  | hasGem => "hasjem"
  | facing .up => "facingN"
  | facing .right => "facingE"
  | facing .down => "facingS"
  | facing .left => "facingW"

@[simp] theorem ofWord?_keyword (c : Condition) : ofWord? c.keyword = some c := by
  cases c with
  | clear side => cases side <;> rfl
  | facing d => cases d <;> rfl
  | seesGem => rfl
  | hasGem => rfl

end Condition

namespace Tree

/-! ### What is spelled in more than one way -/

/-- **How a test is negated.** -/
inductive Negation where
  | bang
  | word

/-- **A test**: a condition, possibly negated. -/
structure Test where
  negation : Option Negation
  condition : Condition

/-- **A number** up to 2 ^ 32 - 1, with the digits that it is written in. -/
structure Count where
  digits : String
  value : UInt32
  reads : Numeral.digits? digits.toList = some value.toNat

/-- **A name**: one or more letters and underscores. -/
structure Name where
  text : String
  isName : Reading.isName text = true

/-- **The name of a grid**, in quotes or not. -/
inductive GridName where
  | quoted (text : String)
  | word (text : String)

/-! ### Instructions -/

mutual

/-- **An instruction.** An `if` without an `else` is `when`, one with it is `choose`. -/
inductive Instruction where
  | moves (first : Move) (others : List Move)
  | when (test : Test) (yes : Body)
  | choose (test : Test) (yes no : Body)
  | loop (test : Test) (body : Body)
  | times (count : Count) (body : Body)
  | call (name : Name)
  | loadGrid (name : GridName)
  | setGems (count : Count)
  | print (text : String)

/-- **A body**: a block or one instruction. -/
inductive Body where
  | block (inside : Sequence)
  | single (instruction : Instruction)

/-- **Instructions in order**, as they stand in a block. -/
inductive Sequence where
  | nil
  | cons (first : Instruction) (others : Sequence)

end

/-! ### How trees are written -/

/-- The words and marks of a test. -/
def Test.tokens (t : Test) : List Token :=
  match t.negation with
  | none => [.word t.condition.keyword]
  | some .bang => [.mark .bang, .word t.condition.keyword]
  | some .word => [.word "not", .word t.condition.keyword]

/-- The token of a grid name. -/
def GridName.token : GridName → Token
  | quoted s => .quoted s
  | word s => .word s

/-- The grid that is meant, by whichever spelling. -/
def GridName.text : GridName → String
  | quoted s => s
  | word s => s

mutual

/-- **An instruction, written.** -/
def Instruction.tokens : Instruction → List Token
  | .moves first others =>
    .word first.keyword :: (others.map (.word ·.keyword) ++ [.mark .semicolon])
  | .when test yes => .word "if" :: (test.tokens ++ yes.tokens)
  | .choose test yes no => .word "if" :: (test.tokens ++ (yes.tokens ++ .word "else" :: no.tokens))
  | .loop test body => .word "while" :: (test.tokens ++ body.tokens)
  | .times count body => .word "do" :: .word count.digits :: body.tokens
  | .call name => [.word "call", .word name.text, .mark .semicolon]
  | .loadGrid name => [.word "init", .word "grid", name.token, .mark .semicolon]
  | .setGems count => [.word "init", .word "gems", .word count.digits, .mark .semicolon]
  | .print text => [.word "print", .quoted text, .mark .semicolon]

/-- **A body, written.** -/
def Body.tokens : Body → List Token
  | .block inside => .mark .openBrace :: (inside.tokens ++ [.mark .closeBrace])
  | .single i => i.tokens

/-- **Instructions, written** one after the other. -/
def Sequence.tokens : Sequence → List Token
  | .nil => []
  | .cons first others => first.tokens ++ others.tokens

end

/-! ### The nearest `if` -/

mutual

/-- `true` if an `else` behind the instruction would belong to an `if` at its end. -/
def Instruction.isOpen : Instruction → Bool
  | .when _ _ => true
  -- this one has its `else`, but what stands last in it can be an `if` too
  | .choose _ _ no => no.isOpen
  | .loop _ body => body.isOpen
  | .times _ body => body.isOpen
  | _ => false

/-- `true` if an `else` behind the body would belong to an `if` at its end. -/
def Body.isOpen : Body → Bool
  | .block _ => false
  | .single i => i.isOpen

end

mutual

/-- **Every `else` belongs to the nearest `if`**: no body in front of an `else` is open. -/
def Instruction.Nearest : Instruction → Prop
  | .when _ yes => yes.Nearest
  | .choose _ yes no => yes.isOpen = false ∧ yes.Nearest ∧ no.Nearest
  | .loop _ body => body.Nearest
  | .times _ body => body.Nearest
  | _ => True

/-- Every `else` in a body belongs to the nearest `if`. -/
def Body.Nearest : Body → Prop
  | .block inside => inside.Nearest
  | .single i => i.Nearest

/-- Every `else` in a sequence belongs to the nearest `if`. -/
def Sequence.Nearest : Sequence → Prop
  | .nil => True
  | .cons first others => first.Nearest ∧ others.Nearest

end

/-! ### Scripts -/

/-- **A procedure declaration.** -/
structure Procedure where
  name : Name
  body : Sequence
  nearest : body.Nearest

/-- **A script**: procedures, and the block that is run. -/
structure Script where
  procedures : List Procedure
  main : Sequence
  nearest : main.Nearest

/-- A procedure declaration, written. -/
def Procedure.tokens (p : Procedure) : List Token :=
  .word "proc" :: .word p.name.text :: (Body.block p.body).tokens

/-- **A script, written.** -/
def Script.tokens (s : Script) : List Token :=
  s.procedures.flatMap Procedure.tokens ++ .word "main" :: (Body.block s.main).tokens

/-- **The last declaration of a name**, if there is one. -/
def lastDeclared? (ps : List Procedure) (name : String) : Option Procedure :=
  ps.reverse.find? (·.name.text == name)

/-- One more declaration is the last one of its own name and of no other. -/
theorem lastDeclared?_concat (ps : List Procedure) (p : Procedure) (name : String) :
    lastDeclared? (ps ++ [p]) name =
      if name = p.name.text then some p else lastDeclared? ps name := by
  rw [lastDeclared?, List.reverse_concat, List.find?_cons]
  by_cases h : name = p.name.text
  · rw [if_pos h, h, beq_self_eq_true]
  · rw [if_neg h, beq_false_of_ne (Ne.symm h)]
    rfl

end Tree

/-- **A source that is a rendering of a script**: it is read as the tokens of the script to its end,
without a misspelling. Blanks and comments between them do not count. -/
def Source.Renders (src : Source) (s : Tree.Script) : Prop :=
  src.lexemes.listing.1.map Prod.fst = s.tokens ∧ src.lexemes.listing.2 = none

end GridScript
