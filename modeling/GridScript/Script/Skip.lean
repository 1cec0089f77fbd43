import GridScript.Script.Reading

/-!
# Skipping code

Code that does not run is looked at only as far as is needed to find its end. A block ends at the
brace that closes its first one, a flat instruction at its semicolon, and an instruction with a body
where its body ends.

* `Reading.pastBlock` and `Reading.pastBody` skip what `Script/Execution` would execute.
-/

namespace GridScript

namespace Reading

/-- **Behind the brace that closes the current block**, in which `inner` more blocks are open. -/
def pastClosingBrace : Nat → Reading Unit
  | _, .finish _ => .error (.failed (.spelling .endsEarly [])) (.finish [])
  | _, .misspelt _ e rest => .error (.failed (.spelling e.error e.shown)) rest
  | inner, .token _ t rest =>
    -- a brace inside quotes is a text and counts for nothing
    if t.isSpelled "\x7b" then pastClosingBrace (inner + 1) rest
    else if t.isSpelled "\x7d" then
      match inner with
      | 0 => .ok () rest
      | inner + 1 => pastClosingBrace inner rest
    else pastClosingBrace inner rest

/-- Behind the next semicolon. A brace may not come before it. -/
def pastSemicolon : Reading Unit
  | .finish _ => .error (.failed (.spelling .endsEarly [])) (.finish [])
  | .misspelt _ e rest => .error (.failed (.spelling e.error e.shown)) rest
  | .token place t rest =>
    if t.isSpelled ";" then .ok () rest
    else if t.isSpelled "\x7b" || t.isSpelled "\x7d" then
      .error (.failed (.grammar (.unexpected ";" t) place)) rest
    else pastSemicolon rest

/-- **Behind a block.** -/
def pastBlock : Reading Unit := do
  expect "\x7b"
  pastClosingBrace 0

/-- Behind a body, by what skips an instruction: a body is a block or one instruction. -/
def pastBodyWith (pastInstruction : Reading Unit) : Reading Unit := do
  if ← nextIs "\x7b" then pastBlock else pastInstruction

/-- **Behind an instruction**, in which at most `nesting` instructions are inside one another. -/
def pastInstruction : (nesting : Nat) → Reading Unit
  | 0 => throw .unfinished
  | nesting + 1 => do
    let head := (← peek).bind Token.word?
    match head with
    | some "if" =>
      discard take
      discard test
      pastBodyWith (pastInstruction nesting)
      if ← nextIs "else" then
        discard take
        pastBodyWith (pastInstruction nesting)
    | some "while" =>
      discard take
      discard test
      pastBodyWith (pastInstruction nesting)
    | some "do" =>
      discard take
      discard integer
      pastBodyWith (pastInstruction nesting)
    -- a word that begins no instruction is passed over like one that begins a flat one
    | _ => pastSemicolon

/-- **Behind a body.** No more instructions can be inside one another than there are tokens left. -/
def pastBody : Reading Unit := fun ls =>
  pastBodyWith (pastInstruction (ls.size + 1)) ls

end Reading

end GridScript
