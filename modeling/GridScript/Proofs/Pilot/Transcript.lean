import GridScript.Link.Simulator
import GridScript.Proofs.Pilot.Operations

/-!
# What a conversation establishes

A transcript lists what has been sent and what came back, as lines of text. What is to be believed
after it follows from the transcript alone: no pilot is needed to tell it.

* `Exchange`, `Belief.learn`, `Belief.ofPast` — what one exchange and what a whole transcript
  establishes.
* `Exchange.Needed` — a fact is asked for only as long as it is not known.
* `Watched`, `Link.watched` — a link that keeps a transcript and is otherwise the link that it
  watches.
-/

namespace GridScript

/-- **One exchange**: the line that was to be sent, and the line that came back, if one did. -/
structure Exchange where
  request : String
  response : Option String
  deriving DecidableEq, Repr

namespace Belief

/-- **What a command on the same grid makes known.** -/
def onDone (b : Belief) : Request → Belief
  | .goTo c => { b with location := some c }
  | .face d => { b with facing := some d }
  | .holdGems n => { b with gems := some n }
  | _ => b

/-- **After a command has been acknowledged.** A place, a direction and a number of gems are as they
were ordered; another grid makes everything unknown but the gems. -/
def onAcknowledged (b : Belief) (request : String) : Belief :=
  -- a grid may have any name, so this line need not be one that can be read
  if Simulator.begins request (some "LOADGRID ") then
    { b with location := none, facing := none, gridSize := none }
  else
    match Request.ofLine request with
    | .ok r => b.onDone r
    | .error _ => b

/-- **After a question has been answered.** Only the answer to the question counts. -/
def onAnswered (b : Belief) (request response : String) : Belief :=
  if request = "GETLOC" then
    (Query.location.answer? response).elim b fun c => { b with location := some c }
  else if request = "GETDIR" then
    (Query.facing.answer? response).elim b fun d => { b with facing := some d }
  else if request = "GETJEWLCNT" then
    (Query.gemCount.answer? response).elim b fun n => { b with gems := some n }
  else if request = "GETSIZE" then
    (Query.gridSize.answer? response).elim b fun s => { b with gridSize := some s }
  else b

/-- **What an exchange establishes.** Without a response it establishes nothing. -/
def learn (b : Belief) (e : Exchange) : Belief :=
  match e.response with
  | none => b
  | some response =>
    if response = "ACK " ++ e.request then b.onAcknowledged e.request
    else b.onAnswered e.request response

/-- **What a transcript establishes**, the last exchange first. -/
def ofPast (past : List Exchange) : Belief :=
  past.foldr (fun e b => b.learn e) .empty

end Belief

/-- **An exchange that was needed**: a fact is asked for only while it is unknown. -/
structure Exchange.Needed (e : Exchange) (b : Belief) : Prop where
  location : e.request = "GETLOC" → b.location = none
  facing : e.request = "GETDIR" → b.facing = none
  gems : e.request = "GETJEWLCNT" → b.gems = none
  gridSize : e.request = "GETSIZE" → b.gridSize = none

/-! ### Watching a link -/

/-- **A link's state with a transcript**, the last exchange first. -/
structure Watched (χ : Type) where
  link : χ
  past : List Exchange

/-- **The link that keeps a transcript.** Sending opens an exchange, and the line that is received
next is its response. -/
def Link.watched {χ : Type} (ch : Link χ) : Link (Watched χ) where
  send line := fun s =>
    -- also what cannot be sent was tried
    let past := ⟨line, none⟩ :: s.past
    match ch.send line s.link with
    | .ok u link => .ok u ⟨link, past⟩
    | .error e link => .error e ⟨link, past⟩
  receive patience := fun s =>
    match ch.receive patience s.link, s.past with
    -- whatever has kept the line waiting, it is taken for the response to what was sent last
    | .ok (some response) link, e :: earlier =>
      .ok (some response) ⟨link, { e with response := some response } :: earlier⟩
    | .ok o link, past => .ok o ⟨link, past⟩
    | .error e link, past => .error e ⟨link, past⟩
  close := fun s =>
    match ch.close s.link with
    | .ok u link => .ok u { s with link }
    | .error e link => .error e { s with link }

/-! ### Lines of requests -/

namespace Request

/-- The lines of the four questions whose answers are remembered. -/
def factLines : List String := ["GETLOC", "GETDIR", "GETJEWLCNT", "GETSIZE"]

/-- No other request is written like one of the four questions. -/
theorem line_notMem_factLines {r : Request}
    (h : r ∉ [askLocation, askFacing, askGems, askSize]) : r.line ∉ factLines := by
  -- five characters are enough to tell them apart, before any argument begins
  have hfirst : r.line.toList.take 5 ∉ factLines.map (·.toList.take 5) := by
    cases r with
    | askLocation | askFacing | askGems | askSize => simp at h
    | _ => simp [line, factLines]
  intro hmem
  exact hfirst (List.mem_map_of_mem hmem)

/-- A request that does not name a grid is not taken for one that does. -/
theorem begins_line {r : Request} (h : r.Plain) :
    Simulator.begins r.line (some "LOADGRID ") = false := by
  cases r with
  | loadGrid name => cases h
  | _ => simp [Simulator.begins, line, afterHead?]

theorem begins_line_loadGrid (name : String) :
    Simulator.begins (loadGrid name).line (some "LOADGRID ") = true := by
  rw [Simulator.begins, Option.any_some, line, String.toList_append, afterHead?_append]
  rfl

end Request

/-! ### Rejections -/

/-- A rejection acknowledges nothing. -/
theorem Rejection.line_ne_acknowledgement (reason : Rejection) (r : Request) :
    reason.line ≠ r.acknowledgement := by
  have hdone := Response.line_ne_rejection (r := .done r) (by simp)
  cases reason with
  | unknownCommand => exact hdone.2.symm
  | badParameters => exact hdone.1.symm

/-- A rejection answers no question. -/
theorem Query.answer?_rejection {α : Type} (q : Query α) (reason : Rejection) :
    q.answer? reason.line = none := by
  obtain ⟨request, head, read, hhead⟩ := q
  -- no answer begins like a rejection
  have hfirst : ∃ c cs, head.toList = c :: cs ∧ c ≠ 'C' := by
    cases request with
    | askLocation | askFacing | askGems | askCell | askSize =>
      simp only [Request.expected, Expected.fieldsAfter.injEq] at hhead
      rw [← hhead]
      simp
    | _ => simp [Request.expected] at hhead
  obtain ⟨c, cs, hlist, hc⟩ := hfirst
  have hnone : fieldsAfter? head reason.line = none := by
    cases reason <;> simp [fieldsAfter?, Rejection.line, Rejection.failLine, Rejection.errorLine,
      hlist, afterHead?, hc]
  rw [answer?, hnone]
  rfl

/-! ### What the exchanges of a pilot establish -/

namespace Belief

open Request

variable (b : Belief)

/-- **A command establishes something only by its acknowledgement.** -/
theorem learn_command {r : Request} (h : r ∉ [askLocation, askFacing, askGems, askSize])
    (response : Option String) :
    b.learn ⟨r.line, response⟩ =
      if response = some r.acknowledgement then b.onAcknowledged r.line else b := by
  have hline := line_notMem_factLines h
  -- the line is none of the four questions, so that only an acknowledgement can teach anything
  simp only [factLines, List.mem_cons, List.not_mem_nil, or_false, not_or] at hline
  obtain ⟨hlocation, hfacing, hgems, hsize⟩ := hline
  cases response with
  | none => rfl
  -- an answer that is no acknowledgement goes through the questions, and fits none of them
  | some response =>
    have hacknowledgement : r.acknowledgement = "ACK " ++ r.line := rfl
    rw [learn, hacknowledgement]
    dsimp only
    by_cases hack : response = "ACK " ++ r.line
    · rw [if_pos hack, if_pos (congrArg some hack)]
    · rw [if_neg hack, if_neg fun heq => hack (Option.some.inj heq), onAnswered, if_neg hlocation,
        if_neg hfacing, if_neg hgems, if_neg hsize]

/-- A command that is read as it is written establishes what it orders. -/
theorem onAcknowledged_line {r : Request} (h : r.Plain) :
    b.onAcknowledged r.line = b.onDone r := by
  rw [onAcknowledged, begins_line h, if_neg Bool.false_ne_true, ofLine_line h]

/-- Another grid makes everything unknown but the gems. -/
theorem onAcknowledged_loadGrid (name : String) :
    b.onAcknowledged (loadGrid name).line = b.onNewGrid := by
  rw [onAcknowledged, begins_line_loadGrid, if_pos rfl]
  rfl

/-- **A question establishes its answer.** An acknowledgement is no answer to it. -/
theorem learn_question {α : Type} {q : Query α} {set : α → Belief} (hplain : q.request.Plain)
    (hcommand : q.request.isCommand = false)
    (hanswered : ∀ response, b.onAnswered q.request.line response = (q.answer? response).elim b set)
    (hack : q.answer? q.request.acknowledgement = none) (response : Option String) :
    b.learn ⟨q.request.line, response⟩ = (response.bind q.answer?).elim b set := by
  -- without a response nothing is learnt, on either side
  cases response with
  | none => rfl
  | some response =>
    rw [learn, Option.bind_some]
    dsimp only
    by_cases hresponse : response = "ACK " ++ q.request.line
    · -- an acknowledged question is no command, and changes nothing
      have hnone : q.answer? response = none := hresponse ▸ hack
      rw [if_pos hresponse, hnone, onAcknowledged_line b hplain]
      cases hr : q.request with
      | askLocation | askFacing | askGems | askCell | askSize => rfl
      | _ => rw [hr] at hcommand; cases hcommand
    · -- any other response is what the query makes of it
      rw [if_neg hresponse, hanswered]

theorem learn_location (response : Option String) :
    b.learn ⟨askLocation.line, response⟩ =
      (response.bind Query.location.answer?).elim b fun c => { b with location := some c } :=
  learn_question (q := .location) b trivial rfl (fun _ => rfl) (by decide) response

theorem learn_facing (response : Option String) :
    b.learn ⟨askFacing.line, response⟩ =
      (response.bind Query.facing.answer?).elim b fun d => { b with facing := some d } :=
  learn_question (q := .facing) b trivial rfl (fun _ => rfl) (by decide) response

theorem learn_gems (response : Option String) :
    b.learn ⟨askGems.line, response⟩ =
      (response.bind Query.gemCount.answer?).elim b fun n => { b with gems := some n } :=
  learn_question (q := .gemCount) b trivial rfl (fun _ => rfl) (by decide) response

theorem learn_gridSize (response : Option String) :
    b.learn ⟨askSize.line, response⟩ =
      (response.bind Query.gridSize.answer?).elim b fun s => { b with gridSize := some s } :=
  learn_question (q := .gridSize) b trivial rfl (fun _ => rfl) (by decide) response

/-- What a cell holds is never remembered. -/
theorem learn_cell (c : Coord) (response : Option String) :
    b.learn ⟨(askCell c).line, response⟩ = b := by
  have hplain : (askCell c).Plain := trivial
  rw [learn_command b (by simp), onAcknowledged_line b hplain]
  split <;> rfl

end Belief

end GridScript
