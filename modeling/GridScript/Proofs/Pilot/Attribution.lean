import GridScript.Link.Rehearsal
import GridScript.Proofs.Pilot.Transcript

/-!
# Which request a line answers

Nothing on a link tells which request a line is about: lines have no numbers, and one that was
waited for in vain may come later, when something else has been asked. What protects a pilot is that
every line has room for one request only. A command is answered by its own line behind `ACK`, and a
question by words that no other question is answered with.

* `Request.Accepts` — the lines that a pilot takes for the success of a request.
* `Request.Accepts.words` — how the words of such a line begin.
* `Request.Accepts.unique` — no line is accepted for two requests.
* `Pilot.make`, `Pilot.make_of_hearing` — what a pilot does with the line that it has heard.
* `Pilot.hears_for_one_request` — both together.
-/

namespace GridScript

open Blank

/-! ### The words of an answer -/

/-- The characters behind those at the start are the rest. -/
theorem eq_append_of_afterHead? {head line rest : List Char}
    (h : afterHead? head line = some rest) : line = head ++ rest := by
  -- the induction is on the head, since it is the head that is matched letter by letter
  induction head generalizing line with
  | nil =>
    rw [afterHead?] at h
    exact Option.some.inj h
  | cons c head ih =>
    cases line with
    | nil => cases h
    | cons d line =>
      rw [afterHead?] at h
      split at h
      · next hc => rw [hc, ih h, List.cons_append]
      · cases h

/-- **The words of an answer** are those of its head and its fields. -/
theorem words_of_fieldsAfter? {head line : String} {ws fields : List String}
    (hws : ∀ w ∈ ws, IsWord w) (hhead : head.toList = glue ws)
    (h : fieldsAfter? head line = some fields) : words line = ws ++ fields := by
  rw [fieldsAfter?] at h
  split at h
  · cases h
  · next hafter =>
    -- the line is its head
    cases h
    have hline := eq_append_of_afterHead? hafter
    rw [words, hline, List.append_nil, hhead, wordsOfChars_glue hws, List.map_map]
    simp
  · next c rest hafter =>
    -- a field begins behind one blank, which separates it from the last word of the head
    split at h
    · next hc =>
      cases h
      have hline := eq_append_of_afterHead? hafter
      rw [words, hline, hhead, hc, wordsOfChars_glue_append hws, wordsOfChars_space,
        List.map_append, List.map_map]
      simp
    · cases h

namespace Request

/-- **A line that a pilot takes for the success of a request.** A command is answered by its own
acknowledgement, and a question by the words for it and fields that can be read. -/
def Accepts (response : String) : Request → Prop
  | askLocation => (Query.location.answer? response).isSome = true
  | askFacing => (Query.facing.answer? response).isSome = true
  | askGems => (Query.gemCount.answer? response).isSome = true
  | askCell c => ((Query.cell c).answer? response).isSome = true
  | askSize => (Query.gridSize.answer? response).isSome = true
  | r => response = r.acknowledgement

instance (response : String) (r : Request) : Decidable (r.Accepts response) :=
  match r with
  | askLocation | askFacing | askGems | askCell _ | askSize =>
    inferInstanceAs (Decidable (_ = true))
  | goTo _ | face _ | holdGems _ | putCell _ _ | loadGrid _ | showMessages _ | stop =>
    inferInstanceAs (Decidable (response = _))

/-- **The words that an accepted line begins with.** -/
def herald : Request → List String
  | askLocation => ["ROBISAT"]
  | askFacing => ["ROBISFACING"]
  | askGems => ["ROBHAS"]
  | askCell c => ["GRID", Numeral.ofInt c.x.toInt, Numeral.ofInt c.y.toInt]
  | askSize => ["GRIDSIZE"]
  | _ => ["ACK"]

theorem isWord_of_mem_herald (r : Request) : ∀ w ∈ r.herald, IsWord w := by
  have hfixed : ∀ w ∈ ["ROBISAT", "ROBISFACING", "ROBHAS", "GRID", "GRIDSIZE", "ACK"],
      IsWord w := by
    decide
  cases r <;> simp [herald, hfixed, Numeral.isWord_ofInt]

/-- The words of an answer to a question. -/
private theorem words_of_answer? {α : Type} {q : Query α} {response : String}
    (hhead : q.head.toList = glue q.request.herald) (h : (q.answer? response).isSome = true) :
    ∃ fields, words response = q.request.herald ++ fields := by
  obtain ⟨a, ha⟩ := Option.isSome_iff_exists.1 h
  obtain ⟨fields, hfields, -⟩ := Option.bind_eq_some_iff.1 ha
  exact ⟨fields, words_of_fieldsAfter? q.request.isWord_of_mem_herald hhead hfields⟩

/-- **An accepted line begins with the words for its request.** -/
theorem Accepts.words {r : Request} {response : String} (h : r.Accepts response) :
    ∃ fields, Blank.words response = r.herald ++ fields := by
  -- all acknowledgements begin with one word, whatever is acknowledged
  have hack (s : Request) : ∃ fields, Blank.words s.acknowledgement = ["ACK"] ++ fields := by
    have hline : s.acknowledgement.toList = glue ["ACK"] ++ ' ' :: s.line.toList := by
      simp [acknowledgement, glue]
    refine ⟨(wordsOfChars s.line.toList).map String.ofList, ?_⟩
    rw [Blank.words, hline, wordsOfChars_glue_append (by decide), List.map_append, List.map_map]
    simp
  -- each question is answered under a head of its own; all else is a command
  cases r with
  | askLocation => exact words_of_answer? (q := .location) (by decide) h
  | askFacing => exact words_of_answer? (q := .facing) (by decide) h
  | askGems => exact words_of_answer? (q := .gemCount) (by decide) h
  | askCell c =>
    have hhead : (Query.cell c).head.toList = glue (askCell c).herald := by
      simp [Query.cell, herald, glue, Coord.text]
    exact words_of_answer? hhead h
  | askSize => exact words_of_answer? (q := .gridSize) (by decide) h
  | _ =>
    obtain rfl : response = _ := h
    exact hack _

theorem accepts_iff_of_isCommand {r : Request} (h : r.isCommand = true) (response : String) :
    r.Accepts response ↔ response = r.acknowledgement := by
  cases r with
  | askLocation | askFacing | askGems | askCell | askSize => cases h
  | _ => exact Iff.rfl

/-- **No line is accepted for two requests.** -/
theorem Accepts.unique {r s : Request} {response : String} (hr : r.Accepts response)
    (hs : s.Accepts response) : r = s := by
  -- both sets of fields follow the first words of the same line
  obtain ⟨fields, hwords⟩ := hr.words
  obtain ⟨fields', hwords'⟩ := hs.words
  rw [hwords] at hwords'
  by_cases hcommands : r.isCommand = true ∧ s.isCommand = true
  · -- two acknowledgements are the same line only for the same request
    have hack := (accepts_iff_of_isCommand hcommands.1 response).1 hr
    rw [(accepts_iff_of_isCommand hcommands.2 response).1 hs] at hack
    refine line_injective ?_
    simpa [acknowledgement, ← String.toList_inj] using hack.symm
  · -- otherwise the first word tells the requests apart, except for two cells
    -- the two cells are read off the answer, and tell the questions apart
    cases r with
    | askCell c =>
      cases s with
      | askCell c' =>
        simp only [herald, List.cons_append, List.nil_append, List.cons.injEq, true_and] at hwords'
        obtain ⟨hx, hy, -⟩ := hwords'
        exact parts_injective (by simp [parts, hx, hy])
      | _ => simp [herald] at hwords'
    | askLocation | askFacing | askGems | askSize => cases s <;> simp [herald] at hwords' ⊢
    | _ => cases s <;> simp [herald, isCommand, expected] at hwords' hcommands

end Request

/-! ### What a pilot does with a line -/

namespace Pilot

variable {χ : Type} (ch : Link χ) (manner : Manner)

/-- **What a pilot hears of a request**, before anything is made of it: a line, or none in time. -/
def hearing (r : Request) : Action χ (Option String) := do
  overLink (ch.send r.line)
  overLink (ch.receive manner.patience)

/-- **How a pilot makes a request**: as one of its questions, or as a command. -/
def make (r : Request) : Action χ Unit :=
  match r with
  | .askLocation => discard <| ask ch manner .location
  | .askFacing => discard <| ask ch manner .facing
  | .askGems => discard <| ask ch manner .gemCount
  | .askCell c => discard <| ask ch manner (.cell c)
  | .askSize => discard <| ask ch manner .gridSize
  | r => order ch manner r

variable {ch manner} {p p' : Pilot χ} {r : Request} {response : String}

/-- What an exchange makes of the line that has been heard: an error of a rejection, and of any
other line the response. -/
theorem exchange_of_hearing (h : hearing ch manner r p = .ok (some response) p') :
    exchange ch manner r p =
      (if response = Rejection.failLine then fail (.rejected r.line)
        else if response = Rejection.errorLine then fail (.unknownRequest r.line)
        else return response : Action χ String) p' := by
  rw [hearing] at h
  obtain ⟨u, p₁, hsend, hreceive⟩ := bind_eq_ok_iff.1 h
  rw [exchange, bind_of_ok hsend, bind_of_ok hreceive]

/-- Where the exchange ends early, so does the request. -/
theorem make_of_exchange_error {e : Trouble LinkError}
    (h : exchange ch manner r p = .error e p') : make ch manner r p = .error e p' := by
  -- a question that fails in the exchange fails as a whole
  have hask {α : Type} (q : Query α) (hq : q.request = r) :
      (discard <| ask ch manner q : Action χ Unit) p = .error e p' := by
    subst hq
    rw [discard_apply, ask, bind_of_error h]
  cases r with
  | askLocation => exact hask .location rfl
  | askFacing => exact hask .facing rfl
  | askGems => exact hask .gemCount rfl
  | askCell c => exact hask (.cell c) rfl
  | askSize => exact hask .gridSize rfl
  | _ => exact bind_of_error h _

/-- A question that has got a response succeeds exactly if that is an answer. -/
theorem discard_ask_of_exchange {α : Type} (q : Query α)
    (h : exchange ch manner q.request p = .ok response p') :
    ((q.answer? response).isSome = true →
      (discard <| ask ch manner q : Action χ Unit) p = .ok () p') ∧
    (¬ (q.answer? response).isSome = true →
      ∃ e, (discard <| ask ch manner q : Action χ Unit) p = .error (.failed e) p') := by
  rw [discard_apply, ask_of_exchange ch manner h, Query.decode, Query.answer?]
  -- there is an answer only where the head fits and the fields can be read
  cases fieldsAfter? q.head response with
  | none => exact ⟨fun hanswer => absurd hanswer (by simp), fun _ => ⟨_, rfl⟩⟩
  | some fields =>
    simp only [Option.bind_some]
    cases q.read fields with
    | none => exact ⟨fun hanswer => absurd hanswer (by simp), fun _ => ⟨_, rfl⟩⟩
    | some a => exact ⟨fun _ => rfl, fun hanswer => absurd rfl hanswer⟩

/-- A command that has got a response succeeds exactly if that is its acknowledgement. -/
theorem order_of_exchange (h : exchange ch manner r p = .ok response p') :
    (response = r.acknowledgement → order ch manner r p = .ok () p') ∧
      (response ≠ r.acknowledgement → ∃ e, order ch manner r p = .error (.failed e) p') := by
  rw [order, bind_of_ok h]
  by_cases hack : response = r.acknowledgement
  · rw [if_pos hack]
    exact ⟨fun _ => rfl, fun hne => absurd hack hne⟩
  · rw [if_neg hack]
    exact ⟨fun heq => absurd heq hack, fun _ => ⟨_, rfl⟩⟩

/-- **A request that has got a response** succeeds exactly if the response is accepted for it. -/
theorem make_of_exchange (h : exchange ch manner r p = .ok response p') :
    (r.Accepts response → make ch manner r p = .ok () p') ∧
      (¬ r.Accepts response → ∃ e, make ch manner r p = .error (.failed e) p') := by
  cases r with
  | askLocation => exact discard_ask_of_exchange .location h
  | askFacing => exact discard_ask_of_exchange .facing h
  | askGems => exact discard_ask_of_exchange .gemCount h
  | askCell c => exact discard_ask_of_exchange (.cell c) h
  | askSize => exact discard_ask_of_exchange .gridSize h
  | _ => exact order_of_exchange h

/-- **A rejection is accepted for no request.** -/
theorem not_accepts_rejection (reason : Rejection) (r : Request) : ¬ r.Accepts reason.line := by
  -- the two rejections answer no question, and acknowledge no command
  have hask {α : Type} (q : Query α) : ¬ (q.answer? reason.line).isSome = true := by
    simp [q.answer?_rejection reason]
  cases r with
  | askLocation => exact hask .location
  | askFacing => exact hask .facing
  | askGems => exact hask .gemCount
  | askCell c => exact hask (.cell c)
  | askSize => exact hask .gridSize
  | _ => exact reason.line_ne_acknowledgement _

/-- **A pilot that has heard a line** has made its request exactly if the line is accepted for it.
-/
theorem make_of_hearing (h : hearing ch manner r p = .ok (some response) p') :
    (r.Accepts response → make ch manner r p = .ok () p') ∧
      (¬ r.Accepts response → ∃ e, make ch manner r p = .error (.failed e) p') := by
  have hexchange := exchange_of_hearing h
  -- the exchange takes the rejections out before the request sees its response
  by_cases hfail : response = Rejection.failLine
  · rw [if_pos hfail] at hexchange
    subst hfail
    refine ⟨fun haccepts => ?_, fun _ => ⟨_, make_of_exchange_error hexchange⟩⟩
    exact absurd haccepts (not_accepts_rejection .badParameters r)
  · rw [if_neg hfail] at hexchange
    by_cases herror : response = Rejection.errorLine
    · rw [if_pos herror] at hexchange
      subst herror
      refine ⟨fun haccepts => ?_, fun _ => ⟨_, make_of_exchange_error hexchange⟩⟩
      exact absurd haccepts (not_accepts_rejection .unknownCommand r)
    · rw [if_neg herror] at hexchange
      exact make_of_exchange hexchange

/-- **No answers are crossed.** Whatever line a pilot hears, over whatever link and for whatever
request, its request has succeeded exactly if the line is accepted for it; and a line is accepted
for one request at most. So a line that comes late, for a request that has been given up, is never
the success of another one. -/
theorem hears_for_one_request (response : String) :
    (∀ {χ : Type} (ch : Link χ) (manner : Manner) (r : Request) (p p' : Pilot χ),
      hearing ch manner r p = .ok (some response) p' →
        (r.Accepts response → make ch manner r p = .ok () p') ∧
          (¬ r.Accepts response → ∃ e, make ch manner r p = .error (.failed e) p')) ∧
    ∀ r s : Request, r ≠ s → ¬ (r.Accepts response ∧ s.Accepts response) := by
  refine ⟨fun ch manner r p p' h => make_of_hearing h, fun r s hne haccepts => ?_⟩
  exact hne (haccepts.1.unique haccepts.2)

/-- A pilot whose question about a cell is met by the answer about another one, which comes late. -/
def lateAnswer : Pilot Rehearsal :=
  ofLink (.ofLines [("GETGRID 1 2", some "GRID 1 22 X")])

/-- The end of the words for a question is where a word ends. -/
theorem make_lateAnswer : ∃ p' e,
    hearing Rehearsal.link ⟨1000, 4⟩ (.askCell ⟨1, 2⟩) lateAnswer =
        .ok (some "GRID 1 22 X") p' ∧
      make Rehearsal.link ⟨1000, 4⟩ (.askCell ⟨1, 2⟩) lateAnswer = .error (.failed e) p' ∧
      (Request.askCell ⟨1, 22⟩).Accepts "GRID 1 22 X" := by
  -- the answer to another cell is accepted by one request, and so by no other
  have hother : (Request.askCell ⟨1, 22⟩).Accepts "GRID 1 22 X" := by decide
  have hlate : ¬ (Request.askCell ⟨1, 2⟩).Accepts "GRID 1 22 X" := fun h =>
    (hears_for_one_request "GRID 1 22 X").2 _ _ (by decide) ⟨h, hother⟩
  obtain ⟨e, hmake⟩ := ((hears_for_one_request "GRID 1 22 X").1 Rehearsal.link ⟨1000, 4⟩
    (.askCell ⟨1, 2⟩) lateAnswer _ rfl).2 hlate
  exact ⟨_, e, rfl, hmake, hother⟩

end Pilot

end GridScript
