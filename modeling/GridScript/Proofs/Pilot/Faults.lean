import GridScript.Proofs.Pilot.Refinement

/-!
# Faults do not deceive a pilot

A far end that refuses some lines, keeps silent on others or has been closed makes an operation fail
in any of its exchanges. A pilot changes a belief only behind an acknowledgement, so a fault leaves
it with nothing that is false. What a fault can leave behind in the world is less than a whole
operation only where an operation makes two changes: the cell ahead is replaced before the gems of
the agent are set.

* `Pilot.Truthful` — the invariant. The world may be a rectangle of any size, and the link may be
  closed, silent or refuse.
* `Pilot.Ends` — both ends of an action, with the rules for sequences and weaker assertions.
* `Simulator.hear_say_of_respond`, `Pilot.ends_exchange` — one request, whatever goes wrong;
  `Pilot.exchange_of_said` — an exchange, by what comes back of its line.
* `Pilot.Finds` — a question that leaves everything as it was, and `Pilot.Ends.look` for the cell
  next to the agent.
* `Pilot.BreaksOff` — how an operation may fail, and `Pilot.ends_replace` — the two changes of a
  move of gems, the only place where one can be done without the other.
* `Pilot.truthful_whatever_fails` — every operation, and `Pilot.Truthful.inTurn` — operations in
  turn.
-/

namespace GridScript

/-! ### The far end -/

namespace Simulator

variable {s : Simulator} {w' : World} {r : Request} {answer : Response}

/-- Nothing comes back of a line that is not answered. -/
theorem hear_say_of_silent {line : String} (hclosed : s.closed = false) (hunread : s.unread = [])
    (hsilent : begins line s.silentFor = true) :
    ∃ s', hear line s = .ok () s' ∧ say s' = .ok none s' ∧ s'.unread = [] ∧
      s'.closed = false ∧ s'.world = s.world := by
  have hopen : ¬ s.closed = true := by simp [hclosed]
  refine ⟨{ s with heard := s.heard ++ [line] }, ?_, ?_, hunread, hclosed, rfl⟩
  · simp only [hear, if_neg hopen, hsilent, if_true]
  · simp only [say, if_neg hopen, hunread]

/-- **What comes back of a line** that is answered is the answer, and it is all that waits. -/
theorem hear_say_of_answer {line : String} {s' : Simulator} (hclosed : s.closed = false)
    (hsilent : begins line s.silentFor = false)
    (hanswer : respond { s with heard := s.heard ++ [line] } line = .ok (answer, s'))
    (hclosed' : s'.closed = false) (hunread' : s'.unread = []) :
    ∃ s₁ s₂, hear line s = .ok () s₁ ∧ say s₁ = .ok (some answer.line) s₂ ∧ s₂.unread = [] ∧
      s₂.closed = false ∧ s₂.world = s'.world := by
  have hopen : ¬ s.closed = true := by simp [hclosed]
  refine ⟨{ s' with unread := s'.unread ++ [answer.line] }, { s' with unread := [] }, ?_, ?_, rfl,
    hclosed', rfl⟩
  · simp only [hear, if_neg hopen, hsilent, Bool.false_eq_true, if_false, hanswer]
  · rw [say, if_neg (by simp [hclosed']), hunread']
    rfl

/-- **A line to an open far end, and what comes back.** Either the world answers, or the line is
refused or not answered, and then the world is as it was. Afterwards nothing waits. -/
theorem hear_say_of_respond (hclosed : s.closed = false) (hunread : s.unread = []) (hr : r.Plain)
    (hw : s.world.respond r = .ok (answer, w')) :
    ∃ said s₁ s₂, hear r.line s = .ok () s₁ ∧ say s₁ = .ok said s₂ ∧ s₂.unread = [] ∧
      s₂.closed = false ∧
        (said = some answer.line ∧ s₂.world = w' ∨
          (said = some Rejection.failLine ∨ said = none) ∧ s₂.world = s.world) := by
  let heard : Simulator := { s with heard := s.heard ++ [r.line] }
  -- the far end keeps silent, refuses or answers, and looks at its lists in that order
  cases hsilent : begins r.line s.silentFor with
  | true =>
    obtain ⟨s', hhear, hsay, hrest, hopen, hworld⟩ := hear_say_of_silent hclosed hunread hsilent
    exact ⟨none, s', s', hhear, hsay, hrest, hopen, .inr ⟨.inr rfl, hworld⟩⟩
  | false =>
    cases hrefuses : begins r.line s.refuses with
    | true =>
      have hanswer : heard.respond r.line = .ok (.rejected .badParameters, heard) := by
        rw [respond, if_pos hrefuses]
      obtain ⟨s₁, s₂, hhear, hsay, hrest, hopen, hworld⟩ :=
        hear_say_of_answer hclosed hsilent hanswer hclosed hunread
      exact ⟨some Rejection.failLine, s₁, s₂, hhear, hsay, hrest, hopen,
        .inr ⟨.inl rfl, hworld⟩⟩
    | false =>
      obtain ⟨s', hanswer, hworld', hunread', hclosed', -, -⟩ :=
        respond_of_not_refused (s := heard) hrefuses hr hw
      obtain ⟨s₁, s₂, hhear, hsay, hrest, hopen, hworld⟩ :=
        hear_say_of_answer hclosed hsilent hanswer (hclosed'.trans hclosed)
          (hunread'.trans hunread)
      exact ⟨some answer.line, s₁, s₂, hhear, hsay, hrest, hopen,
        .inl ⟨rfl, hworld.trans hworld'⟩⟩

/-- Nothing is sent over a link that is closed. -/
theorem hear_of_closed (line : String) (hclosed : s.closed = true) :
    hear line s = .error (.failed .closed) s := by
  rw [hear, if_pos hclosed]

end Simulator

namespace Pilot

/-! ### What is left of faults -/

/-- **A pilot that is not deceived.** Its far end holds a rectangle, however the link to it may be,
no answer waits there, and what the pilot believes is true of that world. -/
structure Truthful (p : Pilot Simulator) : Prop where
  rectangle : p.link.world.Rectangle
  unread : p.link.unread = []
  belief : p.belief.TrueOf p.link.world

/-- **Nothing has been done.** The world and the link are as they were; the pilot may have learned
more. -/
structure Unmoved (p p' : Pilot Simulator) : Prop where
  truthful : p'.Truthful
  world : p'.link.world = p.link.world
  closed : p'.link.closed = p.link.closed
  gems : ∀ n, p.belief.gems = some n → p'.belief.gems = some n

theorem Truthful.unmoved {p : Pilot Simulator} (h : p.Truthful) : p.Unmoved p :=
  ⟨h, rfl, rfl, fun _ hn => hn⟩

theorem Unmoved.trans {p p' p'' : Pilot Simulator} (h : p.Unmoved p') (h' : p'.Unmoved p'') :
    p.Unmoved p'' :=
  ⟨h'.truthful, h'.world.trans h.world, h'.closed.trans h.closed,
    fun n hn => h'.gems n (h.gems n hn)⟩

/-- **The faults of a request** that the world would carry out: it is refused or not answered, or
the link is closed. -/
inductive Fault (manner : Manner) (p : Pilot Simulator) (r : Request) : Trouble LinkError → Prop
  | refused : Fault manner p r (.failed (.rejected r.line))
  | unanswered : Fault manner p r (.failed (.noResponse r.line manner.patience))
  | closed (h : p.link.closed = true) : Fault manner p r (.failed .closed)

/-- **The gems have been withheld**: to set the number of gems was refused or not answered. -/
def Withheld (manner : Manner) (e : Trouble LinkError) : Prop :=
  ∃ n, e = .failed (.rejected (Request.holdGems n).line) ∨
    e = .failed (.noResponse (Request.holdGems n).line manner.patience)

variable {manner : Manner}

/-- Only one request is about the gems that the agent holds. -/
theorem Fault.not_withheld {p : Pilot Simulator} {r : Request} {e : Trouble LinkError}
    (h : Fault manner p r e) (hr : ∀ n, r ≠ .holdGems n) : ¬ Withheld manner e := by
  rintro ⟨n, hn⟩
  -- the request of the fault is the one that was sent, and a line is written by one request only
  cases h with
  | refused =>
    rcases hn with hn | hn
    · injection hn with hn
      injection hn with hline
      exact hr n (Request.line_injective hline)
    · cases hn
  | unanswered =>
    rcases hn with hn | hn
    · cases hn
    · injection hn with hn
      injection hn with hline
      exact hr n (Request.line_injective hline)
  | closed => rcases hn with hn | hn <;> cases hn

/-! ### Both ends of an action -/

section Ends

variable {α β : Type} {p : Pilot Simulator}

/-- **Both ends of an action**: `Q` if it succeeds and `E` if it fails, each of the pilot that it
leaves behind. -/
def Ends (act : Action Simulator α) (p : Pilot Simulator) (Q : α → Pilot Simulator → Prop)
    (E : Trouble LinkError → Pilot Simulator → Prop) : Prop :=
  match act p with
  | .ok a p' => Q a p'
  | .error e p' => E e p'

variable {Q Q' : α → Pilot Simulator → Prop} {R : β → Pilot Simulator → Prop}
variable {E E' : Trouble LinkError → Pilot Simulator → Prop}

theorem ends_pure {a : α} (h : Q a p) : Ends (pure a) p Q E := h

theorem ends_throw {e : Trouble LinkError} (h : E e p) : Ends (throw e) p Q E := h

/-- **One action after another.** The second one may rely on the success of the first one only. -/
theorem Ends.bind {act : Action Simulator α} {f : α → Action Simulator β} (h : Ends act p Q E')
    (hE : ∀ e p', E' e p' → E e p') (hf : ∀ a p', Q a p' → Ends (f a) p' R E) :
    Ends (act >>= f) p R E := by
  rw [Ends] at h ⊢
  -- the outcome of the first action decides which of the two conditions is used
  cases hact : act p with
  | ok a p' =>
    rw [hact] at h
    rw [bind_of_ok hact]
    exact hf a p' h
  | error e p' =>
    rw [hact] at h
    rw [bind_of_error hact]
    exact hE e p' h

theorem Ends.weaken {act : Action Simulator α} (h : Ends act p Q E)
    (hQ : ∀ a p', Q a p' → Q' a p') (hE : ∀ e p', E e p' → E' e p') : Ends act p Q' E' := by
  rw [Ends] at h ⊢
  split at h
  · exact hQ _ _ h
  · exact hE _ _ h

/-- The pilot that an action leaves behind. -/
theorem Ends.exists_resultOf {act : Action Simulator α} (h : Ends act p Q E) :
    ∃ r p', act p = p'.resultOf r ∧ (∀ a, r = .ok a → Q a p') ∧ ∀ e, r = .error e → E e p' := by
  rw [Ends] at h
  cases hact : act p with
  | ok a p' =>
    -- of the two conditions one is about the other outcome, and void
    rw [hact] at h
    refine ⟨.ok a, p', rfl, ?_, ?_⟩
    · rintro _ ⟨⟩
      exact h
    · rintro _ ⟨⟩
  | error e p' =>
    rw [hact] at h
    refine ⟨.error e, p', rfl, ?_, ?_⟩
    · rintro _ ⟨⟩
    · rintro _ ⟨⟩
      exact h

end Ends

/-! ### Exchanges -/

section Exchanges

variable {α : Type} {p : Pilot Simulator} {w' : World} {r : Request} {answer : Response}

/-- **An exchange is what is said to it**, and it fails where nothing is said or a rejection. -/
theorem exchange_of_said {said : Option String} {s₁ s₂ : Simulator}
    (hhear : Simulator.hear r.line p.link = .ok () s₁) (hsay : Simulator.say s₁ = .ok said s₂) :
    exchange Simulator.link manner r p = resultOf ⟨s₂, p.belief⟩ (match said with
      | none => .error (.failed (.noResponse r.line manner.patience))
      | some response =>
        if response = Rejection.failLine then .error (.failed (.rejected r.line))
        else if response = Rejection.errorLine then .error (.failed (.unknownRequest r.line))
        else .ok response) := by
  -- which of the three texts has come back decides the result, in this order
  simp only [exchange, bind_apply, overLink, Simulator.link, hhear, hsay]
  cases said with
  | none => rfl
  | some response =>
    dsimp only
    by_cases hfail : response = Rejection.failLine
    · rw [if_pos hfail, if_pos hfail]
      rfl
    · rw [if_neg hfail, if_neg hfail]
      by_cases herror : response = Rejection.errorLine
      · rw [if_pos herror, if_pos herror]
        rfl
      · rw [if_neg herror, if_neg herror]
        rfl

/-- **One request, whatever goes wrong**, and whatever is believed. The response that comes back is
the answer of the world, and a fault leaves the world as it was. -/
theorem ends_exchange_of_unread (hunread : p.link.unread = []) (hr : r.Plain)
    (hw : p.link.world.respond r = .ok (answer, w'))
    (hanswer : ∀ reason, answer ≠ .rejected reason) :
    Ends (exchange Simulator.link manner r) p
      (fun response p' => response = answer.line ∧ p'.belief = p.belief ∧ p'.link.world = w' ∧
        p'.link.unread = [] ∧ p'.link.closed = false ∧ p.link.closed = false)
      (fun e p' => p'.belief = p.belief ∧ p'.link.world = p.link.world ∧ p'.link.unread = [] ∧
        p'.link.closed = p.link.closed ∧ Fault manner p r e) := by
  rcases Bool.eq_false_or_eq_true p.link.closed with hclosed | hclosed
  · -- nothing is sent
    have hhear := Simulator.hear_of_closed r.line hclosed
    have hexchange : exchange Simulator.link manner r p = .error (.failed .closed) p := by
      simp only [exchange, bind_apply, overLink, Simulator.link, hhear]
    rw [Ends, hexchange]
    exact ⟨rfl, rfl, hunread, rfl, .closed hclosed⟩
  · -- on an open link the line is heard, and one answer at most comes back
    obtain ⟨said, s₁, s₂, hhear, hsay, hrest, hopen, hsaid⟩ :=
      Simulator.hear_say_of_respond hclosed hunread hr hw
    rw [Ends, exchange_of_said hhear hsay]
    -- an answer that was carried out, or the world as it was
    rcases hsaid with ⟨rfl, hworld⟩ | ⟨hsaid, hworld⟩
    · obtain ⟨hfail, herror⟩ := Response.line_ne_rejection hanswer
      dsimp only
      rw [if_neg hfail, if_neg herror]
      exact ⟨rfl, rfl, hworld, hrest, hopen, hclosed⟩
    · -- no answer is a failure too, and leaves as little behind
      rcases hsaid with rfl | rfl
      · exact ⟨rfl, hworld, hrest, hopen.trans hclosed.symm, .refused⟩
      · exact ⟨rfl, hworld, hrest, hopen.trans hclosed.symm, .unanswered⟩

/-- **One request** of a pilot that is not deceived. A fault leaves everything as it was. -/
theorem ends_exchange (hp : p.Truthful) (hr : r.Plain)
    (hw : p.link.world.respond r = .ok (answer, w'))
    (hanswer : ∀ reason, answer ≠ .rejected reason) :
    Ends (exchange Simulator.link manner r) p
      (fun response p' => response = answer.line ∧ p'.belief = p.belief ∧ p'.link.world = w' ∧
        p'.link.unread = [] ∧ p'.link.closed = false ∧ p.link.closed = false)
      (fun e p' => p.Unmoved p' ∧ Fault manner p r e) := by
  refine (ends_exchange_of_unread hp.unread hr hw hanswer).weaken (fun _ _ h => h) ?_
  -- what has not been carried out leaves the belief true of the same world
  rintro e p' ⟨hbelief, hworld, hunread, hclosed, hfault⟩
  refine ⟨⟨⟨?_, hunread, ?_⟩, hworld, hclosed, fun n hn => hbelief ▸ hn⟩, hfault⟩
  · exact hworld.symm ▸ hp.rectangle
  · rw [hworld, hbelief]
    exact hp.belief

/-- **A command that the world would carry out.** It is acknowledged, or a fault leaves everything
as it was. -/
theorem ends_order (hp : p.Truthful) (hr : r.Plain)
    (hw : p.link.world.respond r = .ok (.done r, w')) :
    Ends (order Simulator.link manner r) p
      (fun _ p' => p'.belief = p.belief ∧ p'.link.world = w' ∧ p'.link.unread = [] ∧
        p'.link.closed = false)
      (fun e p' => p.Unmoved p' ∧ Fault manner p r e) := by
  refine (ends_exchange hp hr hw (by simp)).bind (fun _ _ h => h) ?_
  rintro response p' ⟨rfl, hbelief, hworld, hunread, hopen, -⟩
  rw [if_pos (show (Response.done r).line = r.acknowledgement from rfl)]
  exact ends_pure ⟨hbelief, hworld, hunread, hopen⟩

/-- **A command after which a belief is changed.** -/
theorem ends_order_believe {change : Belief → Belief} (hp : p.Truthful) (hr : r.Plain)
    (hw : p.link.world.respond r = .ok (.done r, w')) (hrectangle : w'.Rectangle)
    (hchange : (change p.belief).TrueOf w') :
    Ends (do order Simulator.link manner r; believe change) p (fun _ p' => p'.Truthful)
      (fun e p' => p.Unmoved p' ∧ Fault manner p r e) := by
  refine (ends_order hp hr hw).bind (fun _ _ h => h) ?_
  rintro _ p' ⟨hbelief, rfl, hunread, -⟩
  exact ⟨hrectangle, hunread, hbelief ▸ hchange⟩

/-- **An action that leaves everything as it was**, whether it fails or not, and where it succeeds,
`Q` holds of what it finds. -/
def Finds (manner : Manner) (act : Action Simulator α) (p : Pilot Simulator)
    (Q : α → Pilot Simulator → Prop) : Prop :=
  Ends act p (fun a p' => p.Unmoved p' ∧ Q a p') (fun e p' => p.Unmoved p' ∧ ¬ Withheld manner e)

/-- **A question** is answered with the fact. -/
theorem finds_ask {q : Query α} {a : α} (hp : p.Truthful) (hr : q.request.Plain)
    (hw : p.link.world.respond q.request = .ok (answer, p.link.world))
    (hanswer : ∀ reason, answer ≠ .rejected reason) (ha : q.answer? answer.line = some a) :
    Finds manner (ask Simulator.link manner q) p fun found _ => found = a := by
  have hquestion : ∀ n, q.request ≠ .holdGems n := by
    intro n hn
    -- a command is not answered with fields
    have hexpected := q.expected_request
    rw [hn] at hexpected
    cases hexpected
  -- a question fails as any exchange does, and it is no confirmation of gems
  refine (ends_exchange hp hr hw hanswer).bind
    (fun e p' h => ⟨h.1, h.2.not_withheld hquestion⟩) ?_
  rintro response p' ⟨rfl, hbelief, hworld, hunread, hopen, hclosed⟩
  have hunmoved : p.Unmoved p' := by
    refine ⟨⟨hworld.symm ▸ hp.rectangle, hunread, ?_⟩, hworld, hopen.trans hclosed.symm, ?_⟩
    · rw [hworld, hbelief]
      exact hp.belief
    · exact fun n hn => hbelief ▸ hn
  -- the answer is read back by the query that asked for it
  obtain ⟨fields, hfields, hread⟩ := Option.bind_eq_some_iff.1 ha
  dsimp only
  rw [hfields]
  dsimp only
  rw [hread]
  exact ends_pure ⟨hunmoved, rfl⟩

/-- Behind an action that leaves everything as it was. -/
theorem Finds.bind {β : Type} {act : Action Simulator α} {f : α → Action Simulator β}
    {Q : α → Pilot Simulator → Prop} {R : β → Pilot Simulator → Prop}
    {E : Trouble LinkError → Pilot Simulator → Prop} (h : Finds manner act p Q)
    (hE : ∀ e p', p.Unmoved p' → ¬ Withheld manner e → E e p')
    (hf : ∀ a p', p.Unmoved p' → Q a p' → Ends (f a) p' R E) : Ends (act >>= f) p R E :=
  Ends.bind h (fun e p' hp' => hE e p' hp'.1 hp'.2) fun a p' hp' => hf a p' hp'.1 hp'.2

/-- **A fact is found**, and then it is known, whether it was known before or not. -/
theorem finds_find {q : Query α} {a : α} {known : Belief → Option α} {learn : α → Belief → Belief}
    (hp : p.Truthful)
    (hask : Finds manner (ask Simulator.link manner q) p fun found _ => found = a)
    (hknown : ∀ b, known (learn a b) = some a)
    (hlearn : ∀ b : Belief, b.TrueOf p.link.world → (learn a b).TrueOf p.link.world)
    (hgems : ∀ b : Belief, b.TrueOf p.link.world → ∀ n, b.gems = some n →
      (learn a b).gems = some n) :
    Finds manner (find Simulator.link manner q known learn) p
      fun found p' => known p'.belief = some found := by
  -- what is believed already is not asked for; the belief is true in both cases
  cases hb : known p.belief with
  | some x =>
    rw [Finds, Ends, find_of_known _ manner hb]
    exact ⟨hp.unmoved, hb⟩
  | none =>
    rw [Finds, Ends, find_of_unknown _ manner hb]
    refine hask.bind (fun e p' h hwithheld => ⟨h, hwithheld⟩) ?_
    rintro found p' h rfl
    -- learning the fact changes nothing but the belief
    have hbelief := h.world ▸ h.truthful.belief
    have hlearned : (learn found p'.belief).TrueOf p'.link.world :=
      h.world.symm ▸ hlearn _ hbelief
    exact ⟨⟨⟨h.truthful.rectangle, h.truthful.unread, hlearned⟩, h.world, h.closed,
      fun n hn => hgems _ hbelief n (h.gems n hn)⟩, hknown _⟩

theorem finds_findLocation (hp : p.Truthful) :
    Finds manner (findLocation Simulator.link manner) p
      fun found p' => p'.belief.location = some found := by
  rw [findLocation_eq]
  exact finds_find hp (finds_ask hp trivial rfl (by simp)
    (Query.answer?_location p.link.world.agent)) (fun _ => rfl) (fun b hb => hb.place _)
    fun _ _ _ hn => hn

theorem finds_findFacing (hp : p.Truthful) :
    Finds manner (findFacing Simulator.link manner) p
      fun found p' => p'.belief.facing = some found := by
  rw [findFacing_eq]
  exact finds_find hp (finds_ask hp trivial rfl (by simp)
    (Query.answer?_facing p.link.world.facing)) (fun _ => rfl) (fun b hb => hb.turn _)
    fun _ _ _ hn => hn

theorem finds_findGems (hp : p.Truthful) :
    Finds manner (findGems Simulator.link manner) p
      fun found p' => p'.belief.gems = some found := by
  rw [findGems_eq]
  refine finds_find hp (finds_ask hp trivial rfl (by simp)
    (Query.answer?_gemCount p.link.world.held)) (fun _ => rfl) (fun b hb => hb.hold _)
    fun b hb n hn => ?_
  -- what was known is what the world says
  rw [hb.gems n hn]

theorem finds_findSize (hp : p.Truthful) :
    Finds manner (findSize Simulator.link manner) p
      fun found p' => p'.belief.gridSize = some found := by
  rw [findSize_eq]
  exact finds_find hp (finds_ask hp trivial rfl (by simp)
    (Query.answer?_gridSize p.link.world.size)) (fun _ => rfl) (fun b hb => hb.measure)
    fun _ _ _ hn => hn

/-- **The cell next to the agent** is found where the size of the grid says that there is one. -/
theorem finds_cellToward (hp : p.Truthful) (d : Direction) :
    Finds manner (cellToward Simulator.link manner d) p fun found _ =>
      found = if p.link.world.size.contains (p.link.world.agent.step d)
        then some (p.link.world.agent.step d) else none := by
  -- two questions, and behind each the pilot is unmoved
  refine (finds_findLocation hp).bind (fun e p' h hwithheld => ⟨h, hwithheld⟩) ?_
  intro here p₁ h₁ hhere
  refine (finds_findSize h₁.truthful).bind
    (fun e p' h hwithheld => ⟨h₁.trans h, hwithheld⟩) ?_
  intro size p₂ h₂ hsize
  -- what is known is true, and the world is the same all along
  have hagent : here = p.link.world.agent := h₁.world ▸ h₁.truthful.belief.location here hhere
  have hworld := (h₁.trans h₂).world
  have hgrid : size = p.link.world.size := hworld ▸ h₂.truthful.belief.gridSize size hsize
  exact ends_pure ⟨h₁.trans h₂, by rw [hagent, hgrid]⟩

/-- **The cell next to the agent is looked at.** It is none off the grid, and otherwise the one that
the world has there. -/
theorem Ends.look {off : Action Simulator α} {there : Coord → Cell → Action Simulator α}
    {d : Direction} {R : α → Pilot Simulator → Prop}
    {E : Trouble LinkError → Pilot Simulator → Prop} (hp : p.Truthful)
    (hE : ∀ e p', p.Unmoved p' → ¬ Withheld manner e → E e p')
    (hoff : ∀ p', p.Unmoved p' → Ends off p' R E)
    (hthere : ∀ cell p', p.Unmoved p' →
      p.link.world.at? (p.link.world.agent.step d) = .ok (some cell) →
        Ends (there (p.link.world.agent.step d) cell) p' R E) :
    Ends (do
      let some target ← cellToward Simulator.link manner d | off
      let cell ← ask Simulator.link manner (.cell target)
      there target cell) p R E := by
  refine (finds_cellToward hp d).bind hE ?_
  rintro _ p₁ h₁ rfl
  by_cases hcontains : p.link.world.size.contains (p.link.world.agent.step d) = true
  · rw [if_pos hcontains]
    -- inside a rectangle there is a cell to be looked at, and it can be told
    obtain ⟨cell, hat, hcell⟩ := hp.rectangle.exists_at? hcontains
    have hask : Finds manner (ask Simulator.link manner (.cell (p.link.world.agent.step d))) p₁
        fun found _ => found = cell := by
      refine finds_ask h₁.truthful trivial ?_ (by simp) (Query.answer?_cell _ hcell)
      change World.respond _ (.askCell _) = _
      simp [World.respond, h₁.world, hat]
      rfl
    refine hask.bind (fun e p' h => hE e p' (h₁.trans h)) ?_
    rintro _ p₂ h₂ rfl
    exact hthere _ p₂ (h₁.trans h₂) hat
  · rw [if_neg hcontains]
    exact hoff p₁ h₁

end Exchanges

/-! ### Operations of one change or none -/

section Operations

variable {p : Pilot Simulator}

/-- A step that fails has not been made. -/
theorem ends_goAhead (hp : p.Truthful) :
    Ends (goAhead Simulator.link manner) p (fun _ p' => p'.Truthful) fun _ p' => p.Unmoved p' := by
  -- the world does not change before the command, so what was found stays true up to it
  refine (finds_findFacing hp).bind (fun _ _ h _ => h) ?_
  intro d p₁ h₁ hd
  rw [h₁.truthful.belief.facing d hd]
  refine Ends.look h₁.truthful (fun _ _ h _ => h₁.trans h) (fun p₂ h₂ => h₂.truthful) ?_
  intro cell p₂ h₂ hat
  cases cell with
  | wall => exact ends_pure h₂.truthful
  | gems n =>
    -- the cell is there, so the world lets the agent go
    let c := p₁.link.world.agent.step p₁.link.world.facing
    have hgo : p₂.link.world.respond (.goTo c) =
        .ok (.done (.goTo c), { p₂.link.world with agent := c }) := by
      simp only [World.respond, h₂.world, hat, c]
      rfl
    have hplain : (Request.goTo c).Plain := trivial
    exact (ends_order_believe h₂.truthful hplain hgo (h₂.truthful.rectangle.of_rows_eq rfl)
      (h₂.truthful.belief.place c)).weaken (fun _ _ h => h) fun _ _ h => (h₁.trans h₂).trans h.1

theorem ends_turnTo (hp : p.Truthful) (d : Direction) :
    Ends (turnTo Simulator.link manner d) p (fun _ p' => p'.Truthful) fun _ p' => p.Unmoved p' :=
  (ends_order_believe hp trivial (r := .face d) rfl (hp.rectangle.of_rows_eq rfl)
    (hp.belief.turn d)).weaken (fun _ _ h => h) fun _ _ h => h.1

theorem ends_hold (hp : p.Truthful) (n : UInt32) :
    Ends (hold Simulator.link manner n) p (fun _ p' => p'.Truthful)
      fun e p' => p.Unmoved p' ∧ Fault manner p (.holdGems n) e :=
  ends_order_believe hp trivial rfl (hp.rectangle.of_rows_eq rfl) (hp.belief.hold n)

/-- A command that changes nothing on the grid. -/
theorem ends_order_of_still {r : Request} (hp : p.Truthful) (hr : r.Plain)
    (hw : p.link.world.respond r = .ok (.done r, p.link.world)) :
    Ends (order Simulator.link manner r) p (fun _ p' => p'.Truthful) fun _ p' => p.Unmoved p' := by
  refine (ends_order hp hr hw).weaken ?_ fun _ _ h => h.1
  rintro _ p' ⟨hbelief, hworld, hunread, -⟩
  exact ⟨hworld.symm ▸ hp.rectangle, hunread, hworld.symm ▸ hbelief ▸ hp.belief⟩

theorem ends_seesGemAhead (hp : p.Truthful) :
    Ends (seesGemAhead Simulator.link manner) p (fun _ p' => p'.Truthful)
      fun _ p' => p.Unmoved p' := by
  refine (finds_findFacing hp).bind (fun _ _ h _ => h) ?_
  intro d p₁ h₁ _
  exact Ends.look h₁.truthful (fun _ _ h _ => h₁.trans h) (fun p₂ h₂ => h₂.truthful)
    fun _ p₂ h₂ _ => h₂.truthful

/-- By whatever modulus sides are turned. -/
theorem ends_isOpen (hp : p.Truthful) (side : Side) :
    Ends (isOpen Simulator.link manner side) p (fun _ p' => p'.Truthful)
      fun _ p' => p.Unmoved p' := by
  refine (finds_findFacing hp).bind (fun _ _ h _ => h) ?_
  intro d p₁ h₁ _
  -- by a modulus that is neither three nor four the pilot fails by itself
  cases side.towardModulo manner.modulus d with
  | error a => exact ends_throw h₁
  | ok toward =>
    exact Ends.look h₁.truthful (fun _ _ h _ => h₁.trans h) (fun p₂ h₂ => h₂.truthful)
      fun _ p₂ h₂ _ => h₂.truthful

theorem ends_answer (hp : p.Truthful) (c : Condition) :
    Ends (answer Simulator.link manner c) p (fun _ p' => p'.Truthful) fun _ p' => p.Unmoved p' := by
  cases c with
  | clear side => exact ends_isOpen hp side
  | seesGem => exact ends_seesGemAhead hp
  | hasGem =>
    exact (finds_findGems hp).bind (fun _ _ h _ => h) fun _ _ h _ => h.truthful
  | facing d =>
    exact (finds_findFacing hp).bind (fun _ _ h _ => h) fun _ _ h _ => h.truthful

end Operations

end Pilot

/-! ### Moves of gems -/

/-- **The cell that a move of gems puts** in the place of one with that many gems, if it moves any.
-/
def Operation.replacement? : Operation → UInt8 → Option Cell
  | move .take, n => if 0 < n then some .empty else none
  | move .drop, n => if n < 9 then some (.gems (n + 1)) else none
  | _, _ => none

/-- **The moves of gems.** -/
def Operation.MovesGems (o : Operation) : Prop := o = .move .take ∨ o = .move .drop

instance (o : Operation) : Decidable o.MovesGems :=
  inferInstanceAs (Decidable (_ ∨ _))

theorem Operation.movesGems_of_replacement? {o : Operation} {n : UInt8} {cell : Cell}
    (h : o.replacement? n = some cell) : o.MovesGems := by
  cases o with
  | move m =>
    cases m with
    | take => exact .inl rfl
    | drop => exact .inr rfl
    | _ => cases h
  | _ => cases h

theorem Operation.ordinary_of_replacement? {o : Operation} {n : UInt8} {cell : Cell}
    (h : o.replacement? n = some cell) : cell.Ordinary := by
  cases o with
  | move m =>
    cases m with
    | take =>
      obtain ⟨-, heq⟩ := Option.ite_none_right_eq_some.1 h
      rw [← Option.some.inj heq]
      decide
    | drop =>
      obtain ⟨hroom, heq⟩ := Option.ite_none_right_eq_some.1 h
      rw [← Option.some.inj heq]
      exact Cell.ordinary_gems_succ hroom
    | _ => cases h
  | _ => cases h

/-- Where the agent looks. -/
def World.ahead (w : World) : Coord := w.agent.step w.facing

/-- **A move of gems that stops halfway.** The cell ahead has been replaced; the agent holds as many
gems as before, and the pilot knows how many. -/
def Operation.Halfway (o : Operation) (w : World) (p : Pilot Simulator) : Prop :=
  ∃ n cell, w.at? w.ahead = .ok (some (.gems n)) ∧ o.replacement? n = some cell ∧
    p.link.world = w.withCell w.ahead cell ∧ p.belief.gems = some w.held

namespace Pilot

section MovesOfGems

variable {manner : Manner} {p p₁ : Pilot Simulator} {o : Operation}

/-- **How an operation fails.** If it moves gems and those have been withheld, it stops halfway; if
anything else has happened, it has done nothing. -/
def BreaksOff (manner : Manner) (o : Operation) (p : Pilot Simulator) (e : Trouble LinkError)
    (p' : Pilot Simulator) : Prop :=
  p.Unmoved p' ∧ ¬ (o.MovesGems ∧ Withheld manner e) ∨
    (o.MovesGems ∧ Withheld manner e) ∧ p'.Truthful ∧ o.Halfway p.link.world p'

theorem BreaksOff.truthful {e : Trouble LinkError} {p' : Pilot Simulator}
    (h : BreaksOff manner o p e p') : p'.Truthful := by
  rcases h with ⟨h, -⟩ | ⟨-, h, -⟩
  · exact h.truthful
  · exact h

/-- What fails for another reason has done nothing. -/
theorem BreaksOff.of_unmoved {e : Trouble LinkError} {p' : Pilot Simulator} (h : p.Unmoved p')
    (hwithheld : ¬ Withheld manner e) : BreaksOff manner o p e p' :=
  .inl ⟨h, fun hboth => hwithheld hboth.2⟩

/-- Any other operation has done nothing. -/
theorem BreaksOff.of_not_movesGems {e : Trouble LinkError} {p' : Pilot Simulator}
    (h : p.Unmoved p') (hother : ¬ o.MovesGems) : BreaksOff manner o p e p' :=
  .inl ⟨h, fun hboth => hother hboth.1⟩

/-- **The two changes of a move of gems.** Only the second one can fail with the first one done, and
then the link is open. -/
theorem ends_replace {n : UInt8} {cell : Cell} (h₁ : p.Unmoved p₁)
    (hat : p.link.world.at? p.link.world.ahead = .ok (some (.gems n)))
    (hcell : o.replacement? n = some cell) (hheld : p₁.belief.gems = some p.link.world.held)
    (k : UInt32) :
    Ends (do
      order Simulator.link manner (.putCell p.link.world.ahead cell)
      hold Simulator.link manner k) p₁ (fun _ p' => p'.Truthful) (BreaksOff manner o p) := by
  have hordinary := Operation.ordinary_of_replacement? hcell
  have hput : p₁.link.world.respond (.putCell p.link.world.ahead cell) =
      .ok (.done (.putCell p.link.world.ahead cell),
        p.link.world.withCell p.link.world.ahead cell) := by
    simp only [World.respond, h₁.world, World.put?_of_at? hat]
    rfl
  -- the cell first, then the gems: only what comes between them can be seen from outside
  refine (ends_order (r := .putCell _ cell) h₁.truthful hordinary hput).bind ?_ ?_
  · -- a cell that is not put leaves everything as it was
    intro e p' h
    exact .of_unmoved (h₁.trans h.1) (h.2.not_withheld (by simp))
  · -- the cell has been put, so that from here on a failure is one halfway
    rintro _ p₂ ⟨hbelief, hworld, hunread, hopen⟩
    have hbefore : p₂.belief.TrueOf p.link.world := hbelief ▸ h₁.world ▸ h₁.truthful.belief
    have h₂ : p₂.Truthful := by
      refine ⟨?_, hunread, ?_⟩
      · rw [hworld]
        exact (h₁.world ▸ h₁.truthful.rectangle).withCell _ hordinary
      · rw [hworld]
        exact hbefore.withCell _ cell
    refine (ends_hold h₂ k).weaken (fun _ _ h => h) ?_
    rintro e p' ⟨h, hfault⟩
    refine .inr ⟨⟨Operation.movesGems_of_replacement? hcell, ?_⟩, h.truthful, n, cell, hat, hcell,
      h.world.trans hworld, h.gems _ (hbelief ▸ hheld)⟩
    cases hfault with
    | refused => exact ⟨k, .inl rfl⟩
    | unanswered => exact ⟨k, .inr rfl⟩
    | closed hclosed =>
      -- it has just been heard on the link
      rw [hopen] at hclosed
      cases hclosed

/-- A take fails before its first change, or halfway. -/
theorem ends_takeAhead (hp : p.Truthful) :
    Ends (takeAhead Simulator.link manner) p (fun _ p' => p'.Truthful)
      (BreaksOff manner (.move .take) p) := by
  refine (finds_findFacing hp).bind (fun _ _ => .of_unmoved) ?_
  intro d p₁ h₁ hd
  -- what the pilot has found is true of the world that it started in
  have hfacing : d = p.link.world.facing := h₁.world ▸ h₁.truthful.belief.facing d hd
  rw [hfacing]
  refine Ends.look h₁.truthful (fun _ _ h => .of_unmoved (h₁.trans h))
    (fun p₂ h₂ => h₂.truthful) ?_
  intro cell p₂ h₂ hat
  rw [h₁.world] at hat ⊢
  -- a wall and a cell without gems end the take without a command
  by_cases hzero : cell.gemCount = 0
  · rw [if_pos hzero]
    exact ends_pure h₂.truthful
  · rw [if_neg hzero]
    obtain ⟨n, rfl⟩ : ∃ n, cell = .gems n := by
      cases cell with
      | wall => exact absurd rfl hzero
      | gems n => exact ⟨n, rfl⟩
    refine (finds_findGems h₂.truthful).bind
      (fun _ _ h => .of_unmoved ((h₁.trans h₂).trans h)) ?_
    intro held p₃ h₃ hheld
    have h := (h₁.trans h₂).trans h₃
    have hgems : held = p.link.world.held := h.world ▸ h.truthful.belief.gems held hheld
    have hcell : (Operation.move .take).replacement? n = some .empty :=
      if_pos (UInt8.pos_iff_ne_zero.2 hzero)
    by_cases hroom : UInt32.size ≤ held.toNat + (Cell.gems n).gemCount.toNat
    · -- the pilot fails by itself, and nothing has been withheld
      rw [if_pos hroom]
      refine ends_throw (.of_unmoved h ?_)
      rintro ⟨k, hk | hk⟩ <;> cases hk
    · rw [if_neg hroom]
      exact ends_replace h hat hcell (hgems ▸ hheld) _

/-- So does a drop, which knows from the beginning how many gems are held. -/
theorem ends_dropAhead (hp : p.Truthful) :
    Ends (dropAhead Simulator.link manner) p (fun _ p' => p'.Truthful)
      (BreaksOff manner (.move .drop) p) := by
  refine (finds_findGems hp).bind (fun _ _ => .of_unmoved) ?_
  intro held p₁ h₁ hheld
  have hgems : held = p.link.world.held := h₁.world ▸ h₁.truthful.belief.gems held hheld
  -- without gems the drop ends before it looks
  by_cases hzero : held = 0
  · rw [if_pos hzero]
    exact ends_pure h₁.truthful
  · rw [if_neg hzero]
    refine (finds_findFacing h₁.truthful).bind (fun _ _ h => .of_unmoved (h₁.trans h)) ?_
    intro d p₂ h₂ hd
    have h := h₁.trans h₂
    have hfacing : d = p.link.world.facing := h.world ▸ h.truthful.belief.facing d hd
    rw [hfacing]
    refine Ends.look h.truthful (fun _ _ h₃ => .of_unmoved (h.trans h₃))
      (fun p₃ h₃ => h₃.truthful) ?_
    intro cell p₃ h₃ hat
    rw [h.world] at hat ⊢
    cases cell with
    | wall => exact ends_pure h₃.truthful
    | gems n =>
      dsimp only
      -- a full cell ends it behind the look
      by_cases hfull : Cell.mostGems ≤ n
      · rw [if_pos hfull]
        exact ends_pure h₃.truthful
      · rw [if_neg hfull]
        have hcell : (Operation.move .drop).replacement? n = some (.gems (n + 1)) :=
          if_pos (UInt8.not_le.1 hfull)
        -- the gems have been known since before the cell was looked at
        exact ends_replace (h.trans h₃) hat hcell ((h₂.trans h₃).gems _ (hgems ▸ hheld)) _

end MovesOfGems

/-! ### Whatever fails -/

section WhateverFails

variable {p : Pilot Simulator}

/-- What has no value is done, and succeeds without one. -/
theorem Ends.return_none {act : Action Simulator Unit}
    {E : Trouble LinkError → Pilot Simulator → Prop} (h : Ends act p (fun _ p' => p'.Truthful) E) :
    Ends (do act; return (none : Option Bool)) p (fun _ p' => p'.Truthful) E :=
  h.bind (fun _ _ he => he) fun _ _ hp' => ends_pure hp'

/-- **One operation**, whichever of its requests goes wrong. -/
theorem ends_carryOut (hp : p.Truthful) (manner : Manner) (o : Operation) :
    Ends (o.carryOut Simulator.link manner) p (fun _ p' => p'.Truthful) (BreaksOff manner o p) := by
  -- for all but the moves of gems, to fail is to have done nothing
  have hother {α : Type} {act : Action Simulator α} (ho : ¬ o.MovesGems)
      (h : Ends act p (fun _ p' => p'.Truthful) fun _ p' => p.Unmoved p') :
      Ends act p (fun _ p' => p'.Truthful) (BreaksOff manner o p) :=
    h.weaken (fun _ _ hp' => hp') fun _ _ hp' => .of_not_movesGems hp' ho
  -- both turns are a question and then one command
  have hturn (turn : Direction → Direction) :
      Ends (do turnTo Simulator.link manner (turn (← findFacing Simulator.link manner))) p
        (fun _ p' => p'.Truthful) fun _ p' => p.Unmoved p' := by
    refine (finds_findFacing hp).bind (fun _ _ h _ => h) fun d p₁ h₁ _ => ?_
    exact (ends_turnTo h₁.truthful _).weaken (fun _ _ h => h) fun _ _ h => h₁.trans h
  -- only the two moves of gems can stop halfway
  cases o with
  | move m =>
    cases m with
    | step => exact (hother (by decide) (ends_goAhead hp)).return_none
    | turnLeft => exact (hother (by decide) (hturn Direction.leftOf)).return_none
    | turnRight => exact (hother (by decide) (hturn Direction.rightOf)).return_none
    | take => exact (ends_takeAhead hp).return_none
    | drop => exact (ends_dropAhead hp).return_none
  | setGems n =>
    refine (hother (by simp [Operation.MovesGems]) ?_).return_none
    exact (ends_hold hp n).weaken (fun _ _ h => h) fun _ _ h => h.1
  | stop =>
    exact (hother (by decide) (ends_order_of_still (r := .stop) hp trivial rfl)).return_none
  | showTraffic on =>
    exact (hother (by simp [Operation.MovesGems])
      (ends_order_of_still (r := .showMessages on) hp trivial rfl)).return_none
  | test c =>
    exact (hother (by simp [Operation.MovesGems]) (ends_answer hp c)).bind (fun _ _ h => h)
      fun _ _ h => h

/-- **Faults do not deceive a pilot.** The far end may refuse some lines, keep silent on others or
be closed; an operation, whether it succeeds or fails, leaves a pilot behind that believes only what
is true of the world, and no answer that waits. If it fails, the world is as it was, unless the
operation moves gems and those have been withheld: then the cell ahead has been replaced, and the
gems that the agent holds are those that it held. To give the link up leaves the world alone, too.
-/
theorem truthful_whatever_fails (hp : p.Truthful) (manner : Manner) :
    (∀ o : Operation, ∃ r p', o.carryOut Simulator.link manner p = p'.resultOf r ∧ p'.Truthful ∧
      ∀ e, r = .error e →
        (o.MovesGems ∧ Withheld manner e → o.Halfway p.link.world p') ∧
        (¬ (o.MovesGems ∧ Withheld manner e) → p'.link.world = p.link.world)) ∧
      ∃ p', hangUp Simulator.link p = .ok () p' ∧ p'.Truthful ∧ p'.link.world = p.link.world := by
  -- to give the link up closes it, and that is all
  refine ⟨fun o => ?_, ⟨_, rfl, ⟨hp.rectangle, hp.unread, hp.belief⟩, rfl⟩⟩
  obtain ⟨r, p', hact, hok, herror⟩ := (ends_carryOut hp manner o).exists_resultOf
  refine ⟨r, p', hact, ?_, fun e he => ?_⟩
  · cases r with
    | ok a => exact hok a rfl
    | error e => exact (herror e rfl).truthful
  · -- the two ways to fail exclude one another
    rcases herror e he with ⟨h, hother⟩ | ⟨hboth, -, h⟩
    · exact ⟨fun hboth => absurd hboth hother, fun _ => h.world⟩
    · exact ⟨fun _ => h, fun hother => absurd hboth hother⟩

/-- A far end that never confirms how many gems the agent is given. -/
def withholding : Simulator :=
  { Simulator.ofWorld { World.ofRows [[.empty, .gems 3]] with facing := .right, held := 2 } with
    silentFor := some "GIVEROB" }

/-- The gems are gone from the cell, and the agent has not got them. -/
theorem truthful_withholding :
    (ofLink withholding).Truthful ∧
      ∃ p', (Operation.move .take).carryOut Simulator.link ⟨1000, 4⟩ (ofLink withholding) =
          .error (.failed (.noResponse "GIVEROB 5" 1000)) p' ∧ p'.Truthful ∧
        p'.link.world = ⟨[[.empty, .empty]], .origin, .right, 2⟩ ∧ p'.belief.gems = some 2 := by
  have hp : (ofLink withholding).Truthful :=
    ⟨⟨by decide, by decide⟩, rfl, ⟨by simp [ofLink, Belief.empty], by simp [ofLink, Belief.empty],
      by simp [ofLink, Belief.empty], by simp [ofLink, Belief.empty]⟩⟩
  refine ⟨hp, ?_⟩
  -- the general theorem leaves the result open; the run on this world settles it
  obtain ⟨r, p', hact, htruthful, hfails⟩ := (truthful_whatever_fails hp ⟨1000, 4⟩).1 (.move .take)
  have hresults : (inTurn [(Operation.move .take).carryOut Simulator.link ⟨1000, 4⟩]
      (ofLink withholding)).1 = [.error (.failed (.noResponse "GIVEROB 5" 1000))] := by
    decide +kernel
  cases r with
  | ok a =>
    rw [inTurn, hact] at hresults
    cases hresults
  | error e =>
    rw [inTurn, hact] at hresults
    obtain rfl : e = .failed (.noResponse "GIVEROB 5" 1000) := by
      injection hresults with he
      injection he
    have hwithheld : Withheld ⟨1000, 4⟩ (.failed (.noResponse "GIVEROB 5" 1000)) :=
      ⟨5, .inr (by decide)⟩
    -- halfway: the cell and its replacement are read off the world and the operation
    obtain ⟨n, cell, hat, hcell, hworld, hgems⟩ := (hfails _ rfl).1 ⟨.inl rfl, hwithheld⟩
    cases hat
    cases hcell
    exact ⟨p', hact, htruthful, hworld, hgems⟩

/-- **A whole run** keeps the pilot from being deceived, however many of its operations fail. By
induction on the operations. -/
theorem Truthful.inTurn (manner : Manner) (os : List Operation) (hp : p.Truthful) :
    (inTurn (os.map (·.carryOut Simulator.link manner)) p).2.Truthful := by
  induction os generalizing p with
  | nil => exact hp
  | cons o os ih =>
    obtain ⟨r, p', hact, hok, herror⟩ := (ends_carryOut hp manner o).exists_resultOf
    rw [List.map_cons, Pilot.inTurn, hact]
    cases r with
    | ok a => exact ih (hok a rfl)
    | error e => exact ih (herror e rfl).truthful

end WhateverFails

end Pilot

end GridScript
