import GridScript.Proofs.Pilot.Operations
import GridScript.Proofs.Pilot.Transcript

/-!
# A pilot believes what its conversation has established

Each action of a pilot is followed over the link that keeps a transcript and over the link itself at
the same time. Between two actions the belief is what the transcript establishes. In the middle of
an action it need not be: a command has been acknowledged before the belief is changed, so a command
and the change behind it are one step of the proof.

* `Pilot.Recalls` — the invariant, `Pilot.Faithful` — what each action keeps.
* `Pilot.exchange_watched`, `Pilot.order_watched`, `Pilot.ask_watched` — what one exchange puts on
  the transcript, however it ends.
* `Pilot.faithful_find`, `Pilot.faithful_look` — a fact that is remembered, and one that is not.
* `Pilot.faithful_carryOut` — every errand, from the actions that it is made of.
* `Pilot.belief_eq_ofPast` — errands in turn, over any link.
-/

namespace GridScript

namespace Pilot

variable {χ α β : Type}

/-- The pilot over the link that is watched. -/
def unwatched (p : Pilot (Watched χ)) : Pilot χ := ⟨p.link.link, p.belief⟩

/-- **A pilot that recalls its conversation**: it believes what the transcript establishes, and each
fact in the transcript was asked for while it was unknown. -/
structure Recalls (p : Pilot (Watched χ)) : Prop where
  belief : p.belief = .ofPast p.link.past
  needed : ∀ e earlier, (e :: earlier) <:+ p.link.past → e.Needed (.ofPast earlier)

/-- **An action that keeps recalling**, and that watching does not change: over the link that is
watched it has the same result and leaves the same pilot behind. -/
def Faithful (act : Action (Watched χ) α) (act' : Action χ α) : Prop :=
  ∀ p : Pilot (Watched χ), p.Recalls →
    ∃ (r : Except (Trouble LinkError) α) (p' : Pilot (Watched χ)),
      p'.Recalls ∧ act p = p'.resultOf r ∧ act' p.unwatched = p'.unwatched.resultOf r

theorem faithful_pure (a : α) : Faithful (χ := χ) (pure a) (pure a) :=
  fun p hp => ⟨.ok a, p, hp, rfl, rfl⟩

theorem faithful_throw (e : Trouble LinkError) : Faithful (χ := χ) (α := α) (throw e) (throw e) :=
  fun p hp => ⟨.error e, p, hp, rfl, rfl⟩

theorem Faithful.bind {act : Action (Watched χ) α} {act' : Action χ α}
    {f : α → Action (Watched χ) β} {f' : α → Action χ β} (h : Faithful act act')
    (h' : ∀ a, Faithful (f a) (f' a)) : Faithful (act >>= f) (act' >>= f') := by
  intro p hp
  obtain ⟨r, p', hp', hact, hact'⟩ := h p hp
  -- behind a failure neither goes on, and both are where the first action has left them
  cases r with
  | ok a =>
    obtain ⟨r, p'', hp'', hf, hf'⟩ := h' a p' hp'
    refine ⟨r, p'', hp'', ?_, ?_⟩
    · rw [bind_of_ok hact, hf]
    · rw [bind_of_ok hact', hf']
  | error e =>
    refine ⟨.error e, p', hp', ?_, ?_⟩
    · rw [bind_of_error hact]
      rfl
    · rw [bind_of_error hact']
      rfl

/-! ### Exchanges -/

/-- **One more exchange**, after which the pilot believes what the exchange establishes. -/
theorem Recalls.push {p : Pilot (Watched χ)} (h : p.Recalls) (link : χ) {e : Exchange} {b : Belief}
    (hneeded : e.Needed p.belief) (hb : b = p.belief.learn e) :
    Recalls ⟨⟨link, e :: p.link.past⟩, b⟩ where
  belief := by rw [hb, h.belief]; rfl
  needed e' earlier hsuffix := by
    rcases List.suffix_cons_iff.1 hsuffix with heq | hsuffix
    · -- the new entry, behind everything that was there before
      cases heq
      rw [← h.belief]
      exact hneeded
    · exact h.needed e' earlier hsuffix

/-- **How an exchange ends** for the pilot, and which response is in the transcript. -/
inductive Ending : Except (Trouble LinkError) String → Option String → Prop
  | answered (response : String) : Ending (.ok response) (some response)
  | silent (e : Trouble LinkError) : Ending (.error e) none
  | rejected (e : Trouble LinkError) (reason : Rejection) : Ending (.error e) (some reason.line)

variable (ch : Link χ) (manner : Manner)

/-- **An exchange puts one entry on the transcript.** -/
theorem exchange_watched (r : Request) (p : Pilot (Watched χ)) :
    ∃ (res : Except (Trouble LinkError) String) (link : χ) (response : Option String),
      Ending res response ∧
      exchange ch.watched manner r p =
        (⟨⟨link, ⟨r.line, response⟩ :: p.link.past⟩, p.belief⟩ : Pilot (Watched χ)).resultOf res ∧
      exchange ch manner r p.unwatched = (⟨link, p.belief⟩ : Pilot χ).resultOf res := by
  simp only [exchange, bind_apply, overLink, Link.watched, unwatched]
  -- at each point where the link has its say, both pilots are told the same
  cases hsend : ch.send r.line p.link.link with
  | error e link => exact ⟨.error e, link, none, .silent e, rfl, rfl⟩
  | ok u link =>
    dsimp only
    cases hreceive : ch.receive manner.patience link with
    | error e link' => exact ⟨.error e, link', none, .silent e, rfl, rfl⟩
    | ok o link' =>
      -- no answer, one of the two rejections, or an answer: the exchange ends in one of three ways
      cases o with
      | none =>
        exact ⟨.error (.failed (.noResponse r.line manner.patience)), link', none, .silent _, rfl,
          rfl⟩
      | some response =>
        dsimp only
        by_cases hfail : response = Rejection.failLine
        · rw [if_pos hfail, if_pos hfail, hfail]
          exact ⟨_, link', _, .rejected (.failed (.rejected r.line)) .badParameters, rfl, rfl⟩
        · rw [if_neg hfail, if_neg hfail]
          by_cases herror : response = Rejection.errorLine
          · rw [if_pos herror, if_pos herror, herror]
            exact ⟨_, link', _, .rejected (.failed (.unknownRequest r.line)) .unknownCommand, rfl,
              rfl⟩
          · rw [if_neg herror, if_neg herror]
            exact ⟨_, link', _, .answered response, rfl, rfl⟩

/-- **A command succeeds exactly if it is acknowledged.** -/
theorem order_watched (r : Request) (p : Pilot (Watched χ)) :
    ∃ (res : Except (Trouble LinkError) Unit) (link : χ) (response : Option String),
      (response = some r.acknowledgement ↔ res = .ok ()) ∧
      order ch.watched manner r p =
        (⟨⟨link, ⟨r.line, response⟩ :: p.link.past⟩, p.belief⟩ : Pilot (Watched χ)).resultOf res ∧
      order ch manner r p.unwatched = (⟨link, p.belief⟩ : Pilot χ).resultOf res := by
  obtain ⟨res, link, response, hending, hwatched, hplain⟩ := exchange_watched ch manner r p
  -- only an answer can be the acknowledgement that is waited for
  cases hending with
  | answered response =>
    rw [order, order, bind_of_ok hwatched, bind_of_ok hplain]
    by_cases hack : response = r.acknowledgement
    · simp only [if_pos hack]
      exact ⟨.ok (), link, some response, by simp [hack], rfl, rfl⟩
    · simp only [if_neg hack]
      exact ⟨.error (.failed (.wrongResponse r.line r.acknowledgement response)), link,
        some response, by simp [hack], rfl, rfl⟩
  | silent e =>
    rw [order, order, bind_of_error hwatched, bind_of_error hplain]
    exact ⟨.error e, link, none, by simp, rfl, rfl⟩
  | rejected e reason =>
    rw [order, order, bind_of_error hwatched, bind_of_error hplain]
    refine ⟨.error e, link, some reason.line, ?_, rfl, rfl⟩
    -- no rejection is written as an acknowledgement
    simp [reason.line_ne_acknowledgement r]

/-- **A question succeeds exactly with its answer.** -/
theorem ask_watched (q : Query α) (p : Pilot (Watched χ)) :
    ∃ (res : Except (Trouble LinkError) α) (link : χ) (response : Option String),
      response.bind q.answer? = res.toOption ∧
      ask ch.watched manner q p = (⟨⟨link, ⟨q.request.line, response⟩ :: p.link.past⟩, p.belief⟩ :
        Pilot (Watched χ)).resultOf res ∧
      ask ch manner q p.unwatched = (⟨link, p.belief⟩ : Pilot χ).resultOf res := by
  obtain ⟨res, link, response, hending, hwatched, hplain⟩ := exchange_watched ch manner q.request p
  -- an answer is read by the query itself, on both sides; without one there is nothing to read
  cases hending with
  | answered response =>
    exact ⟨q.decode response, link, some response, (q.toOption_decode response).symm,
      ask_of_exchange ch.watched manner hwatched, ask_of_exchange ch manner hplain⟩
  | silent e =>
    rw [ask, ask, bind_of_error hwatched, bind_of_error hplain]
    exact ⟨.error e, link, none, rfl, rfl, rfl⟩
  | rejected e reason =>
    rw [ask, ask, bind_of_error hwatched, bind_of_error hplain]
    exact ⟨.error e, link, some reason.line, q.answer?_rejection reason, rfl, rfl⟩

/-- Only the four questions whose answers are remembered have to be needed. -/
theorem needed_of_notMem {r : Request} (h : r ∉ [.askLocation, .askFacing, .askGems, .askSize])
    (response : Option String) (b : Belief) : Exchange.Needed ⟨r.line, response⟩ b := by
  have hline := Request.line_notMem_factLines h
  simp only [Request.factLines, List.mem_cons, List.not_mem_nil, or_false, not_or] at hline
  obtain ⟨hlocation, hfacing, hgems, hsize⟩ := hline
  exact ⟨fun heq => absurd heq hlocation, fun heq => absurd heq hfacing,
    fun heq => absurd heq hgems, fun heq => absurd heq hsize⟩

/-- **A command after which the belief is changed** as its acknowledgement says. -/
theorem faithful_order_believe {r : Request} {change : Belief → Belief}
    (h : r ∉ [.askLocation, .askFacing, .askGems, .askSize])
    (hchange : ∀ b : Belief, b.onAcknowledged r.line = change b) :
    Faithful (do order ch.watched manner r; believe change)
      (do order ch manner r; believe change) := by
  intro p hp
  obtain ⟨res, link, response, hack, hwatched, hplain⟩ := order_watched ch manner r p
  have hlearn := p.belief.learn_command h response
  cases res with
  | ok u =>
    -- between the acknowledgement and the change the pilot does not recall: both are one step
    rw [if_pos (hack.2 rfl), hchange] at hlearn
    refine ⟨.ok (), _, hp.push link (needed_of_notMem h response _) hlearn.symm, ?_, ?_⟩
    · rw [bind_of_ok hwatched]
      rfl
    · rw [bind_of_ok hplain]
      rfl
  | error e =>
    -- whatever has come back, it was no acknowledgement, and the belief stays
    rw [if_neg (fun heq => nomatch hack.1 heq)] at hlearn
    refine ⟨.error e, _, hp.push link (needed_of_notMem h response _) hlearn.symm, ?_, ?_⟩
    · rw [bind_of_error hwatched]
      rfl
    · rw [bind_of_error hplain]
      rfl

/-- **A command that makes nothing known.** -/
theorem faithful_order {r : Request} (h : r ∉ [.askLocation, .askFacing, .askGems, .askSize])
    (hstay : ∀ b : Belief, b.onAcknowledged r.line = b) :
    Faithful (order ch.watched manner r) (order ch manner r) := by
  intro p hp
  obtain ⟨res, link, response, -, hwatched, hplain⟩ := order_watched ch manner r p
  have hlearn := p.belief.learn_command h response
  rw [hstay, ite_self] at hlearn
  exact ⟨res, _, hp.push link (needed_of_notMem h response _) hlearn.symm, hwatched, hplain⟩

/-- What a cell holds is asked for every time, and not remembered. -/
theorem faithful_ask_cell (c : Coord) :
    Faithful (ask ch.watched manner (.cell c)) (ask ch manner (.cell c)) := by
  intro p hp
  obtain ⟨res, link, response, -, hwatched, hplain⟩ := ask_watched ch manner (.cell c) p
  have hneeded := needed_of_notMem (r := .askCell c) (by simp) response p.belief
  have hlearn := p.belief.learn_cell c response
  exact ⟨res, _, hp.push link hneeded hlearn.symm, hwatched, hplain⟩

/-- **A fact that is remembered** is asked for only if it is unknown, and then is what its answer
says. -/
theorem faithful_find {q : Query α} {known : Belief → Option α} {learn : α → Belief → Belief}
    (hneeded : ∀ (b : Belief) (response : Option String), known b = none →
      Exchange.Needed ⟨q.request.line, response⟩ b)
    (hlearn : ∀ (b : Belief) (response : Option String), b.learn ⟨q.request.line, response⟩ =
      (response.bind q.answer?).elim b fun a => learn a b) :
    Faithful (find ch.watched manner q known learn) (find ch manner q known learn) := by
  intro p hp
  -- what is known is asked for by neither
  cases hb : known p.belief with
  | some a => exact ⟨.ok a, p, hp, find_of_known _ manner hb, find_of_known _ manner hb⟩
  | none =>
    -- the fact is unknown, so the exchange is needed
    obtain ⟨res, link, response, hanswer, hwatched, hplain⟩ := ask_watched ch manner q p
    have hlearned := hlearn p.belief response
    rw [hanswer] at hlearned
    have hrecalls := hp.push link (hneeded p.belief response hb) hlearned.symm
    have hb' : known p.unwatched.belief = none := hb
    rw [find_of_unknown _ manner hb, find_of_unknown _ manner hb']
    cases res with
    | ok a =>
      refine ⟨.ok a, _, hrecalls, ?_, ?_⟩
      · rw [bind_of_ok hwatched]
        rfl
      · rw [bind_of_ok hplain]
        rfl
    | error e =>
      refine ⟨.error e, _, hrecalls, ?_, ?_⟩
      · rw [bind_of_error hwatched]
        rfl
      · rw [bind_of_error hplain]
        rfl

/-! ### Facts and changes -/

theorem faithful_findLocation :
    Faithful (findLocation ch.watched manner) (findLocation ch manner) := by
  rw [findLocation_eq, findLocation_eq]
  refine faithful_find ch manner (fun b response hb => ?_) fun b => b.learn_location
  exact ⟨fun _ => hb,
    by simp [Query.location, Request.line], by simp [Query.location, Request.line],
    by simp [Query.location, Request.line]⟩

theorem faithful_findFacing :
    Faithful (findFacing ch.watched manner) (findFacing ch manner) := by
  rw [findFacing_eq, findFacing_eq]
  refine faithful_find ch manner (fun b response hb => ?_) fun b => b.learn_facing
  exact ⟨by simp [Query.facing, Request.line], fun _ => hb, by simp [Query.facing, Request.line],
    by simp [Query.facing, Request.line]⟩

theorem faithful_findGems : Faithful (findGems ch.watched manner) (findGems ch manner) := by
  rw [findGems_eq, findGems_eq]
  refine faithful_find ch manner (fun b response hb => ?_) fun b => b.learn_gems
  exact ⟨by simp [Query.gemCount, Request.line], by simp [Query.gemCount, Request.line],
    fun _ => hb, by simp [Query.gemCount, Request.line]⟩

theorem faithful_findSize : Faithful (findSize ch.watched manner) (findSize ch manner) := by
  rw [findSize_eq, findSize_eq]
  refine faithful_find ch manner (fun b response hb => ?_) fun b => b.learn_gridSize
  exact ⟨by simp [Query.gridSize, Request.line], by simp [Query.gridSize, Request.line],
    by simp [Query.gridSize, Request.line], fun _ => hb⟩

theorem faithful_cellToward (d : Direction) :
    Faithful (cellToward ch.watched manner d) (cellToward ch manner d) :=
  (faithful_findLocation ch manner).bind fun _ =>
    (faithful_findSize ch manner).bind fun _ => faithful_pure _

/-- **The cell next to the agent is looked at**, whatever is done then. -/
theorem faithful_look {off : Action (Watched χ) α} {off' : Action χ α}
    {there : Coord → Cell → Action (Watched χ) α} {there' : Coord → Cell → Action χ α}
    (d : Direction) (hoff : Faithful off off')
    (hthere : ∀ c cell, Faithful (there c cell) (there' c cell)) :
    Faithful
      (do
        let some target ← cellToward ch.watched manner d | off
        let cell ← ask ch.watched manner (.cell target)
        there target cell)
      (do
        let some target ← cellToward ch manner d | off'
        let cell ← ask ch manner (.cell target)
        there' target cell) := by
  refine (faithful_cellToward ch manner d).bind fun target => ?_
  -- the recording pilot stops looking where the other does
  cases target with
  | none => exact hoff
  | some target => exact (faithful_ask_cell ch manner target).bind fun cell => hthere target cell

theorem faithful_turnTo (d : Direction) :
    Faithful (turnTo ch.watched manner d) (turnTo ch manner d) :=
  faithful_order_believe ch manner (by simp) fun b =>
    b.onAcknowledged_line (r := .face d) trivial

theorem faithful_hold (n : UInt32) : Faithful (hold ch.watched manner n) (hold ch manner n) :=
  faithful_order_believe ch manner (by simp) fun b =>
    b.onAcknowledged_line (r := .holdGems n) trivial

theorem faithful_goTo (c : Coord) :
    Faithful (do order ch.watched manner (.goTo c); believe ({ · with location := some c }))
      (do order ch manner (.goTo c); believe ({ · with location := some c })) :=
  faithful_order_believe ch manner (by simp) fun b =>
    b.onAcknowledged_line (r := .goTo c) trivial

theorem faithful_putCell (c : Coord) {cell : Cell} (h : cell.Ordinary) :
    Faithful (order ch.watched manner (.putCell c cell)) (order ch manner (.putCell c cell)) :=
  faithful_order ch manner (by simp) fun b => b.onAcknowledged_line (r := .putCell c cell) h

/-- **Another grid**: what is known is forgotten before the size is asked for. -/
theorem faithful_changeGrid (name : String) :
    Faithful (changeGrid ch.watched manner name) (changeGrid ch manner name) := by
  have hload := faithful_order_believe ch manner (r := .loadGrid name) (by simp)
    fun b => b.onAcknowledged_loadGrid name
  -- if the size cannot be found, the other facts are forgotten all the same
  have hsize := (faithful_findSize ch manner).bind fun _ => faithful_pure ()
  have hall := hload.bind fun _ => hsize
  simp only [bind_assoc] at hall
  exact hall

/-! ### Operations -/

theorem faithful_goAhead : Faithful (goAhead ch.watched manner) (goAhead ch manner) := by
  refine (faithful_findFacing ch manner).bind fun d => ?_
  refine faithful_look ch manner d (faithful_pure ()) fun target cell => ?_
  cases cell with
  | wall => exact faithful_pure ()
  | gems n => exact faithful_goTo ch manner target

theorem faithful_takeAhead : Faithful (takeAhead ch.watched manner) (takeAhead ch manner) := by
  refine (faithful_findFacing ch manner).bind fun d => ?_
  -- both look at the same cell, and so take the same branch from here on
  refine faithful_look ch manner d (faithful_pure ()) fun target cell => ?_
  dsimp only
  by_cases hzero : cell.gemCount = 0
  · rw [if_pos hzero, if_pos hzero]
    exact faithful_pure ()
  · rw [if_neg hzero, if_neg hzero]
    refine (faithful_findGems ch manner).bind fun held => ?_
    have hempty : Cell.empty.Ordinary := by decide
    -- the first command may be carried out and the second one fail; that is two steps
    have hmove := (faithful_putCell ch manner target hempty).bind fun _ =>
      faithful_hold ch manner (held + cell.gemCount.toUInt32)
    by_cases hroom : UInt32.size ≤ held.toNat + cell.gemCount.toNat
    · rw [if_pos hroom, if_pos hroom]
      exact (faithful_throw _).bind fun _ => hmove
    · rw [if_neg hroom, if_neg hroom]
      exact hmove

theorem faithful_dropAhead : Faithful (dropAhead ch.watched manner) (dropAhead ch manner) := by
  refine (faithful_findGems ch manner).bind fun held => ?_
  -- whether there is a gem to drop is known before anything is looked at
  by_cases hheld : held = 0
  · rw [if_pos hheld, if_pos hheld]
    exact faithful_pure ()
  · rw [if_neg hheld, if_neg hheld]
    refine (faithful_findFacing ch manner).bind fun d => ?_
    refine faithful_look ch manner d (faithful_pure ()) fun target cell => ?_
    cases cell with
    | wall => exact faithful_pure ()
    | gems n =>
      dsimp only
      -- both compare the number that they have been told with the same bound
      by_cases hfull : Cell.mostGems ≤ n
      · rw [if_pos hfull, if_pos hfull]
        exact faithful_pure ()
      · rw [if_neg hfull, if_neg hfull]
        have hroom := Cell.ordinary_gems_succ (UInt8.not_le.1 hfull)
        exact (faithful_putCell ch manner target hroom).bind fun _ => faithful_hold ch manner _

theorem faithful_seesGemAhead :
    Faithful (seesGemAhead ch.watched manner) (seesGemAhead ch manner) := by
  refine (faithful_findFacing ch manner).bind fun d => ?_
  exact faithful_look ch manner d (faithful_pure false) fun target cell => faithful_pure _

theorem faithful_isOpen (side : Side) :
    Faithful (isOpen ch.watched manner side) (isOpen ch manner side) := by
  refine (faithful_findFacing ch manner).bind fun d => ?_
  cases side.towardModulo manner.modulus d with
  -- other moduli than 3 and 4 may lead to no direction
  | error a => exact faithful_throw _
  | ok d => exact faithful_look ch manner d (faithful_pure false) fun target cell => faithful_pure _

theorem faithful_obey (c : Command) : Faithful (obey ch.watched manner c) (obey ch manner c) := by
  -- each command is one of the actions above; the turns find the facing first
  cases c with
  | move m =>
    cases m with
    | step => exact faithful_goAhead ch manner
    | turnLeft =>
      exact (faithful_findFacing ch manner).bind fun d => faithful_turnTo ch manner d.leftOf
    | turnRight =>
      exact (faithful_findFacing ch manner).bind fun d => faithful_turnTo ch manner d.rightOf
    | take => exact faithful_takeAhead ch manner
    | drop => exact faithful_dropAhead ch manner
  | loadGrid name => exact faithful_changeGrid ch manner name
  | setGems n => exact faithful_hold ch manner n
  | stop =>
    exact faithful_order ch manner (by simp) fun b => b.onAcknowledged_line (r := .stop) trivial

theorem faithful_answer (c : Condition) :
    Faithful (answer ch.watched manner c) (answer ch manner c) := by
  cases c with
  | clear side => exact faithful_isOpen ch manner side
  | seesGem => exact faithful_seesGemAhead ch manner
  | hasGem => exact (faithful_findGems ch manner).bind fun _ => faithful_pure _
  | facing d => exact (faithful_findFacing ch manner).bind fun _ => faithful_pure _

/-- **Every errand is faithful.** -/
theorem faithful_carryOut (e : Errand) :
    Faithful (e.carryOut ch.watched manner) (e.carryOut ch manner) := by
  cases e with
  | loadGrid name => exact (faithful_obey ch manner _).bind fun _ => faithful_pure none
  | onGrid o =>
    cases o with
    | move m => exact (faithful_obey ch manner _).bind fun _ => faithful_pure none
    | setGems n => exact (faithful_obey ch manner _).bind fun _ => faithful_pure none
    | stop => exact (faithful_obey ch manner _).bind fun _ => faithful_pure none
    | showTraffic on =>
      have horder := faithful_order ch manner (r := .showMessages on) (by simp)
        fun b => b.onAcknowledged_line (r := .showMessages on) trivial
      exact horder.bind fun _ => faithful_pure none
    | test c => exact (faithful_answer ch manner c).bind fun _ => faithful_pure _

/-! ### Several errands -/

/-- **Errands in turn keep recalling**, whether they succeed or fail. By induction on the errands.
-/
theorem inTurn_faithful (es : List Errand) {p : Pilot (Watched χ)} (hp : p.Recalls) :
    let watched := inTurn (es.map (·.carryOut ch.watched manner)) p
    watched.2.Recalls ∧
      inTurn (es.map (·.carryOut ch manner)) p.unwatched = (watched.1, watched.2.unwatched) := by
  -- the induction is on the errands, and what is carried is that the pilot recalls
  induction es generalizing p with
  | nil => exact ⟨hp, rfl⟩
  | cons e es ih =>
    obtain ⟨r, p', hp', hwatched, hplain⟩ := faithful_carryOut ch manner e p hp
    obtain ⟨hrecalls, hsame⟩ := ih hp'
    rw [List.map_cons, List.map_cons, inTurn, inTurn, hwatched, hplain]
    -- the next errand comes behind a failure as well
    cases r with
    | ok a =>
      simp only [resultOf]
      rw [hsame]
      exact ⟨hrecalls, rfl⟩
    | error e =>
      simp only [resultOf]
      rw [hsame]
      exact ⟨hrecalls, rfl⟩

/-- **A pilot believes exactly what its conversation has established**, over whatever link and after
whatever errands, successful or not: what its transcript establishes, beginning with nothing. And it
asks for the place, the direction, the gems and the size only while they are unknown. Keeping the
transcript changes neither the results nor the belief. -/
theorem belief_eq_ofPast (link : χ) (es : List Errand) :
    let watched := inTurn (es.map (·.carryOut ch.watched manner)) (ofLink ⟨link, []⟩)
    watched.2.belief = .ofPast watched.2.link.past ∧
      (∀ e earlier, (e :: earlier) <:+ watched.2.link.past → e.Needed (.ofPast earlier)) ∧
      inTurn (es.map (·.carryOut ch manner)) (ofLink link) =
        (watched.1, ⟨watched.2.link.link, watched.2.belief⟩) := by
  have hstart : (ofLink ⟨link, []⟩ : Pilot (Watched χ)).Recalls :=
    ⟨rfl, fun e earlier h => by simpa [ofLink] using List.suffix_nil.1 h⟩
  obtain ⟨hrecalls, hsame⟩ := inTurn_faithful ch manner es hstart
  exact ⟨hrecalls.belief, hrecalls.needed, hsame⟩

/-- A far end that does not let the agent go anywhere, and has another grid. -/
def reluctant : Simulator :=
  { Simulator.ofWorld { World.empty 3 1 with agent := ⟨1, 0⟩, held := 5 } with
    grids := [("yard", .empty 3 2)], refuses := some "GOTO" }

/-- A look at what the agent holds, a turn, two steps, and then the other grid. -/
def turnStepsAndLoad : List Errand :=
  [.onGrid (.test .hasGem), .onGrid (.move .turnRight), .onGrid (.move .step),
    .onGrid (.move .step), .loadGrid "yard"]

/-- What the reluctant far end is sent, and what it answers, the last exchange first. -/
def refusals : List Exchange :=
  [⟨"GETSIZE", some "GRIDSIZE 3 2"⟩, ⟨"LOADGRID yard", some "ACK LOADGRID yard"⟩,
    ⟨"GOTO 2 0", some "CMDFAIL"⟩, ⟨"GETGRID 2 0", some "GRID 2 0 0"⟩,
    ⟨"GOTO 2 0", some "CMDFAIL"⟩, ⟨"GETGRID 2 0", some "GRID 2 0 0"⟩,
    ⟨"GETSIZE", some "GRIDSIZE 3 1"⟩, ⟨"GETLOC", some "ROBISAT 1 0"⟩,
    ⟨"FACE RIGHT", some "ACK FACE RIGHT"⟩, ⟨"GETDIR", some "ROBISFACING UP"⟩,
    ⟨"GETJEWLCNT", some "ROBHAS 5"⟩]

/-- The first step fails after the facts have been learned. The second step asks for the cell ahead
only, and then tries once more. With the other grid everything is unknown again but the gems, and
its size is asked for. -/
theorem belief_after_refusals :
    (inTurn (turnStepsAndLoad.map (·.carryOut Simulator.link ⟨1000, 4⟩))
        (ofLink reluctant)).2.belief = .ofPast refusals ∧
      Belief.ofPast (refusals.drop 2) = ⟨some ⟨1, 0⟩, some .right, some 5, some ⟨3, 1⟩⟩ ∧
      Belief.ofPast (refusals.drop 1) = ⟨none, none, some 5, none⟩ ∧
      Belief.ofPast refusals = ⟨none, none, some 5, some ⟨3, 2⟩⟩ := by
  obtain ⟨hbelief, -, hsame⟩ :=
    -- the general theorem gives the belief by the transcript, and the run gives the transcript
    belief_eq_ofPast Simulator.link ⟨1000, 4⟩ reluctant turnStepsAndLoad
  have hpast : (inTurn (turnStepsAndLoad.map (Errand.carryOut Simulator.link.watched ⟨1000, 4⟩))
      (ofLink (⟨reluctant, []⟩ : Watched Simulator))).2.link.past = refusals := by
    decide +kernel
  refine ⟨?_, by decide +kernel, by decide +kernel, by decide +kernel⟩
  rw [hsame, hbelief, hpast]

end Pilot

end GridScript
