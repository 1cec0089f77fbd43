import GridScript.Proofs.Pilot.Recall

/-!
# A pilot commands nothing rash

Whatever a far end answers, a pilot sends a command only for a reason that it has: the place ahead
is where its facts say, on the grid as they say it is, and has just been looked at. The reasons are
read off the transcript, so they are about what was really sent and what really came back.

* `Request.Warranted` — when an errand may make a request.
* `Pilot.Careful`, `Pilot.Keeps` — an errand under way, and the actions that it is made of. Their
  assertions are about what is known and about the exchanges of the errand so far; asking for more
  leaves those that are `Lasting` true.
* `Pilot.keeps_order`, `Pilot.keeps_ask_cell`, `Pilot.keeps_find` — one exchange of each kind.
* `Pilot.keeps_look` — the look at the next cell, on which every command on the grid rests.
* `Pilot.sent_warranted` — every line of every conversation, and `Pilot.sent_warranted_courtyard` —
  the commands of one of them.
-/

namespace GridScript

/-- **A neighbour inside a grid is the exact one.** At the last of the 32-bit integers a step stays
in place, and no grid reaches there. -/
theorem GridSize.beside_of_contains_step {size : GridSize} {here : Coord} {d : Direction}
    (h : size.contains (here.step d) = true) :
    ((here.step d).x.toInt, (here.step d).y.toInt) = here.beside d ∧
      (0 ≤ (here.step d).x.toInt ∧ (here.step d).x.toInt < size.width.toInt) ∧
      0 ≤ (here.step d).y.toInt ∧ (here.step d).y.toInt < size.height.toInt := by
  have hmin : Int32.minValue.toInt = -2147483648 := by decide
  have hmax : Int32.maxValue.toInt = 2147483647 := by decide
  have hzero : (0 : Int32).toInt = 0 := by decide
  simp only [contains, Bool.and_eq_true, decide_eq_true_eq, Int32.le_iff_toInt_le,
    Int32.lt_iff_toInt_lt, hzero] at h
  -- the four bounds speak of the clamped sum; the exact one is to be the same number
  obtain ⟨⟨⟨hx, hx'⟩, hy⟩, hy'⟩ := h
  refine ⟨?_, ⟨hx, hx'⟩, hy, hy'⟩
  -- a number that was clamped is the last one, and no side is longer than that
  have hexact {i : Int} {limit : Int32} (h0 : 0 ≤ (Int32.ofIntClamp i).toInt)
      (hlt : (Int32.ofIntClamp i).toInt < limit.toInt) : (Int32.ofIntClamp i).toInt = i := by
    have hlimit := limit.toInt_le
    by_cases hlow : Int32.minValue.toInt ≤ i
    · by_cases hhigh : i ≤ Int32.maxValue.toInt
      · exact Int32.toInt_ofIntClamp hlow hhigh
      · rw [Int32.ofIntClamp, dif_pos hlow, dif_neg hhigh] at hlt
        omega
    · rw [Int32.ofIntClamp, dif_neg hlow] at h0
      omega
  rw [Coord.step_eq_beside] at hx hx' hy hy' ⊢
  exact Prod.ext (hexact hx hx') (hexact hy hy')

/-! ### When a request may be made -/

/-- An exchange that has found what a cell holds. -/
structure Exchange.Finds (e : Exchange) (c : Coord) (cell : Cell) : Prop where
  request : e.request = (Request.askCell c).line
  response : e.response.bind (Query.cell c).answer? = some cell

/-- The exchange of a command that has been acknowledged. -/
def Request.accepted (r : Request) : Exchange := ⟨r.line, some r.acknowledgement⟩

/-- **The place next to the agent** in a direction, as far as is known: exactly one step away, and
on the grid. -/
def Belief.Toward (b : Belief) (d : Direction) (c : Coord) : Prop :=
  ∃ here size, b.location = some here ∧ b.gridSize = some size ∧
    (c.x.toInt, c.y.toInt) = here.beside d ∧
    (0 ≤ c.x.toInt ∧ c.x.toInt < size.width.toInt) ∧
    0 ≤ c.y.toInt ∧ c.y.toInt < size.height.toInt

/-- **The place ahead of the agent**, as far as is known. -/
def Belief.Ahead (b : Belief) (c : Coord) : Prop :=
  ∃ d, b.facing = some d ∧ b.Toward d c

/-- **When an errand may make a request**: by what is known then, and by the exchanges that the
errand has made before, the last one first. Questions may be asked at any time. -/
def Request.Warranted (o : Errand) (b : Belief) (sooner : List Exchange) : Request → Prop
  | goTo c =>
    o = .onGrid (.move .step) ∧ b.Ahead c ∧
      ∃ e n, sooner.head? = some e ∧ e.Finds c (.gems n)
  | putCell c cell =>
    b.Ahead c ∧ ∃ e ∈ sooner, ∃ n, e.Finds c (.gems n) ∧
      (o = .onGrid (.move .take) ∧ cell = .gems 0 ∧ 0 < n ∨
        o = .onGrid (.move .drop) ∧ (∃ held, b.gems = some held ∧ 0 < held) ∧
          ∃ more, cell = .gems more ∧ more.toNat = n.toNat + 1 ∧ more ≤ 9)
  | holdGems count =>
    o = .onGrid (.setGems count) ∨
      (∃ held, b.gems = some held ∧ ∃ c,
        (o = .onGrid (.move .take) ∧ sooner.head? = some (putCell c (.gems 0)).accepted ∧
          ∃ e ∈ sooner, ∃ n, e.Finds c (.gems n) ∧ count.toNat = held.toNat + n.toNat) ∨
        o = .onGrid (.move .drop) ∧
          (∃ more, sooner.head? = some (putCell c (.gems more)).accepted) ∧
            count.toNat + 1 = held.toNat)
  | face d =>
    ∃ before, b.facing = some before ∧
      (o = .onGrid (.move .turnLeft) ∧ d = before.turned 4 3 ∨
        o = .onGrid (.move .turnRight) ∧ d = before.turned 4 1)
  | loadGrid name => o = .loadGrid name
  | showMessages on => o = .onGrid (.showTraffic on)
  | stop => o = .onGrid .stop
  | askLocation | askFacing | askGems | askCell _ | askSize => True

/-- Tests make no commands. -/
theorem Request.Warranted.isCommand_of_test {c : Condition} {b : Belief} {sooner : List Exchange}
    {r : Request} (h : r.Warranted (.onGrid (.test c)) b sooner) : r.isCommand = false := by
  cases r <;> simp_all [Warranted, isCommand, expected]

namespace Belief

/-- **Knowing more**: what was known is known still. -/
structure Extends (b b' : Belief) : Prop where
  location : ∀ c, b.location = some c → b'.location = some c
  facing : ∀ d, b.facing = some d → b'.facing = some d
  gems : ∀ n, b.gems = some n → b'.gems = some n
  gridSize : ∀ s, b.gridSize = some s → b'.gridSize = some s

theorem Extends.refl (b : Belief) : b.Extends b :=
  ⟨fun _ h => h, fun _ h => h, fun _ h => h, fun _ h => h⟩

end Belief

namespace Pilot

variable {χ α β : Type}

/-! ### What is known along the way -/

/-- **An assertion** about what is known and about the exchanges of an errand so far. -/
abbrev Assertion := Belief → List Exchange → Prop

/-- **An assertion that lasts** while more is asked. -/
structure Assertion.Lasting (P : Assertion) : Prop where
  step : ∀ {b b' : Belief} {new : List Exchange} (e : Exchange), P b new → b.Extends b' →
    P b' (e :: new)

/-- **A pilot in the middle of an errand**: it believes what the transcript establishes, and every
request of the errand was warranted when it was made. -/
structure Careful (o : Errand) (old new : List Exchange) (p : Pilot (Watched χ)) : Prop where
  past : p.link.past = new ++ old
  belief : p.belief = .ofPast (new ++ old)
  warranted : ∀ later x sooner, new = later ++ x :: sooner →
    ∃ r : Request, x.request = r.line ∧ r.Warranted o (.ofPast (sooner ++ old)) sooner

/-- **An action that stays careful**: begun where `P` holds, it leaves a careful pilot behind, and
where it succeeds, `Q` holds of its result. -/
def Keeps (o : Errand) (old : List Exchange) (P : Assertion) (act : Action (Watched χ) α)
    (Q : α → Assertion) : Prop :=
  ∀ (p : Pilot (Watched χ)) (new : List Exchange), Careful o old new p → P p.belief new →
    ∃ (r : Except (Trouble LinkError) α) (p' : Pilot (Watched χ)) (new' : List Exchange),
      act p = p'.resultOf r ∧ Careful o old new' p' ∧ ∀ a, r = .ok a → Q a p'.belief new'

variable {o : Errand} {old : List Exchange} {P P' : Assertion} {Q : α → Assertion}

theorem keeps_pure {a : α} (h : ∀ b new, P b new → Q a b new) :
    Keeps (χ := χ) o old P (pure a) Q := by
  intro p new hp hP
  refine ⟨.ok a, p, new, rfl, hp, fun a' ha => ?_⟩
  cases ha
  exact h _ _ hP

theorem keeps_throw (e : Trouble LinkError) : Keeps (χ := χ) o old P (throw e) Q :=
  fun p new hp _ => ⟨.error e, p, new, rfl, hp, fun _ ha => nomatch ha⟩

theorem Keeps.bind {act : Action (Watched χ) α} {f : α → Action (Watched χ) β}
    {R : β → Assertion} (h : Keeps o old P act Q) (hf : ∀ a, Keeps o old (Q a) (f a) R) :
    Keeps o old P (act >>= f) R := by
  intro p new hp hP
  obtain ⟨r, p', new', hact, hp', hQ⟩ := h p new hp hP
  cases r with
  | ok a =>
    obtain ⟨r, p'', new'', hfact, hp'', hR⟩ := hf a p' new' hp' (hQ a rfl)
    exact ⟨r, p'', new'', by rw [bind_of_ok hact, hfact], hp'', hR⟩
  | error e =>
    exact ⟨.error e, p', new', by rw [bind_of_error hact]; rfl, hp', fun _ ha => nomatch ha⟩

theorem Keeps.weaken {act : Action (Watched χ) α} (h : Keeps o old P act Q)
    (hP : ∀ b new, P' b new → P b new) : Keeps o old P' act Q :=
  fun p new hp hP' => h p new hp (hP _ _ hP')

/-! ### Exchanges -/

variable (ch : Link χ) (manner : Manner)

/-- **One more exchange**, whose request is warranted by what was known before. -/
theorem Careful.push {new : List Exchange} {p : Pilot (Watched χ)} (h : Careful o old new p)
    {r : Request} (hr : r.Warranted o p.belief new) (response : Option String) (link : χ)
    {b : Belief} (hb : b = p.belief.learn ⟨r.line, response⟩) :
    Careful o old (⟨r.line, response⟩ :: new) ⟨⟨link, ⟨r.line, response⟩ :: p.link.past⟩, b⟩ where
  past := by rw [h.past]; rfl
  belief := by rw [hb, h.belief]; rfl
  warranted later x sooner hsplit := by
    -- the newest exchange is the one that is pushed, and every older one was warranted before
    cases later with
    | nil =>
      cases hsplit
      exact ⟨r, rfl, h.belief ▸ hr⟩
    | cons y later => exact h.warranted later x sooner (List.cons.inj hsplit).2

/-- **A command that makes nothing known.** Behind it stands its acknowledgement. -/
theorem keeps_order {r : Request} (hcommand : r ∉ [.askLocation, .askFacing, .askGems, .askSize])
    (hstay : ∀ b : Belief, b.onAcknowledged r.line = b)
    (hr : ∀ b new, P b new → r.Warranted o b new) :
    Keeps o old P (order ch.watched manner r)
      fun _ b new => ∃ sooner, new = r.accepted :: sooner ∧ P b sooner := by
  intro p new hp hP
  obtain ⟨res, link, response, hack, hwatched, -⟩ := order_watched ch manner r p
  -- the acknowledgement is not one that the pilot learns from
  have hlearn := p.belief.learn_command hcommand response
  rw [hstay, ite_self] at hlearn
  refine ⟨res, _, _, hwatched, hp.push (hr _ _ hP) response link hlearn.symm, fun u hu => ?_⟩
  have hresponse : response = some r.acknowledgement := hack.2 hu
  exact ⟨new, by rw [hresponse]; rfl, hP⟩

/-- **A command after which the belief is changed** as its acknowledgement says. -/
theorem keeps_order_believe {r : Request} {change : Belief → Belief}
    (hcommand : r ∉ [.askLocation, .askFacing, .askGems, .askSize])
    (hchange : ∀ b : Belief, b.onAcknowledged r.line = change b)
    (hr : ∀ b new, P b new → r.Warranted o b new) :
    Keeps o old P (do order ch.watched manner r; believe change) fun _ _ _ => True := by
  intro p new hp hP
  obtain ⟨res, link, response, hack, hwatched, -⟩ := order_watched ch manner r p
  -- the change of the belief is what the acknowledgement teaches: the two are one step
  have hlearn := p.belief.learn_command hcommand response
  cases res with
  | ok u =>
    rw [if_pos (hack.2 rfl), hchange] at hlearn
    exact ⟨.ok (), _, _, by rw [bind_of_ok hwatched]; rfl,
      hp.push (hr _ _ hP) response link hlearn.symm, fun _ _ => trivial⟩
  | error e =>
    rw [if_neg (fun heq => nomatch hack.1 heq)] at hlearn
    exact ⟨.error e, _, _, by rw [bind_of_error hwatched]; rfl,
      hp.push (hr _ _ hP) response link hlearn.symm, fun _ _ => trivial⟩

/-- **What a cell holds** has just been found where it is asked for. -/
theorem keeps_ask_cell (c : Coord) (hP : P.Lasting) :
    Keeps o old P (ask ch.watched manner (.cell c)) fun cell b new =>
      P b new ∧ ∃ e, new.head? = some e ∧ e.Finds c cell := by
  intro p new hp hPp
  obtain ⟨res, link, response, hanswer, hwatched, -⟩ := ask_watched ch manner (.cell c) p
  have hlearn := p.belief.learn_cell c response
  have hwarranted : (Request.askCell c).Warranted o p.belief new := trivial
  refine ⟨res, _, _, hwatched, hp.push hwarranted response link hlearn.symm, fun cell hcell => ?_⟩
  rw [hcell] at hanswer
  exact ⟨hP.step _ hPp (.refl _), _, rfl, rfl, hanswer⟩

/-- **A fact that is remembered** is known once it has been found. -/
theorem keeps_find {q : Query α} {known : Belief → Option α} {learn : α → Belief → Belief}
    (hq : ∀ b new, q.request.Warranted o b new)
    (hlearn : ∀ (b : Belief) (response : Option String), b.learn ⟨q.request.line, response⟩ =
      (response.bind q.answer?).elim b fun a => learn a b)
    (hknown : ∀ a b, known (learn a b) = some a)
    (hextends : ∀ a b, known b = none → b.Extends (learn a b)) (hP : P.Lasting) :
    Keeps o old P (find ch.watched manner q known learn)
      fun a b new => P b new ∧ known b = some a := by
  intro p new hp hPp
  -- what is known is not asked for, and then the transcript stays as it is
  cases hb : known p.belief with
  | some a =>
    refine ⟨.ok a, p, new, find_of_known _ manner hb, hp, fun a' ha => ?_⟩
    cases ha
    exact ⟨hPp, hb⟩
  | none =>
    obtain ⟨res, link, response, hanswer, hwatched, -⟩ := ask_watched ch manner q p
    have hlearned := hlearn p.belief response
    rw [hanswer] at hlearned
    have hp' := hp.push (hq _ _) response link hlearned.symm
    rw [find_of_unknown _ manner hb]
    cases res with
    | ok a =>
      refine ⟨.ok a, _, _, by rw [bind_of_ok hwatched]; rfl, hp', fun a' ha => ?_⟩
      cases ha
      exact ⟨hP.step _ hPp (hextends a _ hb), hknown a _⟩
    | error e =>
      exact ⟨.error e, _, _, by rw [bind_of_error hwatched]; rfl, hp', fun _ ha => nomatch ha⟩

/-! ### Facts and changes -/

theorem keeps_findLocation (hP : P.Lasting) : Keeps o old P (findLocation ch.watched manner)
    fun c b new => P b new ∧ b.location = some c := by
  rw [findLocation_eq]
  refine keeps_find ch manner (fun b new => trivial) (fun b => b.learn_location)
    (fun c b => rfl) (fun c b hb => ?_) hP
  exact ⟨fun c' h => absurd (hb.symm.trans h) (by simp), fun _ h => h, fun _ h => h, fun _ h => h⟩

theorem keeps_findFacing (hP : P.Lasting) : Keeps o old P (findFacing ch.watched manner)
    fun d b new => P b new ∧ b.facing = some d := by
  rw [findFacing_eq]
  refine keeps_find ch manner (fun b new => trivial) (fun b => b.learn_facing)
    (fun d b => rfl) (fun d b hb => ?_) hP
  exact ⟨fun _ h => h, fun d' h => absurd (hb.symm.trans h) (by simp), fun _ h => h, fun _ h => h⟩

theorem keeps_findGems (hP : P.Lasting) : Keeps o old P (findGems ch.watched manner)
    fun n b new => P b new ∧ b.gems = some n := by
  rw [findGems_eq]
  refine keeps_find ch manner (fun b new => trivial) (fun b => b.learn_gems)
    (fun n b => rfl) (fun n b hb => ?_) hP
  exact ⟨fun _ h => h, fun _ h => h, fun n' h => absurd (hb.symm.trans h) (by simp), fun _ h => h⟩

theorem keeps_findSize (hP : P.Lasting) : Keeps o old P (findSize ch.watched manner)
    fun s b new => P b new ∧ b.gridSize = some s := by
  rw [findSize_eq]
  refine keeps_find ch manner (fun b new => trivial) (fun b => b.learn_gridSize)
    (fun s b => rfl) (fun s b hb => ?_) hP
  exact ⟨fun _ h => h, fun _ h => h, fun _ h => h, fun s' h => absurd (hb.symm.trans h) (by simp)⟩

/-! What is known lasts. -/

theorem Assertion.lasting_true : Assertion.Lasting fun _ _ => True := ⟨fun _ _ _ => trivial⟩

theorem Assertion.Lasting.and (hP : P.Lasting) (hP' : P'.Lasting) :
    Assertion.Lasting fun b new => P b new ∧ P' b new :=
  ⟨fun e h hb => ⟨hP.step e h.1 hb, hP'.step e h.2 hb⟩⟩

theorem Assertion.lasting_location (c : Coord) :
    Assertion.Lasting fun b _ => b.location = some c := ⟨fun _ h hb => hb.location c h⟩

theorem Assertion.lasting_facing (d : Direction) :
    Assertion.Lasting fun b _ => b.facing = some d := ⟨fun _ h hb => hb.facing d h⟩

theorem Assertion.lasting_gems (n : UInt32) :
    Assertion.Lasting fun b _ => b.gems = some n := ⟨fun _ h hb => hb.gems n h⟩

theorem Assertion.lasting_toward (d : Direction) (c : Coord) :
    Assertion.Lasting fun b _ => b.Toward d c := by
  refine ⟨fun e h hb => ?_⟩
  obtain ⟨here, size, hhere, hsize, hc⟩ := h
  exact ⟨here, size, hb.location _ hhere, hb.gridSize _ hsize, hc⟩

/-- What an exchange of the errand has found stays found. -/
theorem Assertion.lasting_found (c : Coord) (cell : Cell) :
    Assertion.Lasting fun _ new => ∃ e ∈ new, e.Finds c cell :=
  ⟨fun _ ⟨e, he, hfinds⟩ _ => ⟨e, List.mem_cons_of_mem _ he, hfinds⟩⟩

/-- **The cell next to the agent** is known where it is and that it is on the grid. -/
theorem keeps_cellToward (d : Direction) (hP : P.Lasting) :
    Keeps o old P (cellToward ch.watched manner d)
      fun target b new => P b new ∧ ∀ c, target = some c → b.Toward d c := by
  refine (keeps_findLocation ch manner hP).bind fun here => ?_
  have hlocation := hP.and (Assertion.lasting_location here)
  refine (keeps_findSize ch manner hlocation).bind fun size => ?_
  refine keeps_pure fun b new hb => ⟨hb.1.1, fun c hc => ?_⟩
  -- a target is returned only where the comparison with the size lets it through
  by_cases hinside : size.contains (here.step d) = true
  · rw [if_pos hinside] at hc
    cases hc
    exact ⟨here, size, hb.1.2, hb.2, GridSize.beside_of_contains_step hinside⟩
  · rw [if_neg hinside] at hc
    cases hc

/-- **The cell next to the agent is looked at**, whatever is done then. -/
theorem keeps_look {off : Action (Watched χ) α} {there : Coord → Cell → Action (Watched χ) α}
    (d : Direction) (hP : P.Lasting) (hoff : Keeps o old P off Q)
    (hthere : ∀ c cell, Keeps o old
      (fun b new => (P b new ∧ b.Toward d c) ∧ ∃ e, new.head? = some e ∧ e.Finds c cell)
      (there c cell) Q) :
    Keeps o old P
      (do
        let some target ← cellToward ch.watched manner d | off
        let cell ← ask ch.watched manner (.cell target)
        there target cell) Q := by
  refine (keeps_cellToward ch manner d hP).bind fun target => ?_
  cases target with
  | none => exact hoff.weaken fun b new h => h.1
  | some c =>
    have htoward := hP.and (Assertion.lasting_toward d c)
    refine Keeps.weaken ((keeps_ask_cell ch manner c htoward).bind (hthere c)) fun b new h => ?_
    exact ⟨h.1, h.2 c rfl⟩

/-! ### Operations -/

theorem keeps_goAhead : Keeps (.onGrid (.move .step)) old (fun _ _ => True)
    (goAhead ch.watched manner) fun _ _ _ => True := by
  -- the facing is found first and must outlast the questions for the place and the cell
  refine (keeps_findFacing ch manner Assertion.lasting_true).bind fun d => ?_
  have hfacing := Assertion.lasting_true.and (Assertion.lasting_facing d)
  refine keeps_look ch manner d hfacing (keeps_pure fun _ _ _ => trivial) fun c cell => ?_
  cases cell with
  | wall => exact keeps_pure fun _ _ _ => trivial
  | gems n =>
    refine keeps_order_believe ch manner (by simp)
      (fun b => b.onAcknowledged_line (r := .goTo c) trivial) fun b new h => ?_
    -- the newest exchange is the look at that very cell, with the gems that it has shown
    obtain ⟨⟨⟨-, hd⟩, htoward⟩, e, he, hfinds⟩ := h
    exact ⟨rfl, ⟨d, hd, htoward⟩, e, n, he, hfinds⟩

/-- **A take** puts the cell before the gems, so a far end that fails in between has lost gems and
never made any. -/
theorem keeps_takeAhead : Keeps (.onGrid (.move .take)) old (fun _ _ => True)
    (takeAhead ch.watched manner) fun _ _ _ => True := by
  refine (keeps_findFacing ch manner Assertion.lasting_true).bind fun d => ?_
  have hfacing := Assertion.lasting_true.and (Assertion.lasting_facing d)
  refine keeps_look ch manner d hfacing (keeps_pure fun _ _ _ => trivial) fun c cell => ?_
  -- a wall holds no gems and ends the take, and so does a cell without any
  cases cell with
  | wall => exact keeps_pure fun _ _ _ => trivial
  | gems n =>
    dsimp only [Cell.gemCount]
    by_cases hzero : n = 0
    · rw [if_pos hzero]
      exact keeps_pure fun _ _ _ => trivial
    rw [if_neg hzero]
    -- the cell has been looked at before the gems are found
    have hseen := (hfacing.and (Assertion.lasting_toward d c)).and
      (Assertion.lasting_found c (.gems n))
    refine ((keeps_findGems ch manner hseen).weaken fun b new h => ?_).bind fun held => ?_
    · obtain ⟨hb, e, he, hfinds⟩ := h
      exact ⟨hb, e, List.mem_of_mem_head? he, hfinds⟩
    -- a sum that does not fit ends the take before its first command
    by_cases hroom : UInt32.size ≤ held.toNat + n.toNat
    · rw [if_pos hroom]
      exact (keeps_throw (Q := fun _ _ _ => False) _).bind fun _ => by
        intro p new _ h
        exact h.elim
    rw [if_neg hroom]
    refine (keeps_order ch manner (by simp) (fun b => ?_) fun b new h => ?_).bind fun _ => ?_
    · have hempty : Cell.empty.Ordinary := by decide
      exact b.onAcknowledged_line (r := .putCell c .empty) hempty
    · -- the first command empties the cell, which the look allows
      obtain ⟨⟨⟨⟨-, hd⟩, htoward⟩, e, he, hfinds⟩, -⟩ := h
      exact ⟨⟨d, hd, htoward⟩, e, he, n, hfinds, .inl ⟨rfl, rfl, UInt8.pos_iff_ne_zero.2 hzero⟩⟩
    refine keeps_order_believe ch manner (by simp)
      (fun b => b.onAcknowledged_line (r := .holdGems _) trivial) fun b new h => ?_
    -- the second one follows the first at once, and the look is one exchange further back
    obtain ⟨sooner, rfl, ⟨-, e, he, hfinds⟩, hheld⟩ := h
    refine .inr ⟨held, hheld, c, .inl ⟨rfl, rfl, e, List.mem_cons_of_mem _ he, n, hfinds, ?_⟩⟩
    -- there is room for the gems, so the sum is exact
    rw [UInt32.toNat_add, UInt8.toNat_toUInt32]
    exact Nat.mod_eq_of_lt (Nat.not_le.1 hroom)

theorem keeps_dropAhead : Keeps (.onGrid (.move .drop)) old (fun _ _ => True)
    (dropAhead ch.watched manner) fun _ _ _ => True := by
  refine (keeps_findGems ch manner Assertion.lasting_true).bind fun held => ?_
  by_cases hheld : held = 0
  · rw [if_pos hheld]
    exact keeps_pure fun _ _ _ => trivial
  rw [if_neg hheld]
  have hpositive : 0 < held := UInt32.pos_iff_ne_zero.2 hheld
  -- the gems are found first, so that they must outlast all the questions after them
  have hgems := Assertion.lasting_true.and (Assertion.lasting_gems held)
  refine (keeps_findFacing ch manner hgems).bind fun d => ?_
  have hfacing := hgems.and (Assertion.lasting_facing d)
  refine keeps_look ch manner d hfacing (keeps_pure fun _ _ _ => trivial) fun c cell => ?_
  cases cell with
  | wall => exact keeps_pure fun _ _ _ => trivial
  | gems n =>
    dsimp only
    -- a cell that is full is left alone, so that the cell that is put is one that can be written
    by_cases hfull : Cell.mostGems ≤ n
    · rw [if_pos hfull]
      exact keeps_pure fun _ _ _ => trivial
    rw [if_neg hfull]
    have hroom := Cell.ordinary_gems_succ (UInt8.not_le.1 hfull)
    have hmore : (n + 1).toNat = n.toNat + 1 := by
      have hn : n.toNat < 9 := UInt8.not_le.1 hfull
      rw [UInt8.toNat_add, UInt8.toNat_one]
      omega
    refine (keeps_order ch manner (by simp) (fun b => ?_) fun b new h => ?_).bind fun _ => ?_
    · exact b.onAcknowledged_line (r := .putCell c (.gems (n + 1))) hroom
    · -- the first command adds a gem to the cell that has been looked at
      obtain ⟨⟨⟨⟨-, hb⟩, hd⟩, htoward⟩, e, he, hfinds⟩ := h
      exact ⟨⟨d, hd, htoward⟩, e, List.mem_of_mem_head? he, n, hfinds,
        .inr ⟨rfl, ⟨held, hb, hpositive⟩, n + 1, rfl, hmore, hroom⟩⟩
    refine keeps_order_believe ch manner (by simp)
      (fun b => b.onAcknowledged_line (r := .holdGems _) trivial) fun b new h => ?_
    -- the second one follows it at once, and the gems held are those that were found at the
    -- beginning
    obtain ⟨sooner, rfl, ⟨⟨⟨-, hb⟩, -⟩, -⟩, -⟩ := h
    refine .inr ⟨held, hb, c, .inr ⟨rfl, ⟨n + 1, rfl⟩, ?_⟩⟩
    -- a gem is held, so the difference is exact
    have hone : (1 : UInt32) ≤ held := by
      rw [UInt32.le_iff_toNat_le]
      exact UInt32.lt_iff_toNat_lt.1 hpositive
    rw [UInt32.toNat_sub_of_le _ _ hone]
    exact Nat.sub_add_cancel (UInt32.le_iff_toNat_le.1 hone)

theorem keeps_seesGemAhead : Keeps o old (fun _ _ => True) (seesGemAhead ch.watched manner)
    fun _ _ _ => True := by
  refine (keeps_findFacing ch manner Assertion.lasting_true).bind fun d => ?_
  have hfacing := Assertion.lasting_true.and (Assertion.lasting_facing d)
  exact keeps_look ch manner d hfacing (keeps_pure fun _ _ _ => trivial) fun c cell =>
    keeps_pure fun _ _ _ => trivial

theorem keeps_isOpen (side : Side) : Keeps o old (fun _ _ => True)
    (isOpen ch.watched manner side) fun _ _ _ => True := by
  refine (keeps_findFacing ch manner Assertion.lasting_true).bind fun d => ?_
  have hfacing := Assertion.lasting_true.and (Assertion.lasting_facing d)
  cases side.towardModulo manner.modulus d with
  | error a => exact keeps_throw _
  | ok d' =>
    exact keeps_look ch manner d' hfacing (keeps_pure fun _ _ _ => trivial) fun c cell =>
      keeps_pure fun _ _ _ => trivial

/-- **Every test is careful**, whichever errand it belongs to: it makes no command. -/
theorem keeps_answer (c : Condition) : Keeps o old (fun _ _ => True)
    (answer ch.watched manner c) fun _ _ _ => True := by
  cases c with
  | clear side => exact keeps_isOpen ch manner side
  | seesGem => exact keeps_seesGemAhead ch manner
  | hasGem =>
    exact (keeps_findGems ch manner Assertion.lasting_true).bind fun _ =>
      keeps_pure fun _ _ _ => trivial
  | facing d =>
    exact (keeps_findFacing ch manner Assertion.lasting_true).bind fun _ =>
      keeps_pure fun _ _ _ => trivial

/-- A turn goes to a side of the direction that is known. -/
theorem keeps_turnTo {d d' : Direction}
    (h : o = .onGrid (.move .turnLeft) ∧ d' = d.turned 4 3 ∨
      o = .onGrid (.move .turnRight) ∧ d' = d.turned 4 1) :
    Keeps o old (fun b _ => True ∧ b.facing = some d) (turnTo ch.watched manner d')
      fun _ _ _ => True :=
  keeps_order_believe ch manner (by simp)
    (fun b => b.onAcknowledged_line (r := .face d') trivial) fun _ _ hb => ⟨d, hb.2, h⟩

/-- **Every errand is careful.** -/
theorem keeps_carryOut (o : Errand) : Keeps o old (fun _ _ => True)
    (o.carryOut ch.watched manner) fun _ _ _ => True := by
  -- each operation but a test has no value, and what has none is returned as such
  have hnone : Keeps (χ := χ) o old (fun _ _ => True) (pure none : Action _ (Option Bool))
      fun _ _ _ => True := keeps_pure fun _ _ _ => trivial
  have hdone : Keeps (χ := χ) o old (fun _ _ => True) (pure () : Action _ Unit)
      fun _ _ _ => True := keeps_pure fun _ _ _ => trivial
  cases o with
  -- the command comes first; the size is asked for behind what the pilot has forgotten
  | loadGrid name =>
    have hload : Keeps (.loadGrid name) old (fun _ _ => True)
        (do order ch.watched manner (.loadGrid name); believe .onNewGrid) fun _ _ _ => True :=
      keeps_order_believe ch manner (by simp) (fun b => b.onAcknowledged_loadGrid name)
        fun _ _ _ => rfl
    have hsize : Keeps (.loadGrid name) old (fun _ _ => True)
        (do discard <| findSize ch.watched manner) fun _ _ _ => True :=
      (keeps_findSize ch manner Assertion.lasting_true).bind fun _ =>
        hdone.weaken fun _ _ _ => trivial
    have hchange : Keeps (.loadGrid name) old (fun _ _ => True) (changeGrid ch.watched manner name)
        fun _ _ _ => True := by
      have hboth := hload.bind fun _ => hsize
      simp only [bind_assoc] at hboth
      exact hboth
    exact hchange.bind fun _ => hnone
  | onGrid operation =>
    cases operation with
    | move m =>
      cases m with
      | step => exact (keeps_goAhead ch manner).bind fun _ => hnone
      | turnLeft =>
        exact ((keeps_findFacing ch manner Assertion.lasting_true).bind fun d =>
          keeps_turnTo ch manner (.inl ⟨rfl, d.turned_left.symm⟩)).bind fun _ => hnone
      | turnRight =>
        exact ((keeps_findFacing ch manner Assertion.lasting_true).bind fun d =>
          keeps_turnTo ch manner (.inr ⟨rfl, d.turned_right.symm⟩)).bind fun _ => hnone
      | take => exact (keeps_takeAhead ch manner).bind fun _ => hnone
      | drop => exact (keeps_dropAhead ch manner).bind fun _ => hnone
    -- what remains is one command each, whose errand is its own warrant
    | setGems n =>
      have hhold : Keeps (.onGrid (.setGems n)) old (fun _ _ => True) (hold ch.watched manner n)
          fun _ _ _ => True :=
        keeps_order_believe ch manner (by simp)
          (fun b => b.onAcknowledged_line (r := .holdGems n) trivial) fun _ _ _ => .inl rfl
      exact hhold.bind fun _ => hnone
    | stop =>
      have hstop : Keeps (.onGrid .stop) old (fun _ _ => True) (signOff ch.watched manner) _ :=
        keeps_order ch manner (by simp) (fun b => b.onAcknowledged_line (r := .stop) trivial)
          fun _ _ _ => rfl
      exact hstop.bind fun _ => hnone.weaken fun _ _ _ => trivial
    | showTraffic on =>
      have hshow : Keeps (.onGrid (.showTraffic on)) old (fun _ _ => True)
          (Pilot.showTraffic ch.watched manner on) _ :=
        keeps_order ch manner (by simp)
          (fun b => b.onAcknowledged_line (r := .showMessages on) trivial) fun _ _ _ => rfl
      exact hshow.bind fun _ => hnone.weaken fun _ _ _ => trivial
    -- a test sends questions only, which need no warrant at all
    | test c => exact (keeps_answer ch manner c).bind fun _ => keeps_pure fun _ _ _ => trivial

/-! ### Whole conversations -/

theorem recalls_ofLink (link : χ) : (ofLink ⟨link, []⟩ : Pilot (Watched χ)).Recalls :=
  ⟨rfl, fun e earlier h => by simpa [ofLink] using List.suffix_nil.1 h⟩

/-- One more action, behind others. -/
theorem inTurn_append_singleton (acts : List (Action χ α)) (act : Action χ α) (p : Pilot χ) :
    (inTurn (acts ++ [act]) p).2 = (inTurn [act] (inTurn acts p).2).2 := by
  induction acts generalizing p with
  | nil => rfl
  | cons first acts ih =>
    simp only [List.cons_append, inTurn]
    cases first p with
    | ok a p' => exact ih p'
    | error e p' => exact ih p'

/-- **Everything that is sent is warranted when it is sent**, over whatever link and after whatever
errands, successful or not. What an errand `o` adds to the transcript is `new`, the last exchange
first; `sooner` is what it had added when `x` was begun, and `.ofPast (sooner ++ _)` is what the
pilot knew then. Tests make no commands at all. The pilot that is watched does what one does that is
not. -/
theorem sent_warranted (link : χ) (es : List Errand) (o : Errand) :
    let p := (inTurn (es.map (·.carryOut ch.watched manner)) (ofLink ⟨link, []⟩)).2
    let p' := (inTurn [o.carryOut ch.watched manner] p).2
    (inTurn ((es ++ [o]).map (·.carryOut ch manner)) (ofLink link)).2 = p'.unwatched ∧
      ∃ new, p'.link.past = new ++ p.link.past ∧
        ∀ later x sooner, new = later ++ x :: sooner →
          (∃ r : Request, x.request = r.line) ∧
          ∀ r : Request, x.request = r.line →
            r.Warranted o (.ofPast (sooner ++ p.link.past)) sooner ∧
              ∀ c, o = .onGrid (.test c) → r.isCommand = false := by
  intro p p'
  -- the recording pilot has heard the errands that came before, and recalls all of them
  have hp : p.Recalls := (inTurn_faithful ch manner es (recalls_ofLink link)).1
  have hsame := (inTurn_faithful ch manner (es ++ [o]) (recalls_ofLink link)).2
  have hstart : Careful o p.link.past [] p :=
    ⟨rfl, hp.belief, fun later x sooner h => by simp at h⟩
  -- what the last errand adds to the transcript is warranted exchange by exchange
  obtain ⟨res, q, new, hact, hcareful, -⟩ := keeps_carryOut ch manner o p [] hstart trivial
  have hp' : p' = q := by
    simp only [p', inTurn, hact]
    cases res <;> rfl
  refine ⟨?_, new, hp' ▸ hcareful.past, fun later x sooner hsplit => ?_⟩
  · -- the pilot that does not record ends where the recording one does
    have hend := inTurn_append_singleton (es.map (·.carryOut ch.watched manner))
      (o.carryOut ch.watched manner) (ofLink ⟨link, []⟩)
    rw [← List.map_singleton, ← List.map_append] at hend
    exact (congrArg Prod.snd hsame).trans (congrArg unwatched hend)
  · obtain ⟨r, hr, hwarranted⟩ := hcareful.warranted later x sooner hsplit
    refine ⟨⟨r, hr⟩, fun r' hr' => ?_⟩
    -- a line is written by one request only
    obtain rfl : r' = r := Request.line_injective (hr'.symm.trans hr)
    refine ⟨hwarranted, fun c hc => ?_⟩
    subst hc
    exact hwarranted.isCommand_of_test

/-- An agent with one gem in the middle of nine cells, of which the lower middle one has three. -/
def courtyard : Simulator :=
  .ofWorld ⟨[[.empty, .empty, .empty], [.empty, .empty, .empty], [.empty, .gems 3, .empty]],
    ⟨1, 1⟩, .up, 1⟩

/-- Steps in the four directions back to the middle, a drop to the left and a take below. -/
def aroundCourtyard : List Errand :=
  [.onGrid (.move .step), .onGrid (.move .turnRight), .onGrid (.move .step),
    .onGrid (.move .turnRight), .onGrid (.move .step), .onGrid (.move .turnRight),
    .onGrid (.move .step), .onGrid (.move .drop), .onGrid (.move .turnLeft), .onGrid (.move .take)]

/-- **Around the courtyard** the agent is sent to each of the next cells and to no other. The second
step, the drop and the take are warranted by what the pilot knows then, and by the look before. -/
theorem sent_warranted_courtyard :
    let after (es : List Errand) := (inTurn (es.map (·.carryOut Simulator.link.watched ⟨1000, 4⟩))
      (ofLink ⟨courtyard, []⟩)).2
    (((after aroundCourtyard).link.past.map Exchange.request).filter fun line =>
        Simulator.begins line (some "GOTO") || Simulator.begins line (some "SETGRID")) =
      ["SETGRID 1 2 0", "SETGRID 0 1 1", "GOTO 1 1", "GOTO 2 1", "GOTO 2 0", "GOTO 1 0"] ∧
    (Request.goTo ⟨2, 0⟩).Warranted (.onGrid (.move .step))
      ⟨some ⟨1, 0⟩, some .right, none, some ⟨3, 3⟩⟩ [⟨"GETGRID 2 0", some "GRID 2 0 0"⟩] ∧
    (Request.putCell ⟨0, 1⟩ (.gems 1)).Warranted (.onGrid (.move .drop))
      ⟨some ⟨1, 1⟩, some .left, some 1, some ⟨3, 3⟩⟩
      [⟨"GETGRID 0 1", some "GRID 0 1 0"⟩, ⟨"GETJEWLCNT", some "ROBHAS 1"⟩] ∧
    (Request.putCell ⟨1, 2⟩ (.gems 0)).Warranted (.onGrid (.move .take))
      ⟨some ⟨1, 1⟩, some .down, some 0, some ⟨3, 3⟩⟩ [⟨"GETGRID 1 2", some "GRID 1 2 3"⟩] := by
  intro after
  -- one exchange of an errand, by the transcript before it and behind the errand
  have hwarranted (es : List Errand) (o : Errand) (r : Request) (b : Belief)
      (later sooner : List Exchange)
      (hpast : (inTurn [o.carryOut Simulator.link.watched ⟨1000, 4⟩] (after es)).2.link.past =
        (later ++ r.accepted :: sooner) ++ (after es).link.past)
      (hknown : Belief.ofPast (sooner ++ (after es).link.past) = b) : r.Warranted o b sooner := by
    obtain ⟨-, new, hnew, hsent⟩ := sent_warranted Simulator.link ⟨1000, 4⟩ courtyard es o
    have hexchanges := List.append_cancel_right (hnew.symm.trans hpast)
    exact hknown ▸ ((hsent _ _ _ hexchanges).2 r rfl).1
  refine ⟨by decide +kernel, ?_, ?_, ?_⟩
  · exact hwarranted (aroundCourtyard.take 2) _ _ _ [] _ (by decide +kernel) (by decide +kernel)
  · exact hwarranted (aroundCourtyard.take 7) _ _ _ [⟨"GIVEROB 0", some "ACK GIVEROB 0"⟩] _
      (by decide +kernel) (by decide +kernel)
  · exact hwarranted (aroundCourtyard.take 9) _ _ _ [⟨"GIVEROB 3", some "ACK GIVEROB 3"⟩] _
      (by decide +kernel) (by decide +kernel)

end Pilot

end GridScript
