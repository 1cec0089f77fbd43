import GridScript.Link.Stream
import GridScript.Proofs.Pilot.Caution
import GridScript.Proofs.Session.Upkeep
import GridScript.Script.Output

/-!
# One request, one line

On a connection a request ends with a line feed, so one with a line feed in it would reach the far
end as two. The only text in a request that is not of the pilot's own writing is the name of a grid,
which comes from the settings or stands in the script. Whatever a far end answers and a script does,
every other request is one line, and such a name adds a line for each of its line feeds.

* `Stream.length_delivered_send` — how many lines reach a far end with one that is sent.
* `Pilot.Asks` — the invariant: what a pilot has sent so far are requests, and the grids among them
  have been named to it.
* `Pilot.Faithful.inTandem` — watching changes nothing.
* `Session.requests_of_converseChecked` — whole sessions.
* `Session.requests_twoInOne` — a script that makes two lines of one request.
-/

namespace GridScript

/-! ### Lines on a connection -/

namespace Utf8

/-- The byte of a line feed is the number 10. -/
private theorem linefeed_ne_ofNat {n : Nat} (h : n ≠ 10) (h' : n < 256) :
    (0x0A : UInt8) ≠ UInt8.ofNat n := by
  intro heq
  have hn : (0x0A : UInt8).toNat = n := by rw [heq, UInt8.toNat_ofNat_of_lt' h']
  exact h hn.symm

/-- No other character is written with the byte of a line feed. -/
theorem linefeed_notMem_utf8EncodeChar {c : Char} (h : c ≠ '\n') :
    0x0A ∉ String.utf8EncodeChar c := by
  -- the character has another number than a line feed, and nothing else matters of it
  have hval : c.val.toNat ≠ 10 := fun hc => h (Char.ext (UInt32.toNat_inj.1 hc))
  rw [String.utf8EncodeChar]
  generalize c.val.toNat = v at hval ⊢
  split_ifs
  all_goals simp only [List.mem_cons, List.not_mem_nil, or_false, not_or]
  -- of several bytes each is at least 128
  · exact linefeed_ne_ofNat hval (by omega)
  · exact ⟨linefeed_ne_ofNat (by omega) (by omega), linefeed_ne_ofNat (by omega) (by omega)⟩
  · exact ⟨linefeed_ne_ofNat (by omega) (by omega), linefeed_ne_ofNat (by omega) (by omega),
      linefeed_ne_ofNat (by omega) (by omega)⟩
  · exact ⟨linefeed_ne_ofNat (by omega) (by omega), linefeed_ne_ofNat (by omega) (by omega),
      linefeed_ne_ofNat (by omega) (by omega), linefeed_ne_ofNat (by omega) (by omega)⟩

theorem encode_eq_flatMap (s : String) : encode s = s.toList.flatMap String.utf8EncodeChar := by
  rw [encode, String.toUTF8_eq_toByteArray, ← List.toList_data_toByteArray (l := List.flatMap ..)]
  conv => lhs; rw [← String.ofList_toList (s := s)]
  rfl

/-- **There are as many line feeds among the bytes as in the text.** -/
theorem count_linefeed_encode (s : String) : (encode s).count 0x0A = s.toList.count '\n' := by
  rw [encode_eq_flatMap]
  -- the induction is on the characters, each of which adds its own bytes
  induction s.toList with
  | nil => rfl
  | cons c cs ih =>
    rw [List.flatMap_cons, List.count_append, ih]
    by_cases h : c = '\n'
    · subst h
      have hone : (String.utf8EncodeChar '\n').count 0x0A = 1 := rfl
      rw [hone, List.count_cons_self, Nat.add_comm]
    · rw [List.count_eq_zero_of_not_mem (linefeed_notMem_utf8EncodeChar h), Nat.zero_add,
        List.count_cons_of_ne h]

end Utf8

namespace Stream

variable {φ : Type} (farEnd : FarEnd φ)

/-- **A line reaches the far end with every line feed.** -/
theorem length_delivered_foldl (bytes : List UInt8) (s : Stream φ) :
    (bytes.foldl (deliver farEnd) s).delivered.length = s.delivered.length + bytes.count 0x0A := by
  induction bytes generalizing s with
  | nil => rfl
  | cons b bytes ih =>
    rw [List.foldl_cons, ih, deliver]
    by_cases hb : b = 0x0A
    · rw [if_pos hb, hb, List.count_cons_self]
      simp only [List.length_append, List.length_singleton]
      omega
    · rw [if_neg hb, List.count_cons_of_ne hb]

/-- **How many lines reach the far end with one that is sent**: one, and one for each line feed in
it. -/
theorem length_delivered_send (line : String) {s : Stream φ} (h : s.closed = false) :
    ∃ s', send farEnd line s = .ok () s' ∧
      s'.delivered.length = s.delivered.length + line.toList.count '\n' + 1 := by
  refine ⟨_, by rw [send, if_neg (by simp [h])], ?_⟩
  rw [length_delivered_foldl, List.count_append, Utf8.count_linefeed_encode]
  rfl

end Stream

/-! ### What a pilot sends -/

namespace Pilot

variable {χ α : Type}

/-- **A pilot that has sent requests**, and asked for grids only by names that it knows from
elsewhere. -/
structure Asks (named : String → Prop) (p : Pilot (Watched χ)) : Prop where
  recalls : p.Recalls
  request : ∀ e ∈ p.link.past, ∃ r : Request, e.request = r.line ∧
    ∀ name, r = .loadGrid name → named name

variable (ch : Link χ) (manner : Manner) {named : String → Prop} {p : Pilot (Watched χ)}

/-- **Every errand sends requests**, and asks for a grid only if it is told to load it. -/
theorem Asks.settles_carryOut (h : p.Asks named) {o : Errand}
    (ho : ∀ name, o = .loadGrid name → named name) :
    Settles (o.carryOut ch.watched manner) p (fun _ => Asks named) fun _ => Asks named := by
  -- the errand is watched from its own beginning, so that all it sends has been warranted
  have hstart : Careful o p.link.past [] p :=
    ⟨rfl, h.recalls.belief, fun later x sooner hsplit => by simp at hsplit⟩
  obtain ⟨res, p', new, hact, hcareful, -⟩ := keeps_carryOut ch manner o p [] hstart trivial
  obtain ⟨res', q, hrecalls, hact', -⟩ := faithful_carryOut ch manner o p h.recalls
  have hasks : p'.Asks named := by
    refine ⟨?_, fun e he => ?_⟩
    · -- the two descriptions of the run speak of one state
      rw [hact] at hact'
      cases res <;> cases res' <;> cases hact' <;> exact hrecalls
    · rw [hcareful.past] at he
      rcases List.mem_append.1 he with he | he
      · -- what the errand sends has been warranted by it
        obtain ⟨later, sooner, hsplit⟩ := List.append_of_mem he
        obtain ⟨r, hr, hwarranted⟩ := hcareful.warranted later e sooner hsplit
        refine ⟨r, hr, ?_⟩
        rintro name rfl
        exact ho name hwarranted
      · exact h.request e he
  rw [Settles, hact]
  cases res <;> exact hasks

/-- What an errand does is what is done in it. -/
theorem settles_of_bind_pure {β : Type} {act : Action χ α} {f : α → β} {p : Pilot χ}
    {I : Pilot χ → Prop} (h : Settles (act >>= fun a => pure (f a)) p (fun _ => I) fun _ => I) :
    Settles act p (fun _ => I) fun _ => I := by
  rw [Settles, bind_apply] at h
  rw [Settles]
  cases hact : act p <;> rw [hact] at h <;> exact h

theorem Asks.settles_obey (h : p.Asks named) {c : Command}
    (hc : ∀ name, c = .loadGrid name → named name) :
    Settles (obey ch.watched manner c) p (fun _ => Asks named) fun _ => Asks named := by
  refine settles_of_bind_pure (f := fun _ => (none : Option Bool)) ?_
  -- a command is an errand without its value
  cases c with
  | move m => exact h.settles_carryOut ch manner (o := .onGrid (.move m)) nofun
  | loadGrid name =>
    refine h.settles_carryOut ch manner (o := .loadGrid name) ?_
    rintro _ ⟨⟩
    exact hc name rfl
  | setGems n => exact h.settles_carryOut ch manner (o := .onGrid (.setGems n)) nofun
  | stop => exact h.settles_carryOut ch manner (o := .onGrid .stop) nofun

theorem Asks.settles_answer (h : p.Asks named) (c : Condition) :
    Settles (answer ch.watched manner c) p (fun _ => Asks named) fun _ => Asks named := by
  refine settles_of_bind_pure (f := some) ?_
  have hcarryOut := h.settles_carryOut ch manner (o := .onGrid (.test c)) nofun
  rwa [Errand.carryOut, Operation.carryOut, map_eq_pure_bind] at hcarryOut

theorem Asks.settles_showTraffic (h : p.Asks named) (on : Bool) :
    Settles (showTraffic ch.watched manner on) p (fun _ => Asks named) fun _ => Asks named :=
  settles_of_bind_pure (f := fun _ => (none : Option Bool))
    (h.settles_carryOut ch manner (o := .onGrid (.showTraffic on)) nofun)

/-- Giving the link up sends nothing. -/
theorem Asks.settles_hangUp (h : p.Asks named) :
    Settles (hangUp ch.watched) p (fun _ => Asks named) fun _ => Asks named := by
  simp only [Settles, hangUp, overLink, Link.watched]
  cases ch.close p.link.link <;> exact ⟨⟨h.recalls.belief, h.recalls.needed⟩, h.request⟩

/-- A pilot and the same pilot over the link that is watched. -/
def Unwatches (p : Pilot χ) (p' : Pilot (Watched χ)) : Prop := p = p'.unwatched ∧ p'.Recalls

/-- **Watching changes nothing.** -/
theorem Faithful.inTandem {act : Action (Watched χ) α} {act' : Action χ α}
    (h : Faithful act act') : InTandem Unwatches act' act := by
  rintro _ p ⟨rfl, hp⟩
  obtain ⟨res, p', hp', hact, hact'⟩ := h p hp
  rw [hact, hact']
  cases res with
  | ok a => exact .ok a ⟨rfl, hp'⟩
  | error e => exact .error e ⟨rfl, hp'⟩

theorem inTandem_hangUp_watched : InTandem Unwatches (hangUp ch) (hangUp ch.watched) := by
  rintro _ p ⟨rfl, hp⟩
  simp only [hangUp, overLink, Link.watched, unwatched]
  cases ch.close p.link.link with
  | ok u link => exact .ok u ⟨rfl, hp.belief, hp.needed⟩
  | error e link => exact .error e ⟨rfl, hp.belief, hp.needed⟩

end Pilot

/-! ### Whole sessions -/

namespace Session

variable {χ τ : Type}

/-- **The grids that are named to a session**, in its settings or in its script. -/
def Names (settings : Settings) (src : Source) (name : String) : Prop :=
  settings.grid = some name ∨ .loadGrid name ∈ src.setUps

/-- The session over the link that is not watched. -/
def unwatched (s : Session (Watched χ) τ) : Session χ τ := ⟨s.pilot.unwatched, s.output⟩

/-- **What is kept true of a pilot in a session**: it asks only for grids that are named. -/
theorem upkeep_asks (ch : Link χ) (settings : Settings) (src : Source) :
    Upkeep ch.watched settings src (Pilot.Asks (Names settings src))
      (Pilot.Asks (Names settings src)) where
  showTraffic _ hp := hp.settles_showTraffic ch settings.manner settings.showMessages
  changeGrid _ name hname hp := by
    refine hp.settles_obey ch settings.manner (c := .loadGrid name) ?_
    rintro _ ⟨⟩
    -- here the settings name the grid; what the source names is told below
    exact .inl hname
  agent :=
    { obey := fun c p hc hp => by
        have hobey := hp.settles_obey ch settings.manner (c := c) ?_
        · simp only [Settles, Pilot.agent, Pilot.diagnosed] at hobey ⊢
          cases hact : Pilot.obey ch.watched settings.manner c p <;> rwa [hact] at hobey
        · rintro name rfl
          exact .inr hc
      answer := fun c p hp => by
        have hanswer := hp.settles_answer ch settings.manner c
        simp only [Settles, Pilot.agent, Pilot.diagnosed] at hanswer ⊢
        cases hact : Pilot.answer ch.watched settings.manner c p <;> rwa [hact] at hanswer }
  hangUp _ hp := hp.settles_hangUp ch
  weaker _ hp := hp

/-- **No session can tell whether it is watched.** -/
theorem inTandem_converseChecked_watched (ch : Link χ) (settings : Settings) (sink : Sink τ)
    (passes : Nat) (src : Source) :
    InTandem (Alongside Pilot.Unwatches) (converseChecked ch settings sink passes src)
      (converseChecked ch.watched settings sink passes src) :=
  inTandem_converseChecked_of (fun c => (Pilot.faithful_obey ch settings.manner c).inTandem)
    (fun c => (Pilot.faithful_answer ch settings.manner c).inTandem)
    (Pilot.faithful_order ch settings.manner (r := .showMessages settings.showMessages) (by simp)
      fun b => b.onAcknowledged_line (r := .showMessages settings.showMessages) trivial).inTandem
    (Pilot.inTandem_hangUp_watched ch) sink passes src

/-- **Only the name of a grid can make more than one line of a request.** A session is watched,
which makes no difference to it. Every line that it has tried to send is the line of a request. It
contains a line feed exactly if it asks for a grid whose name does, and every such name is that of
the settings, or stands behind `init grid` in the script. Over a connection a far end gets one line
for the request, and one more for each line feed in it. -/
theorem requests_of_converseChecked (ch : Link χ) (settings : Settings) (sink : Sink τ)
    (passes : Nat) (src : Source) (link : χ) (output : τ) :
    let whole := converseChecked ch.watched settings sink passes src (.ofLink ⟨link, []⟩ output)
    converseChecked ch settings sink passes src (.ofLink link output) = onState unwatched whole ∧
      ∀ e ∈ (remains whole).pilot.link.past,
        (∃ r : Request, e.request = r.line ∧
          (∀ name, r = .loadGrid name → Names settings src name) ∧
          ('\n' ∈ e.request.toList ↔ ∃ name, r = .loadGrid name ∧ '\n' ∈ name.toList)) ∧
        ∀ {φ : Type} (farEnd : FarEnd φ) (s : Stream φ), s.closed = false →
          ∃ s', Stream.send farEnd e.request s = .ok () s' ∧
            s'.delivered.length = s.delivered.length + e.request.toList.count '\n' + 1 := by
  intro whole
  have hrecalls := Pilot.recalls_ofLink link
  refine ⟨?_, fun e he => ⟨?_, fun farEnd s hs => Stream.length_delivered_send farEnd _ hs⟩⟩
  · -- the record is no part of what the pilot goes by
    have hsame := inTandem_converseChecked_watched ch settings sink passes src (.ofLink link output)
      (.ofLink ⟨link, []⟩ output) ⟨⟨rfl, hrecalls⟩, rfl⟩
    exact (hsame.weaken fun s s' hs => congrArg₂ Session.mk hs.1.1 hs.2).eq_onState
  · have hasks : (remains whole).pilot.Asks (Names settings src) :=
      remains_of_settles
        (J := fun s : Session (Watched χ) τ => s.pilot.Asks (Names settings src))
        ((upkeep_asks ch settings src).converseChecked sink passes
          ⟨hrecalls, fun e he => nomatch he⟩)
    obtain ⟨r, hr, hnames⟩ := hasks.request e he
    refine ⟨r, hr, hnames, ?_⟩
    rw [hr]
    -- only a name can hold a line feed, since all else in a line is spelled by the request
    by_cases hgrid : ∃ name, r = .loadGrid name
    · obtain ⟨name, rfl⟩ := hgrid
      simp only [Request.linefeed_mem_line_loadGrid, Request.loadGrid.injEq, exists_eq_left']
    · have hother := not_exists.1 hgrid
      refine iff_of_false (Request.linefeed_notMem_line hother) ?_
      rintro ⟨name, hname, -⟩
      exact hother name hname

/-- A far end with a grid whose name has a line feed in it. -/
def twoLineGrid : Simulator :=
  { Simulator.ofWorld (.empty 1 1) with grids := [("a\nSTOP", .empty 2 1)] }

/-- A script that changes to that grid. -/
def twoInOne : Source := ⟨"grid.gs", Utf8.encode "main \x7b init grid \"a\\nSTOP\"; \x7d"⟩

/-- **The second line of a request is read as another one.** The script is run to its end, and one
of its requests is two lines. -/
theorem requests_twoInOne :
    let whole := converseChecked Simulator.link.watched .usual Output.sink 0 twoInOne
      (.ofLink ⟨twoLineGrid, []⟩ (.empty none))
    ending whole = .ok () ∧
      (remains whole).pilot.link.past.reverse.map Exchange.request =
        ["SHOWMSGS OFF", "LOADGRID a\nSTOP", "GETSIZE", "STOP"] ∧
      ¬ ∀ e ∈ (remains whole).pilot.link.past, '\n' ∉ e.request.toList := by
  intro whole
  have hlines : (remains whole).pilot.link.past.reverse.map Exchange.request =
      ["SHOWMSGS OFF", "LOADGRID a\nSTOP", "GETSIZE", "STOP"] := by decide +kernel
  refine ⟨by decide +kernel, hlines, fun hone => ?_⟩
  -- the line is among the requests, and so it is that of an exchange
  have hmem : "LOADGRID a\nSTOP" ∈
      (remains whole).pilot.link.past.reverse.map Exchange.request := by
    rw [hlines]
    decide
  obtain ⟨e, he, hrequest⟩ := List.mem_map.1 hmem
  have hfeed := hone e (List.mem_reverse.1 he)
  rw [hrequest] at hfeed
  exact hfeed (by decide)

end Session

end GridScript
