import GridScript.Link.Rehearsal
import GridScript.Proofs.Pilot.Logging
import GridScript.Proofs.Session.Courses
import GridScript.Script.Output

/-!
# The conversation of a session

Whatever fails in a session, the agent is told that the run is over and the link is given up. What
makes this more than a matter of the few steps of a session is the run in the middle: it is not
known what it says. But it is a dialogue that does not say that the run is over before its end, and
of everything else that a pilot is asked to do the log shows only turns.

* `Session.Spoken`, `Session.Speaks` — a part of a log that consists of turns, and an action that
  adds one to the log and cannot tell the log from none.
* `Session.setOut_speaks`, `Session.toEnd_speaks`, `Session.signOff_speaks`, `Session.leave_logged`
  — the parts of a session.
* `Session.converseChecked_stops_and_leaves` — whole sessions.
-/

namespace GridScript

namespace Session

variable {χ χ' τ α β : Type}

/-! ### With a log -/

/-- **The session over the link without a log.** -/
def unlogged (s : Session (Logged χ) τ) : Session χ τ := ⟨s.pilot.unlogged, s.output⟩

theorem eq_unlogged {s : Session χ τ} {s' : Session (Logged χ) τ}
    (hpilot : s.pilot = s'.pilot.unlogged) (houtput : s.output = s'.output) : s = s'.unlogged := by
  rw [unlogged, ← hpilot, ← houtput]

/-- The log. -/
def log (s : Session (Logged χ) τ) : List LoggedUse := s.pilot.link.log

/-- **The uses of a link that are turns**, with these lines. -/
def Spoken (patience : Nat) (lines : List String) (uses : List LoggedUse) : Prop :=
  ∃ turns : List Turn, turns.map Turn.line = lines ∧ uses = turns.flatMap (Turn.uses patience)

theorem Spoken.append {patience : Nat} {lines lines' : List String} {uses uses' : List LoggedUse}
    (h : Spoken patience lines uses) (h' : Spoken patience lines' uses') :
    Spoken patience (lines ++ lines') (uses ++ uses') := by
  obtain ⟨turns, rfl, rfl⟩ := h
  obtain ⟨turns', rfl, rfl⟩ := h'
  exact ⟨turns ++ turns', List.map_append, List.flatMap_append.symm⟩

/-- Two sessions whose pilots are related, with the same output. -/
def Alongside (S : Pilot χ → Pilot χ' → Prop) (s : Session χ τ) (s' : Session χ' τ) : Prop :=
  S s.pilot s'.pilot ∧ s.output = s'.output

/-- A session, and the same session with a log. -/
def Unlogs (s : Session χ τ) (s' : Session (Logged χ) τ) : Prop := s = s'.unlogged

/-- **An action that cannot tell whether there is a log**, and adds turns to it, the lines of which
are such as `Q` says. -/
structure Speaks (patience : Nat) (Q : List String → Prop) (a : Action χ τ α)
    (a' : Action (Logged χ) τ α) : Prop where
  same : InTandem Unlogs a a'
  spoken : ∀ s, ∃ lines uses, Q lines ∧ Spoken patience lines uses ∧
    (remains (a' s)).log = s.log ++ uses

/-! ### Sessions in tandem -/

section Tandem

theorem inTandem_piloting {S : Pilot χ → Pilot χ' → Prop} {a : Pilot.Action χ α}
    {a' : Pilot.Action χ' α} (h : InTandem S a a') :
    InTandem (Alongside S) (piloting a : Action χ τ α) (piloting a') := by
  intro s s' hs
  have hpilot := h s.pilot s'.pilot hs.1
  rw [piloting, piloting]
  generalize a s.pilot = r, a' s'.pilot = r' at hpilot ⊢
  cases hpilot with
  | ok v hp => exact .ok v ⟨hp, hs.2⟩
  | error e hp => exact .error _ ⟨hp, hs.2⟩

variable {S : Session χ τ → Session χ' τ → Prop}

theorem inTandem_quietly {a : Action χ τ Unit} {a' : Action χ' τ Unit} (h : InTandem S a a') :
    InTandem S (quietly a) (quietly a') := by
  intro s s' hs
  have hsame := h s s' hs
  rw [quietly, quietly]
  generalize a s = r, a' s' = r' at hsame ⊢
  -- a failure is passed over on both sides, and any other end is kept
  cases hsame with
  | ok v hv => exact .ok v hv
  | error e hv =>
    cases e with
    | failed d => exact .ok () hv
    | aborted a => exact .error _ hv
    | unfinished => exact .error _ hv

theorem inTandem_elseQuietly {a : Action χ τ α} {a' : Action χ' τ α} {b : Action χ τ Unit}
    {b' : Action χ' τ Unit} (h : InTandem S a a') (hb : InTandem S b b') :
    InTandem S (elseQuietly a b) (elseQuietly a' b') := by
  intro s s' hs
  have hsame := h s s' hs
  rw [elseQuietly, elseQuietly]
  generalize a s = r, a' s' = r' at hsame ⊢
  -- behind a failure both clean up, and then they report that failure
  cases hsame with
  | ok v hv => exact .ok v hv
  | error e hv =>
    cases e with
    | failed d => exact ((inTandem_quietly hb).bind fun _ => inTandem_throw _) _ _ hv
    | aborted a => exact .error _ hv
    | unfinished => exact .error _ hv

end Tandem

/-! ### The parts with a log -/

section Speaks

variable {patience : Nat} {Q R T : List String → Prop}

theorem Speaks.bind {a : Action χ τ α} {a' : Action (Logged χ) τ α} {f : α → Action χ τ β}
    {f' : α → Action (Logged χ) τ β} (h : Speaks patience Q a a')
    (hf : ∀ v, Speaks patience R (f v) (f' v)) (hfirst : ∀ lines, Q lines → T lines)
    (hboth : ∀ lines lines', Q lines → R lines' → T (lines ++ lines')) :
    Speaks patience T (a >>= f) (a' >>= f') where
  same := h.same.bind fun v => (hf v).same
  spoken s := by
    obtain ⟨lines, uses, hlines, hspoken, hlog⟩ := h.spoken s
    -- behind a failure nothing more is spoken, so that the first lines are all
    cases ha : a' s with
    | error e s₁ =>
      rw [bind_of_error ha]
      rw [ha] at hlog
      exact ⟨lines, uses, hfirst lines hlines, hspoken, hlog⟩
    | ok v s₁ =>
      rw [bind_of_ok ha]
      rw [ha] at hlog
      obtain ⟨lines', uses', hlines', hspoken', hlog'⟩ := (hf v).spoken s₁
      refine ⟨lines ++ lines', uses ++ uses', hboth _ _ hlines hlines', hspoken.append hspoken', ?_⟩
      have hlog₁ : s₁.log = s.log ++ uses := hlog
      rw [hlog', hlog₁, List.append_assoc]

/-- An action that keeps a pilot and the same pilot with a log together, as long as the conversation
is not over. -/
theorem Speaks.of_since {a : Action χ τ α} {a' : Action (Logged χ) τ α}
    (h : ∀ start, InTandem (Alongside (Pilot.Since patience start)) a a') :
    Speaks patience (Request.stop.line ∉ ·) a a' := by
  -- for each log to begin with there is a relation, and the log of this session is the one
  have hsince (s : Session (Logged χ) τ) : SameResult _ (a s.unlogged) (a' s) :=
    h s.log s.unlogged s ⟨Pilot.Since.start patience s.pilot, rfl⟩
  constructor
  · rintro s s' rfl
    have hsame := hsince s'
    generalize a s'.unlogged = r, a' s' = r' at hsame
    cases hsame with
    | ok v hs => exact .ok v (eq_unlogged hs.1.same hs.2)
    | error e hs => exact .error e (eq_unlogged hs.1.same hs.2)
  · intro s
    have hturns : Pilot.Since patience s.log (remains (a s.unlogged)).pilot
        (remains (a' s)).pilot := by
      have hsame := hsince s
      generalize a s.unlogged = r, a' s = r' at hsame
      cases hsame with
      | ok v hs => exact hs.1
      | error e hs => exact hs.1
    -- the lines of the turns are the lines spoken, and none of them is the stop
    obtain ⟨turns, hstop, hlog⟩ := hturns.turns
    refine ⟨turns.map Turn.line, turns.flatMap (Turn.uses patience), fun hmem => ?_,
      ⟨turns, rfl, rfl⟩, hlog⟩
    obtain ⟨t, ht, hline⟩ := List.mem_map.1 hmem
    exact hstop t ht hline

end Speaks

section Logged

variable (ch : Link χ) (settings : Settings) (sink : Sink τ) (passes : Nat) (src : Source)

/-- **A command is one line.** -/
theorem order_speaks (manner : Pilot.Manner) (r : Request) :
    Speaks manner.patience (· = [r.line]) (piloting (Pilot.order ch manner r) : Action χ τ Unit)
      (piloting (Pilot.order ch.logged manner r)) where
  same := by
    rintro s s' rfl
    -- one request is one turn, whether it is acknowledged or not
    obtain ⟨res, link, t, -, hlogged, hplain⟩ := Pilot.order_logged ch manner r s'.pilot
    rw [piloting, piloting, unlogged, hplain, hlogged]
    cases res with
    | ok u => exact .ok u rfl
    | error e => exact .error _ rfl
  spoken s := by
    obtain ⟨res, link, t, ht, hlogged, -⟩ := Pilot.order_logged ch manner r s.pilot
    have hspoken : Spoken manner.patience [r.line] (t.uses manner.patience) :=
      ⟨[t], by rw [List.map_singleton, ht], by simp⟩
    refine ⟨[r.line], t.uses manner.patience, rfl, hspoken, ?_⟩
    rw [piloting, hlogged]
    cases res <;> rfl

/-- The agent is told that the run is over in one line. -/
theorem signOff_speaks : Speaks settings.manner.patience (· = [Request.stop.line])
    (signOff ch settings : Action χ τ Unit) (signOff ch.logged settings) :=
  order_speaks ch settings.manner .stop

/-- **Opening** begins with what is to be shown, and does not say that the run is over. -/
theorem setOut_speaks : Speaks settings.manner.patience
    (fun lines => lines.head? = some (Request.showMessages settings.showMessages).line ∧
      Request.stop.line ∉ lines)
    (setOut ch settings : Action χ τ Unit) (setOut ch.logged settings) := by
  -- the first line turns the traffic on or off, and is no stop
  have hshow : Request.stop.line ≠ (Request.showMessages settings.showMessages).line :=
    fun h => Request.noConfusion (Request.line_injective h)
  have hgrid (name : String) : Speaks settings.manner.patience (Request.stop.line ∉ ·)
      (piloting (Pilot.changeGrid ch settings.manner name) : Action χ τ Unit)
      (piloting (Pilot.changeGrid ch.logged settings.manner name)) :=
    .of_since fun start => inTandem_piloting
      ((Pilot.companions_logged ch settings.manner start).changeGrid name)
  refine (order_speaks ch settings.manner (.showMessages settings.showMessages)).bind
    (R := (Request.stop.line ∉ ·)) (fun _ => ?_) ?_ ?_
  · -- a grid that is set is loaded next; its lines are none of stopping either
    cases settings.grid with
    | some name => exact hgrid name
    | none => exact .of_since fun start => inTandem_pure ()
  · rintro lines rfl
    exact ⟨rfl, by simpa using hshow⟩
  · rintro lines lines' rfl hlines'
    exact ⟨rfl, by simpa using ⟨hshow, hlines'⟩⟩

/-- **What a script says is heard alike** over two links over which it is obeyed and answered alike.
-/
theorem inTandem_hear_of {χ' : Type} {ch' : Link χ'} {S : Pilot χ → Pilot χ' → Prop} {what : Saying}
    (hobey : ∀ place c, what = .tell place c → InTandem S (Pilot.obey ch settings.manner c)
      (Pilot.obey ch' settings.manner c))
    (hanswer : ∀ c, InTandem S (Pilot.answer ch settings.manner c)
      (Pilot.answer ch' settings.manner c)) :
    InTandem (fun s s' => S s.agent s'.agent ∧ s.output = s'.output)
      ((context ch settings sink passes).hear what)
      ((context ch' settings sink passes).hear what) := by
  intro s s' hs
  cases what with
  | tell place c =>
    -- both agents are asked in one state, and what they answer is told in the same words
    have hobey := hobey place c rfl s.agent s'.agent hs.1
    simp only [Context.hear, context, Pilot.agent, Pilot.diagnosed]
    generalize Pilot.obey ch settings.manner c s.agent = r,
      Pilot.obey ch' settings.manner c s'.agent = r' at hobey ⊢
    cases hobey with
    | ok u hp => exact .ok true ⟨hp, hs.2⟩
    | error e hp => exact .error _ ⟨hp, hs.2⟩
  | ask place c =>
    have hanswer := hanswer c s.agent s'.agent hs.1
    simp only [Context.hear, context, Pilot.agent, Pilot.diagnosed]
    generalize Pilot.answer ch settings.manner c s.agent = r,
      Pilot.answer ch' settings.manner c s'.agent = r' at hanswer ⊢
    cases hanswer with
    | ok a hp => exact .ok a ⟨hp, hs.2⟩
    | error e hp => exact .error _ ⟨hp, hs.2⟩
  | print line =>
    simp only [Context.hear, context, hs.2]
    cases sink.print line s'.output with
    | ok u o => exact .ok true ⟨hs.1, rfl⟩
    | error reason o => exact .error _ ⟨hs.1, rfl⟩

/-- **What a script says on the way is heard alike** by companions. -/
theorem inTandem_hear {χ' : Type} {ch' : Link χ'} {S : Pilot χ → Pilot χ' → Prop}
    (h : Pilot.Companions ch ch' settings.manner S) {what : Saying} (hwhat : what.isStop = false) :
    InTandem (fun s s' => S s.agent s'.agent ∧ s.output = s'.output)
      ((context ch settings sink passes).hear what)
      ((context ch' settings sink passes).hear what) := by
  refine inTandem_hear_of ch settings sink passes ?_ h.answer
  rintro place c rfl
  refine h.obey ?_
  rintro rfl
  cases hwhat

/-- **A script up to its end** does not say that the run is over. -/
theorem toEnd_speaks : Speaks settings.manner.patience (Request.stop.line ∉ ·)
    (toEnd ch settings sink passes src) (toEnd ch.logged settings sink passes src) := by
  refine .of_since fun start s s' hs => ?_
  have huntil : Converses settings.maxCallDepth.toNat passes fun env => Program.untilStop env :=
    Program.converses_untilStop
  -- both runs are the same dialogue, in which nobody is told that the run is over
  obtain ⟨d, hd, hrun⟩ := huntil ⟨src.lexemes, .empty, 0⟩
  have hheard := Dialogue.inTandem_perform
    (fun _ => inTandem_hear ch settings sink passes
      (Pilot.companions_logged ch settings.manner start)) hd
    ⟨s.pilot, s.output⟩ ⟨s'.pilot, s'.output⟩ hs
  have hplain : Machine.outcome (Program.untilStop (context ch settings sink passes)
      (.ofSource src s.pilot s.output)) = _ := hrun _ sink ⟨s.pilot, s.output⟩
  have hlogged : Machine.outcome (Program.untilStop (context ch.logged settings sink passes)
      (.ofSource src s'.pilot s'.output)) = _ := hrun _ sink ⟨s'.pilot, s'.output⟩
  rw [context, context] at hheard
  rw [← hplain, ← hlogged] at hheard
  -- both runs end in the same way, with the scenes side by side
  have huntil := Machine.sameResult_of_outcome hheard
  rw [toEnd, toEnd]
  generalize Program.untilStop (context ch settings sink passes) _ = r,
    Program.untilStop (context ch.logged settings sink passes) _ = r' at huntil ⊢
  cases huntil with
  | ok place hm => exact .ok place hm
  | error e hm => exact .error _ hm

/-- **A session up to its own stop** begins with what is to be shown, and does not say that the run
is over. -/
theorem toStop_speaks : Speaks settings.manner.patience
    (fun lines => lines.head? = some (Request.showMessages settings.showMessages).line ∧
      Request.stop.line ∉ lines)
    (toStop ch settings sink passes src) (toStop ch.logged settings sink passes src) := by
  refine (setOut_speaks ch settings).bind (fun _ => toEnd_speaks ch settings sink passes src)
    (fun _ h => h) ?_
  rintro lines lines' ⟨hshow, hlines⟩ hlines'
  refine ⟨?_, by simpa using ⟨hlines, hlines'⟩⟩
  rw [List.head?_append, hshow, Option.some_or]

/-- **Giving the link up** is one use of it. -/
theorem leave_logged :
    InTandem Unlogs (leave ch : Action χ τ Unit) (leave ch.logged) ∧
      ∀ s : Session (Logged χ) τ, ∃ closed,
        (remains (leave ch.logged s)).log = s.log ++ [⟨.close, closed⟩] := by
  constructor
  · rintro s s' rfl
    -- to give the link up is one use of it, which leaves the lines as they were
    obtain ⟨res, link, closed, hlogged, hplain⟩ := Pilot.hangUp_logged ch s'.pilot
    rw [leave, leave, piloting, piloting, unlogged, hplain, hlogged]
    cases res with
    | ok u => exact .ok u rfl
    | error e => exact .error _ rfl
  · intro s
    obtain ⟨res, link, closed, hlogged, -⟩ := Pilot.hangUp_logged ch s.pilot
    refine ⟨closed, ?_⟩
    rw [leave, piloting, hlogged]
    cases res <;> rfl

theorem inTandem_interpret : InTandem Unlogs (interpret ch settings sink passes src)
    (interpret ch.logged settings sink passes src) := by
  rw [interpret_eq, interpret_eq]
  refine (toEnd_speaks ch settings sink passes src).same.bind fun place s s' hs => ?_
  have hstop := (signOff_speaks ch settings).same s s' hs
  rw [signOffAt, signOffAt]
  generalize signOff ch settings s = r, signOff ch.logged settings s' = r' at hstop ⊢
  cases hstop with
  | ok u hs => exact .ok u hs
  | error e hs => exact .error _ hs

/-- **No session can tell whether there is a log.** -/
theorem inTandem_converseChecked : InTandem Unlogs (converseChecked ch settings sink passes src)
    (converseChecked ch.logged settings sink passes src) := by
  have hstop := (signOff_speaks (τ := τ) ch settings).same
  have hleave := (leave_logged (τ := τ) ch).1
  have hstart : InTandem Unlogs (start ch settings : Action χ τ Unit)
      (start ch.logged settings) :=
    inTandem_elseQuietly (setOut_speaks ch settings).same
      ((inTandem_quietly hstop).bind fun _ => hleave)
  have hrun : InTandem Unlogs (run ch settings sink passes src)
      (run ch.logged settings sink passes src) :=
    inTandem_elseQuietly (inTandem_interpret ch settings sink passes src) hstop
  rw [converseChecked, converseChecked]
  -- the options are looked at first, and an error in them ends both before anything is sent
  cases settings.check with
  | error e => exact inTandem_throw _
  | ok u => exact hstart.bind fun _ => (inTandem_elseQuietly hrun hleave).bind fun _ => hleave

end Logged

/-! ### Whole sessions -/

section Whole

variable {ch : Link χ} {settings : Settings} {sink : Sink τ} {passes : Nat} {src : Source}

/-- The stop at the end of a script is one line. -/
theorem signOffAt_logged (ch : Link χ) (settings : Settings) (src : Source) (place : Position)
    (s : Session (Logged χ) τ) :
    ∃ uses, Spoken settings.manner.patience [Request.stop.line] uses ∧
      (remains (signOffAt ch.logged settings src place s)).log = s.log ++ uses := by
  obtain ⟨lines, uses, rfl, hspoken, hlog⟩ := (signOff_speaks ch settings).spoken s
  refine ⟨uses, hspoken, ?_⟩
  rw [remains_signOffAt, hlog]

/-- After a failure the agent is told, and the link is given up. -/
theorem released_logged (ch : Link χ) (settings : Settings) (s : Session (Logged χ) τ) :
    ∃ uses closed, Spoken settings.manner.patience [Request.stop.line] uses ∧
      (released ch.logged settings s).log = s.log ++ uses ++ [⟨.close, closed⟩] := by
  obtain ⟨lines, uses, rfl, hspoken, hstop⟩ := (signOff_speaks ch settings).spoken s
  obtain ⟨closed, hleave⟩ := (leave_logged ch).2 (remains (signOff ch.logged settings s))
  refine ⟨uses, closed, hspoken, ?_⟩
  rw [released, hleave, hstop]

/-- **What a course adds to the log.** The lines are some that do not end the conversation, the
first of them with what is to be shown, and then the one that ends it: once, or where that was in
vain at the end of the script, once more. -/
theorem Course.log_eq {s : Session (Logged χ) τ}
    {r : EStateM.Result (Halt Diagnostic) (Session (Logged χ) τ) Unit}
    (h : Course ch.logged settings sink passes src s r) :
    ∃ before stops uses closed,
      (remains r).log = s.log ++ uses ++ [⟨.close, closed⟩] ∧
      Spoken settings.manner.patience (before ++ List.replicate stops Request.stop.line) uses ∧
      before.head? = some (Request.showMessages settings.showMessages).line ∧
      Request.stop.line ∉ before ∧
      (stops = 1 ∧ ¬ StopFails ch.logged settings sink passes src s ∨
        stops = 2 ∧ StopFails ch.logged settings sink passes src s) := by
  -- what is said before the conversation is to end
  obtain ⟨before, uses, ⟨hshow, hbefore⟩, hspoken, hlog⟩ :=
    (toStop_speaks ch settings sink passes src).spoken s
  -- where the course has come to decides how many stops are spoken
  cases h with
  | @brokenOff d s₁ hscript =>
    have hlog₁ : s₁.log = s.log ++ uses := by rwa [hscript] at hlog
    obtain ⟨stop, closed, hstop, hreleased⟩ := released_logged ch settings s₁
    refine ⟨before, 1, uses ++ stop, closed, ?_, hspoken.append hstop, hshow, hbefore,
      .inl ⟨rfl, not_stopFails_of_error hscript⟩⟩
    rw [remains, hreleased, hlog₁, List.append_assoc s.log]
  | @unheeded d place s₁ s₂ hscript hfails =>
    have hlog₁ : s₁.log = s.log ++ uses := by rwa [hscript] at hlog
    obtain ⟨vain, hvain, hlog₂⟩ := signOffAt_logged ch settings src place s₁
    -- the stop in vain is in the log, and the one that cleans up comes after it
    rw [hfails, remains, hlog₁] at hlog₂
    obtain ⟨stop, closed, hstop, hreleased⟩ := released_logged ch settings s₂
    refine ⟨before, 2, uses ++ (vain ++ stop), closed, ?_, hspoken.append (hvain.append hstop),
      hshow, hbefore, .inr ⟨rfl, (stopFails_iff hscript).2 ⟨_, _, hfails⟩⟩⟩
    rw [remains, hreleased, hlog₂]
    simp only [List.append_assoc]
  | @completed place s₁ s₂ hscript hstops =>
    have hlog₁ : s₁.log = s.log ++ uses := by rwa [hscript] at hlog
    obtain ⟨stop, hstop, hlog₂⟩ := signOffAt_logged ch settings src place s₁
    rw [hstops, remains, hlog₁] at hlog₂
    -- the stop has been heard, so that only the link is left to be given up
    obtain ⟨closed, hleave⟩ := (leave_logged ch).2 s₂
    refine ⟨before, 1, uses ++ stop, closed, ?_, hspoken.append hstop, hshow, hbefore,
      .inl ⟨rfl, ?_⟩⟩
    · rw [hleave, hlog₂, List.append_assoc s.log]
    · intro hvain
      obtain ⟨e, s₃, herror⟩ := (stopFails_iff hscript).1 hvain
      rw [hstops] at herror
      cases herror

/-- **The agent is always stopped, and the link always given up.** A session is compared with the
same session over a link with a log, which is empty at first; the log makes no difference. With
settings that no run can work with, it stays empty. With others, if the session comes to its end,

* the log consists of turns, in each of which a line is sent and, if it could be, a response waited
  for once, and then of one closing;
* the first line is about what is to be shown, and the last one tells the agent to stop, which comes
  once, or twice where the script has come to its end and the agent has not stopped then;
* the failure, if any, is the first one of opening, running and closing the session, as it would be
  with no cleaning up. -/
theorem converseChecked_stops_and_leaves (ch : Link χ) (settings : Settings) (sink : Sink τ)
    (passes : Nat) (src : Source) (link : χ) (output : τ) :
    let s : Session (Logged χ) τ := .ofLink ⟨link, []⟩ output
    let whole := converseChecked ch.logged settings sink passes src s
    converseChecked ch settings sink passes src (.ofLink link output) = onState unlogged whole ∧
      (∀ e, settings.check = .error e → whole = .error (.failed e.diagnostic) s) ∧
      (settings.check = .ok () → Returned whole →
        (∃ (turns : List Turn) (closed : Bool) (before : List String) (stops : Nat),
          (remains whole).log =
            turns.flatMap (Turn.uses settings.manner.patience) ++ [⟨.close, closed⟩] ∧
          turns.map Turn.line = before ++ List.replicate stops Request.stop.line ∧
          before.head? = some (Request.showMessages settings.showMessages).line ∧
          Request.stop.line ∉ before ∧
          (stops = 1 ∧ ¬ StopFails ch.logged settings sink passes src s ∨
            stops = 2 ∧ StopFails ch.logged settings sink passes src s)) ∧
        ending whole = ending (straight ch.logged settings sink passes src s)) := by
  intro s whole
  refine ⟨?_, fun e he => ?_, fun hcheck hreturned => ?_⟩
  · -- the log is no part of what the pilot goes by
    have hsame := inTandem_converseChecked ch settings sink passes src (.ofLink link output) s rfl
    exact hsame.eq_onState
  · simp only [whole, converseChecked, he]
    rfl
  · have hwhole : whole = converse ch.logged settings sink passes src s := by
      simp only [whole, converseChecked, hcheck]
    rw [hwhole] at hreturned ⊢
    -- a conversation that comes back has taken one of the three courses
    have hcourse := course_of_returned hreturned
    obtain ⟨before, stops, uses, closed, hlog, ⟨turns, hlines, rfl⟩, hshow, hbefore, hstops⟩ :=
      hcourse.log_eq
    exact ⟨⟨turns, closed, before, stops, hlog, hlines, hshow, hbefore, hstops⟩, hcourse.ending_eq⟩

end Whole

/-- A far end that does not stop when it is first told to. -/
def deafOnce : Rehearsal :=
  .ofLines [("SHOWMSGS OFF", some "ACK SHOWMSGS OFF"), ("GETDIR", some "ROBISFACING UP"),
    ("FACE LEFT", some "ACK FACE LEFT"), ("STOP", some "CMDFAIL"), ("STOP", some "ACK STOP")]

/-- A script that turns once. -/
def turnOnce : Source := ⟨"turn.gs", Utf8.encode "main \x7b turnL; \x7d"⟩

/-- The script comes to its end, and the far end has to be told twice. -/
theorem converseChecked_deafOnce :
    let s : Session (Logged Rehearsal) Output := .ofLink ⟨deafOnce, []⟩ (.empty none)
    let whole := converseChecked Rehearsal.link.logged .usual Output.sink 0 turnOnce s
    Settings.usual.check = .ok () ∧ Returned whole ∧
      (remains whole).log.map LoggedUse.use =
        [.send "SHOWMSGS OFF", .receive 5000, .send "GETDIR", .receive 5000, .send "FACE LEFT",
          .receive 5000, .send "STOP", .receive 5000, .send "STOP", .receive 5000, .close] ∧
      ending whole = ending (straight Rehearsal.link.logged .usual Output.sink 0 turnOnce s) := by
  have hreturned : Returned (converseChecked Rehearsal.link.logged .usual Output.sink 0 turnOnce
      (.ofLink ⟨deafOnce, []⟩ (.empty none))) := by decide +kernel
  have hwhole := converseChecked_stops_and_leaves Rehearsal.link .usual Output.sink 0 turnOnce
    deafOnce (.empty none)
  -- the log is finite computation; that the ending is that of the straight course is the theorem
  exact ⟨rfl, hreturned, by decide +kernel, (hwhole.2.2 rfl hreturned).2⟩

end Session

end GridScript
