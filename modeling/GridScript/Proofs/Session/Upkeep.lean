import GridScript.Proofs.Script.SetUps
import GridScript.Proofs.Session.Conversation

/-!
# What a session keeps true

A session is opened, runs a script and gives its link up, with steps that clean up after the others.
To show that something holds of its pilot all the time it is enough to look at what a pilot can be
asked: to show or hide the traffic, to change to the grid of the settings, to obey what the script
may tell it, and to hang up. The same goes for what two sessions over different links have in
common.

* `Noted`, `Agent.noting` — an agent that makes a note of its state after every operation.
* `Session.Upkeep` — what is asked of the operations of a pilot.
* `Session.settles_elseQuietly` — steps with a cleanup.
* `Session.Upkeep.setOut`, `Session.Upkeep.interpret`, `Session.Upkeep.converseChecked` — sessions.
* `Session.inTandem_converseChecked_of` — two sessions over different links.
* `Session.stations` — the pilot at every point of a session between two operations, and
  `Session.Upkeep.stations` — what it keeps true at each of them.
-/

namespace GridScript

/-! ### Noting what an agent is left in -/

/-- **The state of an agent, with notes**: every state that it has been left in, in order. -/
structure Noted (σ : Type) where
  state : σ
  notes : List σ

namespace Noted

variable {ε σ α : Type}

/-- A computation after which a note is made, whether it succeeds or fails. -/
def noting (a : EStateM ε σ α) : EStateM ε (Noted σ) α := fun n =>
  match a n.state with
  | .ok v s => .ok v ⟨s, n.notes ++ [s]⟩
  | .error e s => .error e ⟨s, n.notes ++ [s]⟩

/-- Nobody can tell that notes are made. -/
theorem inTandem_noting (a : EStateM ε σ α) :
    InTandem (fun s (n : Noted σ) => s = n.state) a (noting a) := by
  rintro _ n rfl
  rw [noting]
  cases a n.state with
  | ok v s => exact .ok v rfl
  | error e s => exact .error e rfl

/-- A state, and notes, all of which are as they should be. -/
structure All (I : σ → Prop) (n : Noted σ) : Prop where
  state : I n.state
  notes : ∀ s ∈ n.notes, I s

/-- What holds of a state at both ends of a computation holds of the note, too. -/
theorem settles_noting {I : σ → Prop} {a : EStateM ε σ α} {n : Noted σ} (hn : n.All I)
    (h : Settles a n.state (fun _ => I) fun _ => I) :
    Settles (noting a) n (fun _ => All I) fun _ => All I := by
  -- the state that is noted is the one that the invariant holds of
  have hall (s : σ) (hs : I s) : All I ⟨s, n.notes ++ [s]⟩ := by
    refine ⟨hs, fun t ht => ?_⟩
    rcases List.mem_append.1 ht with ht | ht
    · exact hn.notes t ht
    · rwa [List.mem_singleton.1 ht]
  rw [Settles, noting]
  cases ha : a n.state with
  | ok v s => exact hall s (h.of_ok ha)
  | error e s => exact hall s (h.of_error ha)

end Noted

/-- **The agent that makes a note after every operation.** -/
def Agent.noting {σ : Type} (agent : Agent σ) : Agent (Noted σ) where
  obey c := Noted.noting (agent.obey c)
  answer c := Noted.noting (agent.answer c)

/-- What an agent keeps true holds of all notes. -/
theorem Agent.Upholds.noting {σ : Type} {agent : Agent σ} {allowed : Command → Prop} {I : σ → Prop}
    (h : agent.Upholds allowed I) : agent.noting.Upholds allowed (Noted.All I) where
  obey c _ hc hn := Noted.settles_noting hn (h.obey c _ hc hn.state)
  answer c _ hn := Noted.settles_noting hn (h.answer c _ hn.state)

namespace Context

variable {σ τ : Type}

/-- The same run with an agent that makes notes. -/
def noting (env : Context σ τ) : Context (Noted σ) τ := { env with agent := env.agent.noting }

/-- The scene of a run without the notes. -/
def unnoted (s : Tree.Scene (Noted σ) τ) : Tree.Scene σ τ := ⟨s.agent.state, s.output⟩

/-- Whatever is said, making notes of it changes nothing. -/
theorem inTandem_hear_noting (env : Context σ τ) (what : Saying) :
    InTandem (fun s s' => s = unnoted s') (env.hear what) (env.noting.hear what) := by
  rintro _ s rfl
  cases what with
  | tell place c =>
    -- the note is added behind the answer, and the answer is the same
    have hobey := Noted.inTandem_noting (env.agent.obey c) s.agent.state s.agent rfl
    simp only [hear, noting, Agent.noting, unnoted]
    generalize env.agent.obey c s.agent.state = r,
      Noted.noting (env.agent.obey c) s.agent = r' at hobey ⊢
    cases hobey with
    | ok u hn => exact .ok true (congrArg (Tree.Scene.mk · s.output) hn)
    | error e hn => exact .error _ (congrArg (Tree.Scene.mk · s.output) hn)
  | ask place c =>
    have hanswer := Noted.inTandem_noting (env.agent.answer c) s.agent.state s.agent rfl
    simp only [hear, noting, Agent.noting, unnoted]
    generalize env.agent.answer c s.agent.state = r,
      Noted.noting (env.agent.answer c) s.agent = r' at hanswer ⊢
    cases hanswer with
    | ok a hn => exact .ok a (congrArg (Tree.Scene.mk · s.output) hn)
    | error e hn => exact .error _ (congrArg (Tree.Scene.mk · s.output) hn)
  | print line =>
    simp only [hear, noting, unnoted]
    cases env.sink.print line s.output with
    | ok u o => exact .ok true rfl
    | error reason o => exact .error _ rfl

end Context

/-- **A run with notes is the run without them.** -/
theorem Program.played_noting {σ τ : Type} (env : Context σ τ) (src : Source)
    (s : Tree.Scene (Noted σ) τ) :
    played env src (Context.unnoted s) = onState Context.unnoted (played env.noting src s) :=
  (sameResult_played env.inTandem_hear_noting src rfl).eq_onState

namespace Session

variable {χ χ' τ α : Type}

/-! ### Steps of a session -/

section Steps

variable {I I' : Pilot χ → Prop} {s : Session χ τ}

/-- What a pilot does keeps true in a session what it keeps true of the pilot. -/
theorem settles_piloting {a : Pilot.Action χ α}
    (h : Settles a s.pilot (fun _ => I) fun _ => I') :
    Settles (piloting a : Action χ τ α) s (fun _ s' => I s'.pilot) fun _ s' => I' s'.pilot := by
  rw [Settles, piloting]
  cases ha : a s.pilot with
  | ok v p => exact h.of_ok ha
  | error e p => exact h.of_error ha

variable {J J' : Session χ τ → Prop} {cleanup : Action χ τ Unit}

theorem settles_quietly (h : Settles cleanup s (fun _ => J) fun _ => J) :
    Settles (quietly cleanup) s (fun _ => J) fun _ => J := by
  rw [Settles, quietly]
  cases hclean : cleanup s with
  | ok u s' => exact h.of_ok hclean
  | error e s' =>
    have hs' : J s' := h.of_error hclean
    cases e <;> exact hs'

/-- **An action with a cleanup.** What holds where the action fails has to be kept, or made, by the
cleanup. -/
theorem settles_elseQuietly {a : Action χ τ α} {Q : α → Session χ τ → Prop}
    (h : Settles a s Q fun _ => J) (hweaker : ∀ s', J s' → J' s')
    (hclean : ∀ s', J s' → Settles cleanup s' (fun _ => J') fun _ => J') :
    Settles (elseQuietly a cleanup) s Q fun _ => J' := by
  rw [Settles, elseQuietly]
  cases ha : a s with
  | ok v s' => exact h.of_ok ha
  | error e s' =>
    have hs' : J s' := h.of_error ha
    cases e with
    -- a failure is cleaned up behind, with what holds there; nothing is done behind any other end
    | failed d =>
      exact (settles_quietly (hclean s' hs')).bind fun _ _ hs'' => settles_throw hs''
    | aborted a => exact hweaker s' hs'
    | unfinished => exact hweaker s' hs'

end Steps

/-- What holds however a computation ends holds of what it leaves behind. -/
theorem remains_of_settles {ε ω : Type} {x : EStateM ε ω α} {w : ω} {J : ω → Prop}
    (h : Settles x w (fun _ => J) fun _ => J) : J (remains (x w)) := by
  rw [Settles] at h
  cases hx : x w <;> rwa [hx] at h

/-! ### Whole sessions -/

/-- **What is asked of a pilot** for `I` to hold of it as long as a session with these settings and
this script goes on, and `I'` once it has hung up. -/
structure Upkeep (ch : Link χ) (settings : Settings) (src : Source) (I I' : Pilot χ → Prop) :
    Prop where
  showTraffic : ∀ p, I p →
    Settles (Pilot.showTraffic ch settings.manner settings.showMessages) p (fun _ => I) fun _ => I
  changeGrid : ∀ p name, settings.grid = some name → I p →
    Settles (Pilot.changeGrid ch settings.manner name) p (fun _ => I) fun _ => I
  agent : (Pilot.agent ch settings.manner).Upholds src.lexemes.Allows I
  hangUp : ∀ p, I p → Settles (Pilot.hangUp ch) p (fun _ => I') fun _ => I'
  weaker : ∀ p, I p → I' p

section Upkeep

variable {ch : Link χ} {settings : Settings} {src : Source} {I I' : Pilot χ → Prop}
variable (h : Upkeep ch settings src I I') {s : Session χ τ}

include h

theorem Upkeep.setOut (hs : I s.pilot) :
    Settles (setOut ch settings) s (fun _ s' => I s'.pilot) fun _ s' => I s'.pilot := by
  refine (settles_piloting (h.showTraffic _ hs)).bind fun _ s' hs' => ?_
  cases hgrid : settings.grid with
  | none => exact settles_pure hs'
  | some name => exact settles_piloting (h.changeGrid _ name hgrid hs')

/-- To end a run is allowed to every script. -/
theorem Upkeep.signOff (hs : I s.pilot) :
    Settles (signOff ch settings) s (fun _ s' => I s'.pilot) fun _ s' => I s'.pilot := by
  have hstop : src.lexemes.Allows .stop := trivial
  have hagent := h.agent.obey .stop s.pilot hstop hs
  refine settles_piloting ?_
  simp only [Settles, Pilot.agent, Pilot.diagnosed, Pilot.obey] at hagent ⊢
  cases hact : Pilot.signOff ch settings.manner s.pilot with
  | ok u p => rwa [hact] at hagent
  | error e p => rwa [hact] at hagent

theorem Upkeep.interpret (sink : Sink τ) (passes : Nat) (hs : I s.pilot) :
    Settles (interpret ch settings sink passes src) s (fun _ s' => I s'.pilot)
      fun _ s' => I s'.pilot := by
  have hrun : Settles (Program.run (context ch settings sink passes))
      (.ofSource src s.pilot s.output) (fun _ m => I m.agent) fun _ m => I m.agent :=
    Program.settles_run h.agent hs
  rw [Settles, Session.interpret]
  cases hact : Program.run (context ch settings sink passes) (.ofSource src s.pilot s.output) with
  | ok u m => exact hrun.of_ok hact
  | error e m => exact hrun.of_error hact

theorem Upkeep.leave (hs : I s.pilot) :
    Settles (leave ch) s (fun _ s' => I' s'.pilot) fun _ s' => I' s'.pilot :=
  settles_piloting (h.hangUp _ hs)

theorem Upkeep.start (hs : I s.pilot) :
    Settles (start ch settings) s (fun _ s' => I s'.pilot) fun _ s' => I' s'.pilot := by
  have hstop (s' : Session χ τ) (hs' : I s'.pilot) :
      Settles (quietly (Session.signOff ch settings)) s' (fun _ s'' => I s''.pilot)
        fun _ s'' => I' s''.pilot :=
    (settles_quietly (h.signOff hs')).weaken (fun _ _ hs'' => hs'') fun _ s'' => h.weaker s''.pilot
  exact settles_elseQuietly (h.setOut hs) (fun s' => h.weaker s'.pilot) fun s' hs' =>
    (hstop s' hs').bind fun _ s'' hs'' => h.leave hs''

theorem Upkeep.run (sink : Sink τ) (passes : Nat) (hs : I s.pilot) :
    Settles (run ch settings sink passes src) s (fun _ s' => I s'.pilot) fun _ s' => I s'.pilot :=
  settles_elseQuietly (h.interpret sink passes hs) (fun _ hs' => hs') fun _ hs' => h.signOff hs'

/-- **What a session keeps true**, however it ends. -/
theorem Upkeep.converseChecked (sink : Sink τ) (passes : Nat) (hs : I s.pilot) :
    Settles (converseChecked ch settings sink passes src) s (fun _ s' => I' s'.pilot)
      fun _ s' => I' s'.pilot := by
  rw [Session.converseChecked]
  cases settings.check with
  | error e => exact settles_throw (h.weaker _ hs)
  | ok u =>
    refine (h.start hs).bind fun _ s' hs' => ?_
    have hrun := settles_elseQuietly (h.run sink passes hs') (fun s'' => h.weaker s''.pilot)
      fun s'' hs'' => h.leave hs''
    exact hrun.bind fun _ s'' hs'' => h.leave hs''

end Upkeep

/-! ### Between the operations -/

section Stations

variable (ch : Link χ) (settings : Settings) (sink : Sink τ) (passes : Nat) (src : Source)

/-- A script with notes, from a session that makes its first ones. -/
def noted (s : Session χ τ) :
    EStateM.Result (Halt Failure) (Tree.Scene (Noted (Pilot χ)) τ) Unit :=
  Program.played (context ch settings sink passes).noting src ⟨⟨s.pilot, []⟩, s.output⟩

/-- **The pilot at every point of a session between two operations**: when the session has been
opened, after each operation of the script, and after the stop that follows a failure. -/
def stations (s : Session χ τ) : List (Pilot χ) :=
  match start ch settings s with
  | .error _ s' => [s'.pilot]
  | .ok _ s' =>
    s'.pilot :: ((remains (noted ch settings sink passes src s')).agent.notes ++
      [(remains (run ch settings sink passes src s')).pilot])

variable {ch settings sink passes src} {I I' : Pilot χ → Prop} {s : Session χ τ}

/-- What holds of the pilot as long as the session goes on holds of all notes. -/
theorem Upkeep.noted (h : Upkeep ch settings src I I') (hs : I s.pilot) :
    ∀ p ∈ (remains (noted ch settings sink passes src s)).agent.notes, I p := by
  have hrun : Settles (Program.run (context ch settings sink passes).noting)
      (.ofSource src ⟨s.pilot, []⟩ s.output) (fun _ m => m.agent.All I) fun _ m => m.agent.All I :=
    Program.settles_run h.agent.noting ⟨hs, by simp⟩
  rw [Session.noted, Program.played]
  cases hact : Program.run (context ch settings sink passes).noting _ with
  | ok u m => exact (hrun.of_ok hact).notes
  | error e m => exact (hrun.of_error hact).notes

/-- **What a session keeps true between its operations.** -/
theorem Upkeep.stations (h : Upkeep ch settings src I I') (hs : I s.pilot) :
    ∀ p ∈ stations ch settings sink passes src s, I' p := by
  have hstart := h.start hs
  intro p hp
  rw [Session.stations] at hp
  -- a session that has not been opened has one station, which is where it failed
  cases hact : Session.start ch settings s with
  | error e s' =>
    rw [hact] at hp
    rw [List.mem_singleton.1 hp]
    exact hstart.of_error hact
  | ok u s' =>
    have hs' : I s'.pilot := hstart.of_ok hact
    rw [hact] at hp
    simp only [List.mem_cons, List.mem_append, List.not_mem_nil, or_false] at hp
    refine h.weaker p ?_
    -- the first station, those that are noted during the run, and the one behind it
    rcases hp with rfl | hp | rfl
    · exact hs'
    · exact h.noted hs' p hp
    · exact remains_of_settles (h.run sink passes hs')

end Stations

/-! ### Sessions over different links -/

section Links

variable {ch : Link χ} {ch' : Link χ'} {settings : Settings} {S : Pilot χ → Pilot χ' → Prop}

/-- What becomes of a session in which a script is interpreted depends on the machine only through
the agent and the output. -/
theorem interpret_eq_played (ch : Link χ) (settings : Settings) (sink : Sink τ) (passes : Nat)
    (src : Source) (s : Session χ τ) :
    interpret ch settings sink passes src s =
      match Program.played (context ch settings sink passes) src ⟨s.pilot, s.output⟩ with
      | .ok () v => .ok () ⟨v.agent, v.output⟩
      | .error e v => .error (e.map (·.diagnostic src)) ⟨v.agent, v.output⟩ := by
  rw [interpret, Program.played]
  cases Program.run _ (.ofSource src s.pilot s.output) <;> rfl

variable (hobey : ∀ c, InTandem S (Pilot.obey ch settings.manner c)
  (Pilot.obey ch' settings.manner c))
variable (hanswer : ∀ c, InTandem S (Pilot.answer ch settings.manner c)
  (Pilot.answer ch' settings.manner c))

include hobey hanswer

/-- A script is one dialogue over both links, and every word of it is heard alike. -/
theorem inTandem_interpret_of (sink : Sink τ) (passes : Nat) (src : Source) :
    InTandem (Alongside S) (interpret ch settings sink passes src)
      (interpret ch' settings sink passes src) := by
  intro s s' hs
  -- what is said is heard alike, so that the run as a whole is the same
  have hhear (what : Saying) := inTandem_hear_of ch settings sink passes
    (fun place c (_ : what = .tell place c) => hobey c) hanswer
  have hplayed : SameResult (fun v v' => Alongside S ⟨v.agent, v.output⟩ ⟨v'.agent, v'.output⟩)
      (Program.played (context ch settings sink passes) src ⟨s.pilot, s.output⟩)
      (Program.played (context ch' settings sink passes) src ⟨s'.pilot, s'.output⟩) :=
    Program.sameResult_played hhear src hs
  rw [interpret_eq_played, interpret_eq_played]
  generalize Program.played _ src ⟨s.pilot, s.output⟩ = r,
    Program.played _ src ⟨s'.pilot, s'.output⟩ = r' at hplayed ⊢
  cases hplayed with
  | ok u hv => exact .ok u hv
  | error e hv => exact .error _ hv

/-- **Sessions over different links** are the same if a pilot does over one of them what it does
over the other. -/
theorem inTandem_converseChecked_of
    (hshow : InTandem S (Pilot.showTraffic ch settings.manner settings.showMessages)
      (Pilot.showTraffic ch' settings.manner settings.showMessages))
    (hhangUp : InTandem S (Pilot.hangUp ch) (Pilot.hangUp ch'))
    (sink : Sink τ) (passes : Nat) (src : Source) :
    InTandem (Alongside S) (converseChecked ch settings sink passes src)
      (converseChecked ch' settings sink passes src) := by
  -- ending the run and changing to a grid are commands like others
  have hstop : InTandem (Alongside S) (signOff ch settings : Action χ τ Unit)
      (signOff ch' settings) := inTandem_piloting (hobey .stop)
  have hleave : InTandem (Alongside S) (leave ch : Action χ τ Unit) (leave ch') :=
    inTandem_piloting hhangUp
  have hsetOut : InTandem (Alongside S) (setOut ch settings : Action χ τ Unit)
      (setOut ch' settings) := by
    refine (inTandem_piloting hshow).bind fun _ => ?_
    cases settings.grid with
    | none => exact inTandem_pure ()
    | some name => exact inTandem_piloting (hobey (.loadGrid name))
  have hstart : InTandem (Alongside S) (start ch settings : Action χ τ Unit) (start ch' settings) :=
    inTandem_elseQuietly hsetOut ((inTandem_quietly hstop).bind fun _ => hleave)
  have hrun : InTandem (Alongside S) (run ch settings sink passes src)
      (run ch' settings sink passes src) :=
    inTandem_elseQuietly (inTandem_interpret_of hobey hanswer sink passes src) hstop
  rw [converseChecked, converseChecked]
  cases settings.check with
  | error e => exact inTandem_throw _
  | ok u => exact hstart.bind fun _ => (inTandem_elseQuietly hrun hleave).bind fun _ => hleave

end Links

end Session

end GridScript
