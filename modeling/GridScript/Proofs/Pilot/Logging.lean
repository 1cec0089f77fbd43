import GridScript.Link.Tape
import GridScript.Proofs.Pilot.Companions
import GridScript.Proofs.Wire.Lines

/-!
# What a pilot does to its link

A log has every use of a link, in order, and whether it has succeeded. Over a link that keeps one a
pilot does what it does over the link itself, and what it adds to the log are turns: a line is sent,
and if it could be, a response is waited for once before anything else is sent.

* `Link.logged` — a link that keeps a log and is otherwise the link that it is about.
* `Turn`, `Turn.uses` — an exchange, as it appears in a log.
* `Pilot.exchange_logged`, `Pilot.order_logged`, `Pilot.hangUp_logged` — what is added by an
  exchange, by a command, and by giving the link up.
* `Pilot.Since` — a pilot and the same pilot with a log, since some point at which the conversation
  was not over; `Pilot.companions_logged`.
-/

namespace GridScript

/-- **A use of a link**, and whether it has succeeded. -/
structure LoggedUse where
  use : LinkUse
  succeeded : Bool
  deriving DecidableEq, Repr

/-- **A link's state with a log**, in order. -/
structure Logged (χ : Type) where
  link : χ
  log : List LoggedUse

/-- A use of the link, which is put into the log however it ends. -/
def Logged.noting {χ α : Type} (u : LinkUse) (use : EStateM (Trouble LinkError) χ α) :
    EStateM (Trouble LinkError) (Logged χ) α := fun s =>
  match use s.link with
  | .ok a link => .ok a ⟨link, s.log ++ [⟨u, true⟩]⟩
  | .error e link => .error e ⟨link, s.log ++ [⟨u, false⟩]⟩

/-- **The link that keeps a log.** -/
def Link.logged {χ : Type} (ch : Link χ) : Link (Logged χ) where
  send line := Logged.noting (.send line) (ch.send line)
  receive patience := Logged.noting (.receive patience) (ch.receive patience)
  close := Logged.noting .close ch.close

/-- **A turn of a conversation**: a line, and if it could be sent, whether the wait for a response
has succeeded. A wait in which nothing comes has. -/
structure Turn where
  line : String
  received : Option Bool
  deriving DecidableEq, Repr

/-- **The uses of the link in a turn.** -/
def Turn.uses (patience : Nat) : Turn → List LoggedUse
  | ⟨line, none⟩ => [⟨.send line, false⟩]
  | ⟨line, some received⟩ => [⟨.send line, true⟩, ⟨.receive patience, received⟩]

namespace Pilot

variable {χ α : Type} (ch : Link χ) (manner : Manner)

/-- The pilot over the link without a log. -/
def unlogged (p : Pilot (Logged χ)) : Pilot χ := ⟨p.link.link, p.belief⟩

/-- The same pilot, with more in its log. -/
def noted (p : Pilot (Logged χ)) (link : χ) (uses : List LoggedUse) : Pilot (Logged χ) :=
  ⟨⟨link, p.link.log ++ uses⟩, p.belief⟩

/-- **An exchange is one turn.** -/
theorem exchange_logged (r : Request) (p : Pilot (Logged χ)) :
    ∃ (res : Except (Trouble LinkError) String) (link : χ) (t : Turn), t.line = r.line ∧
      exchange ch.logged manner r p = (p.noted link (t.uses manner.patience)).resultOf res ∧
      exchange ch manner r p.unlogged = (⟨link, p.belief⟩ : Pilot χ).resultOf res := by
  simp only [exchange, bind_apply, overLink, Link.logged, Logged.noting, unlogged]
  -- nothing is waited for where the line could not be sent
  cases hsend : ch.send r.line p.link.link with
  | error e link => exact ⟨.error e, link, ⟨r.line, none⟩, rfl, rfl, rfl⟩
  | ok u link =>
    dsimp only
    -- the line has been sent, and now the response is waited for
    cases hreceive : ch.receive manner.patience link with
    | error e link' =>
      refine ⟨.error e, link', ⟨r.line, some false⟩, rfl, ?_, rfl⟩
      simp [noted, Turn.uses, resultOf]
    | ok o link' =>
      -- whatever is made of the response, the log is the same
      have hlog : p.noted link' (Turn.uses manner.patience ⟨r.line, some true⟩) =
          ⟨⟨link', p.link.log ++ [⟨.send r.line, true⟩] ++ [⟨.receive manner.patience, true⟩]⟩,
            p.belief⟩ := by
        rw [noted, Turn.uses, List.append_assoc]
        rfl
      -- no response, one of the two rejections, or any other: the log does not tell
      cases o with
      | none =>
        refine ⟨.error (.failed (.noResponse r.line manner.patience)), link',
          ⟨r.line, some true⟩, rfl, ?_, rfl⟩
        rw [hlog]
        rfl
      | some response =>
        dsimp only
        by_cases hfail : response = Rejection.failLine
        · rw [if_pos hfail, if_pos hfail]
          refine ⟨.error (.failed (.rejected r.line)), link', ⟨r.line, some true⟩, rfl, ?_, rfl⟩
          rw [hlog]
          rfl
        · rw [if_neg hfail, if_neg hfail]
          by_cases herror : response = Rejection.errorLine
          · rw [if_pos herror, if_pos herror]
            refine ⟨.error (.failed (.unknownRequest r.line)), link', ⟨r.line, some true⟩, rfl, ?_,
              rfl⟩
            rw [hlog]
            rfl
          · rw [if_neg herror, if_neg herror]
            refine ⟨.ok response, link', ⟨r.line, some true⟩, rfl, ?_, rfl⟩
            rw [hlog]
            rfl

/-- **A command is one turn.** -/
theorem order_logged (r : Request) (p : Pilot (Logged χ)) :
    ∃ (res : Except (Trouble LinkError) Unit) (link : χ) (t : Turn), t.line = r.line ∧
      order ch.logged manner r p = (p.noted link (t.uses manner.patience)).resultOf res ∧
      order ch manner r p.unlogged = (⟨link, p.belief⟩ : Pilot χ).resultOf res := by
  obtain ⟨res, link, t, ht, hlogged, hplain⟩ := exchange_logged ch manner r p
  -- an order is an exchange, so the log is that of its exchange
  cases res with
  | error e =>
    rw [order, order, bind_of_error hlogged, bind_of_error hplain]
    exact ⟨.error e, link, t, ht, rfl, rfl⟩
  | ok response =>
    rw [order, order, bind_of_ok hlogged, bind_of_ok hplain]
    by_cases hack : response = r.acknowledgement
    · simp only [if_pos hack]
      exact ⟨.ok (), link, t, ht, rfl, rfl⟩
    · simp only [if_neg hack]
      exact ⟨.error (.failed (.wrongResponse r.line r.acknowledgement response)), link, t, ht, rfl,
        rfl⟩

/-- **Giving the link up** is one use of it. -/
theorem hangUp_logged (p : Pilot (Logged χ)) :
    ∃ (res : Except (Trouble LinkError) Unit) (link : χ) (closed : Bool),
      hangUp ch.logged p = (p.noted link [⟨.close, closed⟩]).resultOf res ∧
      hangUp ch p.unlogged = (⟨link, p.belief⟩ : Pilot χ).resultOf res := by
  simp only [hangUp, overLink, Link.logged, Logged.noting, unlogged]
  cases ch.close p.link.link with
  | ok u link => exact ⟨.ok (), link, true, rfl, rfl⟩
  | error e link => exact ⟨.error e, link, false, rfl, rfl⟩

/-- **A pilot, and the same pilot with a log**, which since some point has turns in it, none of them
with the line that ends a conversation. -/
structure Since (patience : Nat) (start : List LoggedUse) (p : Pilot χ) (p' : Pilot (Logged χ)) :
    Prop where
  same : p = p'.unlogged
  turns : ∃ turns : List Turn, (∀ t ∈ turns, t.line ≠ Request.stop.line) ∧
    p'.link.log = start ++ turns.flatMap (·.uses patience)

theorem Since.start (patience : Nat) (p : Pilot (Logged χ)) :
    Since patience p.link.log p.unlogged p :=
  ⟨rfl, [], by simp, by simp⟩

/-- **The log makes no difference** to a pilot, as long as the conversation is not over. -/
theorem companions_logged (start : List LoggedUse) :
    -- no belief is logged, so only the exchange has something to be shown
    Companions ch ch.logged manner (Since manner.patience start) where
  belief h := by rw [h.same]; rfl
  believing b h := ⟨by rw [h.same]; rfl, h.turns⟩
  exchange r hr := by
    intro p p' h
    obtain ⟨rfl, turns, hturns, hlog⟩ := h
    obtain ⟨res, link, t, ht, hlogged, hplain⟩ := exchange_logged ch manner r p'
    rw [hlogged, hplain]
    -- the line that was logged is the line of the request, and that is not the last one
    have hstop : t.line ≠ Request.stop.line := fun heq =>
      hr (Request.line_injective (ht.symm.trans heq))
    have hsince : Since manner.patience start ⟨link, p'.belief⟩
        (p'.noted link (t.uses manner.patience)) := by
      refine ⟨rfl, turns ++ [t], fun u hu => ?_, ?_⟩
      · -- the new turn is none of those from before
        rcases List.mem_append.1 hu with hu | hu
        · exact hturns u hu
        · rwa [List.mem_singleton.1 hu]
      · rw [noted, hlog]
        simp
    cases res with
    | ok response => exact .ok response hsince
    | error e => exact .error e hsince

end Pilot

end GridScript
