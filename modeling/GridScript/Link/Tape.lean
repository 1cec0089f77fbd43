import GridScript.Link.Connecting

/-!
# A conversation that is still going on

A tape holds what a far end has done so far, use after use of the link. A session over it runs up to
the first use whose end is not known yet, and breaks off there. Whoever knows the far end brings
that use about, puts its end on the tape, and runs the session once more. A session depends on
nothing but the ends on its tape, so it comes to the same use again and goes past it.

* `Tape.link` is the link to the tape.
* `Tape.use_nil`: it breaks off exactly where the tape ends, with the use that is due.
-/

namespace GridScript

/-- **A use of a link.** -/
inductive LinkUse where
  | send (line : String)
  | receive (milliseconds : Nat)
  | close
  deriving DecidableEq, Repr

/-- **How a use of a link ends**: with a line, if one was wanted and has come, or with an error. -/
abbrev UseEnd := Except LinkError (Option String)

/-- **What a far end has done so far.** -/
structure Tape where
  /-- Where the far end is, and how patiently it has been looked for. -/
  connecting : Connecting
  /-- The ends of the uses still to come, as far as they are known. -/
  ends : List UseEnd
  /-- The use whose end is not known. -/
  due : Option LinkUse

namespace Tape

/-- **One use of the link.** -/
def use (u : LinkUse) : EStateM (Trouble LinkError) Tape (Option String) := fun t =>
  match t.ends with
  | [] => .error (.aborted .unanswered) { t with due := some u }
  | .ok line :: rest => .ok line { t with ends := rest }
  | .error e :: rest => .error (.failed e) { t with ends := rest }

/-- **The link to the tape.** -/
def link : Link Tape where
  send line := discard (use (.send line))
  receive milliseconds := use (.receive milliseconds)
  close := discard (use .close)

/-- Where the tape has ended, a use breaks off and is noted. -/
theorem use_nil (u : LinkUse) (c : Connecting) (d : Option LinkUse) :
    use u ⟨c, [], d⟩ = .error (.aborted .unanswered) ⟨c, [], some u⟩ := rfl

end Tape

end GridScript
