import GridScript.Agent
import GridScript.Text.Utf8

/-!
# Output that is kept

* `Output.sink` keeps what is printed, up to a number of bytes. A line that does not fit is kept as
  far as it fits, and refused.
-/

namespace GridScript

/-- **What has been printed**, and how many bytes there is room for. -/
structure Output where
  written : List UInt8
  limit : Option Nat

namespace Output

/-- Nothing printed yet. -/
def empty (limit : Option Nat) : Output := ⟨[], limit⟩

/-- What has been printed, as text. -/
def text (o : Output) : String := Utf8.decode o.written

/-- **A sink that keeps what is printed.** -/
def sink : Sink Output where
  print line := fun o =>
    let all := o.written ++ Utf8.encode (line ++ "\n")
    match o.limit with
    | none => .ok () { o with written := all }
    | some n =>
      if all.length ≤ n then .ok () { o with written := all }
      else .error "sink is full" { o with written := all.take n }

end Output

end GridScript
