import GridScript.Link

/-!
# Connecting

A far end that cannot be reached is tried again, and again, until the time is up.

* `Connecting.attempts` says how often that is.
-/

namespace GridScript

/-- **How patiently to connect.** -/
structure Connecting where
  address : String
  port : UInt16
  /-- The milliseconds after which to give up, if ever. -/
  timeout : Option Nat
  /-- The milliseconds between two attempts. -/
  interval : Nat

namespace Connecting

/-- **The number of attempts at a far end that cannot be reached**, or `none` if there is no end to
them. Each attempt is followed by the interval, unless the time is up when it fails. -/
def attempts (c : Connecting) : Option Nat :=
  match c.timeout with
  | none => none
  | some timeout =>
    if timeout = 0 then some 1
    else if c.interval = 0 then none
    -- the failures at 0, at one interval, at two, up to the first that is not before the timeout
    else some ((timeout + c.interval - 1) / c.interval + 1)

/-- The error of giving up, after this many attempts, the last of which failed for this reason. -/
def gaveUp (c : Connecting) (attempts : Nat) (reason : String) : LinkError :=
  .connection ("could not connect to " ++ c.address ++ ":" ++ Nat.repr c.port.toNat ++ " after " ++
    Nat.repr attempts ++ " attempts: " ++ reason)

end Connecting

end GridScript
