import GridScript.Diagnostic
import GridScript.Grid.Direction
import GridScript.Json
import GridScript.Pilot

/-!
# Session settings

* `Settings` is everything that a run needs to know besides its script.
* `Settings.check` refuses settings that no run can work with.
* `Settings.ofJson?` reads settings. Each may be left out, and there are no others.
-/

namespace GridScript

/-- **The settings of a session.** -/
structure Settings where
  /-- The host that the agent listens on. -/
  address : String
  port : UInt16
  /-- Ask for the traffic to be shown. -/
  showMessages : Bool
  /-- The grid to load before the script starts. -/
  grid : Option String
  /-- The milliseconds to wait for each response. -/
  responseTimeout : UInt64
  /-- The milliseconds after which connecting is given up, if ever. -/
  connectTimeout : Option UInt64
  /-- The milliseconds between two attempts to connect. -/
  retryInterval : UInt64
  /-- How many calls may be active at once. -/
  maxCallDepth : UInt32
  /-- The modulus of the rotation of sides. -/
  rotationModulus : UInt64
  deriving DecidableEq, Repr

/-- **Why settings are refused.** -/
inductive SettingsError where
  /-- The file cannot be read. -/
  | unreadable (path reason : String)
  /-- The text is not one of settings. -/
  | notSettings
  /-- No run can work with the value of a setting. -/
  | unusable (field reason : String)
  deriving DecidableEq, Repr

namespace SettingsError

/-- The message. -/
def message : SettingsError → String
  | unreadable path reason => "cannot read config file " ++ path ++ ": " ++ reason
  | notSettings => "invalid config file: not a list of known settings"
  | unusable field reason => "invalid config value for " ++ field ++ ": " ++ reason

/-- The error as a diagnostic. -/
def diagnostic (e : SettingsError) : Diagnostic := .ofMessage ⟨400⟩ e.message

end SettingsError

namespace Settings

/-- The port that agents listen on unless told otherwise. -/
def usualPort : UInt16 := 1024

/-- How many calls may be active at once unless told otherwise. -/
def usualCallDepth : UInt32 := 200

/-- The most active calls that a session accepts. -/
def mostActiveCalls : UInt32 := 2000

/-- **The settings that are not made otherwise.** -/
def usual : Settings :=
  { address := "127.0.0.1"
    port := usualPort
    showMessages := false
    grid := none
    responseTimeout := 5000
    connectTimeout := none
    retryInterval := 250
    maxCallDepth := usualCallDepth
    rotationModulus := Direction.count.toUInt64 }

variable (c : Settings)

/-- **Refuses settings that no run can work with.** The first of them in this order is named. -/
def check : Except SettingsError Unit :=
  if c.port = 0 then .error (.unusable "port" "must not be 0")
  else if c.responseTimeout = 0 then
    .error (.unusable "message_timeout_ms" "must be greater than 0")
  else if c.maxCallDepth = 0 ∨ mostActiveCalls < c.maxCallDepth then
    .error (.unusable "max_call_depth"
      ("must be between 1 and " ++ Numeral.ofNat mostActiveCalls.toNat ++ ", not " ++
        Numeral.ofNat c.maxCallDepth.toNat))
  else if c.rotationModulus.toNat ≠ Direction.count ∧
      c.rotationModulus.toNat ≠ Side.legacyModulus then
    .error (.unusable "rotation_modulus"
      ("must be " ++ Numeral.ofNat Direction.count ++ " or " ++
        Numeral.ofNat Side.legacyModulus ++ ", not " ++ Numeral.ofNat c.rotationModulus.toNat))
  else .ok ()

/-- The bytes of stack to reserve for a run: a fixed part, and a part for each call that may be
active. -/
def stackSize : Nat := 1024 * 1024 + 32 * 1024 * c.maxCallDepth.toNat

/-- How a pilot with these settings talks and turns. -/
def manner : Pilot.Manner := ⟨c.responseTimeout.toNat, c.rotationModulus.toNat⟩

/-! ### Settings from elsewhere -/

/-- The names of the settings, in the order of the fields. -/
def fieldNames : List String :=
  ["address", "port", "show_messages", "grid", "message_timeout_ms", "connect_timeout_ms",
    "retry_interval_ms", "max_call_depth", "rotation_modulus"]

/-- The value of a setting, or its default if it is left out. -/
def fieldOr {α : Type} (default : α) (read : Json → Option α) : Option Json → Option α
  | none => some default
  | some j => read j

/-- What `null` or a value gives for a setting that may be without a value. -/
def orNone {α : Type} (read : Json → Option α) : Json → Option (Option α)
  | .null => some none
  | j => (read j).map some

/-- **The settings that JSON gives.** What is left out has its default. -/
def ofJson? (j : Json) : Option Settings := do
  -- an array may leave out the last fields, an object any, and neither has others
  let [address, port, showMessages, grid, responseTimeout, connectTimeout, retryInterval,
    maxCallDepth, rotationModulus] ← j.fieldsOf ⟨false, true⟩ fieldNames | none
  let word64 (j : Json) : Option UInt64 := (j.natBelow? UInt64.size).map Nat.toUInt64
  return {
    address := ← fieldOr usual.address Json.text? address
    port := ← fieldOr usual.port (fun j => (j.natBelow? UInt16.size).map Nat.toUInt16) port
    showMessages := ← fieldOr usual.showMessages Json.bool? showMessages
    grid := ← fieldOr usual.grid (orNone Json.text?) grid
    responseTimeout := ← fieldOr usual.responseTimeout word64 responseTimeout
    connectTimeout := ← fieldOr usual.connectTimeout (orNone word64) connectTimeout
    retryInterval := ← fieldOr usual.retryInterval word64 retryInterval
    maxCallDepth :=
      ← fieldOr usual.maxCallDepth (fun j => (j.natBelow? UInt32.size).map Nat.toUInt32)
          maxCallDepth
    rotationModulus := ← fieldOr usual.rotationModulus word64 rotationModulus }

end Settings

end GridScript
