import GridScript.Diagnostic.Json
import GridScript.Launcher.Args
import GridScript.Launcher.Files
import GridScript.Link.Connecting
import GridScript.Script.Output
import GridScript.Session
import GridScript.Token.Json

/-!
# Launching

A launch reads its arguments and does what they ask for. Settings come from a file, if one is named,
and from options, which overrule it.

* `Host` is what a launch finds around it: files and far ends.
* `launch` gives what is printed, what is reported, and the exit code.
-/

namespace GridScript

/-- **What a launch finds around it.** -/
structure Host (χ : Type) where
  /-- The bytes of a file, or the reason why it cannot be read. -/
  contents : String → Except String (List UInt8)
  /-- Links to far ends. -/
  link : Link χ
  /-- A link to the far end at an address, or the reason why there is none. -/
  connect : Connecting → Except LinkError χ

/-- **What has become of a launch.** -/
structure Outcome (χ : Type) where
  /-- 0 if it has gone well, 1 if it has failed, 2 if its arguments are wrong, and `none` if it has
  not come to an end: a loop has used up its passes, or the run has broken off. -/
  exitCode : Option Nat
  printed : String
  reported : String
  /-- The link that has been used, if one has. -/
  used : Option χ

namespace ReportFormat

/-- **The report of a failure.** As text it shows the line of the script, if there is one, with a
mark below the column. -/
def report (format : ReportFormat) (d : Diagnostic) : String :=
  match format with
  | json => d.toJson.compact ++ "\n"
  | text =>
    let shown :=
      match d.location, d.sourceLine with
      | some l, some line =>
        -- a column counts bytes, so the mark may stand further right than what it is about
        let pad := String.ofList (List.replicate (l.column - 1) ' ')
        "  | " ++ line ++ "\n  | " ++ pad ++ "^\n"
      | _, _ => ""
    "error: " ++ d.display ++ "\n" ++ shown

end ReportFormat

namespace RunOptions

/-- Settings with the options put over them. -/
def apply (args : RunOptions) (c : Settings) : Settings :=
  { c with
    address := args.address.getD c.address
    port := args.port.getD c.port
    grid := args.grid <|> c.grid
    showMessages := args.messages || c.showMessages
    responseTimeout := args.responseTimeout.getD c.responseTimeout
    connectTimeout := args.connectTimeout <|> c.connectTimeout
    maxCallDepth := args.maxCallDepth.getD c.maxCallDepth
    rotationModulus :=
      if args.legacyRotation then Side.legacyModulus.toUInt64 else c.rotationModulus }

/-- **The settings of a run**: those of the file or the usual ones, with the options put over them,
and checked. -/
def settings (args : RunOptions) (read : String → Except String (List UInt8)) :
    Except SettingsError Settings := do
  let c ← match args.config with
    | some path => readSettings read path
    | none => .ok .usual
  let c := args.apply c
  c.check
  return c

end RunOptions

/-- How patiently a session with these settings connects. -/
def Settings.connecting (c : Settings) : Connecting :=
  ⟨c.address, c.port, c.connectTimeout.map UInt64.toNat, c.retryInterval.toNat⟩

namespace Launch

variable {χ : Type} (host : Host χ)

/-- What has gone well. -/
def good (printed : String) : Outcome χ := ⟨some 0, printed, "", none⟩

/-- What has failed. -/
def failed (format : ReportFormat) (d : Diagnostic) : Outcome χ :=
  ⟨some 1, "", format.report d, none⟩

/-- **Runs a script against an agent.** Nothing is connected before the settings and the script have
been read. -/
def run (passes : Nat) (args : RunOptions) (format : ReportFormat) : Outcome χ :=
  match args.settings host.contents with
  | .error e => failed format e.diagnostic
  | .ok settings =>
    match readScript host.contents args.script with
    | .error d => failed format d
    | .ok src =>
      match host.connect settings.connecting with
      | .error e => failed format e.diagnostic
      | .ok link =>
        let session := Session.ofLink link (Output.empty none)
        match Session.converse host.link settings Output.sink passes src session with
        | .ok () s => ⟨some 0, s.output.text, "", some s.pilot.link⟩
        | .error (.failed d) s => ⟨some 1, s.output.text, format.report d, some s.pilot.link⟩
        | .error _ s => ⟨none, s.output.text, "", some s.pilot.link⟩

/-- **Shows the tokens of a script**, each as JSON on a line of its own, up to the first place where
the spelling is wrong. -/
def tokens (script : String) (format : ReportFormat) : Outcome χ :=
  match readScript host.contents script with
  | .error d => failed format d
  | .ok src =>
    let (ts, wrong) := src.lexemes.listing
    let printed := String.join (ts.map fun (t, _) => t.toJson.compact ++ "\n")
    match wrong with
    | none => good printed
    | some e => { failed format ((Failure.spelling e.error e.shown).diagnostic src) with printed }

/-- How the program is used. -/
def usage : String :=
  "Run Robbie scripts against a grid agent\n\n" ++
    "Usage: robbie [OPTIONS] <COMMAND>\n\n" ++
    "Commands:\n" ++
    "  run <SCRIPT>     Connect to the agent and run a script\n" ++
    "  tokens <SCRIPT>  Print the script's tokens as JSON lines, without connecting\n"

end Launch

/-- **Does what the arguments ask for.** -/
def launch {χ : Type} (host : Host χ) (passes : Nat) (args : List String) : Outcome χ :=
  match Asked.ofArgs args with
  | none => ⟨some 2, "", Launch.usage, none⟩
  | some .help => Launch.good Launch.usage
  | some .version => Launch.good "robbie 0.1.0\n"
  | some (.tokens script format) => Launch.tokens host script format
  | some (.run args format) => Launch.run host passes args format

end GridScript
