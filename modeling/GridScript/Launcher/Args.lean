import GridScript.Session.Settings

/-!
# Command-line arguments

A launch is asked to `run` a script or to show its `tokens`. Both may be preceded and followed by
options. An option that takes a value takes it behind `=`, as the next argument, or, if the option
is a single letter, right behind the letter. No option but `-v` may stand twice in one place, and
`--` ends the options.

* `Asked.ofArgs` reads the arguments.
-/

namespace GridScript

/-- **How failures are reported.** -/
inductive ReportFormat where
  | text
  | json
  deriving DecidableEq, Repr

/-- **What is asked of a run.** Options overrule the settings file. -/
structure RunOptions where
  script : String
  config : Option String
  address : Option String
  port : Option UInt16
  grid : Option String
  messages : Bool
  responseTimeout : Option UInt64
  connectTimeout : Option UInt64
  maxCallDepth : Option UInt32
  legacyRotation : Bool

/-- **What the arguments ask for.** -/
inductive Asked where
  /-- Run a script against an agent. -/
  | run (args : RunOptions) (format : ReportFormat)
  /-- Show the tokens of a script. -/
  | tokens (script : String) (format : ReportFormat)
  /-- Say how the program is used. -/
  | help
  /-- Say which version the program is. -/
  | version

/-- **Where an option stands**: before the task is named, or among the arguments of a task. -/
inductive ArgLevel where
  | top
  | run
  | tokens
  deriving DecidableEq, Repr

/-- **The options.** -/
inductive Opt where
  | help
  | version
  | verbose
  | errorFormat
  | config
  | address
  | port
  | grid
  | messages
  | responseTimeout
  | connectTimeout
  | maxCallDepth
  | legacyRotation
  deriving DecidableEq, Repr

namespace Opt

/-- All options. -/
def all : List Opt :=
  [help, version, verbose, errorFormat, config, address, port, grid, messages, responseTimeout,
    connectTimeout, maxCallDepth, legacyRotation]

/-- The name behind two dashes. -/
def long : Opt → String
  | help => "help"
  | version => "version"
  | verbose => "verbose"
  | errorFormat => "error-format"
  | config => "config"
  | address => "address"
  | port => "port"
  | grid => "grid"
  | messages => "msg"
  | responseTimeout => "message-timeout-ms"
  | connectTimeout => "connect-timeout-ms"
  | maxCallDepth => "max-call-depth"
  | legacyRotation => "legacy-rotation"

/-- The letter behind one dash. -/
def short? : Opt → Option Char
  | help => some 'h'
  | version => some 'V'
  | verbose => some 'v'
  | config => some 'c'
  | address => some 'a'
  | port => some 'p'
  | grid => some 'g'
  | _ => none

/-- `true` where the option may stand. -/
def standsAt (o : Opt) (level : ArgLevel) : Bool :=
  match o with
  | help | verbose | errorFormat => true
  | version => level == .top
  | _ => level == .run

/-- `true` for the options that take a value. -/
def takesValue : Opt → Bool
  | help | version | verbose | messages | legacyRotation => false
  | _ => true

/-- An integer from 0 up to, and without, `bound`, with any sign. -/
def integerBelow? (bound : Nat) (value : String) : Option Nat :=
  (Numeral.readInt? value).bind fun i => if 0 ≤ i ∧ i.toNat < bound then some i.toNat else none

/-- `true` for the values that the option takes. -/
def accepts (o : Opt) (value : String) : Bool :=
  match o with
  | errorFormat => value == "text" || value == "json"
  | config => !value.isEmpty
  | port => (integerBelow? UInt16.size value).isSome
  | maxCallDepth => (integerBelow? UInt32.size value).isSome
  | responseTimeout | connectTimeout => (Numeral.readBelow? UInt64.size value).isSome
  | _ => true

end Opt

namespace Asked

/-- **Why reading the arguments ends before their end.** -/
inductive Break where
  /-- They are not used rightly. -/
  | wrong
  /-- Help is asked for. -/
  | help
  /-- The version is asked for. -/
  | version
  deriving DecidableEq, Repr

/-- **What has been read so far.** -/
structure Seen where
  level : ArgLevel
  /-- The script. -/
  script : Option String
  /-- The options, the last one first, each with where it stands and its value. -/
  given : List (ArgLevel × Opt × String)

namespace Seen

/-- Takes an option with a value, which is empty for those that have none. -/
def give (s : Seen) (o : Opt) (value : String) : Except Break Seen :=
  match o with
  | .help => .error .help
  | .version => .error .version
  | _ =>
    let again := s.given.any fun (level, other, _) => level == s.level && other == o
    if (again && o != .verbose) || (o.takesValue && !o.accepts value) then .error .wrong
    else .ok { s with given := (s.level, o, value) :: s.given }

/-- Takes an argument that is no option. The first one names the task. -/
def name (s : Seen) (arg : String) : Except Break Seen :=
  match s.level, arg with
  | .top, "run" => .ok { s with level := .run }
  | .top, "tokens" => .ok { s with level := .tokens }
  | .top, _ => .error .wrong
  | _, _ =>
    if s.script.isSome || arg.isEmpty then .error .wrong else .ok { s with script := some arg }

/-- The option with a name that may stand here. -/
def ofLong? (s : Seen) (name : String) : Option Opt :=
  Opt.all.find? fun o => o.long == name && o.standsAt s.level

/-- The option with a letter that may stand here. -/
def ofShort? (s : Seen) (letter : Char) : Option Opt :=
  Opt.all.find? fun o => o.short? == some letter && o.standsAt s.level

/-- **Takes the letters behind one dash.** If the last of them takes a value and nothing follows it,
that option is still to be given one. -/
def letters (s : Seen) : List Char → Except Break (Seen × Option Opt)
  | [] => .ok (s, none)
  | c :: cs =>
    match s.ofShort? c with
    | none => .error .wrong
    | some o =>
      if o.takesValue then
        match cs with
        | [] => .ok (s, some o)
        | '=' :: value => (s.give o (String.ofList value)).map (·, none)
        | value => (s.give o (String.ofList value)).map (·, none)
      else
        match s.give o "" with
        | .error e => .error e
        | .ok s => letters s cs

/-- **Takes an argument behind two dashes.** If it takes a value and has none, that is still to be
given. -/
def word (s : Seen) (cs : List Char) : Except Break (Seen × Option Opt) :=
  let (name, rest) := cs.span (· != '=')
  match s.ofLong? (String.ofList name) with
  | none => .error .wrong
  | some o =>
    match o.takesValue, rest with
    | true, [] => .ok (s, some o)
    | true, _ :: value => (s.give o (String.ofList value)).map (·, none)
    | false, [] => (s.give o "").map (·, none)
    | false, _ :: _ => .error .wrong

/-- `true` for arguments that cannot be the value of an option before them. -/
def isOption (arg : String) : Bool :=
  match arg.toList with
  | '-' :: _ :: _ => true
  | _ => false

/-- **Takes all arguments.** -/
def takeAll (s : Seen) : List String → Except Break Seen
  | [] => .ok s
  | arg :: rest =>
    match arg.toList with
    -- behind two dashes alone nothing is an option any more
    | ['-', '-'] =>
      if s.level == .top then .error .wrong else rest.foldlM name s
    | '-' :: c :: cs => do
      let (s, waiting) ← if c = '-' then s.word cs else s.letters (c :: cs)
      match waiting, rest with
      | none, rest => takeAll s rest
      | some _, [] => .error .wrong
      | some o, value :: rest =>
        if isOption value then .error .wrong else takeAll (← s.give o value) rest
    | _ =>
      if s.level == .top && arg == "help" then
        if rest.length ≤ 1 && rest.all (["run", "tokens", "help"].contains ·) then .error .help
        else .error .wrong
      else do takeAll (← s.name arg) rest

/-- The value of an option, wherever it stands; behind the name of the task counts more. -/
def value? (s : Seen) (o : Opt) : Option String :=
  (s.given.find? fun (_, other, _) => other == o).map fun (_, _, value) => value

/-- What the arguments ask for, all of them taken. -/
def asked (s : Seen) : Option Asked := do
  let script ← s.script
  let format := if s.value? .errorFormat == some "json" then ReportFormat.json else .text
  let word64 (o : Opt) : Option UInt64 :=
    ((s.value? o).bind (Numeral.readBelow? UInt64.size)).map Nat.toUInt64
  match s.level with
  | .top => none
  | .tokens => return .tokens script format
  | .run =>
    let args : RunOptions :=
      { script
        config := s.value? .config
        address := s.value? .address
        port := ((s.value? .port).bind (Opt.integerBelow? UInt16.size)).map Nat.toUInt16
        grid := s.value? .grid
        messages := (s.value? .messages).isSome
        responseTimeout := word64 .responseTimeout
        connectTimeout := word64 .connectTimeout
        maxCallDepth :=
          ((s.value? .maxCallDepth).bind (Opt.integerBelow? UInt32.size)).map Nat.toUInt32
        legacyRotation := (s.value? .legacyRotation).isSome }
    return .run args format

end Seen

/-- **What the arguments ask for**, or `none` if they are not used rightly. -/
def ofArgs (args : List String) : Option Asked :=
  match (Seen.takeAll ⟨.top, none, []⟩ args) with
  | .ok s => s.asked
  | .error .help => some .help
  | .error .version => some .version
  | .error .wrong => none

end Asked

end GridScript
