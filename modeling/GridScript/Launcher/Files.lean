import GridScript.Session.SettingsFile
import GridScript.Text.Utf8

/-!
# Files of a launch

* `Files.read` finds a file in a working directory that holds nothing else.
* `readScript` and `readSettings` turn what is read, or why nothing is, into scripts and settings.
-/

namespace GridScript

/-- **Why a file cannot be read.** -/
inductive FileError where
  | notFound
  | isDirectory
  | notDirectory
  deriving DecidableEq, Repr

namespace FileError

/-- The reason, in the words of the system. -/
def reason : FileError → String
  | notFound => "No such file or directory (os error 2)"
  | isDirectory => "Is a directory (os error 21)"
  | notDirectory => "Not a directory (os error 20)"

end FileError

/-- **The files below a working directory**, by their paths from there. -/
structure Files where
  entries : List (List String × List UInt8)

namespace Files

/-- The parts of a path. -/
def parts (path : String) : List String :=
  (path.toList.splitOnP (· == '/')).map String.ofList

/-- Files by their paths as text. -/
def ofList (files : List (String × List UInt8)) : Files :=
  ⟨files.map fun (path, bytes) => (parts path, bytes)⟩

/-- **What a path has led to.** -/
inductive Spot where
  /-- The working directory, or one below it. -/
  | directory (path : List String)
  | file (bytes : List UInt8)
  /-- A directory that the working directory is not above. -/
  | elsewhere

variable (fs : Files)

/-- `true` for the directories that files are in. -/
def isDirectory (path : List String) : Bool :=
  fs.entries.any fun (p, _) => path.isPrefixOf p && path.length < p.length

/-- One part further along a path. -/
def enter : Spot → String → Except FileError Spot
  | .file _, _ => .error .notDirectory
  | .elsewhere, part => if part ∈ ["", ".", ".."] then .ok .elsewhere else .error .notFound
  | .directory path, part =>
    if part = "" ∨ part = "." then .ok (.directory path)
    else if part = ".." then
      -- the working directory itself is left by going up, and there is no way back
      .ok (if path.isEmpty then .elsewhere else .directory path.dropLast)
    else
      match fs.entries.lookup (path ++ [part]) with
      | some bytes => .ok (.file bytes)
      | none =>
        if fs.isDirectory (path ++ [part]) then .ok (.directory (path ++ [part]))
        else .error .notFound

/-- **The bytes of the file that a path leads to.** -/
def read (path : String) : Except FileError (List UInt8) :=
  if path.isEmpty then .error .notFound
  else
    let start := if path.front == '/' then Spot.elsewhere else .directory []
    match (parts path).foldlM fs.enter start with
    | .error e => .error e
    | .ok (.file bytes) => .ok bytes
    | .ok _ => .error .isDirectory

end Files

/-- **The script at a path**, which becomes its name. -/
def readScript (read : String → Except String (List UInt8)) (path : String) :
    Except Diagnostic Source :=
  match read path with
  | .ok bytes => .ok ⟨path, bytes⟩
  | .error reason =>
    .error (.ofMessage ⟨401⟩ ("cannot read script " ++ path ++ ": " ++ reason))

/-- **The settings at a path.** -/
def readSettings (read : String → Except String (List UInt8)) (path : String) :
    Except SettingsError Settings :=
  match read path with
  | .error reason => .error (.unreadable path reason)
  | .ok bytes =>
    match Utf8.decode? bytes with
    | some text => Settings.ofFile text
    | none => .error (.unreadable path "stream did not contain valid UTF-8")

end GridScript
