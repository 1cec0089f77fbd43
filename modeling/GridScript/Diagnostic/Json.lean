import GridScript.Diagnostic
import GridScript.Json.Reader

/-!
# Diagnostics as JSON

* `Diagnostic.toJson` writes a diagnostic, `Diagnostic.ofJson?` reads one. A category that is read
  need not be that of the number.
-/

namespace GridScript

namespace Location

/-- The place as JSON. -/
def toJson (l : Location) : Json :=
  .record [("offset", .nat l.offset), ("line", .nat l.line), ("column", .nat l.column)]

/-- A place that JSON gives: an offset below 2 ^ 64, and a line and a column below 2 ^ 32. -/
def ofJson? (j : Json) : Option Location := do
  let [some offset, some line, some column] ←
    j.fieldsOf ⟨true, false⟩ ["offset", "line", "column"] | none
  return {
    offset := ← offset.natBelow? UInt64.size
    line := ← line.natBelow? UInt32.size
    column := ← column.natBelow? UInt32.size }

end Location

/-- A category that JSON gives: its name, or an object with its name and nothing. -/
def Category.ofJson? : Json → Option Category
  | .string (some name) => ofName? name
  | .object [(some name, .null)] => ofName? name
  | _ => none

namespace Diagnostic

/-- **A diagnostic as JSON.** What it does not have is left out. -/
def toJson (d : Diagnostic) : Json :=
  .record <|
    [("code", .nat d.code.number.toNat), ("category", .text d.category.name),
      ("message", .text d.message)] ++
    (d.location.map fun l => ("location", l.toJson)).toList ++
    (d.sourceLine.map fun s => ("source_line", .text s)).toList

/-- What JSON gives for something that may be missing: nothing, `null` or a value. -/
def optionOfJson? {α : Type} (read : Json → Option α) : Option Json → Option (Option α)
  | none | some .null => some none
  | some j => (read j).map some

/-- **The diagnostic that JSON gives.** -/
def ofJson? (j : Json) : Option Diagnostic := do
  let [some code, some category, some message, location, sourceLine] ←
    j.fieldsOf ⟨true, false⟩ ["code", "category", "message", "location", "source_line"] | none
  return {
    code := ⟨(← code.natBelow? UInt16.size).toUInt16⟩
    category := ← Category.ofJson? category
    message := ← message.text?
    location := ← optionOfJson? Location.ofJson? location
    sourceLine := ← optionOfJson? Json.text? sourceLine }

end Diagnostic

end GridScript
