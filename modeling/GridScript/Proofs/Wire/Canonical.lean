import GridScript.Proofs.Wire.Lines

/-!
# The requests that lines are read as

The far end reads more lines than a pilot writes: blanks between parameters do not count, a number
may have leading zeros, and the question may have parameters that nobody looks at. A pilot in turn
could write lines that nobody reads as what was meant, since the name of a grid is any text and a
cell holds any number of gems. Between the two stand the requests that come out of some line. Each
of them has one line of its own, which is read as it.

* `Request.Readable` — those requests, by what they name.
* `Request.readable_of_ofLine` — nothing else is read.
* `Request.ofLine_line_of_readable` — each of them is read from its own line.
* `Request.ofLine_line_iff` — both together.
-/

namespace GridScript

open Blank

namespace Cell

/-- **A cell that is read is ordinary**: its text is a wall, or one digit. -/
theorem ordinary_of_ofText? {s : String} {cell : Cell} (h : ofText? s = some cell) :
    cell.Ordinary := by
  rw [ofText?] at h
  -- a wall and the empty cell have characters of their own
  split at h
  · cases h
    decide
  · cases h
    decide
  · next c _ _ _ =>
    split at h
    · next hdigit =>
      cases h
      -- a digit is at most nine
      have hle : c.toNat ≤ 57 := hdigit.2
      change (c.toNat - 48).toUInt8 ≤ 9
      rw [UInt8.le_iff_toNat_le, Nat.toUInt8, UInt8.toNat_ofNat']
      exact (Nat.mod_le _ _).trans (Nat.sub_le_of_le_add hle)
    · cases h
  · cases h

end Cell

namespace Request

/-- **A request that some line is read as.** A grid has a name, and no blank at either end of it; on
a cell there are at most nine gems. All other requests are. -/
def Readable : Request → Prop
  | loadGrid name => name ≠ "" ∧ IsTrimmed name
  | putCell _ cell => cell.gemCount ≤ 9
  | _ => True

instance (r : Request) : Decidable r.Readable :=
  match r with
  | loadGrid name => inferInstanceAs (Decidable (name ≠ "" ∧ IsTrimmed name))
  | putCell _ cell => inferInstanceAs (Decidable (cell.gemCount ≤ 9))
  | goTo _ | askLocation | face _ | askFacing | holdGems _ | askGems | askCell _ | askSize
  | showMessages _ | stop => .isTrue trivial

/-! ### What is read -/

/-- A request made of what has been read, if that could be read, is as good as any so made. -/
private theorem readable_of_map {α : Type} {o : Option α} {f : α → Request} {r : Request}
    (hf : ∀ a, (f a).Readable)
    (h : (match o.map f with
      | some r => Except.ok r
      | none => Except.error Rejection.badParameters) = Except.ok r) : r.Readable := by
  cases o with
  | none => cases h
  | some a =>
    cases h
    exact hf a

theorem readable_of_ofParts {k rest : String} {r : Request} (h : ofParts k rest = .ok r) :
    r.Readable := by
  unfold ofParts at h
  dsimp only at h
  -- one case for each first word, and the last one for a word that is none of them
  split at h
  · exact readable_of_map (f := goTo) (fun _ => trivial) h
  · cases h
    trivial
  · split at h
    · exact readable_of_map (f := face) (fun _ => trivial) h
    · cases h
  · cases h
    trivial
  · split at h
    · exact readable_of_map (f := holdGems) (fun _ => trivial) h
    · cases h
  · cases h
    trivial
  · -- here the text of the cell matters
    split at h
    · next x y text _ =>
      cases hc : coordOf? [x, y] with
      | none =>
        rw [hc] at h
        cases h
      | some c =>
        cases hcell : Cell.ofText? text with
        | none =>
          rw [hc, hcell] at h
          cases h
        | some cell =>
          rw [hc, hcell] at h
          cases h
          exact Cell.ordinary_of_ofText? hcell
    · cases h
  · exact readable_of_map (f := askCell) (fun _ => trivial) h
  · -- and here that the name has been trimmed
    split at h
    · cases h
    · next hname =>
      cases h
      exact ⟨by simpa using hname, isTrimmed_trim rest⟩
  · cases h
    trivial
  · split at h
    · cases h
      trivial
    · cases h
      trivial
    · cases h
  · cases h
    trivial
  · cases h

/-- **Only readable requests are read**, whatever the line is. -/
theorem readable_of_ofLine {line : String} {r : Request} (h : ofLine line = .ok r) :
    r.Readable := by
  rw [ofLine] at h
  generalize (dropAtEnd (· == '\r') line.toList).span (· != ' ') = parts at h
  exact readable_of_ofParts h

/-! ### What is written -/

/-- **The line that names a grid** is read as one that names it without the blanks around the name,
if then there is one. -/
theorem ofLine_line_loadGrid (name : String) :
    ofLine (loadGrid name).line =
      if trim name = "" then .error .badParameters else .ok (loadGrid (trim name)) := by
  have hline : (loadGrid name).line.toList = "LOADGRID".toList ++ ' ' :: name.toList := by
    simp [line]
  -- carriage returns at the end of the name are dropped, and they are blanks
  have htrim : trim (String.ofList (dropAtEnd (· == '\r') name.toList)) = trim name := by
    rw [trim, String.toList_ofList, trimChars_dropAtEnd, trim]
    intro c hc
    rw [beq_iff_eq.1 hc]
    decide
  have hspan (rest : List Char) : ("LOADGRID".toList ++ ' ' :: rest).span (· != ' ') =
      ("LOADGRID".toList, ' ' :: rest) := by
    rw [List.span_eq_takeWhile_dropWhile]
    rfl
  -- the name begins behind the one blank
  rw [ofLine, hline, dropAtEnd_append_cons (by decide), hspan]
  simp only [List.tail_cons, String.ofList_toList]
  rw [ofParts]
  simp [htrim]

/-- The line of a grid with a name is read as its first word and the name. -/
theorem ofLine_loadGrid {name : String} (h : (loadGrid name).Readable) :
    ofLine (loadGrid name).line = .ok (loadGrid name) := by
  obtain ⟨hne, htrimmed⟩ := h
  rw [ofLine_line_loadGrid, trim_of_isTrimmed htrimmed, if_neg hne]

/-- **A readable request is read from its own line.** -/
theorem ofLine_line_of_readable {r : Request} (h : r.Readable) : ofLine r.line = .ok r := by
  cases r with
  | loadGrid name => exact ofLine_loadGrid h
  | putCell c cell => exact ofLine_line (r := putCell c cell) h
  | _ => exact ofLine_line trivial

/-- **Requests and lines.** A request is read from its own line exactly if it is readable, and that
is exactly if it is read from any line at all. So whatever line is read as a request, the line of
that request is read as it again. -/
theorem ofLine_line_iff (r : Request) :
    (ofLine r.line = .ok r ↔ r.Readable) ∧
    (r.Readable ↔ ∃ line, ofLine line = .ok r) ∧
    ∀ line, ofLine line = .ok r → ofLine r.line = .ok r := by
  have hread : ∀ line, ofLine line = .ok r → r.Readable := fun _ h => readable_of_ofLine h
  have hwrite : r.Readable → ofLine r.line = .ok r := ofLine_line_of_readable
  refine ⟨⟨hread r.line, hwrite⟩, ⟨fun h => ⟨r.line, hwrite h⟩, ?_⟩, fun line h => ?_⟩
  · rintro ⟨line, h⟩
    exact hread line h
  · exact hwrite (hread line h)

/-- A line with blanks to spare is not what its request is written as, which still reads back. -/
theorem ofLine_loadGrid_spaced :
    ofLine "LOADGRID   two words \r" = .ok (loadGrid "two words") ∧
      ofLine (loadGrid "two words").line = .ok (loadGrid "two words") := by
  have h : ofLine "LOADGRID   two words \r" = .ok (loadGrid "two words") := by decide
  exact ⟨h, (ofLine_line_iff _).2.2 _ h⟩

/-- A name may hold blanks, but not end in one, not even in a carriage return. -/
example : (loadGrid "two\rwords\nof it").Readable ∧ ¬ (loadGrid "maze\r").Readable := by decide

end Request

end GridScript
