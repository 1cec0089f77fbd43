import GridScript.Proofs.Script.Pointing

/-!
# Messages about quoted texts

A quoted text stays on its line: what stands behind its opening quote and has been read as part of
it holds no line feed, however it goes on. So what goes wrong in it goes wrong on the line of the
quote, and that is the line that the message about it is meant to have.

Messages point behind the blanks of the place that they are about. Of the four messages about quoted
texts two are about the quote and one is about the end of the source, where there are no blanks. The
fourth is about the byte behind a backslash. If that is a blank it is passed over with the blanks
behind it, and where a line feed is among them the message has a later line than the text.

* `Spelling.FailsInQuotes.exists_read` — what has been read before the place of a message.
* `Misspelling.passed` — the blanks that a message passes over.
* `Source.quoted_failure_line` — the line that a message about a quoted text has and shows.
-/

namespace GridScript

open Spelling

/-- **What stands in quotes stands on one line.** No escape is one of a line feed. -/
theorem Spelling.IsItems.lineFeed_notMem {items bytes : List UInt8} (h : IsItems items bytes) :
    Byte.lineFeed ∉ items := by
  -- the induction is on the items; a line feed is neither a byte of a text nor behind a backslash
  induction h with
  | nil => exact List.not_mem_nil
  | byte hquote hbackslash hline h ih => exact List.not_mem_cons_of_ne_of_not_mem hline.symm ih
  | @escape c d _ _ hc h ih =>
    have hcline : Byte.lineFeed ≠ c := by
      -- what may stand behind a backslash is one of the listed bytes
      rintro rfl
      have hescape : Byte.lineFeed ∈ escapes.map Prod.fst := List.mem_map.2 ⟨_, hc, rfl⟩
      exact absurd hescape (by decide)
    exact List.not_mem_cons_of_ne_of_not_mem (by decide)
      (List.not_mem_cons_of_ne_of_not_mem hcline ih)

/-- **The blanks that the message passes over** before it comes to what it points at. -/
def Misspelling.passed (e : Misspelling) : List UInt8 := e.shown.takeWhile Byte.isBlank

namespace Spelling.FailsInQuotes

variable {items behind : List UInt8} {e : Misspelling}

theorem lineFeed_notMem (h : FailsInQuotes items behind e) : Byte.lineFeed ∉ items := by
  cases h with
  | lineEnds h | ends h | endsInEscape h | badEscape h => exact h.lineFeed_notMem

/-- **What has been read** from the opening quote up to the place of the message is on one line. -/
theorem exists_read (h : FailsInQuotes items behind e) :
    ∃ read, quote :: (items ++ behind) = read ++ e.shown ∧ Byte.lineFeed ∉ read := by
  -- a backslash behind the items is still on the line
  have hread : Byte.lineFeed ∉ quote :: (items ++ [backslash]) := by
    have hitems := h.lineFeed_notMem
    have hquote : Byte.lineFeed ≠ quote := by decide
    have hbackslash : Byte.lineFeed ≠ backslash := by decide
    simp [hitems, hquote, hbackslash]
  -- the failure shows the quote itself, the end, or what stands behind the backslash
  cases h with
  | lineEnds | ends => exact ⟨[], by simp, List.not_mem_nil⟩
  | endsInEscape => exact ⟨_, (List.append_nil _).symm, hread⟩
  | badEscape => exact ⟨_, by simp, hread⟩

/-- **Only behind a backslash there are blanks to be passed over**, and the first of them is the one
with which the backslash forms no escape. -/
theorem exists_of_passed_ne_nil (h : FailsInQuotes items behind e) (hpassed : e.passed ≠ []) :
    ∃ c after, e.error = .badEscape c ∧ behind = backslash :: c :: after ∧
      Byte.isBlank c = true := by
  cases h with
  | lineEnds | ends => exact absurd (List.takeWhile_cons_of_neg (by decide)) hpassed
  | endsInEscape => exact absurd rfl hpassed
  | @badEscape _ _ c _ rest =>
    refine ⟨c, rest, rfl, rfl, ?_⟩
    by_contra hblank
    exact hpassed (List.takeWhile_cons_of_neg hblank)

end Spelling.FailsInQuotes

namespace Source

variable {src : Source} {gap rest : Position} {e : Misspelling}

/-- **The line of what a message points at** comes after that of the opening quote by as many lines
as there are line feeds among the blanks passed over. -/
theorem line_locateNext_shown {items behind : List UInt8} (h : FailsInQuotes items behind e)
    (hplace : quote :: (items ++ behind) <:+ src.bytes) :
    (src.locateNext e.shown).line =
      (src.locate (src.offsetOf (quote :: (items ++ behind)))).line +
        e.passed.count Byte.lineFeed := by
  -- up to what is shown there is no line feed; what follows is the blanks that are passed
  obtain ⟨read, hread, hline⟩ := h.exists_read
  have hshown : e.shown = e.passed ++ e.shown.dropWhile Byte.isBlank :=
    List.takeWhile_append_dropWhile.symm
  have hwhole : quote :: (items ++ behind) =
      (read ++ e.passed) ++ e.shown.dropWhile Byte.isBlank := by
    rw [hread, List.append_assoc, ← hshown]
  rw [hwhole] at hplace ⊢
  calc (src.locateNext e.shown).line
      = _ + (read ++ e.passed).count Byte.lineFeed := line_locate_offsetOf hplace
    _ = _ + e.passed.count Byte.lineFeed := by
      rw [List.count_append, List.count_eq_zero.2 hline, Nat.zero_add]

/-- **The line of a message about a quoted text.** Wherever a quoted text begins in a source, with
a gap in front of it or without one: if reading it fails, then behind some items of the text, none
of which holds a line feed, its line ends, the source ends, with or without a backslash, or a
backslash is followed by a byte with which it forms no escape. The message

* has a location, and shows the text of the line there;
* has the line of the opening quote and shows its text, exactly if no line feed is among the blanks
  that it passes over, and otherwise a later line, by as many lines as there are line feeds;
* passes over blanks only where the byte behind the backslash is a blank;
* fits into numbers of 32 bits and is the one that the table of lines gives, if the size of the
  source fits. -/
theorem quoted_failure_line (hplace : gap ++ quote :: rest <:+ src.bytes)
    (hgap : IsGap gap (quote :: rest)) (h : scan (gap ++ quote :: rest) = .error e) :
    let f : Failure := .spelling e.error e.shown
    let opening := src.locate (src.offsetOf (quote :: rest))
    Reading.take (.ofPosition (gap ++ quote :: rest)) = .error (.failed f) (.ofPosition e.stop) ∧
    ∃ items behind l text, rest = items ++ behind ∧ FailsInQuotes items behind e ∧
      Byte.lineFeed ∉ items ∧ (f.diagnostic src).location = some l ∧
      (f.diagnostic src).sourceLine = some text ∧ src.lineText l.line = some text ∧
      l.line = opening.line + e.passed.count Byte.lineFeed ∧
      (l.line = opening.line ∧ src.lineText opening.line = some text ↔
        Byte.lineFeed ∉ e.passed) ∧
      (e.passed ≠ [] → ∃ c after, e.error = .badEscape c ∧ behind = backslash :: c :: after ∧
        Byte.isBlank c = true) ∧
      (src.size ≤ UInt32.size - 2 →
        (l.offset < UInt32.size ∧ l.line < UInt32.size ∧ l.column < UInt32.size) ∧
        ∀ broken, Bounded.diagnostic broken src f = .ok (f.diagnostic src)) := by
  intro f opening
  obtain ⟨items, behind, hfails, rfl⟩ := exists_failsInQuotes hgap h
  have hline := line_locateNext_shown hfails ((List.suffix_append gap _).trans hplace)
  -- the text of the line and the numbers come with the location
  obtain ⟨text, habout, htext, hpinpoints⟩ :=
    annotate_eq_about ((scan_shown_suffix h).trans hplace)
      (d := .ofMessage e.error.code e.error.message) rfl
  have hdiagnostic : f.diagnostic src = _ := habout
  refine ⟨by rw [Lexemes.ofPosition_of_misspelt h, Reading.take], items, behind,
    src.locateNext e.shown, text, rfl, hfails, hfails.lineFeed_notMem, ?_, ?_, htext, hline, ?_,
    hfails.exists_of_passed_ne_nil,
    fun hsrc => ⟨hpinpoints.lt_size hsrc, fun _ => Bounded.diagnostic_eq hsrc f⟩⟩
  · rw [hdiagnostic, Diagnostic.about]
  · rw [hdiagnostic, Diagnostic.about]
  · rw [← List.count_eq_zero (a := Byte.lineFeed)]
    constructor
    · -- a line feed among the blanks passed is a line more
      rintro ⟨hsame, -⟩
      exact Nat.add_eq_left.1 (hline.symm.trans hsame)
    · intro hnone
      have hsame : (src.locateNext e.shown).line = opening.line := by
        rw [hline, hnone, Nat.add_zero]
      exact ⟨hsame, hsame ▸ htext⟩

end Source

/-- A script with a quoted text on its second line, in which a backslash stands before a blank. -/
def Source.quip : Source where
  name := "quip.gs"
  bytes := Utf8.encode "main \x7b\n  print \"a\\ \tb\";\n\x7d\n"

/-- The message points behind the two blanks, and shows the line of the text. The table of lines
gives the same. -/
theorem Source.quoted_failure_line_quip :
    ∃ e l text, scan (Source.quip.bytes.drop 14) = .error e ∧
      ((Failure.spelling e.error e.shown).diagnostic .quip).location = some l ∧
      ((Failure.spelling e.error e.shown).diagnostic .quip).sourceLine = some text ∧
      e.passed = [0x20, 0x09] ∧ l.line = 2 ∧ Source.quip.lineText 2 = some text ∧
      Bounded.diagnostic .unanswered .quip (.spelling e.error e.shown) =
        .ok ((Failure.spelling e.error e.shown).diagnostic .quip) := by
  have hplace : Source.quip.bytes.drop 14 = [0x20] ++ quote :: Source.quip.bytes.drop 16 := by
    decide +kernel
  have hscan : scan (Source.quip.bytes.drop 14) =
      .error ⟨.badEscape 0x20, Source.quip.bytes.drop 18, Source.quip.bytes.drop 18⟩ := by
    rfl
  have hopening : (Source.quip.locate (Source.quip.offsetOf
      (quote :: Source.quip.bytes.drop 16))).line = 2 := by
    decide +kernel
  obtain ⟨-, items, behind, l, text, -, -, -, hl, htext, -, -, hsame, -, hfits⟩ :=
    @quoted_failure_line .quip [0x20] _ _ (hplace ▸ List.drop_suffix _ _)
      (.blank (by decide) (.nil _)) (hplace ▸ hscan)
  -- no line feed is among the two blanks, so that the line is that of the quote
  rw [hopening] at hsame
  obtain ⟨hline, hshown⟩ := hsame.2 (by decide +kernel)
  exact ⟨_, l, text, hscan, hl, htext, by decide +kernel, hline, hshown,
    (hfits (by decide +kernel)).2 _⟩

/-- A script that is a quoted text and in which a backslash stands at the end of the line. -/
def Source.torn : Source where
  name := "torn.gs"
  bytes := Utf8.encode "\"a\\\n b\""

/-- **The message has the line behind the one of the text**, and shows that line. -/
theorem Source.points_past_line_torn :
    ∃ rest e l text, Source.torn.bytes = quote :: rest ∧ scan (quote :: rest) = .error e ∧
      (Source.torn.locate (Source.torn.offsetOf (quote :: rest))).line = 1 ∧
      ((Failure.spelling e.error e.shown).diagnostic .torn).location = some l ∧
      ((Failure.spelling e.error e.shown).diagnostic .torn).sourceLine = some text ∧
      l.line = 2 ∧ Source.torn.lineText 1 ≠ some text := by
  have hbytes : Source.torn.bytes = quote :: Source.torn.bytes.drop 1 := by
    decide +kernel
  -- the misspelling is found by reading three bytes
  have hscan : scan (quote :: Source.torn.bytes.drop 1) =
      .error ⟨.badEscape 0x0A, Source.torn.bytes.drop 3, Source.torn.bytes.drop 3⟩ := by
    rfl
  have hopening : (Source.torn.locate (Source.torn.offsetOf
      (quote :: Source.torn.bytes.drop 1))).line = 1 := by
    decide +kernel
  -- the location is computed, and it is on the second line
  have hshown : ((Failure.spelling (.badEscape 0x0A) (Source.torn.bytes.drop 3)).diagnostic
        .torn).location = some ⟨5, 2, 2⟩ ∧
      ((Failure.spelling (.badEscape 0x0A) (Source.torn.bytes.drop 3)).diagnostic
        .torn).sourceLine = some " b\"" := by
    decide +kernel
  exact ⟨_, _, _, _, hbytes, hscan, hopening, hshown.1, hshown.2, rfl, by decide +kernel⟩

end GridScript
