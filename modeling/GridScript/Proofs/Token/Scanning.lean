import GridScript.Proofs.Token.Spelling
import Mathlib.Data.List.Infix
import Mathlib.Data.List.TakeWhile

/-!
# Scanning follows the grammar

What `scan` gives from a place on is what the grammar says is there. Only one direction is proved by
looking into the scanner: what is spelled is scanned. The other comes from the grammar alone, since
every place begins with one of the things it knows (`exists_piece`) and a scan gives one result.

* `Spelling.skip_isGap`, `Spelling.exists_gap` — gaps are skipped, and they are all that is skipped.
* `Spelling.scanQuoted_items`, `Spelling.exists_items` — the same for what stands between quotes.
* `Spelling.FailsInQuotes` — how a quoted text fails to be read; `Spelling.exists_failsInQuotes`.
* `Spelling.scan_of_token`, `Spelling.scan_of_end`, `Spelling.scan_of_offends` — what a scan gives,
  for each thing that may come next; `Spelling.exists_of_scan_eq_error` — what makes it fail.
-/

namespace GridScript

namespace Spelling

/-! ### Bytes -/

theorem isBlank_iff {b : UInt8} : Byte.isBlank b = true ↔ b ∈ blanks := by
  simp [Byte.isBlank, blanks, UInt8.le_iff_toNat_le, ← UInt8.toNat_inj]
  omega

theorem isWordByte_iff {b : UInt8} : isWordByte b = true ↔ b ∉ stops := by
  simp [isWordByte, stops, ← isBlank_iff, and_assoc]

theorem ofByte?_eq_some_iff {b : UInt8} {m : Mark} : Mark.ofByte? b = some m ↔ b = m.byte := by
  constructor
  · intro h
    have hbeq := List.find?_some h
    exact (beq_iff_eq.1 hbeq).symm
  · rintro rfl
    cases m <;> rfl

theorem escaped?_eq_some_iff {c d : UInt8} : escaped? c = some d ↔ (c, d) ∈ escapes := by
  simp only [escaped?, escapes, backslash, quote]
  -- a backslash and the quotes stand for themselves, so they are one case of the function
  by_cases hself : c = 0x5C ∨ c = 0x22 ∨ c = 0x27
  · rcases hself with rfl | rfl | rfl <;> simp [eq_comm]
  · rw [if_neg hself]
    split_ifs <;> simp_all [eq_comm]

theorem escaped?_eq_none_iff {c : UInt8} : escaped? c = none ↔ c ∉ escapes.map Prod.fst := by
  simp only [Option.eq_none_iff_forall_ne_some, ne_eq, escaped?_eq_some_iff, List.mem_map,
    Prod.exists, exists_and_right, exists_eq_right, not_exists]

/-! ### Gaps -/

/-- What no gap goes on with: no blank and no comment begins there. -/
def Settled (p : Position) : Prop :=
  (∀ b ∈ p.head?, b ∉ blanks) ∧ ¬ [slash, slash] <+: p ∧ ¬ [slash, star] <+: p

/-! The steps of `Gap.skip`, one for each way it goes on. -/

theorem skip_blank {b : UInt8} (hb : b ∈ blanks) (p : Position) :
    Gap.blanks.skip (b :: p) = Gap.blanks.skip p := by
  cases p <;> simp [Gap.skip, isBlank_iff.2 hb]

theorem skip_openLine (p : Position) :
    Gap.blanks.skip (slash :: slash :: p) = Gap.line.skip p := by
  have hslash : Byte.isBlank slash = false := by decide
  simp [Gap.skip, hslash]

theorem skip_openBlock (p : Position) :
    Gap.blanks.skip (slash :: star :: p) = (Gap.block (slash :: star :: p)).skip p := by
  have hslash : Byte.isBlank slash = false := by decide
  have hstar : star ≠ slash := by decide
  simp [Gap.skip, hslash, hstar]

theorem skip_closeBlock (opening p : Position) :
    (Gap.block opening).skip (star :: slash :: p) = Gap.blanks.skip p := by
  simp [Gap.skip]

theorem skip_inBlock {b : UInt8} {p : Position} (h : ¬ [star, slash] <+: b :: p)
    (opening : Position) : (Gap.block opening).skip (b :: p) = (Gap.block opening).skip p := by
  cases p with
  | nil => simp [Gap.skip]
  | cons c p =>
    have hc : b = star → c ≠ slash := by
      rintro rfl rfl
      exact h ⟨p, rfl⟩
    by_cases hb : b = star
    · simp [Gap.skip, hb, hc hb]
    · simp [Gap.skip, hb]

theorem skip_of_settled {p : Position} (h : Settled p) : Gap.blanks.skip p = .ok p := by
  obtain ⟨hblank, hline, hblock⟩ := h
  rcases p with _ | ⟨b, p⟩
  · rfl
  · -- what is no blank is skipped nowhere, unless it opens a comment
    have hb : Byte.isBlank b ≠ true := fun hb => hblank b rfl (isBlank_iff.1 hb)
    rcases p with _ | ⟨c, p⟩
    · simp [Gap.skip, hb]
    · have hcline : b = slash → c ≠ slash := by
        rintro rfl rfl
        exact hline ⟨p, rfl⟩
      have hcblock : b = slash → c ≠ star := by
        rintro rfl rfl
        exact hblock ⟨p, rfl⟩
      by_cases hslash : b = slash
      · simp [Gap.skip, hb, hcline hslash, hcblock hslash]
      · simp [Gap.skip, hb, hslash]

/-! What is skipped at once. -/

theorem skip_line_append {text : List UInt8} (h : Byte.lineFeed ∉ text) (p : Position) :
    Gap.line.skip (text ++ Byte.lineFeed :: p) = Gap.blanks.skip p := by
  induction text with
  | nil => simp [Gap.skip]
  | cons b text ih =>
    obtain ⟨hb, htext⟩ := not_or.1 (List.mem_cons.not.1 h)
    simpa [Gap.skip, Ne.symm hb] using ih htext

theorem skip_line_last {text : List UInt8} (h : Byte.lineFeed ∉ text) :
    Gap.line.skip text = .ok [] := by
  induction text with
  | nil => rfl
  | cons b text ih =>
    obtain ⟨hb, htext⟩ := not_or.1 (List.mem_cons.not.1 h)
    simpa [Gap.skip, Ne.symm hb] using ih htext

/-- Where a comment does not end, it does not end before what follows it either: the two bytes that
end it are never one of its own and one of those. -/
theorem not_closes_of_notMem {b : UInt8} {text p : List UInt8}
    (h : ¬ [star, slash] <:+: b :: text) : ¬ [star, slash] <+: b :: (text ++ star :: p) := by
  rintro ⟨after, hafter⟩
  -- the first of the two bytes would be the comment's last one, and the second is no slash
  cases text with
  | nil =>
    have hslash : slash ≠ star := by decide
    simp [hslash] at hafter
  | cons c text =>
    refine h ⟨[], text, ?_⟩
    simp only [List.cons_append, List.nil_append, List.cons.injEq] at hafter ⊢
    exact ⟨hafter.1, hafter.2.1, trivial⟩

theorem skip_block_append {text : List UInt8} (h : ¬ [star, slash] <:+: text)
    (opening p : Position) :
    (Gap.block opening).skip (text ++ star :: slash :: p) = Gap.blanks.skip p := by
  induction text with
  | nil => exact skip_closeBlock opening p
  | cons b text ih =>
    have htext : ¬ [star, slash] <:+: text := fun hin => h (List.infix_cons hin)
    rw [List.cons_append, skip_inBlock (not_closes_of_notMem h), ih htext]

theorem skip_block_last {text : List UInt8} (h : ¬ [star, slash] <:+: text) (opening : Position) :
    (Gap.block opening).skip text = .error ⟨.endsInComment, opening, []⟩ := by
  induction text with
  | nil => rfl
  | cons b text ih =>
    have htext : ¬ [star, slash] <:+: text := fun hin => h (List.infix_cons hin)
    rw [skip_inBlock (fun hbegins => h hbegins.isInfix), ih htext]

/-- **A gap is skipped.** -/
theorem skip_isGap {gap rest : Position} (h : IsGap gap rest) :
    Gap.blanks.skip (gap ++ rest) = Gap.blanks.skip rest := by
  -- the induction is on the gap, and each comment is skipped up to where it ends
  induction h with
  | nil rest => rfl
  | blank hb h ih => rw [List.cons_append, skip_blank hb, ih]
  | line htext h ih =>
    simp only [List.cons_append, List.append_assoc]
    rw [skip_openLine, skip_line_append htext, ih]
  | lastLine htext =>
    rw [List.append_nil, skip_openLine, skip_line_last htext]
    rfl
  | block htext h ih =>
    simp only [List.cons_append, List.append_assoc]
    rw [skip_openBlock, skip_block_append htext, ih]

/-- What has an end of a comment in it has a first one. -/
theorem exists_first_end {p : List UInt8} (h : [star, slash] <:+: p) :
    ∃ text rest, ¬ [star, slash] <:+: text ∧ p = text ++ star :: slash :: rest := by
  -- the end that comes first is found by looking at each byte in turn
  induction p with
  | nil => simp at h
  | cons b p ih =>
    by_cases hhere : [star, slash] <+: b :: p
    · obtain ⟨rest, hrest⟩ := hhere
      exact ⟨[], rest, by simp, hrest.symm⟩
    · have hlater := (List.infix_cons_iff.1 h).resolve_left hhere
      obtain ⟨text, rest, hfirst, rfl⟩ := ih hlater
      refine ⟨b :: text, rest, fun hin => ?_, rfl⟩
      rcases List.infix_cons_iff.1 hin with hbegins | hinside
      · exact hhere (hbegins.trans (List.prefix_append (b :: text) _))
      · exact hfirst hinside

/-- **Every script begins with a gap**, and behind it no other begins, except that a comment may be
open there. -/
theorem exists_gap (p : Position) : ∃ gap rest, p = gap ++ rest ∧ IsGap gap rest ∧
    (Settled rest ∨ ∃ text, rest = slash :: star :: text ∧ ¬ [star, slash] <:+: text) := by
  -- a comment is any number of bytes, so the induction is on the length
  induction hn : p.length using Nat.strong_induction_on generalizing p with
  | _ n ih =>
  by_cases hsettled : Settled p
  · exact ⟨[], p, rfl, .nil p, .inl hsettled⟩
  · -- what is not settled begins with a blank or with a comment of either kind
    rw [Settled, not_and_or, not_and_or, not_not, not_not] at hsettled
    rcases hsettled with hblank | ⟨after, rfl⟩ | ⟨after, rfl⟩
    · push Not at hblank
      obtain ⟨b, hhead, hb⟩ := hblank
      obtain ⟨q, rfl⟩ : ∃ q, p = b :: q := by
        cases p with
        | nil => cases hhead
        | cons c q => exact ⟨q, by cases hhead; rfl⟩
      obtain ⟨gap, rest, rfl, hgap, hrest⟩ := ih q.length (by simp [← hn]) q rfl
      exact ⟨b :: gap, rest, rfl, .blank hb hgap, hrest⟩
    · -- a comment up to a line feed, or to the end of the script
      by_cases hlf : Byte.lineFeed ∈ after
      · obtain ⟨text, q, rfl, htext⟩ := List.eq_append_cons_of_mem hlf
        obtain ⟨gap, rest, rfl, hgap, hrest⟩ := ih q.length (by simp [← hn]; omega) q rfl
        exact ⟨slash :: slash :: (text ++ Byte.lineFeed :: gap), rest, by simp,
          .line htext hgap, hrest⟩
      · exact ⟨slash :: slash :: after, [], by simp, .lastLine hlf, .inl (by simp [Settled])⟩
    · -- a comment up to its end, or the one that stays open
      by_cases hend : [star, slash] <:+: after
      · obtain ⟨text, q, htext, rfl⟩ := exists_first_end hend
        obtain ⟨gap, rest, rfl, hgap, hrest⟩ := ih q.length (by simp [← hn]; omega) q rfl
        exact ⟨slash :: star :: (text ++ star :: slash :: gap), rest, by simp,
          .block htext hgap, hrest⟩
      · exact ⟨[], slash :: star :: after, rfl, .nil _, .inr ⟨after, rfl, hend⟩⟩

/-! ### Quoted texts -/

/-! The steps of `scanQuoted`, one for each way it goes on. -/

theorem scanQuoted_close (o seen p : List UInt8) :
    scanQuoted o seen (quote :: p) = .ok (Utf8.decode seen.reverse, p) := by
  cases p <;> simp [scanQuoted]

theorem scanQuoted_lineFeed (o seen p : List UInt8) :
    scanQuoted o seen (Byte.lineFeed :: p) =
      .error ⟨.lineEndsInQuotes (Utf8.decode seen.reverse), o, p⟩ := by
  have hquote : Byte.lineFeed ≠ quote := by decide
  cases p <;> simp [scanQuoted, hquote]

theorem scanQuoted_byte {b : UInt8} (hquote : b ≠ quote) (hbackslash : b ≠ backslash)
    (hline : b ≠ Byte.lineFeed) (o seen p : List UInt8) :
    scanQuoted o seen (b :: p) = scanQuoted o (b :: seen) p := by
  cases p <;> simp [scanQuoted, hquote, hbackslash, hline]

theorem scanQuoted_escape {c d : UInt8} (h : escaped? c = some d) (o seen p : List UInt8) :
    scanQuoted o seen (backslash :: c :: p) = scanQuoted o (d :: seen) p := by
  have hquote : backslash ≠ quote := by decide
  have hline : backslash ≠ Byte.lineFeed := by decide
  simp [scanQuoted, hquote, hline, h]

theorem scanQuoted_badEscape {c : UInt8} (h : escaped? c = none) (o seen p : List UInt8) :
    scanQuoted o seen (backslash :: c :: p) = .error ⟨.badEscape c, c :: p, c :: p⟩ := by
  have hquote : backslash ≠ quote := by decide
  have hline : backslash ≠ Byte.lineFeed := by decide
  simp [scanQuoted, hquote, hline, h]

theorem scanQuoted_items {items bytes : List UInt8} (h : IsItems items bytes)
    (o seen : List UInt8) (rest : Position) :
    scanQuoted o seen (items ++ rest) = scanQuoted o (bytes.reverse ++ seen) rest := by
  -- the induction is on the items; each adds the byte that it stands for
  induction h generalizing seen with
  | nil => rfl
  | byte hquote hbackslash hline h ih =>
    rw [List.cons_append, scanQuoted_byte hquote hbackslash hline, ih, List.reverse_cons,
      List.append_assoc]
    rfl
  | escape hc h ih =>
    rw [List.cons_append, List.cons_append, scanQuoted_escape (escaped?_eq_some_iff.2 hc), ih,
      List.reverse_cons, List.append_assoc]
    rfl

/-- **Behind a quote stand some items**, and behind them the other quote, a line feed, a backslash
that begins no escape, or nothing. -/
theorem exists_items (p : Position) : ∃ items bytes rest, p = items ++ rest ∧
    IsItems items bytes ∧ ∀ b after, rest = b :: after → b = quote ∨ b = Byte.lineFeed ∨
      b = backslash ∧ ∀ c ∈ after.head?, c ∉ escapes.map Prod.fst := by
  -- an item has one byte or two, so the induction is on the length
  induction hn : p.length using Nat.strong_induction_on generalizing p with
  | _ n ih =>
  rcases p with _ | ⟨b, p⟩
  · exact ⟨[], [], [], rfl, .nil, fun b after h => nomatch h⟩
  by_cases hbackslash : b = backslash
  · by_cases hc : ∀ c ∈ p.head?, c ∉ escapes.map Prod.fst
    · -- the items end here: what follows the backslash is no escape
      refine ⟨[], [], b :: p, rfl, .nil, fun b' after h => ?_⟩
      obtain ⟨rfl, rfl⟩ := List.cons.inj h
      exact .inr (.inr ⟨hbackslash, hc⟩)
    · obtain ⟨c, q, d, rfl, hd⟩ : ∃ c q d, p = c :: q ∧ (c, d) ∈ escapes := by
        rcases p with _ | ⟨c, q⟩
        · exact absurd (fun c h => nomatch h) hc
        · simp only [List.head?_cons, Option.mem_some_iff, forall_eq', not_not, List.mem_map] at hc
          obtain ⟨⟨_, d⟩, hd, rfl⟩ := hc
          exact ⟨_, q, d, rfl, hd⟩
      have hshorter : q.length < n := by
        rw [← hn, List.length_cons, List.length_cons]
        omega
      obtain ⟨items, bytes, rest, rfl, hitems, hrest⟩ := ih q.length hshorter q rfl
      exact ⟨backslash :: c :: items, d :: bytes, rest, by simp [hbackslash],
        .escape hd hitems, hrest⟩
  -- a quote or the end of the line stops the items as well
  by_cases hstop : b = quote ∨ b = Byte.lineFeed
  · refine ⟨[], [], b :: p, rfl, .nil, fun b' after h => ?_⟩
    obtain ⟨rfl, rfl⟩ := List.cons.inj h
    exact hstop.imp id .inl
  · rw [not_or] at hstop
    obtain ⟨items, bytes, rest, rfl, hitems, hrest⟩ := ih p.length (by simp [← hn]) p rfl
    exact ⟨b :: items, b :: bytes, rest, rfl, .byte hstop.1 hbackslash hstop.2 hitems, hrest⟩

/-- **How a quoted text fails to be read**: the items behind its opening quote, what stands behind
them, and the misspelling that it is. -/
inductive FailsInQuotes : (items behind : List UInt8) → Misspelling → Prop
  | lineEnds {items bytes : List UInt8} (h : IsItems items bytes) (rest : Position) :
    FailsInQuotes items (Byte.lineFeed :: rest)
      ⟨.lineEndsInQuotes (Utf8.decode bytes), quote :: (items ++ Byte.lineFeed :: rest), rest⟩
  | ends {items bytes : List UInt8} (h : IsItems items bytes) :
    FailsInQuotes items [] ⟨.endsInQuotes, quote :: items, []⟩
  | endsInEscape {items bytes : List UInt8} (h : IsItems items bytes) :
    FailsInQuotes items [backslash] ⟨.endsInEscape, [], []⟩
  | badEscape {items bytes : List UInt8} (h : IsItems items bytes) {c : UInt8}
    (hc : c ∉ escapes.map Prod.fst) (rest : Position) :
    FailsInQuotes items (backslash :: c :: rest) ⟨.badEscape c, c :: rest, c :: rest⟩

namespace FailsInQuotes

variable {items behind : List UInt8} {e : Misspelling}

/-- What fails so cannot be read, and the number of the message is the one about it. -/
theorem offends (h : FailsInQuotes items behind e) :
    Offends (quote :: (items ++ behind)) e.error.code := by
  cases h with
  | lineEnds h rest => exact .lineEnds h rest
  | ends h =>
    rw [List.append_nil]
    exact .ends h
  | endsInEscape h => exact .endsInEscape h
  | badEscape h hc rest => exact .badEscape h hc rest

/-- Reading on behind the opening quote fails so. -/
theorem scanQuoted_eq (h : FailsInQuotes items behind e) :
    scanQuoted (quote :: (items ++ behind)) [] (items ++ behind) = .error e := by
  -- in each case the items are read first, and then what stops them
  cases h with
  | lineEnds h rest =>
    rw [scanQuoted_items h, scanQuoted_lineFeed, List.append_nil, List.reverse_reverse]
  | ends h =>
    rw [scanQuoted_items h, List.append_nil]
    rfl
  | endsInEscape h =>
    rw [scanQuoted_items h]
    rfl
  | badEscape h hc rest =>
    rw [scanQuoted_items h, scanQuoted_badEscape (escaped?_eq_none_iff.2 hc)]

end FailsInQuotes

/-- **A quote opens a quoted text or something that fails to be one.** -/
theorem exists_quoted (p : Position) :
    (∃ items bytes after, IsItems items bytes ∧ p = items ++ quote :: after) ∨
      ∃ items behind e, FailsInQuotes items behind e ∧ p = items ++ behind := by
  obtain ⟨items, bytes, rest, rfl, hitems, hrest⟩ := exists_items p
  -- what comes behind the items decides between a whole text and the four mistakes
  rcases rest with _ | ⟨b, rest⟩
  · exact .inr ⟨items, [], _, .ends hitems, rfl⟩
  rcases hrest b rest rfl with rfl | rfl | ⟨rfl, hc⟩
  · exact .inl ⟨items, bytes, rest, hitems, rfl⟩
  · exact .inr ⟨items, _, _, .lineEnds hitems rest, rfl⟩
  · rcases rest with _ | ⟨c, rest⟩
    · exact .inr ⟨items, _, _, .endsInEscape hitems, rfl⟩
    · exact .inr ⟨items, _, _, .badEscape hitems (hc c rfl) rest, rfl⟩

/-! ### Tokens -/

/-- What spells a token is not empty. -/
theorem IsToken.ne_nil {written : List UInt8} {t : Token} {rest : Position}
    (h : IsToken written t rest) : written ≠ [] := by
  cases h with
  | mark m => exact List.cons_ne_nil _ _
  | quoted h => exact List.cons_ne_nil _ _
  | word hne => exact hne

/-- A mark, a quote or a byte that is not blank, as long as no comment begins with it, is no part of
a gap. -/
theorem settled_cons {b : UInt8} {p : Position} (hblank : b ∉ blanks) (hslash : b ≠ slash) :
    Settled (b :: p) := by
  refine ⟨fun c hc => ?_, fun hline => ?_, fun hblock => ?_⟩
  · cases hc
    exact hblank
  · exact hslash (List.cons_prefix_cons.1 hline).1.symm
  · exact hslash (List.cons_prefix_cons.1 hblock).1.symm

/-- No gap begins with a token. -/
theorem IsToken.settled {written : List UInt8} {t : Token} {rest : Position}
    (h : IsToken written t rest) : Settled (written ++ rest) := by
  -- a mark and a quote open nothing; a word must not begin with an opening
  cases h with
  | mark m => exact settled_cons (by cases m <;> decide) (by cases m <;> decide)
  | quoted h => exact settled_cons (by decide) (by decide)
  | @word _ _ hne hbytes hmaximal hopening =>
    obtain ⟨b, written, rfl⟩ := List.exists_cons_of_ne_nil hne
    have hblank : b ∉ blanks := fun hb => hbytes b (by simp) (List.mem_append_left _ hb)
    -- the second byte of a comment would be one of the word's, since no word stops at it
    have hcomment : ∀ c, c ∉ stops → [slash, c] ∈ openings →
        ¬ [slash, c] <+: b :: written ++ rest := by
      rintro c hc ho ⟨after, hafter⟩
      obtain _ | ⟨d, written⟩ := written
      · obtain _ | ⟨d, rest⟩ := rest
        · simp at hafter
        · simp only [List.cons_append, List.nil_append, List.cons.injEq] at hafter
          exact hc (hafter.2.1 ▸ hmaximal d rfl)
      · simp only [List.cons_append, List.nil_append, List.cons.injEq] at hafter
        obtain ⟨rfl, rfl, -⟩ := hafter
        exact hopening _ ho ⟨written, rfl⟩
    refine ⟨fun c hc => ?_, hcomment slash (by decide) (by decide),
      hcomment star (by decide) (by decide)⟩
    cases hc
    exact hblank

/-- A byte that opens nothing is no mark. -/
theorem ofByte?_eq_none {b : UInt8} {written : List UInt8}
    (h : ∀ o ∈ openings, ¬ o <+: b :: written) : Mark.ofByte? b = none := by
  rw [Option.eq_none_iff_forall_ne_some]
  intro m hm
  obtain rfl := ofByte?_eq_some_iff.1 hm
  have hm : [m.byte] ∈ openings := by cases m <;> decide
  exact h _ hm ⟨written, rfl⟩

/-- A token is scanned where it begins. -/
theorem scanToken_of_isToken {b : UInt8} {written : List UInt8} {after : Position} {t : Token}
    (h : IsToken (b :: written) t after) : scanToken b (written ++ after) = .ok (t, after) := by
  generalize hw : b :: written = w at h
  -- of the first byte it is asked whether it is a mark, then whether it is a quote
  cases h with
  | mark m =>
    cases hw
    have hm : Mark.ofByte? m.byte = some m := ofByte?_eq_some_iff.2 rfl
    simp only [scanToken, hm, List.nil_append]
  | @quoted items bytes h =>
    cases hw
    have hm : Mark.ofByte? quote = none := by decide
    have hq : scanQuoted (quote :: (items ++ [quote] ++ after)) [] (items ++ [quote] ++ after) =
        .ok (Utf8.decode bytes, after) := by
      rw [List.append_assoc, scanQuoted_items h, List.singleton_append, scanQuoted_close]
      simp
    simp only [scanToken, hm, if_true, hq, Except.map]
  | word hne hbytes hmaximal hopening =>
    subst hw
    have hquote : b ≠ quote := by
      rintro rfl
      exact hopening [quote] (by decide) ⟨written, rfl⟩
    have hwritten : ∀ c ∈ written, isWordByte c = true := fun c hc =>
      isWordByte_iff.2 (hbytes c (List.mem_cons_of_mem b hc))
    have hstop : ∀ c ∈ after.head?, ¬ isWordByte c = true := fun c hc =>
      fun hword => isWordByte_iff.1 hword (hmaximal c hc)
    -- the scan stops where the word does, because the word is maximal
    have htake : (written ++ after).takeWhile isWordByte = written := by
      rw [List.takeWhile_append_of_pos hwritten]
      cases after with
      | nil => simp
      | cons c after => simp [List.takeWhile_cons_of_neg (hstop c rfl)]
    have hdrop : (written ++ after).dropWhile isWordByte = after := by
      rw [List.dropWhile_append_of_pos hwritten]
      cases after with
      | nil => rfl
      | cons c after => exact List.dropWhile_cons_of_neg (hstop c rfl)
    simp only [scanToken, ofByte?_eq_none hopening, if_neg hquote, htake, hdrop]

/-- **A token is scanned.** -/
theorem scan_of_token {gap written after : Position} {t : Token}
    (hgap : IsGap gap (written ++ after)) (ht : IsToken written t after) :
    scan (gap ++ (written ++ after)) = .ok (some (t, after)) := by
  have hskip := (skip_isGap hgap).trans (skip_of_settled ht.settled)
  obtain ⟨b, more, rfl⟩ := List.exists_cons_of_ne_nil ht.ne_nil
  have hscan := scanToken_of_isToken ht
  rw [List.cons_append] at hskip ⊢
  simp [scan, hskip, hscan, Except.map]

/-- **The end is found behind a gap.** -/
theorem scan_of_end {gap : Position} (h : IsGap gap []) : scan gap = .ok none := by
  have hskip := skip_isGap h
  rw [List.append_nil] at hskip
  simp [scan, hskip, Gap.skip]

/-- **What fails in quotes fails in a scan.** -/
theorem scan_of_failsInQuotes {gap items behind : List UInt8} {e : Misspelling}
    (hgap : IsGap gap (quote :: (items ++ behind))) (h : FailsInQuotes items behind e) :
    scan (gap ++ quote :: (items ++ behind)) = .error e := by
  have hskip := (skip_isGap hgap).trans (skip_of_settled (settled_cons (by decide) (by decide)))
  have hm : Mark.ofByte? quote = none := by decide
  simp [scan, hskip, scanToken, hm, h.scanQuoted_eq, Except.map]

/-- **Where the scan of a quote fails**, it is the quoted text that fails. -/
theorem exists_failsInQuotes {gap p : Position} {e : Misspelling} (hgap : IsGap gap (quote :: p))
    (h : scan (gap ++ quote :: p) = .error e) :
    ∃ items behind, FailsInQuotes items behind e ∧ p = items ++ behind := by
  rcases exists_quoted p with ⟨items, bytes, after, hitems, rfl⟩ | ⟨items, behind, e', hfails, rfl⟩
  · -- a whole text would have been scanned
    have hwritten : quote :: (items ++ quote :: after) = quote :: (items ++ [quote]) ++ after := by
      simp
    rw [hwritten] at h hgap
    rw [scan_of_token hgap (.quoted hitems after)] at h
    cases h
  · rw [scan_of_failsInQuotes hgap hfails] at h
    cases h
    exact ⟨items, behind, hfails, rfl⟩

/-- A comment that stays open fails where it begins. -/
theorem scan_of_comment {gap text : Position} (hgap : IsGap gap (slash :: star :: text))
    (htext : ¬ [star, slash] <:+: text) :
    scan (gap ++ slash :: star :: text) = .error ⟨.endsInComment, slash :: star :: text, []⟩ := by
  have hskip := (skip_isGap hgap).trans (skip_openBlock text)
  rw [skip_block_last htext] at hskip
  simp [scan, hskip]

/-- **What cannot be read is not**, with the number of its message. -/
theorem scan_of_offends {gap bad : Position} {c : Code} (hgap : IsGap gap bad)
    (h : Offends bad c) : ∃ e, scan (gap ++ bad) = .error e ∧ e.error.code = c := by
  cases h with
  | comment htext => exact ⟨_, scan_of_comment hgap htext, rfl⟩
  | lineEnds h rest => exact ⟨_, scan_of_failsInQuotes hgap (.lineEnds h rest), rfl⟩
  | @ends items bytes h =>
    rw [← List.append_nil items] at hgap ⊢
    exact ⟨_, scan_of_failsInQuotes hgap (.ends h), rfl⟩
  | endsInEscape h => exact ⟨_, scan_of_failsInQuotes hgap (.endsInEscape h), rfl⟩
  | badEscape h hc rest => exact ⟨_, scan_of_failsInQuotes hgap (.badEscape h hc rest), rfl⟩

/-- **What begins with no gap, mark or quote begins with a word**, up to the first byte that a word
stops at. -/
theorem isToken_word {b : UInt8} {rest : Position} (hsettled : Settled (b :: rest))
    (hmark : ∀ m : Mark, b ≠ m.byte) (hquote : b ≠ quote) :
    IsToken (b :: rest.takeWhile isWordByte) (.word (Utf8.decode (b :: rest.takeWhile isWordByte)))
      (rest.dropWhile isWordByte) := by
  obtain ⟨hblank, hline, hblock⟩ := hsettled
  have hbegins : b :: rest.takeWhile isWordByte <+: b :: rest :=
    List.cons_prefix_cons.2 ⟨rfl, List.takeWhile_prefix _⟩
  refine .word (List.cons_ne_nil _ _) (fun c hc => ?_) (fun c hc => ?_) (fun o ho hopens => ?_)
  · -- the bytes of the word are neither blanks nor marks
    rcases List.mem_cons.1 hc with rfl | hc
    · intro hstop
      rcases List.mem_append.1 hstop with hb | hb
      · exact hblank c rfl hb
      · simp only [List.mem_cons, List.not_mem_nil, or_false] at hb
        rcases hb with rfl | rfl | rfl
        exacts [hmark .semicolon rfl, hmark .openBrace rfl, hmark .closeBrace rfl]
    · exact isWordByte_iff.1 (List.mem_takeWhile_imp hc)
  · -- the word goes as far as it can
    by_contra hword
    have hstops := List.head?_dropWhile_not isWordByte rest
    rw [hc] at hstops
    exact Bool.false_ne_true (hstops.symm.trans (isWordByte_iff.2 hword))
  · -- what opens the word opens the script, which is neither a mark, a quote nor a comment
    have hopens := hopens.trans hbegins
    rcases List.mem_append.1 ho with ho | ho
    · obtain ⟨m, -, rfl⟩ := List.mem_map.1 ho
      exact hmark m (List.cons_prefix_cons.1 hopens).1.symm
    · simp only [List.mem_cons, List.not_mem_nil, or_false] at ho
      rcases ho with rfl | rfl | rfl
      exacts [hquote (List.cons_prefix_cons.1 hopens).1.symm, hline hopens, hblock hopens]

/-- **A script begins with a gap and a token**, or with a gap and something that cannot be read, or
it is a gap. -/
theorem exists_piece (p : Position) : IsGap p [] ∨
    (∃ gap written t after, IsGap gap (written ++ after) ∧ IsToken written t after ∧
      p = gap ++ (written ++ after)) ∨
    ∃ gap bad c, IsGap gap bad ∧ Offends bad c ∧ p = gap ++ bad := by
  obtain ⟨gap, rest, rfl, hgap, hsettled | ⟨text, rfl, htext⟩⟩ := exists_gap p
  · -- what stands behind the gap is nothing, a mark, a quote or a word
    rcases rest with _ | ⟨b, rest⟩
    · exact .inl (by simpa using hgap)
    by_cases hmark : ∃ m : Mark, b = m.byte
    · obtain ⟨m, rfl⟩ := hmark
      exact .inr (.inl ⟨gap, [m.byte], _, rest, hgap, .mark m rest, rfl⟩)
    by_cases hquote : b = quote
    · subst hquote
      rcases exists_quoted rest with ⟨items, bytes, after, hitems, rfl⟩ | ⟨items, behind, e, h, rfl⟩
      · exact .inr (.inl ⟨gap, quote :: (items ++ [quote]), _, after, by simpa using hgap,
          .quoted hitems after, by simp⟩)
      · exact .inr (.inr ⟨gap, _, _, hgap, h.offends, rfl⟩)
    · have hsplit : rest.takeWhile isWordByte ++ rest.dropWhile isWordByte = rest :=
        List.takeWhile_append_dropWhile
      refine .inr (.inl ⟨gap, b :: rest.takeWhile isWordByte, _, rest.dropWhile isWordByte, ?_,
        isToken_word hsettled (not_exists.1 hmark) hquote, ?_⟩)
      · rwa [List.cons_append, hsplit]
      · rw [List.cons_append, hsplit]
  · exact .inr (.inr ⟨gap, _, _, hgap, .comment htext, rfl⟩)

/-- **Where a scan fails**, behind a gap a comment stays open or a quoted text fails. -/
theorem exists_of_scan_eq_error {p : Position} {e : Misspelling} (h : scan p = .error e) :
    ∃ gap bad, p = gap ++ bad ∧ (e = ⟨.endsInComment, bad, []⟩ ∨
      ∃ items behind, bad = quote :: (items ++ behind) ∧ FailsInQuotes items behind e) := by
  -- what fails is neither a gap nor a token
  rcases exists_piece p with hend | ⟨gap, written, t, after, hgap, ht, rfl⟩ |
    ⟨gap, bad, c, hgap, hbad, rfl⟩
  · rw [scan_of_end hend] at h
    cases h
  · rw [scan_of_token hgap ht] at h
    cases h
  · refine ⟨gap, bad, rfl, ?_⟩
    cases hbad with
    | comment htext =>
      rw [scan_of_comment hgap htext] at h
      cases h
      exact .inl rfl
    | lineEnds | ends | endsInEscape | badEscape =>
      obtain ⟨items, behind, hfails, hitems⟩ := exists_failsInQuotes hgap h
      exact .inr ⟨items, behind, congrArg _ hitems, hfails⟩

end Spelling

end GridScript
