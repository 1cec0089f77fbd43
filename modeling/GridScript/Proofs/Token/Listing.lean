import GridScript.Proofs.Token.Scanning
import GridScript.Script.Reading

/-!
# The tokens of a source are those of the grammar

* `Spelling.exists_spelled` — every script is some tokens up to its end or to what cannot be read.
* `Lexemes.listing_of_end`, `Lexemes.listing_of_offends` — what is listed in either case.
* `Reading.takeAll` — looking at the next token and taking it, again and again; it gives the list.
* `Source.takeAll_iff_spelled` — what comes of that, for every source.
-/

namespace GridScript

namespace Spelling

/-! ### Scripts -/

/-- The places behind the tokens come later and later. -/
theorem Spelled.pairwise {s last : Position} {ts : List (Token × Position)}
    (h : Spelled s ts last) : (∀ t ∈ ts, t.2.length < s.length) ∧
      ts.Pairwise fun t u => u.2.length < t.2.length := by
  -- the induction is on the tokens; each takes a byte at least, so that less is left behind it
  induction h with
  | nil => exact ⟨by simp, List.Pairwise.nil⟩
  | @cons gap written after last t ts hgap ht h ih =>
    have hpos : 0 < written.length := List.length_pos_iff.2 ht.ne_nil
    have hafter : after.length < (gap ++ (written ++ after)).length := by
      simp only [List.length_append]
      omega
    refine ⟨fun u hu => ?_, List.pairwise_cons.2 ⟨ih.1, ih.2⟩⟩
    rcases List.mem_cons.1 hu with rfl | hu
    · exact hafter
    · exact (ih.1 u hu).trans hafter

/-- **Every script is some tokens up to a gap** at its end or to what cannot be read. -/
theorem exists_spelled (s : Position) :
    (∃ ts gap, Spelled s ts gap ∧ IsGap gap []) ∨
      ∃ ts gap bad c, Spelled s ts (gap ++ bad) ∧ IsGap gap bad ∧ Offends bad c := by
  -- the induction is on the bytes that are left, as a token takes some
  induction hn : s.length using Nat.strong_induction_on generalizing s with
  | _ n ih =>
  rcases exists_piece s with hgap | ⟨gap, written, t, after, hgap, ht, rfl⟩ |
    ⟨gap, bad, c, hgap, hbad, rfl⟩
  · exact .inl ⟨[], s, .nil s, hgap⟩
  · have hpos : 0 < written.length := List.length_pos_iff.2 ht.ne_nil
    have hlt : after.length < n := by
      simp only [List.length_append] at hn
      omega
    -- what ends the tokens behind this one ends them all
    rcases ih after.length hlt after rfl with ⟨ts, gap', hts, hend⟩ | ⟨ts, gap', bad, c, hts, hbad⟩
    · exact .inl ⟨_, gap', .cons hgap ht hts, hend⟩
    · exact .inr ⟨_, gap', bad, c, .cons hgap ht hts, hbad⟩
  · exact .inr ⟨[], gap, bad, c, .nil _, hgap, hbad⟩

/-- The number of the message about what cannot be read. -/
theorem Offends.code_mem {bad : Position} {c : Code} (h : Offends bad c) :
    c ∈ [⟨100⟩, ⟨101⟩, (⟨103⟩ : Code)] := by
  cases h <;> simp

end Spelling

namespace Lexemes

open Spelling

theorem ofPosition_of_end {p : Position} (h : scan p = .ok none) : ofPosition p = .finish p := by
  rw [ofPosition]
  split <;> simp_all

theorem ofPosition_of_token {p after : Position} {t : Token}
    (h : scan p = .ok (some (t, after))) : ofPosition p = .token p t (ofPosition after) := by
  rw [ofPosition]
  split <;> simp_all

theorem ofPosition_of_misspelt {p : Position} {e : Misspelling} (h : scan p = .error e) :
    ofPosition p = .misspelt p e (ofPosition e.stop) := by
  rw [ofPosition]
  split <;> simp_all

theorem place_ofPosition (p : Position) : (ofPosition p).place = p := by
  rw [ofPosition]
  split <;> rfl

/-- The size of a sequence is bounded by the bytes that it was read from. -/
theorem size_ofPosition_le (p : Position) : (ofPosition p).size ≤ p.length := by
  fun_induction ofPosition p with
  | case1 p h => exact Nat.zero_le _
  | case2 p t after h ih => exact Nat.lt_of_le_of_lt ih (scan_length_lt h)
  | case3 p e h ih => exact Nat.lt_of_le_of_lt ih (scan_stop_length_lt h)

/-- **The tokens of a script are listed**, and then what is behind them. -/
theorem listing_of_spelled {s last : Position} {ts : List (Token × Position)}
    (h : Spelled s ts last) :
    (ofPosition s).listing =
      (ts ++ (ofPosition last).listing.1, (ofPosition last).listing.2) := by
  induction h with
  | nil last => rfl
  | cons hgap ht h ih =>
    rw [ofPosition_of_token (scan_of_token hgap ht), listing, ih, place_ofPosition]
    rfl

/-- **The list of a script that is spelled right.** -/
theorem listing_of_end {s gap : Position} {ts : List (Token × Position)} (h : Spelled s ts gap)
    (hend : IsGap gap []) : (ofPosition s).listing = (ts, none) := by
  rw [listing_of_spelled h, ofPosition_of_end (scan_of_end hend)]
  simp [listing]

/-- **The list of a script that is not.** -/
theorem listing_of_offends {s gap bad : Position} {ts : List (Token × Position)} {c : Code}
    (h : Spelled s ts (gap ++ bad)) (hgap : IsGap gap bad) (hbad : Offends bad c) :
    ∃ e : Misspelling, (ofPosition s).listing = (ts, some e) ∧ e.error.code = c := by
  obtain ⟨e, hscan, hcode⟩ := scan_of_offends hgap hbad
  refine ⟨e, ?_, hcode⟩
  rw [listing_of_spelled h, ofPosition_of_misspelt hscan]
  simp [listing]

end Lexemes

/-! ### Taking token after token -/

namespace Reading

/-- **Looks at the next token and takes it**, again and again, until there is none. The tokens are
kept, each with the place behind it. -/
def takeAll : (passes : Nat) → Lexemes → List (Token × Position) × Option (Halt Failure)
  | 0, _ => ([], some .unfinished)
  | passes + 1, ls =>
    match peek ls with
    | .error e _ => ([], some e)
    | .ok none _ => ([], none)
    | .ok (some _) ls =>
      match take ls with
      | .error e _ => ([], some e)
      | .ok t rest =>
        let (ts, e) := takeAll passes rest
        ((t, rest.place) :: ts, e)

/-- The failure of a reading that comes upon a misspelling. -/
def misspelt (e : Misspelling) : Halt Failure := .failed (.spelling e.error e.shown)

/-- **Taking token after token gives the list of them.** -/
theorem takeAll_eq_listing {passes : Nat} {ls : Lexemes} (h : ls.size < passes) :
    takeAll passes ls = (ls.listing.1, ls.listing.2.map misspelt) := by
  -- the bound is above the tokens that are left, each of which is one pass
  induction passes generalizing ls with
  | zero => exact absurd h (Nat.not_lt_zero _)
  | succ passes ih =>
    cases ls with
    | finish p => rfl
    | token p t rest =>
      have hrest : rest.size < passes := by
        simp only [Lexemes.size] at h
        omega
      simp only [takeAll, peek, take, ih hrest, Lexemes.listing]
    | misspelt p e rest => rfl

end Reading

namespace Source

open Spelling

variable (s : Source)

/-- **What comes of taking the tokens of a source one after another.** There cannot be more of them
than bytes, and one more pass finds the end. -/
def takeAll : List (Token × Position) × Option (Halt Failure) :=
  Reading.takeAll (s.size + 1) s.lexemes

theorem takeAll_eq_listing :
    s.takeAll = (s.lexemes.listing.1, s.lexemes.listing.2.map Reading.misspelt) :=
  Reading.takeAll_eq_listing (Nat.lt_succ_of_le (Lexemes.size_ofPosition_le s.bytes))

theorem takeAll_of_end {gap : Position} {ts : List (Token × Position)}
    (h : Spelled s.bytes ts gap) (hend : IsGap gap []) : s.takeAll = (ts, none) := by
  rw [takeAll_eq_listing, lexemes, Lexemes.listing_of_end h hend]
  rfl

theorem takeAll_of_offends {gap bad : Position} {ts : List (Token × Position)} {c : Code}
    (h : Spelled s.bytes ts (gap ++ bad)) (hgap : IsGap gap bad) (hbad : Offends bad c) :
    ∃ e place, s.takeAll = (ts, some (.failed (.spelling e place))) ∧ e.code = c := by
  obtain ⟨e, hlisting, hcode⟩ := Lexemes.listing_of_offends h hgap hbad
  refine ⟨e.error, e.shown, ?_, hcode⟩
  rw [takeAll_eq_listing, lexemes, hlisting]
  rfl

/-- The ends of the tokens in a script come one behind the other. -/
theorem pairwise_offsetOf {last : Position} {ts : List (Token × Position)}
    (h : Spelled s.bytes ts last) : (ts.map fun t => s.offsetOf t.2).Pairwise (· < ·) := by
  obtain ⟨hlt, hpairwise⟩ := h.pairwise
  refine List.pairwise_map.2 (hpairwise.imp_of_mem fun ht hu htu => ?_)
  have ht := hlt _ ht
  simp only [offsetOf, size]
  omega

/-- **The tokens of a source are those of the grammar.** Taking one after another ends

* without a failure exactly where the source is tokens with gaps between them, and the tokens taken
  are those;
* with a message exactly where it is tokens up to something that cannot be read, and the message is
  the one about that;
* in no other way. Every token ends behind the one before it. -/
theorem takeAll_iff_spelled :
    (∀ ts, s.takeAll = (ts, none) ↔ ∃ gap, Spelled s.bytes ts gap ∧ IsGap gap []) ∧
    (∀ ts c, (∃ e place, s.takeAll = (ts, some (.failed (.spelling e place))) ∧ e.code = c) ↔
      ∃ gap bad, Spelled s.bytes ts (gap ++ bad) ∧ IsGap gap bad ∧ Offends bad c) ∧
    (s.takeAll.2 = none ∨ ∃ e place, s.takeAll.2 = some (.failed (.spelling e place)) ∧
      e.code ∈ [⟨100⟩, ⟨101⟩, ⟨103⟩]) ∧
    (s.takeAll.1.map fun t => s.offsetOf t.2).Pairwise (· < ·) := by
  -- a source is of one of the two kinds, and either settles what comes of taking its tokens
  rcases exists_spelled s.bytes with ⟨ts, gap, hts, hend⟩ | ⟨ts, gap, bad, c, hts, hgap, hbad⟩
  · have htake := s.takeAll_of_end hts hend
    refine ⟨fun ts' => ⟨fun h => ?_, fun ⟨gap', hts', hend'⟩ => s.takeAll_of_end hts' hend'⟩,
      fun ts' c => ⟨fun ⟨e, place, h, hc⟩ => ?_, fun ⟨gap', bad, hts', hgap, hbad⟩ =>
        s.takeAll_of_offends hts' hgap hbad⟩, .inl (by rw [htake]), ?_⟩
    · obtain rfl : ts = ts' := congrArg Prod.fst (htake.symm.trans h)
      exact ⟨gap, hts, hend⟩
    · -- with an end that is no failure there is no failure to be told
      cases htake.symm.trans h
    · rw [htake]
      exact s.pairwise_offsetOf hts
  · obtain ⟨e, place, htake, hcode⟩ := s.takeAll_of_offends hts hgap hbad
    refine ⟨fun ts' => ⟨fun h => ?_, fun ⟨gap', hts', hend'⟩ => s.takeAll_of_end hts' hend'⟩,
      fun ts' c' => ⟨fun ⟨e', place', h, hc'⟩ => ?_, fun ⟨gap', bad', hts', hgap', hbad'⟩ =>
        s.takeAll_of_offends hts' hgap' hbad'⟩,
      .inr ⟨e, place, by rw [htake], hcode ▸ hbad.code_mem⟩, ?_⟩
    · cases htake.symm.trans h
    · -- the failure is the one that there is, and with it its number
      obtain ⟨rfl, rfl, rfl⟩ : ts = ts' ∧ e = e' ∧ place = place' := by
        simpa using htake.symm.trans h
      obtain rfl : c = c' := hcode.symm.trans hc'
      exact ⟨gap, bad, hts, hgap, hbad⟩
    · rw [htake]
      exact s.pairwise_offsetOf hts

end Source

end GridScript
