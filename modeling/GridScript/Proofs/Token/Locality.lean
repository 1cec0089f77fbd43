import GridScript.Proofs.Token.Listing

/-!
# A token does not depend on what comes after it

Reading goes forward only, so what is left behind a token is an end of the script. And apart from
the byte that a word stops at, a token does not look at it: where other bytes stand there instead,
the same token is read.

* `Spelling.exists_spelling_of_scan` — what is scanned is spelled.
* `Spelling.scan_suffix`, `Spelling.scan_stop_suffix` — reading goes forward, and
  `Spelling.scan_shown_suffix` what is shown of a misspelling is there, too.
* `Spelling.scan_append` — a token in front of other bytes.
* `Lexemes.ofPosition_eq_token_iff` — the same of the sequence read from a place.
-/

namespace GridScript

namespace Spelling

/-! ### Forward -/

/-- **What is scanned is spelled**: a gap, and behind it what spells the token. -/
theorem exists_spelling_of_scan {p after : Position} {t : Token}
    (h : scan p = .ok (some (t, after))) :
    ∃ gap written, IsGap gap (written ++ after) ∧ IsToken written t after ∧
      p = gap ++ (written ++ after) := by
  -- of the three kinds of pieces only a token is scanned as one
  rcases exists_piece p with hend | ⟨gap, written, t', after', hgap, ht, rfl⟩ |
    ⟨gap, bad, c, hgap, hbad, rfl⟩
  · rw [scan_of_end hend] at h
    cases h
  · rw [scan_of_token hgap ht] at h
    cases h
    exact ⟨gap, written, hgap, ht, rfl⟩
  · obtain ⟨e, he, -⟩ := scan_of_offends hgap hbad
    rw [he] at h
    cases h

/-- **Behind a token** is an end of the script. -/
theorem scan_suffix {p after : Position} {t : Token} (h : scan p = .ok (some (t, after))) :
    after <:+ p := by
  obtain ⟨gap, written, -, -, rfl⟩ := exists_spelling_of_scan h
  exact (List.suffix_append written after).trans (List.suffix_append gap _)

/-- A quoted text that fails is shown at an end of it, and stops at one. -/
theorem FailsInQuotes.suffixes {items behind : List UInt8} {e : Misspelling}
    (h : FailsInQuotes items behind e) :
    e.shown <:+ quote :: (items ++ behind) ∧ e.stop <:+ quote :: (items ++ behind) := by
  cases h with
  | lineEnds h rest =>
    -- the line feed is the last byte that has been read
    exact ⟨List.suffix_rfl, ⟨quote :: (items ++ [Byte.lineFeed]), by simp⟩⟩
  | ends h => exact ⟨by simp, List.nil_suffix⟩
  | endsInEscape h => exact ⟨List.nil_suffix, List.nil_suffix⟩
  | @badEscape _ _ c _ rest =>
    -- the byte behind the backslash is shown again, as it is no part of an item
    have hbehind : c :: rest <:+ quote :: (items ++ backslash :: c :: rest) :=
      ⟨quote :: (items ++ [backslash]), by simp⟩
    exact ⟨hbehind, hbehind⟩

/-- **Behind a misspelling** is an end of the script. -/
theorem scan_stop_suffix {p : Position} {e : Misspelling} (h : scan p = .error e) :
    e.stop <:+ p := by
  obtain ⟨gap, bad, rfl, rfl | ⟨items, behind, rfl, hfails⟩⟩ := exists_of_scan_eq_error h
  · exact List.nil_suffix
  · exact hfails.suffixes.2.trans (List.suffix_append gap _)

/-- **A misspelling is shown** at an end of the script. -/
theorem scan_shown_suffix {p : Position} {e : Misspelling} (h : scan p = .error e) :
    e.shown <:+ p := by
  obtain ⟨gap, bad, rfl, rfl | ⟨items, behind, rfl, hfails⟩⟩ := exists_of_scan_eq_error h
  · exact List.suffix_append gap bad
  · exact hfails.suffixes.1.trans (List.suffix_append gap _)

/-! ### Other bytes behind a token -/

/-- A gap does not look at what it stands in front of, as long as something is there. -/
theorem IsGap.elsewhere {gap rest rest' : Position} (h : IsGap gap rest) (hne : rest ≠ []) :
    IsGap gap rest' := by
  -- only a comment up to the end of the script looks at what follows it
  induction h with
  | nil => exact .nil rest'
  | blank hb _ ih => exact .blank hb (ih hne)
  | line htext _ ih => exact .line htext (ih hne)
  | lastLine => exact absurd rfl hne
  | block htext _ ih => exact .block htext (ih hne)

/-- A mark does not look at what follows it, and another token looks no further than one byte. -/
theorem IsToken.elsewhere {written more q : Position} {t : Token}
    (h : IsToken written t (more ++ q)) (hmore : more = [] → ∃ m, t = .mark m) (x : Position) :
    IsToken written t (more ++ x) := by
  generalize hrest : more ++ q = rest at h
  cases h with
  | mark m => exact .mark m _
  | quoted hitems => exact .quoted hitems _
  | word hne hbytes hmaximal hopening =>
    refine .word hne hbytes ?_ hopening
    -- a word is maximal where it stands, as is seen from the one byte behind it
    cases more with
    | nil =>
      obtain ⟨m, hm⟩ := hmore rfl
      cases hm
    | cons b more =>
      subst hrest
      exact hmaximal

/-- **A token in front of other bytes.** It is read there as it is where it stands, if at least one
byte that follows it stays, or if it is a mark. -/
theorem scan_append {code more q : Position} {t : Token}
    (h : scan (code ++ q) = .ok (some (t, more ++ q))) (hmore : more = [] → ∃ m, t = .mark m)
    (x : Position) : scan (code ++ x) = .ok (some (t, more ++ x)) := by
  obtain ⟨gap, written, hgap, ht, hcode⟩ := exists_spelling_of_scan h
  -- the token has bytes of its own, which the gap ends in front of
  have hwritten := ht.ne_nil
  have hcode : code ++ q = gap ++ (written ++ more) ++ q := by simpa using hcode
  replace hcode := List.append_cancel_right hcode
  rw [hcode, List.append_assoc, List.append_assoc]
  exact scan_of_token (hgap.elsewhere (by simp [hwritten])) (ht.elsewhere hmore x)

end Spelling

/-! ### Sequences -/

namespace Lexemes

/-- **A sequence that begins with a token.** -/
theorem ofPosition_eq_token_iff {p p' : Position} {t : Token} {rest : Lexemes} :
    ofPosition p = token p' t rest ↔
      p = p' ∧ ∃ after, scan p = .ok (some (t, after)) ∧ rest = ofPosition after := by
  constructor
  · intro h
    rw [ofPosition] at h
    split at h
    · cases h
    · next t' after hscan =>
      cases h
      exact ⟨rfl, after, hscan, rfl⟩
    · cases h
  · rintro ⟨rfl, after, hscan, rfl⟩
    exact ofPosition_of_token hscan

/-- A place is known by what is read from it. -/
theorem ofPosition_inj {p q : Position} (h : ofPosition p = ofPosition q) : p = q := by
  rw [← place_ofPosition p, h, place_ofPosition]

end Lexemes

end GridScript
