import GridScript.Token.Scan

/-!
# The tokens of a source, in order

Reading never looks back, so what is read from a place on is settled by the place: some tokens, and
between them places where the spelling is wrong. `Lexemes` is that sequence. Each entry knows the
place it was read from, and going back to a place is taking up the sequence there again.

* `Lexemes.ofPosition` reads everything from a place on.
* `scan_length_lt` and `scan_stop_length_lt`: every entry takes at least one byte, so there are
  finitely many.
* `Lexemes.listing` gives the tokens up to the first misspelling, each with the place behind it.
-/

namespace GridScript

/-! ### Reading moves on -/

/-- A gap ends no earlier than it begins. -/
theorem Gap.skip_length_le {g : Gap} {p q : Position} (h : g.skip p = .ok q) :
    q.length ≤ p.length := by
  fun_induction Gap.skip g p <;> simp_all <;> try omega

/-- Where a comment is not closed, reading has come to the end. -/
theorem Gap.skip_error_stop {g : Gap} {p : Position} {e : Misspelling} (h : g.skip p = .error e) :
    e.stop = [] := by
  fun_induction Gap.skip g p <;> simp_all <;> (try (subst h; rfl))

/-- Something has to be there for a gap to be misspelled. -/
theorem Gap.ne_nil_of_skip_error {p : Position} {e : Misspelling}
    (h : Gap.blanks.skip p = .error e) : p ≠ [] := by
  rintro rfl
  simp [Gap.skip] at h

/-- A quoted text ends no earlier than it begins. -/
theorem scanQuoted_length_le {o seen p : List UInt8} {t : String} {q : Position}
    (h : scanQuoted o seen p = .ok (t, q)) : q.length ≤ p.length := by
  fun_induction scanQuoted o seen p <;> simp_all <;> try omega

/-- A misspelled text stops no earlier than it begins. -/
theorem scanQuoted_stop_length_le {o seen p : List UInt8} {e : Misspelling}
    (h : scanQuoted o seen p = .error e) : e.stop.length ≤ p.length := by
  fun_induction scanQuoted o seen p with
  | case1 | case3 | case4 | case6 => simp_all; subst h; simp
  | case2 => simp at h
  -- where reading goes on, it stops no earlier than the rest of the text does
  | case5 _ _ _ _ _ _ _ ih => have := ih h; simp_all; omega
  | case7 _ _ _ _ _ _ ih => have := ih h; simp_all; omega

/-- A token ends behind its first byte or later. -/
theorem scanToken_length_le {b : UInt8} {p q : Position} {t : Token}
    (h : scanToken b p = .ok (t, q)) : q.length ≤ p.length := by
  -- a mark is its one byte, and of the others a quoted text and a word take more
  unfold scanToken at h
  split at h
  · simp_all
  · split at h
    · cases hq : scanQuoted (b :: p) [] p with
      | error e => simp [hq, Except.map] at h
      | ok r =>
        obtain ⟨s, r⟩ := r
        simp only [hq, Except.map, Except.ok.injEq, Prod.mk.injEq] at h
        exact h.2 ▸ scanQuoted_length_le hq
    · simp only [Except.ok.injEq, Prod.mk.injEq] at h
      exact h.2 ▸ (List.dropWhile_sublist _).length_le

/-- A misspelled token stops behind its first byte or later. -/
theorem scanToken_stop_length_le {b : UInt8} {p : Position} {e : Misspelling}
    (h : scanToken b p = .error e) : e.stop.length ≤ p.length := by
  -- only a quoted text can be misspelled
  unfold scanToken at h
  split at h
  · simp at h
  · split at h
    · cases hq : scanQuoted (b :: p) [] p with
      | error e' =>
        simp only [hq, Except.map, Except.error.injEq] at h
        exact h ▸ scanQuoted_stop_length_le hq
      | ok r => simp [hq, Except.map] at h
    · simp at h

/-- **A token takes at least one byte.** -/
theorem scan_length_lt {p q : Position} {t : Token} (h : scan p = .ok (some (t, q))) :
    q.length < p.length := by
  unfold scan at h
  split at h
  · simp at h
  · simp at h
  · next b rest hg =>
    -- the gap has left the byte `b`, which the token takes
    have hle := Gap.skip_length_le hg
    cases ht : scanToken b rest with
    | error e => simp [ht, Except.map] at h
    | ok r =>
      simp only [ht, Except.map, Except.ok.injEq, Option.some.injEq] at h
      have := scanToken_length_le (h ▸ ht)
      simp only [List.length_cons] at hle
      omega

/-- **A misspelling takes at least one byte.** -/
theorem scan_stop_length_lt {p : Position} {e : Misspelling} (h : scan p = .error e) :
    e.stop.length < p.length := by
  unfold scan at h
  split at h
  · next e' hg =>
    -- a comment that is left open takes all that there is, and that is not nothing
    simp only [Except.error.injEq] at h
    rw [← h, Gap.skip_error_stop hg]
    exact List.length_pos_iff.2 (Gap.ne_nil_of_skip_error hg)
  · simp at h
  · next b rest hg =>
    have hle := Gap.skip_length_le hg
    cases ht : scanToken b rest with
    | error e' =>
      simp only [ht, Except.map, Except.error.injEq] at h
      have := scanToken_stop_length_le (h ▸ ht)
      simp only [List.length_cons] at hle
      omega
    | ok r => simp [ht, Except.map] at h

/-! ### The sequence -/

/-- **What is read from a place on.** -/
inductive Lexemes where
  /-- Nothing but a gap is left at this place. -/
  | finish (place : Position)
  /-- The token read from this place, and what is read behind it. -/
  | token (place : Position) (t : Token) (rest : Lexemes)
  /-- The misspelling met from this place on, and what is read where reading stopped. -/
  | misspelt (place : Position) (e : Misspelling) (rest : Lexemes)

namespace Lexemes

/-- **Everything that is read from a place on.** -/
def ofPosition (p : Position) : Lexemes :=
  match _h : scan p with
  | .ok none => finish p
  | .ok (some (t, after)) => token p t (ofPosition after)
  | .error e => misspelt p e (ofPosition e.stop)
-- every token and every misspelling takes at least one byte
termination_by p.length
decreasing_by
  · exact scan_length_lt _h
  · exact scan_stop_length_lt _h

/-- The place that a sequence is read from, before any gap. -/
def place : Lexemes → Position
  | finish p => p
  | token p _ _ => p
  | misspelt p _ _ => p

/-- The number of tokens and misspellings. -/
def size : Lexemes → Nat
  | finish _ => 0
  | token _ _ rest => rest.size + 1
  | misspelt _ _ rest => rest.size + 1

/-- **The tokens up to the first misspelling**, each with the place behind it, and the misspelling
if there is one. -/
def listing : Lexemes → List (Token × Position) × Option Misspelling
  | finish _ => ([], none)
  | token _ t rest =>
    let (ts, e) := rest.listing
    ((t, rest.place) :: ts, e)
  | misspelt _ e _ => ([], some e)

end Lexemes

/-- The sequence read from the start of a source. -/
def Source.lexemes (src : Source) : Lexemes := .ofPosition src.bytes

end GridScript
