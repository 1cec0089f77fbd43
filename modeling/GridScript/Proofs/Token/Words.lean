import GridScript.Token.Lexemes
import Mathlib.Algebra.Group.Nat.Defs

/-!
# Words of a source

Tokens know nothing of where they come from, so nothing about a `Token` alone keeps a word from
being spelled like a mark. The words of a source are never spelled like the three marks that shape
code: a word begins with a byte that is no mark, and no other byte decodes to such a character.

* `Utf8.eq_of_decodeAfter_eq_cons` — text begins with an ASCII character only where the bytes do,
  and `Utf8.map_toNat_of_decodeAfter` — an ASCII text has no other bytes.
* `Token.Bare` — a token that is not a word spelled like `;` or a brace.
* `Lexemes.bare_ofPosition` — all tokens of a source are bare.
-/

namespace GridScript

/-! ### The first character of decoded bytes -/

namespace Utf8

/-- **What is begun comes to more than ASCII.** Whatever bytes in its range follow, the finished
character has a value of at least `80`. -/
def Begun.Wide (p : Begun) : Prop :=
  0x80 ≤ (p.bits * 64 + (p.low.toNat - 0x80)) * 64 ^ (p.needed - 1)

/-- A character that is not NUL keeps its value only if it has one. -/
private theorem toNat_ofNat_eq (n : Nat) : (Char.ofNat n).toNat = n ∨ (Char.ofNat n).toNat = 0 := by
  by_cases h : n.isValidChar
  · exact .inl (by rw [Char.ofNat, dif_pos h]; rfl)
  · exact .inr (by rw [Char.ofNat, dif_neg h]; rfl)

/-- **A first byte past ASCII** is replaced at once or begins something wide. -/
theorem first_of_not_ascii {b : UInt8} (h : ¬ b < 0x80) :
    first b = ([replacement], none) ∨ ∃ p, first b = ([], some p) ∧ p.Wide := by
  have hb := b.toNat_lt
  unfold first
  rw [if_neg h]
  simp only [UInt8.lt_iff_toNat_lt, UInt8.reduceToNat] at h ⊢
  -- a byte that no character begins with is replaced at once
  split
  · exact .inl rfl
  split
  · -- two bytes in all: the overlong `C0` and `C1` are no first bytes
    refine .inr ⟨_, rfl, ?_⟩
    simp only [Begun.Wide, UInt8.reduceToNat]
    omega
  split
  · -- three bytes in all: after `E0` the range of the second begins higher
    refine .inr ⟨_, rfl, ?_⟩
    simp only [Begun.Wide]
    split
    · simp only [UInt8.reduceToNat]
      omega
    · next hne =>
      have : b.toNat ≠ 0xE0 := fun h => hne (UInt8.toNat_inj.1 h)
      simp only [UInt8.reduceToNat]
      omega
  split
  · -- four bytes in all: after `F0` the range of the second begins higher
    refine .inr ⟨_, rfl, ?_⟩
    simp only [Begun.Wide]
    split
    · simp only [UInt8.reduceToNat]
      omega
    · next hne =>
      have : b.toNat ≠ 0xF0 := fun h => hne (UInt8.toNat_inj.1 h)
      simp only [UInt8.reduceToNat]
      omega
  · exact .inl rfl

/-- Once something wide is begun, no ASCII character but NUL comes of it. -/
theorem not_ascii_of_wide {bytes : List UInt8} {p : Begun} {c : Char} {cs : List Char}
    (hp : p.Wide) (h : decodeAfter (some p) bytes = c :: cs) : c.toNat = 0 ∨ 0x80 ≤ c.toNat := by
  -- the induction is on the bytes that follow, and the range of the next one is what is carried
  induction bytes generalizing p with
  | nil =>
    cases h
    exact .inr (by decide)
  | cons b rest ih =>
    simp only [decodeAfter, step] at h
    split at h
    · next hrange =>
      have hlow : p.low.toNat ≤ b.toNat := UInt8.le_iff_toNat_le.1 hrange.1
      unfold Begun.Wide at hp
      split at h
      · next hlast =>
        -- the last byte: the value is at least the least one that the range allows
        obtain ⟨rfl, -⟩ := List.cons.inj h
        have hexp : p.needed - 1 = 0 := by omega
        rw [hexp, Nat.pow_zero, Nat.mul_one] at hp
        rcases toNat_ofNat_eq (p.bits * 64 + (b.toNat - 0x80)) with heq | heq
        · exact .inr (by omega)
        · exact .inl heq
      · next hmore =>
        -- one byte fewer is needed, and the next may be any continuation
        refine ih ?_ h
        obtain ⟨k, hk⟩ : ∃ k, p.needed - 1 = k + 1 := ⟨p.needed - 2, by omega⟩
        have hk' : p.needed - 1 - 1 = k := by omega
        simp only [Begun.Wide, UInt8.reduceToNat, Nat.sub_self, Nat.add_zero, hk']
        rw [hk, Nat.pow_succ'] at hp
        calc 0x80 ≤ (p.bits * 64 + (p.low.toNat - 0x80)) * (64 * 64 ^ k) := hp
          _ ≤ (p.bits * 64 + (b.toNat - 0x80)) * (64 * 64 ^ k) :=
            Nat.mul_le_mul_right _ (by omega)
          _ = (p.bits * 64 + (b.toNat - 0x80)) * 64 * 64 ^ k := (Nat.mul_assoc _ _ _).symm
    · -- a byte out of range ends the character, which is replaced
      cases h
      exact .inr (by decide)

/-- **Only an ASCII byte decodes to an ASCII character**, NUL apart. -/
theorem eq_of_decodeAfter_eq_cons {b : UInt8} {rest : List UInt8} {c : Char} {cs : List Char}
    (h : decodeAfter none (b :: rest) = c :: cs) (hpos : 0 < c.toNat) (hc : c.toNat < 0x80) :
    c.toNat = b.toNat := by
  by_cases hb : b < 0x80
  · -- an ASCII byte is a character at once
    have hfirst : first b = ([Char.ofNat b.toNat], none) := if_pos hb
    simp only [decodeAfter, step, hfirst, List.cons_append, List.nil_append] at h
    obtain ⟨rfl, -⟩ := List.cons.inj h
    rcases toNat_ofNat_eq b.toNat with heq | heq
    · exact heq
    · omega
  · -- any other byte begins a character that is beyond ASCII or is replaced
    rcases first_of_not_ascii hb with hfirst | ⟨p, hfirst, hp⟩
    · simp only [decodeAfter, step, hfirst, List.cons_append, List.nil_append] at h
      obtain ⟨rfl, -⟩ := List.cons.inj h
      exact absurd hc (by decide)
    · simp only [decodeAfter, step, hfirst, List.nil_append] at h
      rcases not_ascii_of_wide hp h with heq | hle <;> omega

/-- What has been begun comes to something. -/
private theorem decodeAfter_some_ne_nil (p : Begun) (bytes : List UInt8) :
    decodeAfter (some p) bytes ≠ [] := by
  -- a character that is begun comes to something, though it be replaced
  induction bytes generalizing p with
  | nil => simp [decodeAfter]
  | cons b rest ih =>
    simp only [decodeAfter, step]
    split
    · split
      · simp
      · simpa using ih _
    · simp

/-- **Only the ASCII bytes of a text decode to it**, if the text is ASCII without NUL. -/
theorem map_toNat_of_decodeAfter {bytes : List UInt8} {cs : List Char}
    (hcs : ∀ c ∈ cs, 0 < c.toNat ∧ c.toNat < 0x80) (h : decodeAfter none bytes = cs) :
    bytes.map UInt8.toNat = cs.map Char.toNat := by
  -- the induction is on the characters, each of which is one byte
  induction cs generalizing bytes with
  | nil =>
    cases bytes with
    | nil => rfl
    | cons b rest =>
      -- every first byte comes to something
      by_cases hb : b < 0x80
      · simp [decodeAfter, step, first, hb] at h
      · rcases first_of_not_ascii hb with hfirst | ⟨p, hfirst, -⟩
        · simp [decodeAfter, step, hfirst] at h
        · simp [decodeAfter, step, hfirst, decodeAfter_some_ne_nil] at h
  | cons c cs ih =>
    obtain ⟨hpos, hc⟩ := hcs c List.mem_cons_self
    cases bytes with
    | nil => cases h
    | cons b rest =>
      have hbyte := eq_of_decodeAfter_eq_cons h hpos hc
      have hb : b < 0x80 := UInt8.lt_iff_toNat_lt.2 (hbyte ▸ hc)
      have hfirst : first b = ([Char.ofNat b.toNat], none) := if_pos hb
      simp only [decodeAfter, step, hfirst, List.cons_append, List.nil_append] at h
      have hrest := ih (fun c hc => hcs c (List.mem_cons_of_mem _ hc)) (List.cons.inj h).2
      rw [List.map_cons, List.map_cons, hbyte, hrest]

end Utf8

/-! ### Bare tokens -/

namespace Token

/-- **A token that is not a word spelled like a mark that shapes code.** -/
def Bare : Token → Prop
  | word w => w ≠ ";" ∧ w ≠ "\x7b" ∧ w ≠ "\x7d"
  | _ => True

/-- A token has one spelling at most. -/
theorem eq_of_isSpelled {t : Token} {a b : String} (ha : t.isSpelled a = true)
    (hb : t.isSpelled b = true) : a = b := by
  cases t with
  | mark m => exact (beq_iff_eq.1 ha).symm.trans (beq_iff_eq.1 hb)
  | quoted s => cases ha
  | word w => exact (beq_iff_eq.1 ha).symm.trans (beq_iff_eq.1 hb)

/-- A token that is spelled one way is spelled no other way. -/
theorem isSpelled_eq_false {t : Token} {a b : String} (ha : t.isSpelled a = true) (h : a ≠ b) :
    t.isSpelled b = false :=
  Bool.eq_false_iff.2 fun hb => h (eq_of_isSpelled ha hb)

/-- A bare token that is spelled like the mark at the end of an instruction is that mark. -/
theorem Bare.eq_semicolon {t : Token} (h : t.Bare) (hs : t.isSpelled ";" = true) :
    t = mark .semicolon := by
  cases t with
  | mark m => cases m <;> first | rfl | exact absurd hs (by decide)
  | quoted s => cases hs
  | word w => exact absurd (beq_iff_eq.1 hs) h.1

end Token

/-- A word that begins with a byte that is no mark is bare. -/
theorem bare_word_decode {b : UInt8} {rest : List UInt8} (h : Mark.ofByte? b = none) :
    (Token.word (Utf8.decode (b :: rest))).Bare := by
  -- a word spelled like a mark would begin with the byte of that mark
  have hne : ∀ m : Mark, Utf8.decode (b :: rest) ≠ m.spelling := by
    intro m heq
    have hcs : Utf8.decodeAfter none (b :: rest) = [Char.ofNat m.byte.toNat] := by
      have := congrArg String.toList heq
      simpa [Utf8.decode, Mark.spelling, Char.toString] using this
    have hbyte : (Char.ofNat m.byte.toNat).toNat = m.byte.toNat := by cases m <;> rfl
    have hb := Utf8.eq_of_decodeAfter_eq_cons hcs (by cases m <;> decide) (by cases m <;> decide)
    rw [hbyte] at hb
    have hm : m.byte = b := UInt8.toNat_inj.1 hb
    rw [← hm] at h
    revert h
    cases m <;> decide
  exact ⟨hne .semicolon, hne .openBrace, hne .closeBrace⟩

/-- The token that a scan gives is bare. -/
theorem bare_of_scanToken {b : UInt8} {p q : Position} {t : Token}
    (h : scanToken b p = .ok (t, q)) : t.Bare := by
  unfold scanToken at h
  -- a mark, a quoted text or a word; only the last can be spelled like a mark
  split at h
  · cases h
    trivial
  · next hmark =>
    split at h
    · cases hq : scanQuoted (b :: p) [] p with
      | error e =>
        rw [hq] at h
        cases h
      | ok r =>
        rw [hq] at h
        cases h
        trivial
    · cases h
      exact bare_word_decode hmark

theorem bare_of_scan {p q : Position} {t : Token} (h : scan p = .ok (some (t, q))) : t.Bare := by
  unfold scan at h
  split at h
  · cases h
  · cases h
  · next b rest _ =>
    cases ht : scanToken b rest with
    | error e =>
      rw [ht] at h
      cases h
    | ok r =>
      rw [ht] at h
      cases h
      exact bare_of_scanToken ht

namespace Lexemes

/-- **All tokens are bare**, as those of a source are. -/
def Bare : Lexemes → Prop
  | finish _ => True
  | token _ t rest => t.Bare ∧ rest.Bare
  | misspelt _ _ rest => rest.Bare

/-- **The tokens of a source are bare.** -/
theorem bare_ofPosition (p : Position) : (ofPosition p).Bare := by
  fun_induction ofPosition p with
  | case1 p h => trivial
  | case2 p t after h ih => exact ⟨bare_of_scan h, ih⟩
  | case3 p e h ih => exact ih

end Lexemes

end GridScript
