import GridScript.Text.Numeral

/-!
# Numbers read back as they are written

* `Numeral.readUInt32?_ofNat` — a count is read back.
* `Numeral.readInt32?_ofInt` — a coordinate is read back, whatever its sign.
-/

namespace GridScript.Numeral

/-- A decimal digit has the value that the standard library gives it. -/
theorem digit?_eq {c : Char} (h : c.isDigit = true) : digit? c = some (c.toNat - '0'.toNat) := by
  have hrange : '0' ≤ c ∧ c ≤ '9' := Char.isDigit_iff_toNat.1 h
  rw [digit?, if_pos hrange]

/-- Decimal digits have the value that the standard library gives them. -/
theorem digitsAfter_eq {cs : List Char} (h : ∀ c ∈ cs, c.isDigit = true) (seen : Nat) :
    digitsAfter seen cs = some (Nat.ofDigitChars 10 cs seen) := by
  induction cs generalizing seen with
  | nil => rfl
  | cons c cs ih =>
    rw [digitsAfter, digit?_eq (h c List.mem_cons_self), Option.bind_some, Nat.ofDigitChars_cons,
      Nat.mul_comm 10, ih fun d hd => h d (List.mem_cons_of_mem c hd)]

/-- The digits of a number are all digits. -/
theorem isDigit_of_mem {n : Nat} {c : Char} (h : c ∈ Nat.toDigits 10 n) : c.isDigit = true :=
  Nat.isDigit_of_mem_toDigits (by decide) (by decide) h

/-- The digits of a number are read back. -/
theorem digits?_toDigits (n : Nat) : digits? (Nat.toDigits 10 n) = some n := by
  have hafter := digitsAfter_eq (fun c => isDigit_of_mem (n := n) (c := c)) 0
  rw [Nat.ofDigitChars_ten_toDigits] at hafter
  cases hcs : Nat.toDigits 10 n with
  | nil => exact absurd hcs Nat.toDigits_ne_nil
  | cons c cs => rw [← hafter, hcs]; rfl

/-- A number does not begin with a sign. -/
theorem toDigits_eq_cons (n : Nat) :
    ∃ c cs, Nat.toDigits 10 n = c :: cs ∧ c ≠ '+' ∧ c ≠ '-' := by
  cases hcs : Nat.toDigits 10 n with
  | nil => exact absurd hcs Nat.toDigits_ne_nil
  | cons c cs =>
    -- a numeral begins with a digit, and neither sign is one
    have hc : c.isDigit = true := isDigit_of_mem (hcs ▸ List.mem_cons_self)
    refine ⟨c, cs, rfl, ?_, ?_⟩
    · rintro rfl
      exact absurd hc (by decide)
    · rintro rfl
      exact absurd hc (by decide)

/-- A negative number is written with a sign in front. -/
theorem toList_ofInt_negSucc (n : Nat) :
    (ofInt (.negSucc n)).toList = '-' :: (ofNat (n + 1)).toList := by
  rw [ofInt, String.toList_append]
  rfl

theorem readNat?_ofNat (n : Nat) : readNat? (ofNat n) = some n := by
  obtain ⟨c, cs, hcs, hplus, -⟩ := toDigits_eq_cons n
  have hread := digits?_toDigits n
  rw [readNat?, ofNat, Nat.toList_repr]
  rw [hcs] at hread ⊢
  -- only a sign would be looked past
  split
  · next heq => exact absurd (List.cons.inj heq).1 hplus
  · exact hread

theorem readInt?_ofInt (i : Int) : readInt? (ofInt i) = some i := by
  cases i with
  | ofNat n =>
    obtain ⟨c, cs, hcs, hplus, hminus⟩ := toDigits_eq_cons n
    have hread := digits?_toDigits n
    rw [readInt?, ofInt, ofNat, Nat.toList_repr]
    rw [hcs] at hread ⊢
    -- the first character is no sign, so that it is read as a numeral without one
    split
    · next heq => exact absurd (List.cons.inj heq).1 hminus
    · next heq => exact absurd (List.cons.inj heq).1 hplus
    · rw [hread]
      rfl
  | negSucc n =>
    rw [readInt?, toList_ofInt_negSucc, ofNat, Nat.toList_repr]
    simp only [digits?_toDigits]
    rfl

/-- **A count is read back.** -/
theorem readUInt32?_ofNat (n : UInt32) : readUInt32? (ofNat n.toNat) = some n := by
  rw [readUInt32?, readBelow?, readNat?_ofNat, Option.filter_some,
    if_pos (decide_eq_true n.toNat_lt)]
  simp

/-- **A coordinate is read back.** -/
theorem readInt32?_ofInt (i : Int32) : readInt32? (ofInt i.toInt) = some i := by
  have hrange : Int32.minValue.toInt ≤ i.toInt ∧ i.toInt ≤ Int32.maxValue.toInt :=
    ⟨i.minValue_le_toInt, i.toInt_le⟩
  rw [readInt32?, readInt?_ofInt, Option.filter_some, if_pos (decide_eq_true hrange)]
  simp

end GridScript.Numeral
