import GridScript.Text.Blank
import Mathlib.Data.List.TakeDrop
import Mathlib.Data.List.TakeWhile

/-!
# Words of a line

* `Blank.glue` — words with one space between each two of them.
* `Blank.wordsOfChars_glue` — cut apart again.
* `Blank.IsTrimmed` — texts without a blank at either end, which are those that trimming leaves as
  they are.
-/

namespace GridScript.Blank

/-- **One word**: at least one character, and no blank. -/
def IsWord (s : String) : Prop := s.toList ≠ [] ∧ ∀ c ∈ s.toList, isBlank c = false

-- One character after another is looked at: an instance that is searched for could run through all
-- characters that there are.
instance (s : String) : Decidable (IsWord s) :=
  @instDecidableAnd _ _ _ (List.decidableBAll (fun c => isBlank c = false) s.toList)

/-- **Words with a space between each two of them.** -/
def glue : List String → List Char
  | [] => []
  | [w] => w.toList
  | w :: w' :: ws => w.toList ++ ' ' :: glue (w' :: ws)

/-- A space at the start is in no word. -/
theorem wordsOfChars_space (cs : List Char) : wordsOfChars (' ' :: cs) = wordsOfChars cs := by
  rw [wordsOfChars, List.splitOnP_cons_eq_if_modifyHead, if_pos (by decide)]
  rfl

/-- **A word in front of a space** is cut off. -/
theorem wordsOfChars_append_space {w : String} (h : IsWord w) (rest : List Char) :
    wordsOfChars (w.toList ++ ' ' :: rest) = w.toList :: wordsOfChars rest := by
  obtain ⟨hne, hblank⟩ := h
  -- empty pieces are thrown away, and a word is none
  have hkept : (!w.toList.isEmpty) = true := by simpa using hne
  rw [wordsOfChars, List.splitOnP_append_cons_of_forall_mem hblank _ (by decide),
    List.filter_cons, if_pos hkept]
  rfl

/-- A word that nothing follows is the only one. -/
theorem wordsOfChars_word {w : String} (h : IsWord w) : wordsOfChars w.toList = [w.toList] := by
  obtain ⟨hne, hblank⟩ := h
  have hkept : (!w.toList.isEmpty) = true := by simpa using hne
  rw [wordsOfChars, List.splitOnP_eq_singleton hblank, List.filter_cons, if_pos hkept]
  rfl

/-- **Words are cut apart again.** -/
theorem wordsOfChars_glue {ws : List String} (h : ∀ w ∈ ws, IsWord w) :
    wordsOfChars (glue ws) = ws.map String.toList := by
  -- the induction is on the words, between which one blank stands
  induction ws with
  | nil => rfl
  | cons w ws ih =>
    have hw := h w List.mem_cons_self
    cases ws with
    | nil => exact wordsOfChars_word hw
    | cons w' ws =>
      have hrest := ih fun v hv => h v (List.mem_cons_of_mem w hv)
      rw [glue, wordsOfChars_append_space hw, hrest]
      rfl

/-- **Words in front of a space** are cut off, whatever follows. -/
theorem wordsOfChars_glue_append {ws : List String} (h : ∀ w ∈ ws, IsWord w) (rest : List Char) :
    wordsOfChars (glue ws ++ ' ' :: rest) = ws.map String.toList ++ wordsOfChars rest := by
  induction ws with
  | nil => exact wordsOfChars_space rest
  | cons w ws ih =>
    have hw := h w List.mem_cons_self
    cases ws with
    | nil => exact wordsOfChars_append_space hw rest
    | cons w' ws =>
      have hrest := ih fun v hv => h v (List.mem_cons_of_mem w hv)
      rw [glue, List.append_assoc, List.cons_append, wordsOfChars_append_space hw, hrest]
      rfl

theorem words_ofList_glue {ws : List String} (h : ∀ w ∈ ws, IsWord w) :
    words (String.ofList (glue ws)) = ws := by
  rw [words, String.toList_ofList, wordsOfChars_glue h, List.map_map]
  simp

/-- **No blank but the space** is in words and the spaces between them. -/
theorem eq_space_of_mem_glue {ws : List String} (h : ∀ w ∈ ws, IsWord w) {c : Char}
    (hc : c ∈ glue ws) (hblank : isBlank c = true) : c = ' ' := by
  induction ws with
  | nil => cases hc
  | cons w ws ih =>
    -- no word holds a blank, so that it is one of those between them
    have hw : c ∉ w.toList := by
      intro hmem
      rw [(h w List.mem_cons_self).2 c hmem] at hblank
      cases hblank
    cases ws with
    | nil => exact absurd hc hw
    | cons w' ws =>
      rcases List.mem_append.1 hc with hc | hc
      · exact absurd hc hw
      · rcases List.mem_cons.1 hc with hc | hc
        · exact hc
        · exact ih (fun v hv => h v (List.mem_cons_of_mem w hv)) hc

/-- No carriage return is in words and the spaces between them. -/
theorem ne_return_of_mem_glue {ws : List String} (h : ∀ w ∈ ws, IsWord w) {c : Char}
    (hc : c ∈ glue ws) : c ≠ '\r' := by
  rintro rfl
  exact absurd (eq_space_of_mem_glue h hc (by decide)) (by decide)

/-! ### Both ends of a text -/

/-- What is taken off the end leaves the beginning. -/
theorem dropAtEnd_prefix (p : Char → Bool) (cs : List Char) : dropAtEnd p cs <+: cs := by
  rw [dropAtEnd, ← List.reverse_suffix, List.reverse_reverse]
  exact List.dropWhile_suffix p

/-- What is left ends with a character that is not taken off. -/
theorem eq_false_of_mem_getLast?_dropAtEnd {p : Char → Bool} {cs : List Char} {c : Char}
    (h : c ∈ (dropAtEnd p cs).getLast?) : p c = false := by
  have hfirst := List.head?_dropWhile_not p cs.reverse
  rw [dropAtEnd, List.getLast?_reverse] at h
  rw [h] at hfirst
  simpa using hfirst

/-- **Nothing is taken off the end** of a text whose last character stays. -/
theorem dropAtEnd_eq_self {p : Char → Bool} {cs : List Char}
    (h : ∀ c ∈ cs.getLast?, p c = false) : dropAtEnd p cs = cs := by
  have hdrop : cs.reverse.dropWhile p = cs.reverse := by
    cases hcs : cs.reverse with
    | nil => rfl
    | cons c rest =>
      have hc : p c = false := h c (by rw [← List.head?_reverse, hcs]; rfl)
      rw [List.dropWhile_cons_of_neg (by simp [hc])]
  rw [dropAtEnd, hdrop, List.reverse_reverse]

/-- Nothing in front of a character that stays is taken off. -/
theorem dropAtEnd_append_cons {p : Char → Bool} {c : Char} (h : p c = false) (cs ds : List Char) :
    dropAtEnd p (cs ++ c :: ds) = cs ++ c :: dropAtEnd p ds := by
  have hreverse : (cs ++ c :: ds).reverse = ds.reverse ++ c :: cs.reverse := by simp
  rw [dropAtEnd, dropAtEnd, hreverse, List.dropWhile_append]
  by_cases hds : ds.reverse.dropWhile p = []
  · simp [hds, h]
  · simp [hds]

/-- One more character in front is taken off only together with all that follow. -/
theorem dropAtEnd_cons (p : Char → Bool) (c : Char) (cs : List Char) :
    dropAtEnd p (c :: cs) =
      if dropAtEnd p cs = [] ∧ p c = true then [] else c :: dropAtEnd p cs := by
  rw [dropAtEnd, dropAtEnd, List.reverse_cons, List.dropWhile_append]
  by_cases hcs : cs.reverse.dropWhile p = []
  · by_cases hc : p c = true <;> simp [hcs, hc]
  · simp [hcs]

/-- Both ends are taken off independently of each other, where the end is taken off for less. -/
theorem dropWhile_dropAtEnd {p q : Char → Bool} (h : ∀ c, q c = true → p c = true)
    (cs : List Char) : (dropAtEnd q cs).dropWhile p = dropAtEnd q (cs.dropWhile p) := by
  induction cs with
  | nil => rfl
  | cons c cs ih =>
    by_cases hp : p c = true
    · rw [List.dropWhile_cons_of_pos hp, ← ih, dropAtEnd_cons]
      split
      · next hall => rw [hall.1]
      · rw [List.dropWhile_cons_of_pos hp]
    · -- a character that is not dropped in front is not one that would be dropped behind
      have hq : ¬ q c = true := fun hq => hp (h c hq)
      rw [List.dropWhile_cons_of_neg hp, dropAtEnd_cons, if_neg fun hall => hq hall.2,
        List.dropWhile_cons_of_neg hp]

/-- **Blanks that are taken off the end before** make no difference. -/
theorem trimChars_dropAtEnd {q : Char → Bool} (h : ∀ c, q c = true → isBlank c = true)
    (cs : List Char) : trimChars (dropAtEnd q cs) = trimChars cs := by
  -- what is dropped behind would have been trimmed there as well
  have hagain (l : List Char) : (l.dropWhile q).dropWhile isBlank = l.dropWhile isBlank := by
    induction l with
    | nil => rfl
    | cons c l ih =>
      by_cases hq : q c = true
      · rw [List.dropWhile_cons_of_pos hq, List.dropWhile_cons_of_pos (h c hq), ih]
      · rw [List.dropWhile_cons_of_neg hq]
  rw [trimChars, dropWhile_dropAtEnd h, dropAtEnd, dropAtEnd, List.reverse_reverse, hagain,
    trimChars, dropAtEnd]

/-- **A text without a blank at either end.** -/
def IsTrimmed (s : String) : Prop :=
  (∀ c ∈ s.toList.head?, isBlank c = false) ∧ ∀ c ∈ s.toList.getLast?, isBlank c = false

instance (s : String) : Decidable (IsTrimmed s) :=
  @instDecidableAnd _ _ (Option.decidableForallMem _) (Option.decidableForallMem _)

/-- **Trimming leaves no blank at either end.** -/
theorem isTrimmed_trim (s : String) : IsTrimmed (trim s) := by
  rw [IsTrimmed, trim, String.toList_ofList, trimChars]
  refine ⟨fun c hc => ?_, fun c hc => eq_false_of_mem_getLast?_dropAtEnd hc⟩
  -- the first character that is left was the first one before the end was looked at
  obtain ⟨after, hafter⟩ := dropAtEnd_prefix isBlank (s.toList.dropWhile isBlank)
  have hfirst := List.head?_dropWhile_not isBlank s.toList
  rw [← hafter, List.head?_append, hc] at hfirst
  simpa using hfirst

/-- **A trimmed text** is left as it is. -/
theorem trim_of_isTrimmed {s : String} (h : IsTrimmed s) : trim s = s := by
  have hdrop : s.toList.dropWhile isBlank = s.toList := by
    cases hs : s.toList with
    | nil => rfl
    | cons c rest =>
      have hc : isBlank c = false := h.1 c (by rw [hs]; rfl)
      rw [List.dropWhile_cons_of_neg (by simp [hc])]
  rw [trim, trimChars, hdrop, dropAtEnd_eq_self h.2, String.ofList_toList]

/-! ### The first word -/

/-- **The first of several words** ends at the first space. -/
theorem span_glue {k : String} {ws : List String} (h : IsWord k) :
    (glue (k :: ws)).span (· != ' ') = (k.toList, if ws = [] then [] else ' ' :: glue ws) := by
  -- the first word ends at the first space, since it holds no blank
  have hk : ∀ c ∈ k.toList, (c != ' ') = true := by
    intro c hc
    refine bne_iff_ne.2 ?_
    rintro rfl
    exact absurd (h.2 _ hc) (by decide)
  rw [List.span_eq_takeWhile_dropWhile]
  cases ws with
  | nil =>
    have hglue : glue [k] = k.toList := rfl
    rw [if_pos rfl, hglue, List.takeWhile_eq_self_iff.2 hk, List.dropWhile_eq_nil_iff.2 hk]
  | cons w ws =>
    rw [glue, if_neg (List.cons_ne_nil w ws), List.takeWhile_append_of_pos hk,
      List.dropWhile_append_of_pos hk]
    simp

end GridScript.Blank
