import GridScript.Source
import Mathlib.Data.List.TakeWhile

/-!
# Lines, columns and the texts of lines

An offset stands in one line: the bytes between the last line feed before it and the first one
behind it. Its line and column count what is in front of it, and the text of the line of that number
is the line in which it stands.

* `Source.take_offsetOf` — the bytes before a place.
* `IsLine` — a line among some bytes; `exists_line`: there is one around every place.
* `Source.line_locate_offsetOf` — the line of a later place.
* `Source.locate_of_isLine` — the line and the column of a place in a line, and
  `Source.exists_line_locate` those of every place.
* `Source.lineText_of_isLine` — the text of that line.
* `Source.exists_returns`, `Source.withoutReturns_append` — the carriage returns that are left out
  at the end of a line.
-/

namespace GridScript

/-- **A line among some bytes**, with what stands before it and what stands behind it. No line feed
is in it, and it reaches from one to the next. -/
structure IsLine (earlier line behind : List UInt8) : Prop where
  begins : ∀ b ∈ earlier.getLast?, b = Byte.lineFeed
  whole : Byte.lineFeed ∉ line
  ends : ∀ b ∈ behind.head?, b = Byte.lineFeed

/-- What a line feed is not in, as the function that looks for one has it. -/
theorem forall_ne_lineFeed {l : List UInt8} (h : Byte.lineFeed ∉ l) :
    ∀ b ∈ l, (b == Byte.lineFeed) = false :=
  fun _ hb => beq_false_of_ne fun heq => h (heq ▸ hb)

/-- **What is passed over ends** at something that would not have been passed over. -/
theorem eq_false_of_mem_head?_dropWhile {α : Type} (p : α → Bool) (l : List α) :
    ∀ a ∈ (l.dropWhile p).head?, p a = false := by
  intro a ha
  have hstops := List.head?_dropWhile_not p l
  rw [Option.mem_def.1 ha] at hstops
  simpa using hstops

/-- **There is a line around every place**, before which `p` stands and behind which `q`. -/
theorem exists_line (p q : List UInt8) : ∃ earlier head tail behind,
    p = earlier ++ head ∧ q = tail ++ behind ∧ IsLine earlier (head ++ tail) behind := by
  -- the line begins where going back from the place comes to a line feed
  refine ⟨(p.reverse.dropWhile (· != Byte.lineFeed)).reverse,
    (p.reverse.takeWhile (· != Byte.lineFeed)).reverse, q.takeWhile (· != Byte.lineFeed),
    q.dropWhile (· != Byte.lineFeed), ?_, List.takeWhile_append_dropWhile.symm, ?_, ?_, ?_⟩
  · rw [← List.reverse_append, List.takeWhile_append_dropWhile, List.reverse_reverse]
  · intro b hb
    rw [List.getLast?_reverse] at hb
    have hstops := eq_false_of_mem_head?_dropWhile (· != Byte.lineFeed) _ b hb
    exact bne_eq_false_iff_eq.1 hstops
  · rw [List.mem_append, List.mem_reverse]
    rintro (h | h) <;> simpa using List.mem_takeWhile_imp h
  · -- forward from the place the line ends before the next line feed, or with the script
    intro b hb
    have hstops := eq_false_of_mem_head?_dropWhile (· != Byte.lineFeed) _ b hb
    exact bne_eq_false_iff_eq.1 hstops

/-- Some bytes have one line more than they have line feeds. -/
theorem length_splitOnP_lineFeed (l : List UInt8) :
    (l.splitOnP (· == Byte.lineFeed)).length = l.count Byte.lineFeed + 1 := by
  induction l with
  | nil => rfl
  | cons b l ih =>
    rw [List.splitOnP_cons_eq_if_modifyHead, List.count_cons]
    by_cases hb : b = Byte.lineFeed
    · rw [if_pos (beq_iff_eq.2 hb), if_pos (beq_iff_eq.2 hb), List.length_cons, ih]
    · rw [if_neg (by simpa using hb), if_neg (by simpa using hb), List.length_modifyHead, ih,
        Nat.add_zero]

namespace IsLine

variable {earlier line behind : List UInt8}

/-- What stands before a line is nothing, or it ends with a line feed. -/
theorem earlier_cases (h : IsLine earlier line behind) :
    earlier = [] ∨ ∃ lines, earlier = lines ++ [Byte.lineFeed] := by
  rcases List.eq_nil_or_concat earlier with hnil | ⟨lines, b, rfl⟩
  · exact .inl hnil
  · have hb : b = Byte.lineFeed := h.begins b (by simp)
    exact .inr ⟨lines, by rw [hb, List.concat_eq_append]⟩

/-- From a line on, it is the first one. -/
theorem splitOnP_append (h : IsLine earlier line behind) :
    ∃ later, (line ++ behind).splitOnP (· == Byte.lineFeed) = line :: later := by
  cases behind with
  | nil =>
    rw [List.append_nil]
    exact ⟨[], List.splitOnP_eq_singleton (forall_ne_lineFeed h.whole)⟩
  | cons b behind =>
    have hb : b = Byte.lineFeed := h.ends b rfl
    exact ⟨_, List.splitOnP_append_cons_of_forall_mem (forall_ne_lineFeed h.whole) b
      (beq_iff_eq.2 hb) behind⟩

end IsLine

namespace Source

variable {src : Source} {earlier line behind : List UInt8}

/-- The offset of a place counts the bytes before it. -/
theorem offsetOf_of_append {before : List UInt8} {p : Position} (h : src.bytes = before ++ p) :
    src.offsetOf p = before.length := by
  rw [offsetOf, size, h, List.length_append, Nat.add_sub_cancel]

/-- What is read from a place on, behind the bytes before it. -/
theorem take_offsetOf {p : Position} (hp : p <:+ src.bytes) :
    src.bytes = src.bytes.take (src.offsetOf p) ++ p := by
  obtain ⟨before, hbefore⟩ := hp
  rw [offsetOf_of_append hbefore.symm, ← hbefore, List.take_left]

/-- **The line of a later place**: there are as many lines more as there are line feeds on the
way. -/
theorem line_locate_offsetOf {between p : Position} (h : between ++ p <:+ src.bytes) :
    (src.locate (src.offsetOf p)).line =
      (src.locate (src.offsetOf (between ++ p))).line + between.count Byte.lineFeed := by
  obtain ⟨before, hbefore⟩ := h
  have hp : src.bytes = (before ++ between) ++ p := by rw [List.append_assoc, hbefore]
  have htake : src.bytes.take (before ++ between).length = before ++ between := by
    rw [hp, List.take_left]
  have htake' : src.bytes.take before.length = before := by rw [← hbefore, List.take_left]
  simp only [locate, offsetOf_of_append hp, offsetOf_of_append hbefore.symm, htake, htake',
    List.count_append, Nat.add_right_comm]

theorem length_take_offsetOf (src : Source) (p : Position) :
    (src.bytes.take (src.offsetOf p)).length = src.offsetOf p := by
  rw [List.length_take]
  exact Nat.min_eq_left (Nat.sub_le _ _)

/-- **A line has the number of the line feeds before it**, counted from 0. -/
theorem lines_of_isLine (h : IsLine earlier line behind)
    (hsrc : src.bytes = earlier ++ (line ++ behind)) :
    src.lines[earlier.count Byte.lineFeed]? = some line := by
  obtain ⟨later, hlater⟩ := h.splitOnP_append
  rw [lines, hsrc]
  -- a first line has nothing before it
  rcases h.earlier_cases with rfl | ⟨lines, rfl⟩
  · rw [List.nil_append, hlater]
    rfl
  · -- the lines before it are those of the bytes before the last line feed
    have hcount : (lines ++ [Byte.lineFeed]).count Byte.lineFeed =
        (lines.splitOnP (· == Byte.lineFeed)).length := by
      rw [length_splitOnP_lineFeed, List.count_append, List.count_singleton_self]
    rw [List.append_assoc, List.singleton_append, List.splitOnP_append_cons _ _ (by rfl), hcount,
      List.getElem?_append_right (Nat.le_refl _), Nat.sub_self, hlater]
    rfl

/-- **The text of a line**, by its number. -/
theorem lineText_of_isLine (h : IsLine earlier line behind)
    (hsrc : src.bytes = earlier ++ (line ++ behind)) :
    src.lineText (earlier.count Byte.lineFeed + 1) =
      some (Utf8.decode (withoutReturns line)) := by
  rw [lineText, if_neg (Nat.succ_ne_zero _), Nat.add_sub_cancel, lines_of_isLine h hsrc]
  rfl

/-- **The line and column of a place in a line**, with `head` of the line in front of it. -/
theorem locate_of_isLine {head tail : List UInt8} (h : IsLine earlier (head ++ tail) behind)
    (hsrc : src.bytes = (earlier ++ head) ++ (tail ++ behind)) :
    src.locate (earlier ++ head).length =
      ⟨(earlier ++ head).length, earlier.count Byte.lineFeed + 1, head.length + 1⟩ := by
  have hbefore : src.bytes.take (earlier ++ head).length = earlier ++ head := by
    rw [hsrc, List.take_left]
  -- the line feeds before the place are those before its line
  have hhead : Byte.lineFeed ∉ head := fun hb => h.whole (List.mem_append_left _ hb)
  have hcount : (earlier ++ head).count Byte.lineFeed = earlier.count Byte.lineFeed := by
    rw [List.count_append, List.count_eq_zero.2 hhead, Nat.add_zero]
  -- going back from the place, the line feed before the line is the first one
  have hstart : (earlier ++ head).reverse.takeWhile (· != Byte.lineFeed) = head.reverse := by
    have hback : ∀ b ∈ head.reverse, (b != Byte.lineFeed) = true := fun b hb =>
      bne_iff_ne.2 fun heq => hhead (heq ▸ List.mem_reverse.1 hb)
    rw [List.reverse_append, List.takeWhile_append_of_pos hback]
    rcases h.earlier_cases with rfl | ⟨lines, rfl⟩ <;> simp
  rw [locate, hbefore, hcount, hstart, List.length_reverse]

/-- **Every place is in a line**, and that gives it its line and its column. -/
theorem exists_line_locate {before : List UInt8} {p : Position} (hsrc : src.bytes = before ++ p) :
    ∃ earlier head tail behind, before = earlier ++ head ∧ p = tail ++ behind ∧
      IsLine earlier (head ++ tail) behind ∧
      src.locate before.length =
        ⟨before.length, earlier.count Byte.lineFeed + 1, head.length + 1⟩ := by
  obtain ⟨earlier, head, tail, behind, rfl, rfl, hline⟩ := exists_line before p
  exact ⟨earlier, head, tail, behind, rfl, rfl, hline, locate_of_isLine hline hsrc⟩

/-- **The carriage returns at the end of a line** are what is left out. -/
theorem exists_returns (line : List UInt8) : ∃ n,
    line = withoutReturns line ++ List.replicate n Byte.carriageReturn ∧
      (withoutReturns line).getLast? ≠ some Byte.carriageReturn := by
  -- only carriage returns are taken off, however many there are
  have hall : ∀ b ∈ line.reverse.takeWhile (· == Byte.carriageReturn), b = Byte.carriageReturn :=
    fun b hb => by simpa using List.mem_takeWhile_imp hb
  have hreturns := List.eq_replicate_of_mem hall
  refine ⟨(line.reverse.takeWhile (· == Byte.carriageReturn)).length, ?_, ?_⟩
  · have hline := congrArg List.reverse
      (List.takeWhile_append_dropWhile (p := (· == Byte.carriageReturn)) (l := line.reverse))
    rw [List.reverse_append, List.reverse_reverse] at hline
    rw [withoutReturns, ← List.reverse_replicate, ← hreturns, hline]
  · -- what is left would have been taken off with them
    intro hlast
    rw [withoutReturns, List.getLast?_reverse] at hlast
    have hstops := eq_false_of_mem_head?_dropWhile (· == Byte.carriageReturn) _ _ hlast
    rw [beq_self_eq_true] at hstops
    cases hstops

/-- Nothing else is left out. -/
theorem withoutReturns_append {kept : List UInt8}
    (h : kept.getLast? ≠ some Byte.carriageReturn) (n : Nat) :
    withoutReturns (kept ++ List.replicate n Byte.carriageReturn) = kept := by
  have hreturns : ∀ b ∈ List.replicate n Byte.carriageReturn, (b == Byte.carriageReturn) = true :=
    fun b hb => beq_iff_eq.2 (List.eq_of_mem_replicate hb)
  have hstops : kept.reverse.dropWhile (· == Byte.carriageReturn) = kept.reverse := by
    rw [List.getLast?_eq_head?_reverse] at h
    cases hkept : kept.reverse with
    | nil => rfl
    | cons b rest =>
      rw [hkept] at h
      exact List.dropWhile_cons_of_neg (by simpa using h)
  rw [withoutReturns, List.reverse_append, List.reverse_replicate,
    List.dropWhile_append_of_pos hreturns, hstops, List.reverse_reverse]

end Source

end GridScript
