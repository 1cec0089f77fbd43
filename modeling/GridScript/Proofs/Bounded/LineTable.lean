import GridScript.Proofs.Bounded.Operations
import GridScript.Proofs.Text.Location
import Mathlib.Data.List.Induction

/-!
# The table of lines

To show where something stands in a script, one needs the line and the column of an offset, and the
text of a line. Both are found in a table of the offsets at which lines begin. It is sorted: the
first line begins at 0, and every other one behind a line feed. So an offset is in the last line
that begins no later, and a binary search in the table finds it.

Everything that is computed on the way stays within the numbers and the tables that a machine has,
if no offset, line or column is above the numbers of 32 bits, and what comes out are the line, the
column and the text that the source has.

* `Source.lineStarts` — the table; `Source.lineStarts_split` cuts it at an offset.
* `searchSorted` — a binary search; `Bounded.lineIndex` the line of an offset by it.
* `finds_iff` — every search of a sorted table comes to the same.
* `Bounded.locate_eq` — the line and the column.
* `Bounded.lineText_eq` — the text of a line.
-/

namespace GridScript

/-! ### Where lines begin -/

/-- **Where lines begin** behind the line feeds of some bytes, the first of which stands at an
offset. -/
def startsAfter : (offset : Nat) → List UInt8 → List Nat
  | _, [] => []
  | n, b :: rest =>
    if b = Byte.lineFeed then (n + 1) :: startsAfter (n + 1) rest else startsAfter (n + 1) rest

/-- **The offsets at which the lines of a source begin.** -/
def Source.lineStarts (src : Source) : List Nat := 0 :: startsAfter 0 src.bytes

theorem startsAfter_append (n : Nat) (l l' : List UInt8) :
    startsAfter n (l ++ l') = startsAfter n l ++ startsAfter (n + l.length) l' := by
  induction l generalizing n with
  | nil => rfl
  | cons b l ih =>
    have hlength : n + (b :: l).length = n + 1 + l.length := by
      rw [List.length_cons]
      omega
    rw [List.cons_append, startsAfter, startsAfter, ih, hlength]
    split <;> rfl

/-- There is one for each line feed. -/
theorem length_startsAfter (n : Nat) (l : List UInt8) :
    (startsAfter n l).length = l.count Byte.lineFeed := by
  induction l generalizing n with
  | nil => rfl
  | cons b l ih =>
    rw [startsAfter, List.count_cons]
    by_cases hb : b = Byte.lineFeed
    · rw [if_pos hb, List.length_cons, ih, if_pos (beq_iff_eq.2 hb)]
    · rw [if_neg hb, ih, if_neg (by simpa using hb), Nat.add_zero]

/-- They stand behind the first byte and no further than behind the last one. -/
theorem bounds_of_mem_startsAfter {n s : Nat} {l : List UInt8} (h : s ∈ startsAfter n l) :
    n < s ∧ s ≤ n + l.length := by
  -- the induction is on the bytes, with the offset running along
  induction l generalizing n with
  | nil => cases h
  | cons b l ih =>
    have hlater (hs : s ∈ startsAfter (n + 1) l) : n < s ∧ s ≤ n + (b :: l).length := by
      obtain ⟨hn, hl⟩ := ih hs
      rw [List.length_cons]
      omega
    rw [startsAfter] at h
    split at h
    · rcases List.mem_cons.1 h with rfl | hs
      · rw [List.length_cons]
        omega
      · exact hlater hs
    · exact hlater h

theorem pairwise_startsAfter (n : Nat) (l : List UInt8) : (startsAfter n l).Pairwise (· < ·) := by
  induction l generalizing n with
  | nil => exact .nil
  | cons b l ih =>
    rw [startsAfter]
    split
    · exact (ih (n + 1)).cons fun s hs => (bounds_of_mem_startsAfter hs).1
    · exact ih (n + 1)

/-- **The table is sorted.** -/
theorem Source.pairwise_lineStarts (src : Source) : src.lineStarts.Pairwise (· < ·) :=
  (pairwise_startsAfter 0 src.bytes).cons fun _ hs => (bounds_of_mem_startsAfter hs).1

/-- **The bytes of the last line** that some bytes begin. -/
def lastLine (l : List UInt8) : List UInt8 := l.reverse.takeWhile (· != Byte.lineFeed)

theorem length_lastLine_le (l : List UInt8) : (lastLine l).length ≤ l.length := by
  have h := (List.takeWhile_sublist (l := l.reverse) (· != Byte.lineFeed)).length_le
  rw [List.length_reverse] at h
  exact h

/-- One byte more ends the last line, or is in it. -/
theorem lastLine_concat (l : List UInt8) (b : UInt8) :
    lastLine (l ++ [b]) = if b = Byte.lineFeed then [] else b :: lastLine l := by
  by_cases hb : b = Byte.lineFeed <;> simp [lastLine, hb]

/-- **The last line begins behind all the others.** The induction is on the last byte. -/
theorem exists_lines_before (l : List UInt8) :
    ∃ earlier, 0 :: startsAfter 0 l = earlier ++ [l.length - (lastLine l).length] ∧
      ∀ s ∈ earlier, s < l.length - (lastLine l).length := by
  -- the induction is from the end, since the last byte decides where the last line begins
  induction l using List.reverseRecOn with
  | nil => exact ⟨[], rfl, fun s hs => by cases hs⟩
  | append_singleton l b ih =>
    have hstarts : startsAfter 0 (l ++ [b]) =
        startsAfter 0 l ++ if b = Byte.lineFeed then [l.length + 1] else [] := by
      rw [startsAfter_append, startsAfter, startsAfter, Nat.zero_add]
    by_cases hb : b = Byte.lineFeed
    · -- the last byte ends a line, and an empty one begins behind it
      have hlast : lastLine (l ++ [b]) = [] := by rw [lastLine_concat, if_pos hb]
      refine ⟨0 :: startsAfter 0 l, ?_, fun s hs => ?_⟩
      · rw [hstarts, if_pos hb, hlast]
        simp
      · -- the start of every line before is below the end of what is there
        have hle : s ≤ l.length := by
          rcases List.mem_cons.1 hs with rfl | hs
          · exact Nat.zero_le _
          · simpa using (bounds_of_mem_startsAfter hs).2
        rw [hlast]
        simpa using Nat.lt_succ_of_le hle
    · -- the last line has one byte more, and begins where it began
      have hlast : lastLine (l ++ [b]) = b :: lastLine l := by rw [lastLine_concat, if_neg hb]
      have hstart : (l ++ [b]).length - (lastLine (l ++ [b])).length =
          l.length - (lastLine l).length := by
        rw [hlast]
        simp
      obtain ⟨earlier, heq, hearlier⟩ := ih
      refine ⟨earlier, ?_, ?_⟩
      · rw [hstarts, if_neg hb, List.append_nil, heq, hstart]
      · rw [hstart]
        exact hearlier

/-- **The table, cut at an offset**: the lines that begin before the one of the offset, this line,
and those that begin behind the offset. -/
theorem Source.lineStarts_split (src : Source) (offset : Nat) :
    let before := src.bytes.take offset
    ∃ earlier later,
      src.lineStarts = earlier ++ (before.length - (lastLine before).length) :: later ∧
        earlier.length = before.count Byte.lineFeed ∧
        (∀ s ∈ earlier, s < before.length - (lastLine before).length) ∧
        ∀ s ∈ later, before.length < s := by
  intro before
  obtain ⟨earlier, heq, hearlier⟩ := exists_lines_before before
  -- each line feed begins another line, and there is the first one besides
  have hlength : earlier.length + 1 = before.count Byte.lineFeed + 1 := by
    have h := congrArg List.length heq
    rw [List.length_cons, length_startsAfter, List.length_append, List.length_singleton] at h
    exact h.symm
  have hbytes : src.bytes = before ++ src.bytes.drop offset := (List.take_append_drop _ _).symm
  -- the table of the whole source is that of the bytes before, and what follows
  have htable : src.lineStarts =
      earlier ++ [before.length - (lastLine before).length] ++
        startsAfter before.length (src.bytes.drop offset) := by
    rw [Source.lineStarts, hbytes, startsAfter_append, Nat.zero_add, ← List.cons_append, heq]
    simp [before]
  refine ⟨earlier, startsAfter before.length (src.bytes.drop offset), ?_, by omega, hearlier, ?_⟩
  · rw [htable, List.append_assoc, List.singleton_append]
  · exact fun s hs => (bounds_of_mem_startsAfter hs).1

/-! ### The text of a line -/

/-- **Where a line ends** that is before the next one of a table: before the line feed, or with the
source. -/
def lineStop (starts : List Nat) (size next : Nat) : Nat :=
  match starts[next]? with
  | some start => start - 1
  | none => size

/-- Bytes have as many lines as there are places where lines begin. -/
theorem length_starts (n : Nat) (l : List UInt8) :
    (n :: startsAfter n l).length = (l.splitOnP (· == Byte.lineFeed)).length := by
  rw [List.length_cons, length_startsAfter, length_splitOnP_lineFeed]

/-- **Each line stands between the places where it begins and where it ends.** The first byte of the
bytes stands at `n`. -/
theorem exists_line_at (n : Nat) {l : List UInt8} {k : Nat} {line : List UInt8}
    (h : (l.splitOnP (· == Byte.lineFeed))[k]? = some line) :
    ∃ before behind, l = before ++ line ++ behind ∧
      (n :: startsAfter n l)[k]? = some (n + before.length) ∧
      lineStop (n :: startsAfter n l) (n + l.length) (k + 1) =
        n + (before.length + line.length) := by
  -- the induction is on the bytes; `k` is the number of the line among those that are left
  induction l generalizing n k line with
  | nil =>
    cases k with
    | zero =>
      cases h
      exact ⟨[], [], rfl, rfl, rfl⟩
    | succ k => cases h
  | cons b l ih =>
    have hlength : n + (b :: l).length = n + 1 + l.length := by
      rw [List.length_cons]
      omega
    rw [List.splitOnP_cons_eq_if_modifyHead] at h
    rw [startsAfter, hlength]
    -- a line feed ends an empty first line; the other lines are those of the rest
    by_cases hb : b = Byte.lineFeed
    · rw [if_pos (beq_iff_eq.2 hb)] at h
      rw [if_pos hb]
      cases k with
      | zero =>
        cases h
        exact ⟨[], b :: l, rfl, rfl, rfl⟩
      | succ k =>
        obtain ⟨before, behind, hl, hstart, hstop⟩ := ih (n + 1) h
        have hplace : n + 1 + before.length = n + (b :: before).length := by
          rw [List.length_cons]
          omega
        refine ⟨b :: before, behind, by rw [hl]; rfl, ?_, ?_⟩
        · rw [List.getElem?_cons_succ, hstart, hplace]
        · exact hstop.trans (by rw [← Nat.add_assoc, hplace, Nat.add_assoc])
    · rw [if_neg (by simpa using hb)] at h
      rw [if_neg hb]
      -- only the first line has one byte more, and it begins one byte earlier
      obtain ⟨first, later, hlines⟩ := List.exists_cons_of_ne_nil
        (List.splitOnP_ne_nil (· == Byte.lineFeed) l)
      rw [hlines, List.modifyHead_cons] at h
      cases k with
      | zero =>
        cases h
        obtain ⟨before, behind, hl, hstart, hstop⟩ := ih (n + 1) (k := 0) (by rw [hlines]; rfl)
        -- nothing stands before the first line
        have hnil : before = [] := by
          rw [List.getElem?_cons_zero, Option.some_inj] at hstart
          exact List.eq_nil_of_length_eq_zero (by omega)
        subst hnil
        refine ⟨[], behind, by rw [hl]; rfl, rfl, hstop.trans ?_⟩
        simp only [List.length_nil, List.length_cons]
        omega
      | succ k =>
        obtain ⟨before, behind, hl, hstart, hstop⟩ := ih (n + 1) (k := k + 1) (by
          rw [hlines]
          exact h)
        -- a line further on is moved by the one byte
        have hplace : n + 1 + before.length = n + (b :: before).length := by
          rw [List.length_cons]
          omega
        refine ⟨b :: before, behind, by rw [hl]; rfl, ?_, ?_⟩
        · rw [← hplace]
          exact hstart
        · exact hstop.trans (by rw [← Nat.add_assoc, hplace, Nat.add_assoc])

/-! ### The line of an offset -/

/-- **A binary search** in a sorted table: where a number stands in it, or else where it would have
to stand. -/
def searchSorted (table : List Nat) (x : Nat) : Except Nat Nat :=
  let below := table.countP (· < x)
  if table[below]? = some x then .ok below else .error below

/-- **What may be answered to a search** for a number: an index at which it stands, or else that of
the place where it would have to stand. -/
def Finds (table : List Nat) (x : Nat) : Except Nat Nat → Prop
  | .ok i => table[i]? = some x
  | .error i => i ≤ table.length ∧ (∀ s ∈ table.take i, s < x) ∧ ∀ s ∈ table.drop i, x < s

/-- The entries below a number, if they come first. -/
theorem countP_below {earlier later : List Nat} {x : Nat} (hearlier : ∀ s ∈ earlier, s < x)
    (hlater : ∀ s ∈ later, x ≤ s) : (earlier ++ later).countP (· < x) = earlier.length := by
  have hbelow : earlier.countP (· < x) = earlier.length :=
    List.countP_eq_length.2 fun s hs => decide_eq_true (hearlier s hs)
  have habove : later.countP (· < x) = 0 :=
    List.countP_eq_zero.2 fun s hs h => Nat.not_lt.2 (hlater s hs) (of_decide_eq_true h)
  rw [List.countP_append, hbelow, habove, Nat.add_zero]

/-- The search comes to where the entries below the number end. -/
theorem searchSorted_of_below {earlier later : List Nat} {x : Nat} (hearlier : ∀ s ∈ earlier, s < x)
    (hlater : ∀ s ∈ later, x ≤ s) :
    searchSorted (earlier ++ later) x =
      if later.head? = some x then .ok earlier.length else .error earlier.length := by
  rw [searchSorted, countP_below hearlier hlater, List.getElem?_append_right (Nat.le_refl _),
    Nat.sub_self, List.head?_eq_getElem?]

theorem head?_ne_some_of_lt {later : List Nat} {x : Nat} (h : ∀ s ∈ later, x < s) :
    later.head? ≠ some x :=
  fun hx => Nat.lt_irrefl x (h x (List.mem_of_head? hx))

/-- The search comes to the last entry that is no larger, or right behind it. -/
theorem searchSorted_append {earlier later : List Nat} {start x : Nat}
    (hearlier : ∀ s ∈ earlier, s < start) (hstart : start ≤ x) (hlater : ∀ s ∈ later, x < s) :
    searchSorted (earlier ++ start :: later) x =
      if start = x then .ok earlier.length else .error (earlier.length + 1) := by
  -- the entries before the line are below the offset, since its start is not above it
  have hbelow : ∀ s ∈ earlier, s < x := fun s hs => Nat.lt_of_lt_of_le (hearlier s hs) hstart
  by_cases h : start = x
  · have habove : ∀ s ∈ start :: later, x ≤ s :=
      List.forall_mem_cons.2 ⟨Nat.le_of_eq h.symm, fun s hs => Nat.le_of_lt (hlater s hs)⟩
    rw [searchSorted_of_below hbelow habove, List.head?_cons, if_pos (congrArg some h), if_pos h]
  · have hbelow' : ∀ s ∈ earlier ++ [start], s < x := by
      intro s hs
      rcases List.mem_append.1 hs with hs | hs
      · exact hbelow s hs
      · exact List.mem_singleton.1 hs ▸ Nat.lt_of_le_of_ne hstart h
    rw [List.append_cons, searchSorted_of_below hbelow' fun s hs => Nat.le_of_lt (hlater s hs),
      if_neg (head?_ne_some_of_lt hlater), if_neg h, List.length_append, List.length_singleton]

/-- The entries of a sorted table that are below a number come first. -/
theorem exists_below {table : List Nat} (h : table.Pairwise (· < ·)) (x : Nat) :
    ∃ earlier later, table = earlier ++ later ∧ (∀ s ∈ earlier, s < x) ∧ ∀ s ∈ later, x ≤ s := by
  -- the induction is on the table; once an entry is not below, none behind it is
  induction table with
  | nil => exact ⟨[], [], rfl, fun s hs => (nomatch hs), fun s hs => nomatch hs⟩
  | cons a table ih =>
    obtain ⟨ha, htable⟩ := List.pairwise_cons.1 h
    by_cases hax : a < x
    · obtain ⟨earlier, later, rfl, hearlier, hlater⟩ := ih htable
      exact ⟨a :: earlier, later, rfl, List.forall_mem_cons.2 ⟨hax, hearlier⟩, hlater⟩
    · have hxa := Nat.not_lt.1 hax
      exact ⟨[], a :: table, rfl, fun s hs => (nomatch hs),
        List.forall_mem_cons.2 ⟨hxa, fun s hs => Nat.le_trans hxa (Nat.le_of_lt (ha s hs))⟩⟩

/-- **In a sorted table there is only one answer**, and the search gives it. -/
theorem finds_iff {table : List Nat} (h : table.Pairwise (· < ·)) {x : Nat}
    {answer : Except Nat Nat} : Finds table x answer ↔ answer = searchSorted table x := by
  constructor
  · intro hfinds
    cases answer with
    | ok i =>
      obtain ⟨hi, rfl⟩ := List.getElem?_eq_some_iff.1 hfinds
      -- the entries before the number are below it, and those behind it are not
      have hsplit : table = table.take i ++ table[i] :: table.drop (i + 1) := by
        rw [← List.drop_eq_getElem_cons hi, List.take_append_drop]
      obtain ⟨-, hbehind, hbefore⟩ := List.pairwise_append.1 (hsplit ▸ h)
      have hlater : ∀ s ∈ table[i] :: table.drop (i + 1), table[i] ≤ s :=
        List.forall_mem_cons.2 ⟨Nat.le_refl _, fun s hs =>
          Nat.le_of_lt (List.rel_of_pairwise_cons hbehind hs)⟩
      have hsearch := searchSorted_of_below
        (fun s hs => hbefore s hs _ List.mem_cons_self) hlater
      rw [← hsplit, List.head?_cons, if_pos rfl, List.length_take_of_le (Nat.le_of_lt hi)]
        at hsearch
      exact hsearch.symm
    | error i =>
      -- where nothing is found, the table is divided between what is below and what is above
      obtain ⟨hi, hbelow, habove⟩ := hfinds
      have hsearch := searchSorted_of_below hbelow fun s hs => Nat.le_of_lt (habove s hs)
      rw [List.take_append_drop, if_neg (head?_ne_some_of_lt habove), List.length_take_of_le hi]
        at hsearch
      exact hsearch.symm
  · rintro rfl
    obtain ⟨earlier, later, rfl, hbelow, hlater⟩ := exists_below h x
    -- the search stops at the number itself or in front of what is above it
    rw [searchSorted_of_below hbelow hlater]
    split_ifs with hhead
    · rw [Finds, List.getElem?_append_right (Nat.le_refl _), Nat.sub_self,
        ← List.head?_eq_getElem?, hhead]
    · rw [Finds, List.take_left, List.drop_left, List.length_append]
      refine ⟨Nat.le_add_right _ _, hbelow, fun s hs => Nat.lt_of_le_of_ne (hlater s hs) ?_⟩
      rintro rfl
      -- it could only be the first of those that are not below it
      obtain ⟨-, hsorted, -⟩ := List.pairwise_append.1 h
      cases later with
      | nil => cases hs
      | cons a later =>
        rcases List.mem_cons.1 hs with rfl | hs
        · exact hhead rfl
        · exact Nat.not_lt.2 (hlater a List.mem_cons_self) (List.rel_of_pairwise_cons hsorted hs)

namespace Bounded

variable (broken : Abort) (src : Source)

/-- **The line of an offset**, counted from 0. An offset that no line begins at is in the one before
the place where it would have to stand in the table. -/
def lineIndex (offset : Nat) : Except Abort Nat :=
  match searchSorted src.lineStarts offset with
  | .ok i => .ok i
  | .error i => sub broken i 1

/-- **The line and column of an offset.** They are numbers of 32 bits, and an offset past the end is
taken for the end. -/
def locate (offset : Nat) : Except Abort Location := do
  let offset := min offset src.size
  let index ← lineIndex broken src offset
  let start ← item broken src.lineStarts index
  let column ← add broken USize.size (← sub broken offset start) 1
  let line ← add broken UInt32.size (index % UInt32.size) 1
  return ⟨offset, line, column % UInt32.size⟩

/-- **The text of a line**, counted from 1. It ends before the line feed behind which the next line
begins, or where the source ends. -/
def lineText (line : Nat) : Except Abort (Option String) :=
  if line = 0 then .ok none
  else
    match src.lineStarts[line - 1]? with
    | none => .ok none
    | some start => do
      let next ← add broken USize.size (line - 1) 1
      let text ← slice broken src.bytes start (lineStop src.lineStarts src.size next)
      return some (Utf8.decode (Source.withoutReturns text))

variable {broken} {src}

/-- **The search finds the line**, which is as many lines behind the first one as there are line
feeds before the offset. -/
theorem lineIndex_eq (broken : Abort) (src : Source) (offset : Nat) :
    let before := src.bytes.take offset
    lineIndex broken src before.length = .ok (before.count Byte.lineFeed) ∧
      item broken src.lineStarts (before.count Byte.lineFeed) =
        .ok (before.length - (lastLine before).length) := by
  intro before
  obtain ⟨earlier, later, htable, hlength, hearlier, hlater⟩ := src.lineStarts_split offset
  have hsearch := searchSorted_append hearlier (Nat.sub_le _ _) hlater
  rw [← htable] at hsearch
  constructor
  · rw [lineIndex, hsearch]
    -- either the line begins at the offset, or the search ends one entry further on
    split_ifs with hbegins
    · exact congrArg _ hlength
    · -- the line begins before the offset, and the search ends behind it
      change sub broken (earlier.length + 1) 1 = _
      rw [sub_of_le (Nat.le_add_left 1 _), Nat.add_sub_cancel, hlength]
  · refine item_of_getElem? ?_
    rw [htable, ← hlength, List.getElem?_append_right (Nat.le_refl _), Nat.sub_self,
      List.getElem?_cons_zero]

/-- **Line and column are found.** All numbers on the way fit, and so do line and column. -/
theorem locate_eq (hsrc : src.size ≤ UInt32.size - 2) (offset : Nat) :
    locate broken src offset = .ok (src.locate offset) := by
  obtain ⟨hword, husize⟩ := word_sizes
  -- an offset past the end is taken for the end
  have hmin : min offset src.size = (src.bytes.take offset).length :=
    (List.length_take ..).symm
  have hbefore : (src.bytes.take offset).length ≤ src.size := hmin ▸ Nat.min_le_right _ _
  have hlast := length_lastLine_le (src.bytes.take offset)
  have hfeeds := List.count_le_length (a := Byte.lineFeed) (l := src.bytes.take offset)
  obtain ⟨hindex, hstart⟩ := lineIndex_eq broken src offset
  -- what is left of the offset behind the start of its line is the last line before it
  have hcolumn : sub broken (src.bytes.take offset).length
      ((src.bytes.take offset).length - (lastLine (src.bytes.take offset)).length) =
        .ok (lastLine (src.bytes.take offset)).length := by
    rw [sub_of_le (Nat.sub_le _ _), Nat.sub_sub_self hlast]
  simp only [locate, hmin, hindex, hstart, hcolumn, bind, Except.bind]
  -- none of the three numbers is more than the source is long, and one
  rw [add_of_lt (by omega), Nat.mod_eq_of_lt (by omega), add_of_lt (by omega)]
  simp only [pure, Except.pure]
  rw [Nat.mod_eq_of_lt (by omega)]
  rfl

/-- **The text of each line is found**, and of no others. -/
theorem lineText_eq (hsrc : src.size ≤ UInt32.size - 2) (line : Nat) :
    lineText broken src line = .ok (src.lineText line) := by
  rw [lineText, Source.lineText]
  by_cases hline : line = 0
  · rw [if_pos hline, if_pos hline]
  rw [if_neg hline, if_neg hline]
  -- a line that is not there has no start in the table either
  cases htext : src.lines[line - 1]? with
  | none =>
    have hnone : src.lineStarts[line - 1]? = none := by
      rw [List.getElem?_eq_none_iff] at htext ⊢
      rw [Source.lineStarts, length_starts]
      exact htext
    rw [hnone]
    rfl
  | some text =>
    -- the slice goes from the start of the line to that of the next, without the line feed
    obtain ⟨before, behind, hbytes, hstart, hstop⟩ := exists_line_at 0 htext
    rw [Nat.zero_add] at hstart
    rw [Nat.zero_add, Nat.zero_add] at hstop
    have hnext : line - 1 + 1 < USize.size := by
      -- there are no more lines than bytes, and one
      obtain ⟨hlt, -⟩ := List.getElem?_eq_some_iff.1 hstart
      have hfeeds := List.count_le_length (a := Byte.lineFeed) (l := src.bytes)
      obtain ⟨hword, husize⟩ := word_sizes
      rw [List.length_cons, length_startsAfter] at hlt
      rw [Source.size] at hsrc
      omega
    have hslice := slice_append broken before text behind
    rw [← hbytes, ← hstop] at hslice
    simp only [Source.lineStarts, hstart, add_of_lt hnext, bind, Except.bind]
    rw [Source.size, hslice]
    rfl

end Bounded

end GridScript
