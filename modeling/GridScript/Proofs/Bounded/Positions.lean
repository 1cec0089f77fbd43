import GridScript.Proofs.Bounded.LineTable
import Mathlib.Algebra.Order.SuccPred
import Mathlib.Data.Nat.SuccPred
import Mathlib.Data.Prod.Lex

/-!
# Offsets and positions correspond

A position is a line and a column. Every offset in a source has one, and going on by one byte leads
to a later one: to the next column, or behind a line feed to the beginning of the next line. So
later offsets have later positions, in the order in which a text is read, and no two offsets have
the same.

The lines that positions are in are those between the line feeds, and there is one more of them than
there are line feeds.

* `Location.behind`, `Source.locate_succ` — one byte further on.
* `Source.strictMonoOn_position` — later offsets have later positions.
* `Source.BeginsLine`, `Source.exists_beginsLine` — where the line of an offset begins.
* `Source.Locates`, `Source.locates_locate` — the location of an offset.
* `Source.HasLine`, `Source.exists_hasLine_iff` — the lines.
* `Source.HasText`, `Source.lineText_eq_some_iff` — their texts.
* `Source.positions_correspond` — all of it, for what the table of lines gives.
-/

namespace GridScript

/-! ### One byte further on -/

namespace Location

/-- **The line and the column**, in the order in which a text is read. -/
def position (l : Location) : Nat ×ₗ Nat := toLex (l.line, l.column)

/-- **The location behind one more byte.** -/
def behind (l : Location) (b : UInt8) : Location :=
  if b = Byte.lineFeed then ⟨l.offset + 1, l.line + 1, 1⟩
  else ⟨l.offset + 1, l.line, l.column + 1⟩

/-- Behind one more byte the position is a later one. -/
theorem position_lt_behind (l : Location) (b : UInt8) : l.position < (l.behind b).position := by
  rw [position, position, Prod.Lex.toLex_lt_toLex, behind]
  split_ifs
  · exact .inl (Nat.lt_succ_self _)
  · exact .inr ⟨rfl, Nat.lt_succ_self _⟩

end Location

namespace Source

variable (src : Source)

/-- **One byte further on** in a source. -/
theorem locate_succ {offset : Nat} {b : UInt8} (hb : src.bytes[offset]? = some b) :
    src.locate (offset + 1) = (src.locate offset).behind b := by
  -- one more byte is read, and it goes to the last line or ends it
  have htake : src.bytes.take (offset + 1) = src.bytes.take offset ++ [b] := by
    rw [List.take_add_one, hb, Option.toList_some]
  have hlast := lastLine_concat (src.bytes.take offset) b
  rw [lastLine] at hlast
  rw [Location.behind, locate, htake, hlast, List.count_append, List.length_append]
  split_ifs with h
  · rw [h]
    rfl
  · rw [List.count_singleton, if_neg (by simpa using h)]
    rfl

/-- **Later offsets have later positions.** -/
theorem strictMonoOn_position :
    StrictMonoOn (fun offset => (src.locate offset).position) (Set.Iic src.size) := by
  refine strictMonoOn_of_lt_add_one Set.ordConnected_Iic fun offset _ _ hnext => ?_
  have hb : src.bytes[offset]? = some src.bytes[offset] := List.getElem?_eq_getElem hnext
  simp only [src.locate_succ hb]
  exact Location.position_lt_behind _ _

end Source

/-! ### Lines -/

/-- **Where the line of an offset begins**: at the beginning of the source or behind a line feed,
and there is no line feed from there up to the offset. -/
structure Source.BeginsLine (src : Source) (start offset : Nat) : Prop where
  le : start ≤ offset
  begins : start = 0 ∨ ∃ i, start = i + 1 ∧ src.bytes[i]? = some Byte.lineFeed
  whole : ∀ i, start ≤ i → i < offset → src.bytes[i]? ≠ some Byte.lineFeed

/-- **A line of a source, by its number**, which counts the line feeds before it. -/
def Source.HasLine (src : Source) (n : Nat) (line : List UInt8) : Prop :=
  ∃ earlier behind, src.bytes = earlier ++ (line ++ behind) ∧ IsLine earlier line behind ∧
    n = earlier.count Byte.lineFeed + 1

/-- **The location of an offset**, which is that of the end if it is past the end. Its line counts
the line feeds before it, and its column the bytes from where its line begins. -/
structure Source.Locates (src : Source) (offset : Nat) (l : Location) : Prop where
  offset : l.offset = min offset src.size
  line : l.line = (src.bytes.take l.offset).count Byte.lineFeed + 1
  column : ∃ start, src.BeginsLine start l.offset ∧ l.column = l.offset - start + 1

/-- **The text of a line**, without the carriage returns at its end. -/
def Source.HasText (src : Source) (n : Nat) (text : String) : Prop :=
  ∃ line kept returns, src.HasLine n line ∧
    line = kept ++ List.replicate returns Byte.carriageReturn ∧
    kept.getLast? ≠ some Byte.carriageReturn ∧ text = Utf8.decode kept

/-- Some bytes begin with any number of line feeds up to that of all of them. -/
theorem exists_append_of_le_count {l : List UInt8} {k : Nat} (h : k ≤ l.count Byte.lineFeed) :
    ∃ p q, l = p ++ q ∧ p.count Byte.lineFeed = k := by
  -- the induction is on the bytes, and the line feeds are taken off one by one
  induction l generalizing k with
  | nil => exact ⟨[], [], rfl, (Nat.le_zero.1 h).symm⟩
  | cons b l ih =>
    cases k with
    | zero => exact ⟨[], b :: l, rfl, rfl⟩
    | succ k =>
      by_cases hb : b = Byte.lineFeed
      · rw [hb, List.count_cons_self] at h
        obtain ⟨p, q, rfl, hp⟩ := ih (Nat.le_of_succ_le_succ h)
        exact ⟨b :: p, q, rfl, by rw [hb, List.count_cons_self, hp]⟩
      · rw [List.count_cons_of_ne hb] at h
        obtain ⟨p, q, rfl, hp⟩ := ih h
        exact ⟨b :: p, q, rfl, by rw [List.count_cons_of_ne hb, hp]⟩

namespace Source

variable {src : Source}

/-- An offset past the end has the location of the end. -/
theorem locate_offset_locate (src : Source) (offset : Nat) :
    src.locate (src.locate offset).offset = src.locate offset := by
  have htake : src.bytes.take (src.bytes.take offset).length = src.bytes.take offset := by
    rw [List.length_take, ← List.take_eq_take_min]
  simp only [locate, htake]

/-- A line begins where the bytes before it end. -/
theorem beginsLine_of_isLine {earlier head tail behind : List UInt8}
    (h : IsLine earlier (head ++ tail) behind)
    (hbytes : src.bytes = (earlier ++ head) ++ (tail ++ behind)) :
    src.BeginsLine earlier.length (earlier ++ head).length := by
  refine ⟨(List.prefix_append earlier head).length_le, ?_, fun i hi hlt hfeed => ?_⟩
  · -- what stands before a line is nothing, or ends with a line feed
    rcases h.earlier_cases with rfl | ⟨lines, rfl⟩
    · exact .inl rfl
    · exact .inr ⟨lines.length, by simp, by simp [hbytes]⟩
  · -- no byte of the line up to the offset is a line feed
    rw [hbytes, List.getElem?_append_left hlt, List.getElem?_append_right hi] at hfeed
    exact h.whole (List.mem_append_left _ (List.mem_of_getElem? hfeed))

/-- **The column of an offset** counts the bytes from where its line begins. -/
theorem exists_beginsLine (src : Source) (offset : Nat) :
    ∃ start, src.BeginsLine start (src.locate offset).offset ∧
      (src.locate offset).column = (src.locate offset).offset - start + 1 := by
  have hsrc : src.bytes = src.bytes.take offset ++ src.bytes.drop offset :=
    (List.take_append_drop _ _).symm
  obtain ⟨earlier, head, tail, behind, hbefore, hbehind, hline, hlocate⟩ := exists_line_locate hsrc
  have hoffset : (src.bytes.take offset).length = (src.locate offset).offset := rfl
  rw [hbefore, hbehind] at hsrc
  -- the location counts from the line that the offset is on
  rw [hoffset, locate_offset_locate] at hlocate
  refine ⟨earlier.length, ?_, ?_⟩
  · rw [← hoffset, hbefore]
    exact beginsLine_of_isLine hline hsrc
  · rw [← hoffset, hlocate, hbefore, List.length_append, Nat.add_sub_cancel_left]

/-- **Every offset has its location.** -/
theorem locates_locate (src : Source) (offset : Nat) : src.Locates offset (src.locate offset) where
  offset := List.length_take
  line := by
    have hline := congrArg Location.line (src.locate_offset_locate offset)
    exact hline.symm
  column := src.exists_beginsLine offset

/-- **There are the lines from the first one on**, one more of them than there are line feeds. -/
theorem exists_hasLine_iff {n : Nat} :
    (∃ line, src.HasLine n line) ↔ 1 ≤ n ∧ n ≤ src.bytes.count Byte.lineFeed + 1 := by
  constructor
  · rintro ⟨line, earlier, behind, hbytes, -, rfl⟩
    rw [hbytes, List.count_append]
    omega
  · rintro ⟨hfirst, hlast⟩
    -- cut behind the line feed before it, the source shows the line
    obtain ⟨p, q, hbytes, hp⟩ := exists_append_of_le_count (Nat.sub_le_of_le_add hlast)
    obtain ⟨earlier, head, tail, behind, rfl, rfl, hline⟩ := exists_line p q
    have hhead : head.count Byte.lineFeed = 0 :=
      List.count_eq_zero.2 fun hb => hline.whole (List.mem_append_left _ hb)
    refine ⟨head ++ tail, earlier, behind, by simp [hbytes], hline, ?_⟩
    rw [List.count_append, hhead] at hp
    omega

/-- **The texts of lines** are those of the lines that there are. -/
theorem lineText_eq_some_iff {n : Nat} {text : String} :
    src.lineText n = some text ↔ src.HasText n text := by
  -- a line that is there is the one that the text is taken from
  have hshown {line : List UInt8} (h : src.HasLine n line) :
      src.lineText n = some (Utf8.decode (withoutReturns line)) := by
    obtain ⟨earlier, behind, hbytes, hline, rfl⟩ := h
    exact lineText_of_isLine hline hbytes
  constructor
  · intro htext
    -- a text is there for no number but those of lines
    have hn : 1 ≤ n ∧ n ≤ src.bytes.count Byte.lineFeed + 1 := by
      rw [lineText] at htext
      split_ifs at htext with hzero
      obtain ⟨line, hline, -⟩ := Option.map_eq_some_iff.1 htext
      obtain ⟨hlt, -⟩ := List.getElem?_eq_some_iff.1 hline
      rw [lines, length_splitOnP_lineFeed] at hlt
      omega
    obtain ⟨line, hline⟩ := exists_hasLine_iff.2 hn
    obtain ⟨returns, hreturns, hkept⟩ := exists_returns line
    rw [hshown hline] at htext
    exact ⟨line, _, returns, hline, hreturns, hkept, (Option.some.inj htext).symm⟩
  · rintro ⟨line, kept, returns, hline, rfl, hkept, rfl⟩
    rw [hshown hline, withoutReturns_append hkept]

/-- A line has a text. -/
theorem exists_hasText_iff {n : Nat} :
    (∃ text, src.HasText n text) ↔ ∃ line, src.HasLine n line := by
  constructor
  · rintro ⟨text, line, kept, returns, hline, -⟩
    exact ⟨line, hline⟩
  · rintro ⟨line, hline⟩
    obtain ⟨returns, hreturns, hkept⟩ := exists_returns line
    exact ⟨_, line, _, returns, hline, hreturns, hkept, rfl⟩

/-- **Offsets and positions correspond.** In a source whose offsets are numbers of 32 bits:

* the table of the offsets at which lines begin starts with 0 and is sorted, so that every search in
  it comes to the same;
* what is computed with it for an offset is the location of that offset;
* later offsets of the source have later positions, so no two have the same;
* there are texts for exactly the lines from 1 up to one more than there are line feeds, and the
  text of each is that between the line feeds, without the carriage returns at its end. -/
theorem positions_correspond (hsrc : src.size ≤ UInt32.size - 2) (broken : Abort) :
    (src.lineStarts.head? = some 0 ∧ src.lineStarts.Pairwise (· < ·) ∧ ∀ offset answer,
      Finds src.lineStarts offset answer ↔ answer = searchSorted src.lineStarts offset) ∧
    (∀ offset, ∃ l, Bounded.locate broken src offset = .ok l ∧ l = src.locate offset ∧
      src.Locates offset l) ∧
    StrictMonoOn (fun offset => (src.locate offset).position) (Set.Iic src.size) ∧
    Set.InjOn (fun offset => (src.locate offset).position) (Set.Iic src.size) ∧
    (∀ n, Bounded.lineText broken src n = .ok (src.lineText n) ∧
      ((∃ text, src.lineText n = some text) ↔
        1 ≤ n ∧ n ≤ src.bytes.count Byte.lineFeed + 1) ∧
      ∀ text, src.lineText n = some text ↔ src.HasText n text) := by
  refine ⟨⟨rfl, src.pairwise_lineStarts, fun offset answer => finds_iff src.pairwise_lineStarts⟩,
    fun offset => ⟨_, Bounded.locate_eq hsrc offset, rfl, src.locates_locate offset⟩,
    src.strictMonoOn_position, src.strictMonoOn_position.injOn, fun n => ⟨?_, ?_, ?_⟩⟩
  · exact Bounded.lineText_eq hsrc n
  · -- there is a text for a number exactly if it is that of a line
    simp only [lineText_eq_some_iff, exists_hasText_iff, exists_hasLine_iff]
  · exact fun text => lineText_eq_some_iff

end Source

/-- Four lines, of which the second and the last are empty, with carriage returns at the ends of the
others. -/
def Source.ragged : Source where
  name := "ragged.gs"
  bytes := Utf8.encode "ab\r\n\n c\r\r\n"

/-- A line feed is the last byte of its line, and the end of the source is in a line of its own. -/
theorem Source.positions_correspond_ragged :
    Source.ragged.size ≤ UInt32.size - 2 ∧
      Bounded.locate .unanswered .ragged 3 = .ok ⟨3, 1, 4⟩ ∧
      Bounded.locate .unanswered .ragged 4 = .ok ⟨4, 2, 1⟩ ∧
      Bounded.locate .unanswered .ragged 11 = .ok ⟨10, 4, 1⟩ ∧
      Source.ragged.HasText 3 " c" ∧ ¬ ∃ text, Source.ragged.lineText 5 = some text := by
  have hsrc : Source.ragged.size ≤ UInt32.size - 2 := by decide +kernel
  obtain ⟨-, hlocate, -, -, hlines⟩ := positions_correspond hsrc .unanswered
  have hat {offset : Nat} {l : Location} (h : Source.ragged.locate offset = l) :
      Bounded.locate .unanswered .ragged offset = .ok l := by
    obtain ⟨l', hl', rfl, -⟩ := hlocate offset
    rw [hl', h]
  -- two facts about this source are computed, and the rest is read off the theorem
  have hthird : Source.ragged.lineText 3 = some " c" := by decide +kernel
  have hfeeds : Source.ragged.bytes.count Byte.lineFeed = 3 := by decide +kernel
  refine ⟨hsrc, hat (by decide +kernel), hat (by decide +kernel), hat (by decide +kernel),
    ((hlines 3).2.2 _).1 hthird, fun hfifth => ?_⟩
  have hlast := ((hlines 5).2.1.1 hfifth).2
  rw [hfeeds] at hlast
  exact absurd hlast (by decide)

end GridScript
