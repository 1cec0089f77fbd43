import GridScript.Proofs.Bounded.Session
import GridScript.Proofs.Script.Agreement
import GridScript.Proofs.Script.Places
import GridScript.Proofs.Text.Location

/-!
# Where messages point

A failure knows the place it is about, and that is a place of the source. Its message points at the
next byte from there on that is no blank, with the line and the column of that byte, and shows its
line. So every message about a script is located in the same way, wherever it comes from.

For a message of the grammar the place is the one from which the token that it names has been read.
In front of a token there may be comments, and a comment is no blank. So the message points at the
token if none stands in front of it, and otherwise at the first comment.

* `Source.Pinpoints` — a location and the text of a line that belong together.
* `Source.pinpoints_annotate` — what a message about a place of the source says.
* `Program.failed_located` — every failure of a run.
* `Position.Parts`, `Source.Shows.exists_parts` — what stands at a place that shows a token.
* `Program.grammar_points` — where a message of the grammar points.
-/

namespace GridScript

open Spelling

/-! ### Locations -/

/-- **A location and the text of its line**, in a source. It is the end of the source or a byte that
is no blank. Its line counts the line feeds before it, its column the bytes before it in its line,
and the text is that of the line without the carriage returns at its end. -/
structure Source.Pinpoints (src : Source) (l : Location) (text : String) : Prop where
  inside : l.offset ≤ src.size
  settled : ∀ b ∈ src.bytes[l.offset]?, Byte.isBlank b = false
  line : l.line = (src.bytes.take l.offset).count Byte.lineFeed + 1
  /-- The line, with `head` of it before the location. -/
  column : ∃ earlier head tail behind : List UInt8,
    src.bytes = earlier ++ (head ++ tail) ++ behind ∧ IsLine earlier (head ++ tail) behind ∧
      l.offset = earlier.length + head.length ∧ l.column = head.length + 1 ∧
      ∃ kept n, head ++ tail = kept ++ List.replicate n Byte.carriageReturn ∧
        kept.getLast? ≠ some Byte.carriageReturn ∧ text = Utf8.decode kept

namespace Source

variable {src : Source} {p : Position}

/-- **The location of a place** at which no blank stands, and the text of its line. -/
theorem pinpoints_locate (hp : p <:+ src.bytes) (hsettled : ∀ b ∈ p.head?, Byte.isBlank b = false) :
    ∃ text, src.lineText (src.locate (src.offsetOf p)).line = some text ∧
      src.Pinpoints (src.locate (src.offsetOf p)) text := by
  have hlength := src.length_take_offsetOf p
  have hsrc := take_offsetOf hp
  -- the offset divides the source in what is before its line, the line, and what is behind it
  obtain ⟨earlier, head, tail, behind, hbefore, rfl, hline, hlocate⟩ := exists_line_locate hsrc
  rw [hbefore] at hlength hsrc hlocate
  have hbytes : src.bytes = earlier ++ ((head ++ tail) ++ behind) := by
    rw [hsrc]
    simp only [List.append_assoc]
  have htext := lineText_of_isLine hline hbytes
  obtain ⟨n, hreturns, hkept⟩ := exists_returns (head ++ tail)
  rw [← hlength, hlocate]
  have htake : src.bytes.take (earlier ++ head).length = earlier ++ head := by
    rw [hsrc, List.take_left]
  -- the line has no line feed in it, so all of them stand before it
  have hhead : head.count Byte.lineFeed = 0 :=
    List.count_eq_zero.2 fun hb => hline.whole (List.mem_append_left _ hb)
  refine ⟨_, htext, ?_, ?_, ?_, earlier, head, tail, behind, ?_, hline, ?_, rfl, _, n, hreturns,
    hkept, rfl⟩
  · have hlead : earlier ++ head <+: src.bytes := hsrc ▸ List.prefix_append _ _
    exact hlead.length_le
  · -- the byte at the offset is the one that is read next
    intro b hb
    rw [hsrc, List.getElem?_append_right (Nat.le_refl _), Nat.sub_self, ← List.head?_eq_getElem?]
      at hb
    exact hsettled b hb
  · rw [htake, List.count_append, hhead, Nat.add_zero]
  · rw [hbytes, List.append_assoc earlier]
  · exact List.length_append

/-- **A message made to be about a place** shows the line where the blanks behind it end. -/
theorem annotate_eq_about (hp : p <:+ src.bytes) {d : Diagnostic} (hd : d.location = none) :
    ∃ text, src.annotate p d = d.about (src.locateNext p) text ∧
      src.lineText (src.locateNext p).line = some text ∧
      src.Pinpoints (src.locateNext p) text := by
  have hbehind : p.dropWhile Byte.isBlank <:+ src.bytes := (List.dropWhile_suffix _).trans hp
  obtain ⟨text, htext, hpinpoints⟩ :=
    pinpoints_locate hbehind (eq_false_of_mem_head?_dropWhile Byte.isBlank p)
  have hunlocated : d.isUnlocated = true := by rw [Diagnostic.isUnlocated, hd]; rfl
  refine ⟨text, ?_, htext, hpinpoints⟩
  rw [annotate, if_pos hunlocated]
  simp only [locateNext, htext, Option.getD_some]

/-- **What a message says that is made to be about a place**: where the blanks behind it end. -/
theorem pinpoints_annotate (hp : p <:+ src.bytes) {d : Diagnostic} (hd : d.location = none) :
    ∃ l text, (src.annotate p d).location = some l ∧ (src.annotate p d).sourceLine = some text ∧
      src.Pinpoints l text ∧ l.offset = src.offsetOf (p.dropWhile Byte.isBlank) := by
  obtain ⟨text, habout, -, hpinpoints⟩ := annotate_eq_about hp hd
  rw [habout]
  exact ⟨src.locateNext p, text, rfl, rfl, hpinpoints, src.length_take_offsetOf _⟩

end Source

/-- Nothing in a location is above the size of the source by more than one. -/
theorem Source.Pinpoints.bounds {src : Source} {l : Location} {text : String}
    (h : src.Pinpoints l text) :
    l.offset ≤ src.size ∧ l.line ≤ src.size + 1 ∧ l.column ≤ src.size + 1 := by
  have hfeeds := List.count_le_length (a := Byte.lineFeed) (l := src.bytes.take l.offset)
  have hlength : (src.bytes.take l.offset).length ≤ src.size := List.length_take_le' ..
  obtain ⟨earlier, head, tail, behind, -, -, hoffset, hcolumn, -⟩ := h.column
  have hinside := h.inside
  rw [h.line, hcolumn]
  omega

/-- In a source whose size fits into 32 bits the numbers of a location do. -/
theorem Source.Pinpoints.lt_size {src : Source} {l : Location} {text : String}
    (h : src.Pinpoints l text) (hsrc : src.size ≤ UInt32.size - 2) :
    l.offset < UInt32.size ∧ l.line < UInt32.size ∧ l.column < UInt32.size := by
  obtain ⟨hoffset, hline, hcolumn⟩ := h.bounds
  have hsize : UInt32.size = 4294967296 := rfl
  omega

/-- **What the message of a failure in a source says**, if it is about the source: the output is
about no place, and a refusal may have come with one of its own. -/
theorem Failure.pinpoints_diagnostic {src : Source} {f : Failure} (h : f.In src)
    (houtput : ∀ reason, f ≠ .unwritten reason)
    (hrefused : ∀ reason p, f = .refused reason p → reason.location = none) :
    ∃ l text, (f.diagnostic src).location = some l ∧ (f.diagnostic src).sourceLine = some text ∧
      src.Pinpoints l text := by
  -- a place in the source is located in one way, whatever the message says there
  have hplace {p : Position} {d : Diagnostic} (hp : p <:+ src.bytes) (hd : d.location = none) :
      ∃ l text, (src.annotate p d).location = some l ∧
        (src.annotate p d).sourceLine = some text ∧ src.Pinpoints l text := by
    obtain ⟨l, text, hl, htext, hpinpoints, -⟩ := Source.pinpoints_annotate hp hd
    exact ⟨l, text, hl, htext, hpinpoints⟩
  cases f with
  | spelling e p => exact hplace h rfl
  | grammar e p => exact hplace h.1 rfl
  | refused reason p => exact hplace h (hrefused reason p rfl)
  | unwritten reason => exact absurd rfl (houtput reason)

namespace Program

variable {σ τ : Type} {src : Source} {m m' : Machine σ τ} {f : Failure}

/-- **Where a run fails, it fails about its source.** -/
theorem Reached.failed_in (h : Reached src m) {env : Context σ τ}
    (hrun : run env m = .error (.failed f) m') : f.In src :=
  ((stays_run env m h.in).of_error hrun).2 f rfl

/-- **Every failure is located consistently.** However many runs there have been, with whichever
agent and output: where a run fails and that is not about output, nor a refusal that comes with a
location, the message has a location in the source and shows the line of it. All of it fits in
numbers of 32 bits, and it is what the table of lines gives. -/
theorem failed_located (hsrc : src.size ≤ UInt32.size - 2) (h : Reached src m) (env : Context σ τ)
    (hrun : run env m = .error (.failed f) m') (houtput : ∀ reason, f ≠ .unwritten reason)
    (hrefused : ∀ reason p, f = .refused reason p → reason.location = none) :
    ∃ l text, (f.diagnostic src).location = some l ∧ (f.diagnostic src).sourceLine = some text ∧
      src.Pinpoints l text ∧
      (l.offset < UInt32.size ∧ l.line < UInt32.size ∧ l.column < UInt32.size) ∧
      ∀ broken, Bounded.diagnostic broken src f = .ok (f.diagnostic src) := by
  obtain ⟨l, text, hl, htext, hpinpoints⟩ :=
    Failure.pinpoints_diagnostic (h.failed_in hrun) houtput hrefused
  exact ⟨l, text, hl, htext, hpinpoints, hpinpoints.lt_size hsrc,
    fun _ => Bounded.diagnostic_eq hsrc f⟩

end Program

/-- A script with a word that is no instruction on its second line, which ends as some systems have
it. -/
def Source.stray : Source where
  name := "stray.gs"
  bytes := Utf8.encode "main \x7b\n  hover;\r\n\x7d\n"

/-- The word is found where it stands. -/
theorem Program.run_stray :
    ∃ m', run Execution.recorderContext (Machine.ofSource .stray
        ⟨[], false, [], none, none, 0, []⟩ (.empty none)) =
      .error (.failed (.grammar (.notInstruction (.word "hover"))
        (Source.stray.bytes.drop 6))) m' :=
  Run.exists_of_failure? (by decide +kernel)

/-- The message about it points at the word, and shows its line. -/
theorem Program.failed_located_stray :
    ∃ p m' l text, run Execution.recorderContext (Machine.ofSource .stray
        ⟨[], false, [], none, none, 0, []⟩ (.empty none)) =
      .error (.failed (.grammar (.notInstruction (.word "hover")) p)) m' ∧
      Source.stray.Pinpoints l text ∧ (l = ⟨9, 2, 3⟩ ∧ text = "  hover;") := by
  obtain ⟨m', hrun⟩ := run_stray
  obtain ⟨l, text, hl, htext, hpinpoints, -⟩ := failed_located (by decide) (.start _ _) _ hrun
    (fun _ h => nomatch h) (fun _ _ h => nomatch h)
  have hshown : ((Failure.grammar (.notInstruction (.word "hover"))
      (Source.stray.bytes.drop 6)).diagnostic .stray).location = some ⟨9, 2, 3⟩ ∧
      ((Failure.grammar (.notInstruction (.word "hover"))
        (Source.stray.bytes.drop 6)).diagnostic .stray).sourceLine = some "  hover;" := by
    decide +kernel
  rw [hl, htext, Option.some.injEq, Option.some.injEq] at hshown
  exact ⟨_, m', l, text, hrun, hpinpoints, hshown⟩

/-! ### Tokens -/

/-- **A gap begins with its blanks**, and goes on with a comment if it goes on. -/
theorem Spelling.IsGap.exists_comments {gap rest : Position} (h : IsGap gap rest) :
    ∃ spaces comments, gap = spaces ++ comments ∧ (∀ b ∈ spaces, Byte.isBlank b = true) ∧
      IsGap comments rest ∧
      (comments = [] ∨ [slash, slash] <+: comments ∨ [slash, star] <+: comments) := by
  -- the induction is on the gap; a comment ends the leading blanks
  induction h with
  | nil rest => exact ⟨[], [], rfl, fun b hb => (nomatch hb), .nil rest, .inl rfl⟩
  | line htext h =>
    exact ⟨[], _, rfl, fun b hb => (nomatch hb), .line htext h, .inr (.inl ⟨_, rfl⟩)⟩
  | lastLine htext =>
    exact ⟨[], _, rfl, fun b hb => (nomatch hb), .lastLine htext, .inr (.inl ⟨_, rfl⟩)⟩
  | block htext h =>
    exact ⟨[], _, rfl, fun b hb => (nomatch hb), .block htext h, .inr (.inr ⟨_, rfl⟩)⟩
  | @blank b _ _ hb _ ih =>
    -- one more blank in front of those of the rest
    obtain ⟨spaces, comments, rfl, hspaces, hcomments, hbegins⟩ := ih
    refine ⟨b :: spaces, comments, rfl, fun c hc => ?_, hcomments, hbegins⟩
    rcases List.mem_cons.1 hc with rfl | hc
    · exact isBlank_iff.2 hb
    · exact hspaces c hc

/-- **What stands at a place**: blanks, then comments with the blanks among them and behind them,
and then the next token, or else the end. -/
structure Position.Parts (p spaces comments rest : Position) (next : Option Token) : Prop where
  eq : p = spaces ++ (comments ++ rest)
  blank : ∀ b ∈ spaces, Byte.isBlank b = true
  gap : IsGap comments rest
  begins : comments = [] ∨ [slash, slash] <+: comments ∨ [slash, star] <+: comments
  found : match next with
    | some t => ∃ written after, rest = written ++ after ∧ IsToken written t after
    | none => rest = []

/-- **What a place shows** is what stands there. -/
theorem Source.Shows.exists_parts {src : Source} {p : Position} {next : Option Token}
    (h : src.Shows p next) : ∃ spaces comments rest, p.Parts spaces comments rest next := by
  obtain ⟨-, hpeek⟩ := h
  -- a gap and nothing more, a token behind a gap, or something that offends
  rcases exists_piece p with hend | ⟨gap, written, t, after, hgap, ht, rfl⟩ |
    ⟨gap, bad, c, hgap, hbad, rfl⟩
  · -- nothing but a gap
    rw [Lexemes.ofPosition_of_end (scan_of_end hend)] at hpeek
    cases hpeek
    obtain ⟨spaces, comments, rfl, hspaces, hcomments, hbegins⟩ := hend.exists_comments
    exact ⟨spaces, comments, [], by rw [List.append_nil], hspaces, hcomments, hbegins, rfl⟩
  · rw [Lexemes.ofPosition_of_token (scan_of_token hgap ht)] at hpeek
    cases hpeek
    obtain ⟨spaces, comments, rfl, hspaces, hcomments, hbegins⟩ := hgap.exists_comments
    exact ⟨spaces, comments, _, by rw [List.append_assoc], hspaces, hcomments, hbegins,
      written, after, rfl, ht⟩
  · -- looking ahead would have failed
    obtain ⟨e, hscan, -⟩ := scan_of_offends hgap hbad
    rw [Lexemes.ofPosition_of_misspelt hscan] at hpeek
    cases hpeek

namespace Position.Parts

variable {p spaces comments rest : Position} {next : Option Token}

/-- **The blanks end at the first comment**, or at the token if there is none. -/
theorem dropBlanks (h : p.Parts spaces comments rest next) :
    p.dropWhile Byte.isBlank = comments ++ rest := by
  -- the blanks stop at a comment or at what was found
  have hstop : ∀ b ∈ (comments ++ rest).head?, ¬ Byte.isBlank b = true := by
    rcases h.begins with rfl | ⟨more, rfl⟩ | ⟨more, rfl⟩
    · rw [List.nil_append]
      cases next with
      | none =>
        have hrest : rest = [] := h.found
        rw [hrest]
        exact fun b hb => nomatch hb
      | some t =>
        obtain ⟨written, after, rfl, ht⟩ := h.found
        exact fun b hb hblank => ht.settled.1 b hb (isBlank_iff.1 hblank)
    -- a comment begins with a slash
    all_goals
      rintro b ⟨⟩
      decide
  rw [h.eq, List.dropWhile_append_of_pos h.blank]
  -- what is left begins with something that is no blank, if there is any
  cases hrest : comments ++ rest with
  | nil => rfl
  | cons b more =>
    rw [hrest] at hstop
    exact List.dropWhile_cons_of_neg (hstop b rfl)

end Position.Parts

/-- Where one place comes before another, their offsets are different. -/
theorem Source.offsetOf_append_eq_iff {src : Source} {comments rest : Position}
    (h : comments ++ rest <:+ src.bytes) :
    src.offsetOf (comments ++ rest) = src.offsetOf rest ↔ comments = [] := by
  have hlength := h.length_le
  rw [offsetOf, offsetOf, size, List.length_append] at *
  rw [← List.length_eq_zero_iff]
  omega

namespace Program

variable {σ τ : Type} {src : Source} {m m' : Machine σ τ}

/-- **Where a message of the grammar points.** However many runs there have been: where a run fails
with such a message, the place that it is about begins with blanks, then there may be comments, and
then comes the token that the message names, or the end of the source if it names none. The message
points behind the blanks, and that is at the token exactly if there is no comment. -/
theorem grammar_points (h : Reached src m) (env : Context σ τ) {e : GrammarError} {p : Position}
    (hrun : run env m = .error (.failed (.grammar e p)) m') :
    ∃ spaces comments rest l, p <:+ src.bytes ∧ p.Parts spaces comments rest e.subject ∧
      ((Failure.grammar e p).diagnostic src).location = some l ∧
      l.offset = src.offsetOf (comments ++ rest) ∧
      (l.offset = src.offsetOf rest ↔ comments = []) := by
  have hshows : src.Shows p e.subject := h.failed_in hrun
  -- the message names what was found at the place, so that the place has three parts
  obtain ⟨spaces, comments, rest, hparts⟩ := hshows.exists_parts
  obtain ⟨l, -, hl, -, -, hoffset⟩ :=
    Source.pinpoints_annotate hshows.1 (d := .ofMessage e.code e.message) rfl
  rw [hparts.dropBlanks] at hoffset
  refine ⟨spaces, comments, rest, l, hshows.1, hparts, hl, hoffset, ?_⟩
  rw [hoffset]
  -- the two offsets are equal only where nothing stands between
  refine Source.offsetOf_append_eq_iff (List.IsSuffix.trans ?_ hshows.1)
  rw [hparts.eq]
  exact List.suffix_append _ _

/-- The word that is no instruction has no comment in front of it, so the message points at it. -/
theorem grammar_points_stray :
    ∃ p m' l, run Execution.recorderContext (Machine.ofSource .stray
        ⟨[], false, [], none, none, 0, []⟩ (.empty none)) =
      .error (.failed (.grammar (.notInstruction (.word "hover")) p)) m' ∧
      ((Failure.grammar (.notInstruction (.word "hover")) p).diagnostic .stray).location = some l ∧
      l.offset = 9 := by
  obtain ⟨m', hrun⟩ := run_stray
  obtain ⟨spaces, comments, rest, l, -, hparts, hl, hoffset, -⟩ :=
    grammar_points (.start _ _) _ hrun
  have hbehind : (Source.stray.bytes.drop 6).dropWhile Byte.isBlank =
      Source.stray.bytes.drop 9 := by
    decide +kernel
  -- the offset is computed from the blanks that are passed
  rw [← hparts.dropBlanks, hbehind] at hoffset
  exact ⟨_, m', l, hrun, hl, hoffset⟩

end Program

/-- A script with a comment in front of the token that should have been a brace. -/
def Source.remark : Source where
  name := "remark.gs"
  bytes := Utf8.encode "main /* c */ step"

/-- **The message points at the comment**, and not at the token that it names. -/
theorem Program.points_at_comment_remark :
    ∃ p m' l, run Execution.recorderContext (Machine.ofSource .remark
        ⟨[], false, [], none, none, 0, []⟩ (.empty none)) =
      .error (.failed (.grammar (.unexpected "\x7b" (.word "step")) p)) m' ∧
      ((Failure.grammar (.unexpected "\x7b" (.word "step")) p).diagnostic .remark).location =
        some l ∧
      Source.remark.positionAt 13 = Utf8.encode "step" ∧ l.offset = 5 ∧ l.offset ≠ 13 := by
  have hfails : Run.failure? (run Execution.recorderContext (Machine.ofSource .remark
        ⟨[], false, [], none, none, 0, []⟩ (.empty none))) =
      some (.grammar (.unexpected "\x7b" (.word "step")) (Source.remark.bytes.drop 4)) := by
    decide +kernel
  obtain ⟨m', hrun⟩ := Run.exists_of_failure? hfails
  -- the offset is that of the comment, eight bytes before the word
  have hl : ((Failure.grammar (.unexpected "\x7b" (.word "step"))
      (Source.remark.bytes.drop 4)).diagnostic .remark).location = some ⟨5, 1, 6⟩ := by
    decide +kernel
  exact ⟨_, m', _, hrun, hl, by decide +kernel, rfl, by decide⟩

end GridScript
