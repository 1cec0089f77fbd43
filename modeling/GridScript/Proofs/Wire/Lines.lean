import GridScript.Proofs.Grid.Regular
import GridScript.Proofs.Text.Blank
import GridScript.Proofs.Text.Numeral
import GridScript.Wire.Response

/-!
# Lines read back as they are written

* `Request.ofLine_line` — the far end reads the request that was sent.
* `Request.linefeed_notMem_line` — the line of a request is one line, unless it names a grid.
* `Request.line_injective` — no two requests are written alike.
* `Query.answer?_location` and the others — an answer is read as the fact that it tells.
* `Response.line_ne_rejection` — no other answer looks like a rejection.
-/

namespace GridScript

open Blank

/-! ### Words on the wire -/

/-- A digit is no blank. -/
private theorem isBlank_of_isDigit {c : Char} (h : c.isDigit = true) : isBlank c = false := by
  have hrange : 48 ≤ c.toNat ∧ c.toNat ≤ 57 := Char.isDigit_iff_toNat.1 h
  simp [isBlank]
  omega

theorem Numeral.isWord_ofNat (n : Nat) : IsWord (Numeral.ofNat n) := by
  rw [IsWord, Numeral.ofNat, Nat.toList_repr]
  exact ⟨Nat.toDigits_ne_nil, fun c hc => isBlank_of_isDigit (isDigit_of_mem hc)⟩

theorem Numeral.isWord_ofInt (i : Int) : IsWord (Numeral.ofInt i) := by
  cases i with
  | ofNat n => exact isWord_ofNat n
  | negSucc n =>
    obtain ⟨-, hblank⟩ := isWord_ofNat (n + 1)
    rw [IsWord, toList_ofInt_negSucc]
    refine ⟨List.cons_ne_nil _ _, fun c hc => ?_⟩
    rcases List.mem_cons.1 hc with rfl | hc
    · decide
    · exact hblank c hc

theorem Direction.isWord_name (d : Direction) : IsWord d.name := by
  cases d <;> decide

theorem Cell.isWord_text (cell : Cell) : IsWord cell.text := by
  cases cell with
  | wall => decide
  | gems n => exact Numeral.isWord_ofNat n.toNat

/-- **A cell is read back.** -/
theorem Cell.ofText?_text {cell : Cell} (h : cell.Ordinary) : ofText? cell.text = some cell := by
  cases cell with
  | wall => rfl
  | gems n =>
    -- there are only ten such cells, each written as one digit
    have hdigit : ∀ k < 10, ofText? (Nat.repr k) = some (gems k.toUInt8) := by decide
    rw [text, hdigit n.toNat (Nat.lt_succ_of_le h), Nat.toUInt8, UInt8.ofNat_toNat]

/-- No two cells are written alike. -/
theorem Cell.text_injective {cell cell' : Cell} (h : cell.text = cell'.text) : cell = cell' := by
  -- a number is written in digits, so it is never the letter of a wall
  have hwall (n : Nat) : Nat.repr n ≠ "X" := by
    intro hn
    have hread := Numeral.readNat?_ofNat n
    rw [Numeral.ofNat, hn] at hread
    cases hread
  cases cell with
  | wall =>
    cases cell' with
    | wall => rfl
    | gems n => exact absurd h.symm (hwall n.toNat)
  | gems n =>
    cases cell' with
    | wall => exact absurd h (hwall n.toNat)
    | gems n' =>
      have hread := Numeral.readNat?_ofNat n.toNat
      have hrepr : Numeral.ofNat n.toNat = Numeral.ofNat n'.toNat := h
      rw [hrepr, Numeral.readNat?_ofNat] at hread
      rw [UInt8.toNat_inj.1 (Option.some.inj hread)]

/-- Two coordinates are read back. -/
theorem Request.coordOf?_ofInt (c : Coord) :
    coordOf? [Numeral.ofInt c.x.toInt, Numeral.ofInt c.y.toInt] = some c := by
  simp [coordOf?, Numeral.readInt32?_ofInt]

/-! ### Requests -/

namespace Request

/-- **The words of a request.** -/
def parts : Request → List String
  | goTo c => ["GOTO", Numeral.ofInt c.x.toInt, Numeral.ofInt c.y.toInt]
  | askLocation => ["GETLOC"]
  | face d => ["FACE", d.name]
  | askFacing => ["GETDIR"]
  | holdGems n => ["GIVEROB", Numeral.ofNat n.toNat]
  | askGems => ["GETJEWLCNT"]
  | putCell c cell => ["SETGRID", Numeral.ofInt c.x.toInt, Numeral.ofInt c.y.toInt, cell.text]
  | askCell c => ["GETGRID", Numeral.ofInt c.x.toInt, Numeral.ofInt c.y.toInt]
  | loadGrid name => ["LOADGRID", name]
  | askSize => ["GETSIZE"]
  | showMessages on => ["SHOWMSGS", if on then "ON" else "OFF"]
  | stop => ["STOP"]

attribute [local simp] line parts

theorem toList_line (r : Request) : r.line.toList = glue r.parts := by
  cases r <;> simp [glue, Coord.text]

/-- **A request that is read as it is written**: it puts no more gems on a cell than can be told
of, and does not name a grid. -/
def Plain : Request → Prop
  | putCell _ cell => cell.Ordinary
  | loadGrid _ => False
  | _ => True

theorem Plain.ne_loadGrid {r : Request} (h : r.Plain) (name : String) : r ≠ loadGrid name := by
  rintro rfl
  cases h

/-- Only the name of a grid need not be a word. -/
theorem isWord_of_mem_parts {r : Request} (h : ∀ name, r ≠ loadGrid name) :
    ∀ w ∈ r.parts, IsWord w := by
  -- a part is a keyword, a number, a direction or a cell
  have hint := Numeral.isWord_ofInt
  have hnat := Numeral.isWord_ofNat
  have hkeyword : ∀ w ∈ ["GOTO", "GETLOC", "FACE", "GETDIR", "GIVEROB", "GETJEWLCNT", "SETGRID",
      "GETGRID", "GETSIZE", "SHOWMSGS", "ON", "OFF", "STOP"], IsWord w := by
    decide
  cases r with
  | loadGrid name => exact absurd rfl (h name)
  | face d => simp [d.isWord_name, hkeyword]
  | putCell c cell => simp [hint, cell.isWord_text, hkeyword]
  | showMessages on => cases on <;> simp [hkeyword]
  | _ => simp [hint, hnat, hkeyword]

/-- **The line of a request is one line**, unless it names a grid. -/
theorem linefeed_notMem_line {r : Request} (h : ∀ name, r ≠ loadGrid name) :
    '\n' ∉ r.line.toList := by
  rw [toList_line]
  intro hmem
  exact absurd (eq_space_of_mem_glue (isWord_of_mem_parts h) hmem (by decide)) (by decide)

/-- The line that names a grid is one line exactly if the name is. -/
theorem linefeed_mem_line_loadGrid {name : String} :
    '\n' ∈ (loadGrid name).line.toList ↔ '\n' ∈ name.toList := by
  simp

/-- A line of words is read as its first word and the others. -/
theorem ofLine_of_glue {line k : String} {ws : List String} (h : ∀ w ∈ k :: ws, IsWord w)
    (hline : line.toList = glue (k :: ws)) :
    ofLine line = ofParts k (String.ofList (glue ws)) := by
  -- a carriage return at the end would be dropped, and there is none
  have hend : dropAtEnd (· == '\r') (glue (k :: ws)) = glue (k :: ws) :=
    dropAtEnd_eq_self fun c hc =>
      beq_false_of_ne (ne_return_of_mem_glue h (List.mem_of_getLast? hc))
  rw [ofLine, hline, hend, span_glue (h k List.mem_cons_self)]
  cases ws with
  | nil => simp [glue]
  | cons w ws => simp

/-- **The far end reads the request that was sent.** -/
theorem ofLine_line {r : Request} (h : r.Plain) : ofLine r.line = .ok r := by
  -- the line is its parts with blanks between them, and is cut apart again
  have hwords := isWord_of_mem_parts h.ne_loadGrid
  have hline := r.toList_line
  have hargs {k : String} {ws : List String} (heq : r.parts = k :: ws) :
      words (String.ofList (glue ws)) = ws :=
    words_ofList_glue fun w hw => hwords w (heq ▸ List.mem_cons_of_mem k hw)
  -- the first part decides how the others are read
  cases r with
  | loadGrid name => cases h
  | goTo c =>
    rw [ofLine_of_glue hwords hline, ofParts, hargs rfl]
    simp [coordOf?_ofInt]
  | face d =>
    rw [ofLine_of_glue hwords hline, ofParts, hargs rfl]
    simp
  | holdGems n =>
    rw [ofLine_of_glue hwords hline, ofParts, hargs rfl]
    simp [Numeral.readUInt32?_ofNat]
  | putCell c cell =>
    rw [ofLine_of_glue hwords hline, ofParts, hargs rfl]
    simp [coordOf?_ofInt, Cell.ofText?_text h]
  | askCell c =>
    rw [ofLine_of_glue hwords hline, ofParts, hargs rfl]
    simp [coordOf?_ofInt]
  | showMessages on =>
    rw [ofLine_of_glue hwords hline, ofParts, hargs rfl]
    cases on <;> rfl
  | _ =>
    -- the others have no arguments
    rw [ofLine_of_glue hwords hline]
    rfl

/-- The words of a request tell it from every other. -/
theorem parts_injective {r s : Request} (h : r.parts = s.parts) : r = s := by
  -- a place is read back from its two numbers, so they tell it
  have hcoord {c c' : Coord} (hx : Numeral.ofInt c.x.toInt = Numeral.ofInt c'.x.toInt)
      (hy : Numeral.ofInt c.y.toInt = Numeral.ofInt c'.y.toInt) : c = c' := by
    have hread := coordOf?_ofInt c
    rw [hx, hy, coordOf?_ofInt c'] at hread
    exact (Option.some.inj hread).symm
  cases r <;> cases s <;> simp only [parts, List.cons.injEq, and_true, true_and] at h
  -- two requests of one kind differ in an argument, and others in their first word
  case goTo.goTo c c' => rw [hcoord h.1 h.2]
  case face.face d d' => exact congrArg face (Option.some.inj (by
      rw [← d.ofName?_name, h, d'.ofName?_name]))
  case holdGems.holdGems n n' => exact congrArg holdGems (Option.some.inj (by
      rw [← Numeral.readUInt32?_ofNat n, h, Numeral.readUInt32?_ofNat n']))
  case putCell.putCell c cell c' cell' => rw [hcoord h.1 h.2.1, Cell.text_injective h.2.2]
  case askCell.askCell c c' => rw [hcoord h.1 h.2]
  case loadGrid.loadGrid name name' => rw [h]
  case showMessages.showMessages on on' => revert h; cases on <;> cases on' <;> simp
  all_goals first | rfl | simp at h

/-- Only a request that names a grid is written like one. -/
theorem line_ne_loadGrid {r : Request} (h : ∀ name, r ≠ loadGrid name) (name : String) :
    r.line ≠ (loadGrid name).line := by
  -- four characters are enough to tell them apart
  have hfirst : r.line.toList.take 4 ≠ "LOAD".toList := by
    cases r with
    | loadGrid name => exact absurd rfl (h name)
    | _ => simp
  intro heq
  rw [heq] at hfirst
  simp at hfirst

/-- **No two requests are written alike.** -/
theorem line_injective {r s : Request} (h : r.line = s.line) : r = s := by
  -- a name can hold blanks, so that a line with one is not cut apart
  by_cases hr : ∃ name, r = loadGrid name
  · obtain ⟨name, rfl⟩ := hr
    by_cases hs : ∃ name', s = loadGrid name'
    · obtain ⟨name', rfl⟩ := hs
      have hname : name = name' := by simpa [← String.toList_inj] using h
      rw [hname]
    · exact absurd h.symm (line_ne_loadGrid (not_exists.1 hs) name)
  · by_cases hs : ∃ name', s = loadGrid name'
    · obtain ⟨name', rfl⟩ := hs
      exact absurd h (line_ne_loadGrid (not_exists.1 hr) name')
    · -- both are words, which are cut apart again
      have hglue : glue r.parts = glue s.parts := by rw [← r.toList_line, h, s.toList_line]
      have hparts := words_ofList_glue (isWord_of_mem_parts (not_exists.1 hr))
      rw [hglue, words_ofList_glue (isWord_of_mem_parts (not_exists.1 hs))] at hparts
      exact parts_injective hparts.symm

end Request

/-! ### Answers -/

attribute [local simp] Response.line

theorem afterHead?_append (head rest : List Char) : afterHead? head (head ++ rest) = some rest := by
  induction head with
  | nil => cases rest <;> rfl
  | cons h hs ih => rw [List.cons_append, afterHead?, if_pos rfl, ih]

/-- **The fields of an answer** are the words behind its head. -/
theorem fieldsAfter?_of_glue {head line : String} {ws : List String} (h : ∀ w ∈ ws, IsWord w)
    (hline : line.toList = head.toList ++ ' ' :: glue ws) : fieldsAfter? head line = some ws := by
  rw [fieldsAfter?, hline, afterHead?_append]
  dsimp only
  rw [if_pos rfl, wordsOfChars_space, wordsOfChars_glue h, List.map_map]
  simp

namespace Query

/-- **What a line answers to a question**, if it begins with the right words and can be read. -/
def answer? {α : Type} (q : Query α) (response : String) : Option α :=
  (fieldsAfter? q.head response).bind q.read

/-- A line with the right words and fields that can be read is an answer. -/
theorem answer?_of_glue {α : Type} {q : Query α} {line : String} {ws : List String} {a : α}
    (h : ∀ w ∈ ws, IsWord w) (hline : line.toList = q.head.toList ++ ' ' :: glue ws)
    (hread : q.read ws = some a) : q.answer? line = some a := by
  rw [answer?, fieldsAfter?_of_glue h hline, Option.bind_some, hread]

theorem answer?_location (c : Coord) :
    location.answer? (Response.location c).line = some c := by
  have hread : location.read [Numeral.ofInt c.x.toInt, Numeral.ofInt c.y.toInt] = some c :=
    Request.coordOf?_ofInt c
  refine answer?_of_glue ?_ ?_ hread
  · simp [Numeral.isWord_ofInt]
  · simp [Coord.text, location, glue]

theorem answer?_facing (d : Direction) : facing.answer? (Response.facing d).line = some d := by
  have hread : facing.read [d.name] = some d := d.ofName?_name
  refine answer?_of_glue ?_ ?_ hread
  · simp [d.isWord_name]
  · simp [facing, glue]

theorem answer?_gemCount (n : UInt32) :
    gemCount.answer? (Response.gemCount n).line = some n := by
  have hread : gemCount.read [Numeral.ofNat n.toNat] = some n := Numeral.readUInt32?_ofNat n
  refine answer?_of_glue ?_ ?_ hread
  · simp [Numeral.isWord_ofNat]
  · simp [gemCount, glue]

theorem answer?_gridSize (s : GridSize) : gridSize.answer? (Response.size s).line = some s := by
  have hread : gridSize.read [Numeral.ofInt s.width.toInt, Numeral.ofInt s.height.toInt] =
      some s := by
    change Option.map _ (Request.coordOf? _) = _
    rw [Request.coordOf?_ofInt ⟨s.width, s.height⟩]
    rfl
  refine answer?_of_glue ?_ ?_ hread
  · simp [Numeral.isWord_ofInt]
  · simp [gridSize, glue]

theorem answer?_cell (c : Coord) {content : Cell} (h : content.Ordinary) :
    (cell c).answer? (Response.cell c content).line = some content := by
  have hread : (cell c).read [content.text] = some content := Cell.ofText?_text h
  refine answer?_of_glue ?_ ?_ hread
  · simp [content.isWord_text]
  · simp [cell, glue]

end Query

/-- **No other answer looks like a rejection.** -/
theorem Response.line_ne_rejection {r : Response} (h : ∀ reason, r ≠ rejected reason) :
    r.line ≠ Rejection.failLine ∧ r.line ≠ Rejection.errorLine := by
  -- the two rejections begin with a `C`
  have hfirst : r.line.toList.head? ≠ some 'C' := by
    cases r with
    | rejected reason => exact absurd rfl (h reason)
    | done r => simp [Request.acknowledgement]
    | _ => simp
  refine ⟨?_, ?_⟩
  · intro heq
    exact hfirst (heq ▸ rfl)
  · intro heq
    exact hfirst (heq ▸ rfl)

end GridScript
