import ScopeMeter.Report.Table

/-!
# Reading comma-separated records

`File records text` says that a text is a spelling of some records by the rules of the format: a
line for each record, the cells separated by commas, a cell between quotation marks whenever a
comma, a mark or an end of line is in it, and the marks within it doubled.  The rules leave a
choice (a cell may always be quoted, and a line may end in either way), but no text is a spelling of
two different lists of records: the reader gives each spelling its records (`File.read`), so they
are unique (`File.unique`).  What is written for some records is one of their spellings
(`file_text`).

The reader takes one character at a time and refuses a mark within a cell that is not quoted, a
character behind the closing mark of a cell, and a text that ends within quotation marks.
-/

namespace ScopeMeter.Csv

/-! ## Spellings -/

/-- The character may stand in a cell without quotation marks. -/
def Bare (c : Char) : Prop := c ≠ ',' ∧ c ≠ '\"' ∧ c ≠ '\n' ∧ c ≠ '\r'

instance : DecidablePred Bare := fun _ => inferInstanceAs (Decidable (_ ∧ _))

/-- What stands between quotation marks for some characters: the marks among them are doubled. -/
inductive Doubled : List Char → List Char → Prop
  | nil : Doubled [] []
  | mark {cs text : List Char} : Doubled cs text → Doubled ('\"' :: cs) ('\"' :: '\"' :: text)
  | other {c : Char} {cs text : List Char} :
    c ≠ '\"' → Doubled cs text → Doubled (c :: cs) (c :: text)

/-- A spelling of a cell. -/
inductive Spelled : String → List Char → Prop
  | bare {cs : List Char} : (∀ c ∈ cs, Bare c) → Spelled (String.ofList cs) cs
  | quoted {cs text : List Char} :
    Doubled cs text → Spelled (String.ofList cs) ('\"' :: text ++ ['\"'])

/-- A spelling of the cells of a record. -/
inductive Line : List String → List Char → Prop
  | last {cell : String} {text : List Char} : Spelled cell text → Line [cell] text
  | comma {cell : String} {text : List Char} {cells : List String} {line : List Char} :
    Spelled cell text → Line cells line → Line (cell :: cells) (text ++ ',' :: line)

/-- An end of line. -/
inductive Ending : List Char → Prop
  | newline : Ending ['\n']
  | carriageReturn : Ending ['\r', '\n']

/-- A spelling of some records.  The last line need not have an end, and no line is empty. -/
inductive File : List (List String) → List Char → Prop
  | nil : File [] []
  | unended {cells : List String} {line : List Char} :
    Line cells line → line ≠ [] → File [cells] line
  | line {cells : List String} {line ending : List Char} {records : List (List String)}
      {text : List Char} :
    Line cells line → line ≠ [] → Ending ending → File records text →
      File (cells :: records) (line ++ (ending ++ text))

/-! ## The reader -/

/-- Where in a cell a reader is. -/
inductive Place
  /-- Before its first character. -/
  | start
  /-- In a cell without quotation marks. -/
  | bare
  /-- Between quotation marks. -/
  | quoted
  /-- Behind a mark that closes the cell or is the first one of two. -/
  | closed
  deriving DecidableEq

/-- What a reader has read. -/
structure Reader where
  records : List (List String) := []
  /-- The cells of the record it is in. -/
  cells : List String := []
  /-- The characters of the cell it is in. -/
  cell : List Char := []
  place : Place := .start

namespace Reader

def take (r : Reader) (c : Char) (place : Place) : Reader := { r with cell := r.cell ++ [c], place }

def endCell (r : Reader) : Reader :=
  { r with cells := r.cells ++ [String.ofList r.cell], cell := [], place := .start }

/-- Ends a record, if there is one: an empty line holds none. -/
def endLine (r : Reader) : Reader :=
  if r.place = .start ∧ r.cells = [] then r else { records := r.records ++ [r.endCell.cells] }

/-- Reads a character outside of quotation marks. -/
def outside (r : Reader) (c : Char) : Reader :=
  if c = ',' then r.endCell else if c = '\n' ∨ c = '\r' then r.endLine else r.take c .bare

/-- Reads a character. -/
def step (r : Reader) (c : Char) : Option Reader :=
  match r.place with
  | .start => some (if c = '\"' then { r with place := .quoted } else r.outside c)
  | .bare => if c = '\"' then none else some (r.outside c)
  | .quoted => some (if c = '\"' then { r with place := .closed } else r.take c .quoted)
  | .closed =>
    if c = '\"' then some (r.take c .quoted) else if Bare c then none else some (r.outside c)

def readAll (r : Reader) (text : List Char) : Option Reader := text.foldlM step r

/-- The records, once the text is at its end. -/
def finish (r : Reader) : Option (List (List String)) :=
  if r.place = .quoted then none else some r.endLine.records

end Reader

/-- The records of a text, if it is a spelling of some. -/
def read (text : String) : Option (List (List String)) :=
  (Reader.readAll {} text.toList).bind Reader.finish

/-! ## Each spelling is read -/

namespace Reader

variable {r r' : Reader} {records : List (List String)} {cells : List String} {cell : List Char}

theorem readAll_cons {c : Char} (taken : r.step c = some r') (text : List Char) :
    r.readAll (c :: text) = r'.readAll text := by
  rw [readAll, List.foldlM_cons, taken]
  rfl

theorem readAll_append {first : List Char} (read : r.readAll first = some r')
    (second : List Char) : r.readAll (first ++ second) = r'.readAll second := by
  rw [readAll, List.foldlM_append]
  exact congrArg (·.bind (readAll · second)) read

/-- Outside of quotation marks a comma or an end of line ends the cell. -/
theorem step_outside {c : Char} (outside : r.place ≠ .quoted) (ends : ¬ Bare c)
    (unmarked : c ≠ '\"') : r.step c = some (r.outside c) := by
  unfold step
  cases place : r.place with
  | quoted => exact absurd place outside
  | start | bare | closed => simp [unmarked, ends]

theorem step_bare {c : Char} (unquoted : r.place = .start ∨ r.place = .bare) (bare : Bare c) :
    r.step c = some (r.take c .bare) := by
  obtain ⟨comma, unmarked, newline, carriageReturn⟩ := bare
  have taken : r.outside c = r.take c .bare := by
    rw [outside, if_neg comma, if_neg (by simp [newline, carriageReturn])]
  rcases unquoted with place | place
  · simp only [step, place, if_neg unmarked, taken]
  · simp only [step, place, if_neg unmarked, taken]

theorem readAll_bare {cs : List Char} (bare : ∀ c ∈ cs, Bare c) (cell : List Char) :
    readAll ⟨records, cells, cell, .bare⟩ cs = some ⟨records, cells, cell ++ cs, .bare⟩ := by
  induction cs generalizing cell with
  | nil => rw [List.append_nil]; rfl
  | cons c cs ih =>
    obtain ⟨first, rest⟩ := List.forall_mem_cons.mp bare
    have taken : step ⟨records, cells, cell, .bare⟩ c =
        some ⟨records, cells, cell ++ [c], .bare⟩ := step_bare (.inr rfl) first
    rw [readAll_cons taken, ih rest, ← List.append_cons]

theorem readAll_doubled {cs text : List Char} (doubled : Doubled cs text) (cell : List Char) :
    readAll ⟨records, cells, cell, .quoted⟩ text = some ⟨records, cells, cell ++ cs, .quoted⟩ := by
  induction doubled generalizing cell with
  | nil => rw [List.append_nil]; rfl
  | mark _ ih =>
    have closed : step ⟨records, cells, cell, .quoted⟩ '\"' =
        some ⟨records, cells, cell, .closed⟩ := rfl
    have taken : step ⟨records, cells, cell, .closed⟩ '\"' =
        some ⟨records, cells, cell ++ ['\"'], .quoted⟩ := rfl
    rw [readAll_cons closed, readAll_cons taken, ih, ← List.append_cons]
  | @other c _ _ unmarked _ ih =>
    have taken : step ⟨records, cells, cell, .quoted⟩ c =
        some ⟨records, cells, cell ++ [c], .quoted⟩ := by
      simp only [step, if_neg unmarked, take]
    rw [readAll_cons taken, ih, ← List.append_cons]

/-- Behind the spelling of a cell a reader holds the cell and is outside of quotation marks. -/
theorem readAll_spelled {name : String} {text : List Char} (spelled : Spelled name text) :
    ∃ cell place, readAll ⟨records, cells, [], .start⟩ text = some ⟨records, cells, cell, place⟩ ∧
      String.ofList cell = name ∧ place ≠ .quoted ∧ (text ≠ [] → place ≠ .start) := by
  cases spelled with
  | bare bare =>
    cases text with
    | nil => exact ⟨[], .start, rfl, rfl, nofun, fun filled => absurd rfl filled⟩
    | cons c cs =>
      obtain ⟨first, rest⟩ := List.forall_mem_cons.mp bare
      have taken : step ⟨records, cells, [], .start⟩ c = some ⟨records, cells, [c], .bare⟩ :=
        step_bare (.inl rfl) first
      refine ⟨c :: cs, .bare, ?_, rfl, nofun, nofun⟩
      rw [readAll_cons taken, readAll_bare rest, List.singleton_append]
  | @quoted cs text doubled =>
    have begun : step ⟨records, cells, [], .start⟩ '\"' =
        some ⟨records, cells, [], .quoted⟩ := rfl
    refine ⟨cs, .closed, ?_, rfl, nofun, nofun⟩
    rw [List.cons_append, readAll_cons begun, readAll_append (readAll_doubled doubled [])]
    rfl

/-- Behind the spelling of a line, an end of line adds the record with the cells of the line. -/
theorem readAll_line {new : List String} {line : List Char} (spelled : Line new line)
    (cells : List String) (filled : cells ≠ [] ∨ line ≠ []) :
    ∃ r, readAll ⟨records, cells, [], .start⟩ line = some r ∧ r.place ≠ .quoted ∧
      r.endLine = { records := records ++ [cells ++ new] } := by
  induction spelled generalizing cells with
  | last spelled =>
    obtain ⟨cell, place, read, rfl, outside, begun⟩ := readAll_spelled spelled
    refine ⟨_, read, outside, ?_⟩
    have held : ¬(place = .start ∧ cells = []) := by
      intro ⟨start, empty⟩
      exact filled.elim (· empty) fun some => begun some start
    rw [endLine, if_neg held]
    rfl
  | comma spelled _ ih =>
    obtain ⟨cell, place, read, rfl, outside, -⟩ := readAll_spelled spelled
    -- With a cell before it, what follows the comma is a cell even when nothing follows.
    obtain ⟨r, readRest, outside', ended⟩ := ih (cells ++ [String.ofList cell]) (.inl (by simp))
    refine ⟨r, ?_, outside', ?_⟩
    · rw [readAll_append read, readAll_cons (step_outside outside (by decide) (by decide))]
      exact readRest
    · rw [ended, ← List.append_cons]

theorem readAll_ending {ending : List Char} (spelled : Ending ending) (outside : r.place ≠ .quoted)
    (ended : r.endLine = { records }) (text : List Char) :
    r.readAll (ending ++ text) = readAll { records } text := by
  have step_ends : ∀ {c : Char}, r.outside c = r.endLine → ¬ Bare c → c ≠ '\"' →
      r.step c = some { records } := by
    intro c ends special unmarked
    rw [step_outside outside special unmarked, ends, ended]
  cases spelled with
  | newline => exact readAll_cons (step_ends rfl (by decide) (by decide)) text
  | carriageReturn => exact readAll_cons (step_ends rfl (by decide) (by decide)) ('\n' :: text)

end Reader

open Reader

theorem File.readAll {new : List (List String)} {text : List Char} (file : File new text)
    (records : List (List String)) :
    (Reader.readAll { records } text).bind finish = some (records ++ new) := by
  induction file generalizing records with
  | nil => rw [List.append_nil]; rfl
  | unended line filled =>
    obtain ⟨r, read, outside, ended⟩ := readAll_line line [] (.inr filled)
    rw [read, Option.bind_some, finish, if_neg outside, ended, List.nil_append]
  | line line filled ending _ ih =>
    obtain ⟨r, read, outside, ended⟩ := readAll_line line [] (.inr filled)
    rw [readAll_append read, readAll_ending ending outside ended, ih, List.nil_append,
      ← List.append_cons]

/-- A spelling of some records is read as these records. -/
theorem File.read {records : List (List String)} {text : List Char} (file : File records text) :
    Csv.read (String.ofList text) = some records := by
  rw [Csv.read, String.toList_ofList]
  exact file.readAll []

/-- No text spells two different lists of records. -/
theorem File.unique {records records' : List (List String)} {text : List Char}
    (file : File records text) (file' : File records' text) : records = records' :=
  Option.some.inj (file.read.symm.trans file'.read)

/-! ## What is written is a spelling -/

theorem bare_of_special {c : Char} (plain : isSpecial c = false) : Bare c := by
  simpa [isSpecial, Bare, and_assoc] using plain

theorem doubled_quoteChar (cs : List Char) : Doubled cs (cs.flatMap quoteChar) := by
  induction cs with
  | nil => exact .nil
  | cons c cs ih =>
    rw [List.flatMap_cons]
    by_cases mark : c = '\"'
    · subst mark
      exact .mark ih
    · rw [quoteChar, if_neg mark]
      exact .other mark ih

theorem spelled_cell (name : String) : Spelled name (cell name.toList) := by
  rw [← String.ofList_toList (s := name), String.toList_ofList]
  unfold cell
  split
  next => exact .quoted (doubled_quoteChar _)
  next plain =>
    apply Spelled.bare
    intro c member
    apply bare_of_special
    simpa using List.any_eq_false.mp (Bool.eq_false_iff.mpr plain) c member

theorem line_cells {names : List String} (filled : names ≠ []) :
    Line names (cells (names.map String.toList)) := by
  induction names with
  | nil => exact absurd rfl filled
  | cons name names ih =>
    cases names with
    | nil => exact .last (spelled_cell name)
    | cons name' names => exact .comma (spelled_cell name) (ih (List.cons_ne_nil name' names))

/-- The only record whose cells are written with no character is that of one empty cell. -/
theorem eq_of_cells_eq_nil {names : List String} (filled : names ≠ [])
    (empty : cells (names.map String.toList) = []) : names = [""] := by
  cases names with
  | nil => exact absurd rfl filled
  | cons name names =>
    cases names with
    | nil =>
      have written : cell name.toList = [] := empty
      unfold cell at written
      split at written
      next => cases written
      next => rw [String.toList_eq_nil_iff.mp written]
    | cons name' names => simp [cells] at empty

/-- A record with a cell is written as a line that is not empty, with its end. -/
theorem exists_line {names : List String} (filled : names ≠ []) :
    ∃ line, Line names line ∧ line ≠ [] ∧ record names = line ++ ['\n'] := by
  unfold record
  by_cases empty : cells (names.map String.toList) = []
  · refine ⟨['\"', '\"'], ?_, by simp, by simp [empty]⟩
    rw [eq_of_cells_eq_nil filled empty]
    exact .last (.quoted .nil)
  · exact ⟨_, line_cells filled, empty, by simp [empty]⟩

/-- A text of records is a spelling of them, if each of them has a cell. -/
theorem file_text {records : List (List String)} (filled : ∀ names ∈ records, names ≠ []) :
    File records (records.flatMap record) := by
  induction records with
  | nil => exact .nil
  | cons names records ih =>
    obtain ⟨first, rest⟩ := List.forall_mem_cons.mp filled
    obtain ⟨line, spelled, some, written⟩ := exists_line first
    rw [List.flatMap_cons, written, List.append_assoc]
    exact .line spelled some .newline (ih rest)

end ScopeMeter.Csv
