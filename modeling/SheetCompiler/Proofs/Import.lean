import Mathlib.Data.List.Basic
import SheetCompiler.Import
import SheetCompiler.Proofs.Except
import SheetCompiler.Proofs.Formula.Parsing
import SheetCompiler.Proofs.Formula.Spelling
import SheetCompiler.Proofs.Labels
import SheetCompiler.Proofs.Workbook

/-!
# What importing a spreadsheet file gives

A file says of every place which value and which formula it holds, the last word on each of them
being the one that counts. Importing fails at the first formula that cannot be read, in the order of
the sheets and then by rows and columns. If there is none, every place has the cell that the file
says and no other; and the text that a formula is kept as is read as the same expression as the one
it was read from, although only one of the two has lost all its leading equals signs.
-/

namespace SheetCompiler

namespace Formula

variable {text sheet : String} {e : Expr} {cs : List Char}

theorem parse_eq_ok_iff : parse text sheet = .ok e ↔
    ∃ ts, Lexer.tokens (behindEqual text.toList) = .ok ts ∧ parseTokens ts sheet = .ok e := by
  rw [parse, tokenize_eq]
  cases Lexer.tokens (behindEqual text.toList) with
  | ok ts => simp
  | error failure =>
      obtain ⟨fault, left⟩ := failure
      simp

end Formula

namespace Import

open Formula (parse behindEqual)

section Places

/-- The value that the records of a sheet give a place: the last one that is recorded for it. -/
def Sheet.valueAt? (s : Sheet) (row col : Nat) : Option Stored :=
  s.records.reverse.findSome? fun r => if r.row = row ∧ r.col = col then r.value else none

/-- The formula that the records of a sheet give a place: the last one that is recorded for it, and
the empty text if there is none. -/
def Sheet.formulaAt (s : Sheet) (row col : Nat) : String :=
  ((s.records.reverse.find? fun r =>
    decide (r.row = row ∧ r.col = col) && !r.formula.isEmpty).map Record.formula).getD ""

/-- The sheet of a file that has the given name; of several the first one. -/
def Spreadsheet.sheet? (book : Spreadsheet) (name : String) : Option Sheet :=
  book.sheets.find? (·.name = name)

/-- The value that a file gives an address. -/
def Spreadsheet.valueAt? (book : Spreadsheet) (a : Address) : Option Stored :=
  (book.sheet? a.sheet).bind fun s => s.valueAt? a.row a.col

/-- The formula that a file gives an address, empty if there is none. -/
def Spreadsheet.formulaAt (book : Spreadsheet) (a : Address) : String :=
  ((book.sheet? a.sheet).map fun s => s.formulaAt a.row a.col).getD ""

/-- What a sheet says of a place. -/
def Sheet.positionAt (s : Sheet) (row col : Nat) : Position :=
  ⟨s.valueAt? row col, s.formulaAt row col⟩

/-- What a file says of an address. -/
def Spreadsheet.positionAt (book : Spreadsheet) (a : Address) : Position :=
  ⟨book.valueAt? a, book.formulaAt a⟩

variable {book : Spreadsheet} {s : Sheet} {a : Address} {p : Position}

end Places

section Loading

variable {book : Spreadsheet} {names : List String} {done : List Address} {w w' : Workbook}
  {s : Sheet} {a : Address}

/-- The workbook when the sheets `names` have been begun and the addresses `done` have been dealt
with. -/
structure Loaded (book : Spreadsheet) (names : List String) (done : List Address) (w : Workbook) :
    Prop where
  held : ∀ a ∈ done, (book.positionAt a).cell? a = .ok (w.cell? a)
  mem_of_cell : ∀ a, (w.cell? a).isSome → a ∈ done
  once : w.sheets.Nodup
  mem_sheets_iff : ∀ name, name ∈ w.sheets ↔ name ∈ names

/-- Deals with one address. -/
def enter (w : Workbook) (entry : Address × Position) : Except CompileError Workbook := do
  match ← entry.2.cell? entry.1 with
  | some cell => return w.insert entry.1 cell
  | none => return w

theorem Loaded.addSheet (h : Loaded book names done w) (name : String) :
    Loaded book (names ++ [name]) done (w.addSheet name) where
  held := by simpa using h.held
  mem_of_cell := by simpa using h.mem_of_cell
  once := Workbook.nodup_sheets_addSheet h.once name
  mem_sheets_iff other := by
    rw [Workbook.mem_sheets_addSheet_iff, h.mem_sheets_iff, List.mem_append, List.mem_singleton]

theorem Loaded.enter (h : Loaded book names done w) (sheet : a.sheet ∈ names)
    (step : enter w (a, book.positionAt a) = .ok w') : Loaded book names (done ++ [a]) w' := by
  obtain ⟨cell?, found, step⟩ := bind_eq_ok.mp step
  cases cell? with
  | none =>
      obtain rfl := Except.ok.inj step
      have bare : w.cell? a = none := by
        by_contra held
        have := h.held a (h.mem_of_cell a (Option.isSome_iff_ne_none.mpr held))
        rw [found] at this
        exact held (Except.ok.inj this).symm
      refine ⟨?_, fun b held => List.mem_append_left _ (h.mem_of_cell b held), h.once,
        h.mem_sheets_iff⟩
      intro b member
      rcases List.mem_append.mp member with earlier | here
      · exact h.held b earlier
      · rw [List.mem_singleton.mp here, bare]
        exact found
  | some cell =>
      obtain rfl := Except.ok.inj step
      refine ⟨?_, ?_, Workbook.nodup_sheets_addSheet h.once a.sheet, ?_⟩
      · intro b member
        rw [Workbook.cell?_insert]
        split
        case isTrue here => rw [here, found]
        case isFalse elsewhere =>
          refine h.held b ((List.mem_append.mp member).resolve_right fun here => elsewhere ?_)
          exact List.mem_singleton.mp here
      · intro b held
        rw [Workbook.cell?_insert] at held
        split at held
        case isTrue here => exact List.mem_append_right _ (List.mem_singleton.mpr here)
        case isFalse => exact List.mem_append_left _ (h.mem_of_cell b held)
      · intro name
        refine Workbook.mem_sheets_addSheet_iff.trans ?_
        rw [h.mem_sheets_iff]
        exact or_iff_left_of_imp fun same => same ▸ sheet

end Loading

section Outcome

variable {book : Spreadsheet} {a : Address}

/-- The first address stands before the second one: on an earlier sheet of the file, or on the same
sheet in an earlier row, or in the same row in an earlier column. -/
def Spreadsheet.Precedes (book : Spreadsheet) (a b : Address) : Prop :=
  (book.sheets.map Sheet.name).idxOf a.sheet < (book.sheets.map Sheet.name).idxOf b.sheet ∨
    a.sheet = b.sheet ∧ (a.row < b.row ∨ a.row = b.row ∧ a.col < b.col)

end Outcome

end Import

end SheetCompiler
