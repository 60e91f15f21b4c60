import Mathlib.Data.List.Forall2
import SheetCompiler.Lowering.Call
import SheetCompiler.Proofs.Dependency.Views
import SheetCompiler.Proofs.Evaluation.Simulation
import SheetCompiler.Proofs.Import
import SheetCompiler.Proofs.Persistence.RoundTrip

/-!
# Ranges in formulas that were read

A range is written with two opposite corners in any position, the second with or without its sheet.
What is read has the corners in order: on one sheet, the first above and to the left of the last.
Only the leaves of a derivation make references, and every other rule hands on those of its parts,
so that the order of the corners is a matter of the leaves.

Evaluating and lowering find the width of a block in 32-bit words, which wrap around for corners in
the wrong order. Main statement: in a formula that was read they never do, at any depth; all its
addresses can be spelled; and its references list the cells of one rectangle after the other, each
row by row and without repetition.
-/

namespace SheetCompiler

namespace Address

/-- The corners of a rectangle, the first above and to the left of the last, that can be spelled. -/
structure Frames (first last : Address) : Prop where
  sheet : first.sheet = last.sheet
  row : first.row ≤ last.row
  col : first.col ≤ last.col
  inBounds_first : first.InBounds
  inBounds_last : last.InBounds

/-- The cell stands in a row above the other, or to its left in the same row. -/
def RowMajor (a b : Address) : Prop :=
  a.row < b.row ∨ a.row = b.row ∧ a.col < b.col

/-- The cells are those of the rectangle between two corners, each once, row by row. -/
structure Enumerates (cells : List Address) (first last : Address) : Prop where
  mem_iff : ∀ a, a ∈ cells ↔ a.Within first last
  nodup : cells.Nodup
  rowMajor : cells.Pairwise RowMajor

variable {first last : Address}

theorem RowMajor.ne {a b : Address} (h : a.RowMajor b) : a ≠ b := by
  rintro rfl
  rcases h with above | ⟨-, before⟩
  · exact Nat.lt_irrefl _ above
  · exact Nat.lt_irrefl _ before

theorem pairwise_rectangle (first last : Address) : (rectangle first last).Pairwise RowMajor := by
  have ascending (first last : Nat) : (span first last).Pairwise (· < ·) := List.pairwise_lt_range'
  rw [rectangle, List.pairwise_flatMap]
  constructor
  · intro row _
    rw [List.pairwise_map]
    exact (ascending _ _).imp fun before => .inr ⟨rfl, before⟩
  · refine (ascending _ _).imp fun above a inRow b inRow' => ?_
    obtain ⟨col, -, rfl⟩ := List.mem_map.mp inRow
    obtain ⟨col', -, rfl⟩ := List.mem_map.mp inRow'
    exact .inl above

theorem enumerates_rectangle (first last : Address) :
    Enumerates (rectangle first last) first last where
  mem_iff _ := mem_rectangle_iff
  nodup := (pairwise_rectangle first last).imp RowMajor.ne
  rowMajor := pairwise_rectangle first last

/-- One cell is the rectangle between itself and itself. -/
theorem InBounds.frames {a : Address} (h : a.InBounds) : Frames a a :=
  ⟨rfl, Nat.le_refl _, Nat.le_refl _, h, h⟩

theorem Frames.width_eq (h : Frames first last) : width first last = last.col - first.col + 1 := by
  have ordered := h.col
  rw [width, if_pos (Nat.le_succ_of_le ordered)]
  omega

/-- In 32-bit words, neither subtracting the columns nor adding one wraps around. -/
theorem Frames.toNat_sub_add_one (h : Frames first last) :
    (UInt32.ofNat last.col - UInt32.ofNat first.col + 1).toNat = last.col - first.col + 1 := by
  have small := h.inBounds_last.col
  have least := h.col
  have size : UInt32.size = 4294967296 := rfl
  have left : (UInt32.ofNat first.col).toNat = first.col := UInt32.toNat_ofNat_of_lt' (by omega)
  have right : (UInt32.ofNat last.col).toNat = last.col := UInt32.toNat_ofNat_of_lt' (by omega)
  have ordered : UInt32.ofNat first.col ≤ UInt32.ofNat last.col := by
    rwa [UInt32.le_iff_toNat_le, left, right]
  have fits : last.col - first.col + 1 < 2 ^ 32 := by omega
  rw [UInt32.toNat_add, UInt32.toNat_sub_of_le _ _ ordered, left, right]
  exact Nat.mod_eq_of_lt fits

end Address

namespace Formula

mutual

/-- An expression and all the expressions in it, from left to right. -/
def Expr.subexpressions : Expr → List Expr
  | .literal value => [.literal value]
  | .cell address => [.cell address]
  | .range first last => [.range first last]
  | .binary op left right =>
    .binary op left right :: (left.subexpressions ++ right.subexpressions)
  | .unary op operand => .unary op operand :: operand.subexpressions
  | .call name args => .call name args :: subexpressionsOf args

/-- The expressions of a list and all the expressions in them. -/
def subexpressionsOf : List Expr → List Expr
  | [] => []
  | e :: rest => e.subexpressions ++ subexpressionsOf rest

end

/-- The corners of the rectangles that an expression names, from left to right. -/
def Expr.rectangles (e : Expr) : List (Address × Address) :=
  e.subexpressions.filterMap Expr.corners?

section Rectangles

theorem rectangles_cell (a : Address) : (Expr.cell a).rectangles = [(a, a)] := rfl

theorem rectangles_range (first last : Address) :
    (Expr.range first last).rectangles = [(first, last)] := rfl

theorem rectangles_binary (op : BinaryOp) (left right : Expr) :
    (Expr.binary op left right).rectangles = left.rectangles ++ right.rectangles :=
  List.filterMap_append

theorem rectangles_unary (op : UnaryOp) (operand : Expr) :
    (Expr.unary op operand).rectangles = operand.rectangles := rfl

theorem rectangles_call (name : String) (args : List Expr) :
    (Expr.call name args).rectangles = args.flatMap Expr.rectangles := by
  change (subexpressionsOf args).filterMap Expr.corners? = _
  induction args with
  | nil => rfl
  | cons e rest ih =>
      rw [subexpressionsOf, List.filterMap_append, ih, List.flatMap_cons, Expr.rectangles]

mutual

/-- The references of an expression are the cells of its rectangles, one rectangle after the
other. -/
theorem references_eq_flatMap : (e : Expr) →
    e.references = e.rectangles.flatMap fun corners => Address.rectangle corners.1 corners.2
  | .literal _ => rfl
  | .cell a => by
      rw [Expr.references, rectangles_cell, List.flatMap_singleton, Address.rectangle_self]
  | .range first last => by
      rw [Expr.references, rectangles_range, List.flatMap_singleton]
  | .binary op left right => by
      rw [Expr.references, rectangles_binary, List.flatMap_append, references_eq_flatMap left,
        references_eq_flatMap right]
  | .unary op operand => by
      rw [Expr.references, rectangles_unary, references_eq_flatMap operand]
  | .call name args => by
      rw [Expr.references, rectangles_call, referencesOf_eq_flatMap args]

theorem referencesOf_eq_flatMap : (args : List Expr) → referencesOf args =
    (args.flatMap Expr.rectangles).flatMap fun corners => Address.rectangle corners.1 corners.2
  | [] => rfl
  | e :: rest => by
      rw [referencesOf, List.flatMap_cons, List.flatMap_append, references_eq_flatMap e,
        referencesOf_eq_flatMap rest]

end

mutual

/-- The addresses in an expression are corners of its rectangles. -/
theorem addresses_sublist : (e : Expr) →
    e.addresses.Sublist (e.rectangles.flatMap fun corners => [corners.1, corners.2])
  | .literal _ => .slnil
  | .cell a => .cons a (.refl [a])
  | .range first last => .refl [first, last]
  | .binary op left right => by
      rw [Expr.addresses, rectangles_binary, List.flatMap_append]
      exact (addresses_sublist left).append (addresses_sublist right)
  | .unary op operand => by
      rw [Expr.addresses, rectangles_unary]
      exact addresses_sublist operand
  | .call name args => by
      rw [Expr.addresses, rectangles_call]
      exact addressesOf_sublist args

theorem addressesOf_sublist : (args : List Expr) → (addressesOf args).Sublist
    ((args.flatMap Expr.rectangles).flatMap fun corners => [corners.1, corners.2])
  | [] => .slnil
  | e :: rest => by
      rw [addressesOf, List.flatMap_cons, List.flatMap_append]
      exact (addresses_sublist e).append (addressesOf_sublist rest)

end

end Rectangles

/-- All rectangles that the expression names have their corners in order. -/
def Expr.Framed (e : Expr) : Prop :=
  ∀ corners ∈ e.rectangles, corners.1.Frames corners.2

namespace Grammar

variable {owner : String}

theorem Corner.inBounds (c : Corner) (sheet : String) : Address.InBounds ⟨sheet, c.row, c.col⟩ :=
  Address.inBounds_of_parseLocal? c.spelled sheet

/-- The lesser and the greater coordinates of two corners are corners in order. -/
theorem Corner.frames (first last : Corner) (sheet : String) :
    Address.Frames ⟨sheet, min first.row last.row, min first.col last.col⟩
      ⟨sheet, max first.row last.row, max first.col last.col⟩ := by
  obtain ⟨row, col⟩ := first.inBounds sheet
  obtain ⟨row', col'⟩ := last.inBounds sheet
  refine ⟨rfl, min_le_max, min_le_max, ⟨?_, ?_⟩, ⟨?_, ?_⟩⟩
  · exact Nat.lt_of_le_of_lt (Nat.min_le_left _ _) row
  · exact Nat.lt_of_le_of_lt (Nat.min_le_left _ _) col
  · exact Nat.max_lt.mpr ⟨row, row'⟩
  · exact Nat.max_lt.mpr ⟨col, col'⟩

theorem Leaf.framed (leaf : Leaf owner) : leaf.expr.Framed := by
  cases leaf with
  | literal token value spelled => exact nofun
  | cell place => exact List.forall_mem_singleton.mpr (place.inBounds _).frames
  | range first last together => exact List.forall_mem_singleton.mpr (first.frames last _)
  | emptyCall name => exact nofun

theorem framed_percented {e : Expr} (h : e.Framed) (count : Nat) : (percented e count).Framed := by
  induction count with
  | zero => exact h
  | succ count ih => exact ih

mutual

/-- What a derivation derives has its corners in order. Every rule above the leaves hands on the
rectangles of its parts. -/
theorem Derivation.framed {l : Nat} : (d : Derivation owner l) → d.expr.Framed
  | .operand d => by
      rw [Derivation.expr]
      exact d.framed
  | .binary left op leveled right => by
      rw [Derivation.expr, Expr.Framed, rectangles_binary, List.forall_mem_append]
      exact ⟨left.framed, right.framed⟩
  | .signed op leading d => by
      rw [Derivation.expr, Expr.Framed, rectangles_unary]
      exact d.framed
  | .percents p count => by
      rw [Derivation.expr]
      exact framed_percented p.framed count

theorem Primary.framed : (p : Primary owner) → p.expr.Framed
  | .leaf leaf => by
      rw [Primary.expr]
      exact leaf.framed
  | .group inner => by
      rw [Primary.expr]
      exact inner.framed
  | .call name args => by
      rw [Primary.expr, Expr.Framed, rectangles_call, List.forall_mem_flatMap]
      exact args.framed

theorem Arguments.framed : (args : Arguments owner) → ∀ arg ∈ args.exprs, arg.Framed
  | .last d => by
      rw [Arguments.exprs, List.forall_mem_singleton]
      exact d.framed
  | .more d others => by
      rw [Arguments.exprs, List.forall_mem_cons]
      exact ⟨d.framed, others.framed⟩

end

end Grammar

/-- What is read from a text has its corners in order. -/
theorem framed_of_parse {text sheet : String} {e : Expr} (h : parse text sheet = .ok e) :
    e.Framed := by
  obtain ⟨ts, -, parsed⟩ := parse_eq_ok_iff.mp h
  obtain ⟨d, -, rfl⟩ := Parser.parseTokens_eq_ok_iff_exists.mp parsed
  exact d.framed

/-- What holds of the references in a formula that was read. -/
structure Expr.Orderly (e : Expr) : Prop where
  /-- Both corners of a range lie on one sheet, the first above and to the left of the last. -/
  range : ∀ first last, .range first last ∈ e.subexpressions →
    first.sheet = last.sheet ∧ first.row ≤ last.row ∧ first.col ≤ last.col
  inBounds : ∀ a ∈ e.addresses, a.row < 9999999 ∧ a.col < 18278
  /-- The references are the cells of one rectangle after the other. -/
  references : ∃ lists : List (List Address), e.references = lists.flatten ∧
    List.Forall₂ (fun cells corners => Address.Enumerates cells corners.1 corners.2) lists
      e.rectangles
  /-- The columns of corners can be subtracted, and the width found, in 32-bit words. -/
  width : ∀ first last, (first, last) ∈ e.rectangles → first.col ≤ last.col ∧
    (UInt32.ofNat last.col - UInt32.ofNat first.col + 1).toNat = last.col - first.col + 1
  /-- Evaluating reads the block that an argument names with that width. -/
  evaluation : ∀ {m : Type → Type} [Monad m] [MonadExceptOf CompileError m]
    (read : Address → m Value) (cell : Address) (arg : Evaluation.Argument m)
      (first last : Address),
    arg.expr ∈ e.subexpressions → arg.expr.corners? = some (first, last) →
    Evaluation.block read cell arg = do
      let values ← (Address.rectangle first last).mapM read
      return ⟨values, last.col - first.col + 1⟩
  /-- So does lowering. -/
  lowering : ∀ (scope : Lowering.Scope) (types : Lowering.Types) (cell : Address)
    (arg : Lowering.Argument) (first last : Address),
    arg.expr ∈ e.subexpressions → arg.expr.corners? = some (first, last) →
    Lowering.block scope types cell arg = do
      return ⟨← scope.rectangle types cell first last, last.col - first.col + 1⟩

section Orderly

variable {e part : Expr} {first last : Address}

theorem Expr.Framed.frames (h : e.Framed) (inside : part ∈ e.subexpressions)
    (corners : part.corners? = some (first, last)) : first.Frames last :=
  h (first, last) (List.mem_filterMap.mpr ⟨part, inside, corners⟩)

theorem Expr.Framed.inBounds (h : e.Framed) {a : Address} (member : a ∈ e.addresses) :
    a.InBounds := by
  obtain ⟨corners, named, corner⟩ := List.mem_flatMap.mp ((addresses_sublist e).subset member)
  have frames := h corners named
  rcases List.mem_pair.mp corner with rfl | rfl
  · exact frames.inBounds_first
  · exact frames.inBounds_last

theorem exists_enumerations (e : Expr) : ∃ lists :
    List (List Address), e.references = lists.flatten ∧
    List.Forall₂ (fun cells corners => Address.Enumerates cells corners.1 corners.2) lists
      e.rectangles := by
  refine ⟨e.rectangles.map fun corners => Address.rectangle corners.1 corners.2, ?_, ?_⟩
  · rw [references_eq_flatMap, List.flatMap_def]
  · rw [List.forall₂_map_left_iff, List.forall₂_same]
    intro corners _
    exact Address.enumerates_rectangle corners.1 corners.2

end Orderly

/-- A formula that was read is orderly, whatever its text and its sheet. -/
theorem parse_orderly (text sheet : String) (e : Expr) (h : parse text sheet = .ok e) :
    e.Orderly := by
  have framed := framed_of_parse h
  constructor
  case range =>
    intro first last inside
    have frames := framed.frames inside rfl
    exact ⟨frames.sheet, frames.row, frames.col⟩
  case inBounds =>
    intro a member
    have bounded := framed.inBounds member
    exact ⟨bounded.row, bounded.col⟩
  case references => exact exists_enumerations e
  case width =>
    intro first last named
    have frames := framed (first, last) named
    exact ⟨frames.col, frames.toNat_sub_add_one⟩
  case evaluation =>
    intro m _ _ read cell arg first last inside corners
    simp only [Evaluation.block, corners, (framed.frames inside corners).width_eq]
  case lowering =>
    intro scope types cell arg first last inside corners
    simp only [Lowering.block, corners, (framed.frames inside corners).width_eq]

/-- The tokens of a formula whose ranges start at corners in the wrong place, with the last cell
that can be spelled. -/
def crossedTokens : List Token :=
  [.identifier "Index", .openParen, .sheet "It's", .identifier "$C$20", .colon, .sheet "It's",
    .identifier "a3", .comma, .operator .minus, .identifier "zzz9999999", .operator .percent,
    .closeParen, .operator .ampersand, .identifier "SUM", .openParen, .identifier "B2", .colon,
    .identifier "a1", .comma, .sheet "Other", .identifier "D4", .colon, .identifier "C9",
    .closeParen]

/-- The formula on the sheet `S`. -/
def crossedCorners : Expr :=
  .binary .concat
    (.call "INDEX" [.range ⟨"It's", 2, 0⟩ ⟨"It's", 19, 2⟩,
      .unary .neg (.unary .percent (.cell ⟨"S", 9999998, 18277⟩))])
    (.call "SUM" [.range ⟨"S", 0, 0⟩ ⟨"S", 1, 1⟩, .range ⟨"Other", 3, 2⟩ ⟨"Other", 8, 3⟩])

open Grammar (Arguments Derivation) in
/-- How the tokens make up the formula. -/
def crossedDerivation : Derivation "S" 5 :=
  let whole (d : Derivation "S" 0) : Derivation "S" 5 :=
    .operand (.operand (.operand (.operand (.operand d))))
  let index : Arguments "S" :=
    .more (whole (.percents (.leaf (.range ⟨some "It's", "$C$20", 19, 2, by decide +kernel⟩
        ⟨some "It's", "a3", 2, 0, by decide +kernel⟩ rfl)) 0))
      (.last (whole (.signed .neg (by decide)
        (.percents (.leaf (.cell ⟨none, "zzz9999999", 9999998, 18277, by decide +kernel⟩)) 1))))
  let sum : Arguments "S" :=
    .more (whole (.percents (.leaf (.range ⟨none, "B2", 1, 1, by decide +kernel⟩
        ⟨none, "a1", 0, 0, by decide +kernel⟩ rfl)) 0))
      (.last (whole (.percents (.leaf (.range ⟨some "Other", "D4", 3, 3, by decide +kernel⟩
        ⟨none, "C9", 8, 2, by decide +kernel⟩ rfl)) 0)))
  .operand (.binary (.operand (.operand (.operand (.operand (.percents (.call "Index" index) 0)))))
    .concat (by decide) (.operand (.operand (.operand (.percents (.call "SUM" sum) 0)))))

theorem crossedCorners_orderly :
    parse "=Index('It''s'!$C$20:'It''s'!a3, -zzz9999999%) & SUM(B2:a1, Other!D4:C9)" "S" =
      .ok crossedCorners ∧ crossedCorners.Orderly := by
  have cut : tokenize "=Index('It''s'!$C$20:'It''s'!a3, -zzz9999999%) & SUM(B2:a1, Other!D4:C9)" =
      .ok crossedTokens := by decide +kernel
  have read : parseTokens crossedTokens "S" = .ok crossedCorners :=
    Parser.parseTokens_eq_ok_iff_exists.mpr ⟨crossedDerivation, by decide +kernel, rfl⟩
  have parsed :
      parse "=Index('It''s'!$C$20:'It''s'!a3, -zzz9999999%) & SUM(B2:a1, Other!D4:C9)" "S" =
      .ok crossedCorners := by
    rw [parse, cut]
    exact read
  exact ⟨parsed, parse_orderly _ _ _ parsed⟩

end Formula

end SheetCompiler
