import SheetCompiler.Proofs.Lowering.Stems

/-!
# Numbers in ranges

Functions of a sequence pick the numbers of a range twice: lowering by the static types of the
cells, evaluation by their values. The two agree on a cell whose value stems from a number exactly
if its type is numeric. Counting goes one step further, since it is folded to a constant: single
arguments count, too, unless they are texts.
-/

namespace SheetCompiler.Lowering

open Code (ValueType)
open Evaluation (Memory eval evaluateCell shown valueOf)
open Formula (Expr Function callsOf)

variable {w : Workbook} {scope : Scope} {types : Types} {cell : Address}

section Calls

variable {f : Function} {args : List Argument} {arg : Argument}

theorem exists_fits_of_mem {position : Nat} (h : FitsFrom f position args) (member : arg ∈ args) :
    ∃ role, arg.Fits role := by
  induction args generalizing position with
  | nil => cases member
  | cons first rest ih =>
      cases List.mem_cons.mp member with
      | inl same => exact ⟨_, same ▸ h.1⟩
      | inr later => exact ih h.2 later

/-- What a call makes of an argument is lowered, or it holds no calls. -/
theorem Argument.Fits.lowered_or {role : Formula.Role} (h : arg.Fits role) :
    (∃ t, arg.typed = .ok t) ∨ arg.expr.calls = [] := by
  have bare {e : Expr} (corners : e.corners?.isSome) : e.calls = [] := by
    cases e with
    | cell | range => rfl
    | literal | binary | unary | call => cases corners
  cases role with
  | single => exact .inl h
  | block => exact .inr (bare h)
  | sequence =>
      rcases h with range | typed
      · refine .inr ?_
        cases e : arg.expr with
        | range first last => rfl
        | literal | cell | binary | unary | call =>
            rw [e] at range
            cases range
      · exact .inl typed

mutual

/-- In a formula that is lowered, every call is. -/
theorem exists_lower_of_mem_calls : (e : Expr) → {t : Typed} → lower scope types cell e = .ok t →
    ∀ name args, (name, args) ∈ e.calls → ∃ t, lower scope types cell (.call name args) = .ok t
  | .literal _, _, _ => nofun
  | .cell _, _, _ => nofun
  | .range .., _, _ => nofun
  | .unary _ operand, _, lowered => by
      obtain ⟨o, inner, -⟩ := bind_eq_ok.mp lowered
      exact exists_lower_of_mem_calls operand inner
  | .binary _ left right, _, lowered => by
      intro name args member
      simp only [lower, bind_eq_ok] at lowered
      obtain ⟨l, first, r, second, -⟩ := lowered
      rcases List.mem_append.mp member with inLeft | inRight
      · exact exists_lower_of_mem_calls left first name args inLeft
      · exact exists_lower_of_mem_calls right second name args inRight
  | .call called given, t, lowered => by
      intro name args member
      rcases List.mem_cons.mp member with same | inner
      · cases same
        exact ⟨t, lowered⟩
      · obtain ⟨f, -, -, code, -⟩ := callCode_of_lower (fun _ => .ok .blank) lowered
        refine exists_lower_of_mem_callsOf given (fun e listed => ?_) name args inner
        obtain ⟨role, fits⟩ := exists_fits_of_mem code.fits (List.mem_map.mpr ⟨e, listed, rfl⟩)
        exact fits.lowered_or

theorem exists_lower_of_mem_callsOf : (given : List Expr) →
    (∀ e ∈ given, (∃ t, lower scope types cell e = .ok t) ∨ e.calls = []) →
    ∀ name args, (name, args) ∈ callsOf given → ∃ t,
    lower scope types cell (.call name args) = .ok t
  | [], _ => nofun
  | e :: rest, each => by
      intro name args member
      rw [List.forall_mem_cons] at each
      rcases List.mem_append.mp member with here | later
      · rcases each.1 with ⟨t, lowered⟩ | bare
        · exact exists_lower_of_mem_calls e lowered name args here
        · rw [bare] at here
          cases here
      · exact exists_lower_of_mem_callsOf rest each.2 name args later

end

end Calls

section Items

variable {args more : List Argument} {arg : Argument} {its : List Item}

theorem items_cons_eq_ok : items scope types cell (arg :: args) = .ok its ↔
    ∃ part others, itemsOf scope types cell arg = .ok part ∧
      items scope types cell args = .ok others ∧ part ++ others = its := by
  simp only [items, List.mapM_cons, bind_eq_ok, pure_eq_ok]
  constructor
  · rintro ⟨parts, ⟨part, first, rest, others, rfl⟩, rfl⟩
    exact ⟨part, rest.flatten, first, ⟨rest, others, rfl⟩, rfl⟩
  · rintro ⟨part, others, first, ⟨rest, found, rfl⟩, rfl⟩
    exact ⟨part :: rest, ⟨part, first, rest, found, rfl⟩, rfl⟩

theorem items_append_eq_ok : items scope types cell (args ++ more) = .ok its ↔
    ∃ ahead behind, items scope types cell args = .ok ahead ∧
      items scope types cell more = .ok behind ∧ ahead ++ behind = its := by
  induction args generalizing its with
  | nil =>
      constructor
      · intro all
        exact ⟨[], its, rfl, all, rfl⟩
      · rintro ⟨ahead, behind, none, all, rfl⟩
        cases none
        exact all
  | cons arg rest ih =>
      simp only [List.cons_append, items_cons_eq_ok, ih]
      constructor
      · rintro ⟨part, _, first, ⟨ahead, behind, found, after, rfl⟩, rfl⟩
        exact ⟨part ++ ahead, behind, ⟨part, ahead, first, found, rfl⟩, after, List.append_assoc ..⟩
      · rintro ⟨_, behind, ⟨part, ahead, first, found, rfl⟩, after, rfl⟩
        exact ⟨part, ahead ++ behind, first, ⟨ahead, behind, found, after, rfl⟩,
          (List.append_assoc ..).symm⟩

/-- The functions of the numbers in a sequence, each with its helper. -/
def numberFunctions : List (Function × String) :=
  (.npv, "Npv") :: aggregates

/-- Each of them gets the numbers of all its arguments in order. -/
theorem lower_numberFunction {name helper : String} {f : Function} {args : List Expr} {t : Typed}
    (named : Function.ofName? name = some f) (known : (f, helper) ∈ numberFunctions)
    (lowered : lower scope types cell (.call name args) = .ok t) :
    ∃ its, items scope types cell (arguments scope types cell args) = .ok its ∧
      t = .number (.support helper (its.filterMap Item.number?)) := by
  obtain ⟨fault, code, -⟩ := lower_call (fun _ => .ok .blank) named lowered
  simp only [numberFunctions, aggregates, List.mem_cons, Prod.mk.injEq, List.not_mem_nil,
    or_false] at known
  rcases known with ⟨rfl, rfl⟩ | ⟨rfl, rfl⟩ | ⟨rfl, rfl⟩ | ⟨rfl, rfl⟩ | ⟨rfl, rfl⟩ | ⟨rfl, rfl⟩
  case inl =>
    cases args with
    | nil => cases code
    | cons rate payments =>
        -- The rate comes first, as a number like the others.
        simp only [arguments, call, bind_eq_ok, pure_eq_ok] at code
        obtain ⟨r, first, its, others, rfl⟩ := code
        have rated : itemsOf scope types cell ⟨rate, lower scope types cell rate⟩ =
            .ok [.direct r] := by
          cases rate with
          | range => cases first
          | literal | cell | binary | unary | call => rw [first]; rfl
        exact ⟨.direct r :: its, items_cons_eq_ok.mpr ⟨_, its, rated, others, rfl⟩, rfl⟩
  all_goals
    obtain ⟨its, found, same⟩ := bind_eq_ok.mp code
    exact ⟨its, found, (pure_eq_ok.mp same).symm⟩

/-- The numbers of a range stand between those of the arguments around it. -/
theorem lower_range_call {name helper : String} {f : Function} {others later : List Expr}
    {first last : Address} {t : Typed} (named : Function.ofName? name = some f)
    (known : (f, helper) ∈ numberFunctions)
    (lowered : lower scope types cell (.call name (others ++ .range first last :: later)) = .ok t) :
    ∃ ahead part behind, items scope types cell (arguments scope types cell others) = .ok ahead ∧
      itemsOf scope types cell ⟨.range first last, lower scope types cell (.range first last)⟩ =
        .ok part ∧
      items scope types cell (arguments scope types cell later) = .ok behind ∧
      t = .number (.support helper (ahead.filterMap Item.number? ++ part.filterMap Item.number? ++
        behind.filterMap Item.number?)) := by
  obtain ⟨its, all, rfl⟩ := lower_numberFunction named known lowered
  simp only [arguments_eq_map, List.map_append, List.map_cons, items_append_eq_ok,
    items_cons_eq_ok] at all ⊢
  obtain ⟨ahead, _, front, ⟨part, behind, here, back, rfl⟩, rfl⟩ := all
  refine ⟨ahead, part, behind, front, here, back, ?_⟩
  rw [List.filterMap_append, List.filterMap_append, List.append_assoc]

end Items

section Ranges

variable (scope types cell)

/-- In a range, lowering takes the cell for a number: it exists, and a reference to it is
numeric. -/
def takesNumber (a : Address) : Bool :=
  (scope.workbook.cell? a).isSome &&
    match scope.reference types cell a with
    | .ok t => t.type.isNumeric
    | .error _ => false

/-- The code is a reference to the cell, as a number. -/
def RefersTo (a : Address) (code : Code.Expr) : Prop :=
  ∃ t, scope.reference types cell a = .ok t ∧ t.toNumber = code

variable {scope types cell} {first last : Address} {x : Except CompileError Typed}
  {part : List Item}

/-- A range passes on references to the cells that are taken for numbers, in order. -/
theorem refersTo_of_range (h : itemsOf scope types cell ⟨.range first last, x⟩ = .ok part) :
    List.Forall₂ (RefersTo scope types cell)
      ((Address.rectangle first last).filter (takesNumber scope types cell))
      (part.filterMap Item.number?) := by
  obtain ⟨cells, all, rfl⟩ := map_eq_ok.mp h
  rw [Scope.rectangle, mapM_eq_ok] at all
  clear h
  generalize Address.rectangle first last = addresses at all ⊢
  induction all with
  | nil => exact .nil
  | @cons a c addresses cells head _ ih =>
      split at head
      case isFalse absent =>
        cases head
        rw [List.filter_cons_of_neg (by simp [takesNumber, absent])]
        exact ih
      case isTrue present =>
        obtain ⟨t, reference, rfl⟩ := map_eq_ok.mp head
        have taken : takesNumber scope types cell a = t.type.isNumeric := by
          simp [takesNumber, present, reference]
        have listed : List.filterMap (Option.map Item.fromRange) (some t :: cells) =
          .fromRange t :: List.filterMap (Option.map Item.fromRange) cells := rfl
        rw [listed]
        cases numeric : t.type.isNumeric with
        | true =>
            rw [List.filter_cons_of_pos (taken.trans numeric),
              List.filterMap_cons_some (by rw [Item.number?, if_pos numeric])]
            exact .cons ⟨t, reference, rfl⟩ ih
        | false =>
            rw [List.filter_cons_of_neg (by simp [taken, numeric]),
              List.filterMap_cons_none (by simp [Item.number?, numeric])]
            exact ih

/-- A range counts as many items as cells are taken for numbers. -/
theorem countP_of_range (h : itemsOf scope types cell ⟨.range first last, x⟩ = .ok part) :
    part.countP Item.isCounted =
      (Address.rectangle first last).countP (takesNumber scope types cell) := by
  have counted : ∀ item ∈ part, item.isCounted = item.number?.isSome := by
    obtain ⟨cells, -, rfl⟩ := map_eq_ok.mp h
    intro item member
    obtain ⟨c, -, found⟩ := List.mem_filterMap.mp member
    obtain ⟨t, -, rfl⟩ := Option.map_eq_some_iff.mp found
    simp only [Item.isCounted, Item.number?]
    split <;> simp_all
  calc part.countP Item.isCounted
      = (part.filterMap Item.number?).length := by
        rw [List.length_filterMap_eq_countP, List.countP_congr]
        exact fun item member => by rw [counted item member]
    _ = ((Address.rectangle first last).filter (takesNumber scope types cell)).length :=
        (refersTo_of_range h).length_eq.symm
    _ = (Address.rectangle first last).countP (takesNumber scope types cell) :=
        List.countP_eq_length_filter.symm

end Ranges

section Values

/-- The cell shows a value that is no error. -/
def ShowsValue (w : Workbook) (a : Address) : Prop :=
  ∃ v, evaluateCell w a = .ok v ∧ ∀ e, v ≠ .error e

theorem ShowsValue.exists_valueOf {a : Address} (h : ShowsValue w a) :
    ∃ v, valueOf Memory.none w [] a = .ok v ∧ ∀ e, v ≠ .error e := by
  obtain ⟨v, value, noError⟩ := h
  obtain ⟨u, found, rfl⟩ := Evaluation.exists_valueOf_of_evaluateCell value
  exact ⟨u, found, fun e failed => noError e (ClassFile.shown_eq_error_iff.mpr failed)⟩

/-- The value of the cell is a number. The value of a formula can be blank, which shows as zero but
is no number. -/
def hasNumber (w : Workbook) (a : Address) : Bool :=
  match valueOf Memory.none w [] a with
  | .ok (.number _) => true
  | _ => false

variable {origin : Option ValueType} {v : Value}

theorem isCounted_fromRange (h : KindOf origin v) :
    (⟨v, true⟩ : Evaluation.Item).isCounted = origin.any ValueType.isNumeric := by
  cases origin with
  | none =>
      rw [show v = .blank from h]
      rfl
  | some type =>
      cases v with
      | number x => exact (show type.isNumeric = true from h).symm
      | text s => rw [show type = .text from h]; rfl
      | boolean b => rw [show type = .boolean from h]; rfl
      | error | blank => exact h.elim

theorem isCounted_direct {type : ValueType} (h : IsOf type v) (noText : type ≠ .text) :
    (⟨v, false⟩ : Evaluation.Item).isCounted := by
  cases v with
  | number | boolean => rfl
  | text s => exact absurd h noText
  | error | blank => exact h.elim

theorem hasNumber_eq_isCounted {a : Address} (value : valueOf Memory.none w [] a = .ok v) :
    hasNumber w a = (⟨v, true⟩ : Evaluation.Item).isCounted := by
  rw [hasNumber, value]
  cases v <;> rfl

variable {program : List Statement}

/-- A cell has a number exactly if its value stems from one. -/
theorem hasNumber_of_stemsFrom {a : Address} (shows : ShowsValue w a)
    (stems : StemsFrom w scope program types cell (.cell a) origin) :
    hasNumber w a = origin.any ValueType.isNumeric := by
  obtain ⟨v, value, noError⟩ := shows.exists_valueOf
  rw [hasNumber_eq_isCounted value]
  exact isCounted_fromRange (stems.kindOf value noError)

end Values

section Passing

variable {order : List Address} {inlineValues : Bool} {program before after : List Statement}
variable {s : Statement} {e : Expr} {name helper : String} {f : Function} {others later : List Expr}
variable {first last : Address}

theorem filter_eq_filter_iff {α : Type} {p q : α → Bool} {l : List α} :
    l.filter p = l.filter q ↔ ∀ a ∈ l, p a = q a := by
  refine ⟨fun same a member => ?_, List.filter_congr⟩
  rw [Bool.eq_iff_iff]
  have inside : a ∈ l.filter p ↔ a ∈ l.filter q := by rw [same]
  simpa [member] using inside

/-- Every value of the cells that a range refers to stems from somewhere. -/
theorem exists_origins {x : Except CompileError Typed} {part : List Item}
    (lowered : statements w inlineValues order = .ok program) (split : program = before ++ after)
    (h : itemsOf (Scope.ofWorkbook w inlineValues) (typesOf before) cell ⟨.range first last, x⟩ =
      .ok part)
    (shows : ∀ a ∈ Address.rectangle first last, ShowsValue w a) :
    ∃ origin : Address → Option ValueType, ∀ a ∈ Address.rectangle first last,
      StemsFrom w (Scope.ofWorkbook w inlineValues) program (typesOf before) cell (.cell a)
        (origin a) := by
  have each (a : Address) : ∃ origin, a ∈ Address.rectangle first last → StemsFrom w
      (Scope.ofWorkbook w inlineValues) program (typesOf before) cell (.cell a) origin := by
    by_cases member : a ∈ Address.rectangle first last
    · obtain ⟨v, value, noError⟩ := (shows a member).exists_valueOf
      obtain ⟨cells, all, -⟩ := bind_eq_ok.mp h
      obtain ⟨t, reference⟩ := exists_reference_of_rectangle all member
      have rooted : Rooted w (Scope.ofWorkbook w inlineValues) program (typesOf before) cell
          (.cell a) := rooted_of_statements lowered split
      obtain ⟨origin, stems⟩ := rooted t v reference value noError
      exact ⟨origin, fun _ => stems⟩
    · exact ⟨none, fun inside => absurd inside member⟩
  exact Classical.skolem.mp each

/-- A function of the numbers in a sequence gets, for a range, references to the cells that lowering
takes for numbers. They are the cells with a number exactly if no cell has changed sides: each is
taken for a number if its value stems from one, and only then. -/
theorem passes_numbers_iff (lowered : statements w inlineValues order = .ok program)
    (split : program = before ++ s :: after) (found : w.formula? s.cell = some e)
    (call : (name, others ++ .range first last :: later) ∈ e.calls)
    (named : Function.ofName? name = some f) (known : (f, helper) ∈ numberFunctions)
    (noError : ∀ a ∈ Address.rectangle first last, ShowsValue w a) :
    let scope := Scope.ofWorkbook w inlineValues
    let types := typesOf before
    let taken := (Address.rectangle first last).filter (takesNumber scope types s.cell)
    (∃ ahead codes behind,
      items scope types s.cell (arguments scope types s.cell others) = .ok ahead ∧
      items scope types s.cell (arguments scope types s.cell later) = .ok behind ∧
      lower scope types s.cell (.call name (others ++ .range first last :: later)) =
        .ok (.number (.support helper
          (ahead.filterMap Item.number? ++ codes ++ behind.filterMap Item.number?))) ∧
      List.Forall₂ (RefersTo scope types s.cell) taken codes) ∧
    ∃ origin : Address → Option ValueType,
      (∀ a ∈ Address.rectangle first last,
        StemsFrom w scope program types s.cell (.cell a) (origin a)) ∧
      (taken = (Address.rectangle first last).filter (hasNumber w) ↔
        ∀ a ∈ Address.rectangle first last,
          takesNumber scope types s.cell a = (origin a).any ValueType.isNumeric) := by
  intro scope types taken
  obtain ⟨t, code⟩ :=
    exists_lower_of_mem_calls e (lower_of_formula? lowered split found) name _ call
  obtain ⟨ahead, part, behind, front, here, back, rfl⟩ := lower_range_call named known code
  obtain ⟨origin, stems⟩ := exists_origins lowered split here noError
  refine ⟨⟨ahead, _, behind, front, back, code, refersTo_of_range here⟩, origin, stems, ?_⟩
  rw [filter_eq_filter_iff]
  refine forall₂_congr fun a member => ?_
  rw [hasNumber_of_stemsFrom (noError a member) (stems a member)]

/-- The sum of three cells, times the number of numbers in them. -/
def tallied : Expr :=
  .binary .mul (.call "SUM" [.range ⟨"S", 0, 0⟩ ⟨"S", 2, 0⟩])
    (.call "COUNT" [.range ⟨"S", 0, 0⟩ ⟨"S", 2, 0⟩, .literal (.boolean true)])

/-- A number, a text, a choice between a number and a truth value, and totals of the three. -/
def tally (x : Float) : Workbook where
  name := "Tally"
  sheets := ["S"]
  cells := .ofList [(⟨"S", 0, 0⟩, ⟨.value (.number x), none, none⟩),
    (⟨"S", 1, 0⟩, ⟨.value (.text "n/a"), none, none⟩),
    (⟨"S", 2, 0⟩, ⟨.formula "IF(TRUE,A1,FALSE)" (.call "IF"
      [.literal (.boolean true), .cell ⟨"S", 0, 0⟩, .literal (.boolean false)]), none, none⟩),
    (⟨"S", 0, 1⟩, ⟨.formula "SUM(A1:A3)*COUNT(A1:A3,TRUE)" tallied, none, none⟩)]

theorem exists_statements_tally : ∃ inputs choice s,
    statements (tally 2.0) false [⟨"S", 2, 0⟩, ⟨"S", 0, 1⟩] = .ok (inputs ++ [choice] ++ [s]) ∧
      choice.cell = ⟨"S", 2, 0⟩ ∧ s.cell = ⟨"S", 0, 1⟩ ∧
      typesOf (inputs ++ [choice]) =
        .ofList [(⟨"S", 0, 0⟩, .number), (⟨"S", 1, 0⟩, .text), (⟨"S", 2, 0⟩, .number)] := by
  have shape : (statements (tally 2.0) false [⟨"S", 2, 0⟩, ⟨"S", 0, 1⟩]).map
      (·.map fun s => (s.cell, s.type)) = .ok ([(⟨"S", 0, 0⟩, .number), (⟨"S", 1, 0⟩, .text)] ++
        [(⟨"S", 2, 0⟩, .number)] ++ [(⟨"S", 0, 1⟩, .number)]) := by decide +kernel
  obtain ⟨program, lowered, shape⟩ := map_eq_ok.mp shape
  obtain ⟨before, last, rfl, types, final⟩ := List.map_eq_append_iff.mp shape
  obtain ⟨inputs, middle, rfl, -, branch⟩ := List.map_eq_append_iff.mp types
  obtain ⟨choice, rfl, chosen⟩ := List.map_eq_singleton_iff.mp branch
  obtain ⟨s, rfl, total⟩ := List.map_eq_singleton_iff.mp final
  exact ⟨inputs, choice, s, lowered, congrArg Prod.fst chosen, congrArg Prod.fst total,
    congrArg OrderedMap.ofList types⟩

theorem rectangle_tally : Address.rectangle ⟨"S", 0, 0⟩ ⟨"S", 2, 0⟩ =
    [⟨"S", 0, 0⟩, ⟨"S", 1, 0⟩, ⟨"S", 2, 0⟩] := by decide +kernel

theorem showsValue_tally :
    ∀ a ∈ Address.rectangle ⟨"S", 0, 0⟩ ⟨"S", 2, 0⟩, ShowsValue (tally 2.0) a := by
  rw [rectangle_tally, List.forall_mem_cons, List.forall_mem_cons, List.forall_mem_singleton]
  exact ⟨⟨.number 2.0, Evaluation.evaluateCell_eq_ok (v := .number 2.0) ⟨1, rfl⟩, nofun⟩,
    ⟨.text "n/a", Evaluation.evaluateCell_eq_ok (v := .text "n/a") ⟨1, rfl⟩, nofun⟩,
    ⟨.number 2.0, Evaluation.evaluateCell_eq_ok (v := .number 2.0) ⟨2, rfl⟩, nofun⟩⟩

theorem formula?_tally : (tally 2.0).formula? ⟨"S", 0, 1⟩ = some tallied := rfl

/-- The text is passed over, and the choice is not. -/
theorem tally_passes_numbers : ∃ program before s,
    statements (tally 2.0) false [⟨"S", 2, 0⟩, ⟨"S", 0, 1⟩] = .ok program ∧
      program = before ++ [s] ∧ s.cell = ⟨"S", 0, 1⟩ ∧
      ∃ codes, lower (Scope.ofWorkbook (tally 2.0) false) (typesOf before) s.cell
          (.call "SUM" [.range ⟨"S", 0, 0⟩ ⟨"S", 2, 0⟩]) = .ok (.number (.support "Sum" codes)) ∧
        List.Forall₂ (RefersTo (Scope.ofWorkbook (tally 2.0) false) (typesOf before) s.cell)
          ((Address.rectangle ⟨"S", 0, 0⟩ ⟨"S", 2, 0⟩).filter (hasNumber (tally 2.0))) codes ∧
        ∃ origin : Address → Option ValueType, ∀ a ∈ Address.rectangle ⟨"S", 0, 0⟩ ⟨"S", 2, 0⟩,
          StemsFrom (tally 2.0) (Scope.ofWorkbook (tally 2.0) false) program (typesOf before) s.cell
            (.cell a) (origin a) ∧
          takesNumber (Scope.ofWorkbook (tally 2.0) false) (typesOf before) s.cell a =
            (origin a).any ValueType.isNumeric := by
  obtain ⟨inputs, choice, s, lowered, -, total, types⟩ := exists_statements_tally
  have call : ("SUM", ([] : List Expr) ++ .range ⟨"S", 0, 0⟩ ⟨"S", 2, 0⟩ :: []) ∈ tallied.calls :=
    List.mem_cons_self
  have known : (Function.sum, "Sum") ∈ numberFunctions := by decide
  obtain ⟨⟨ahead, codes, behind, front, back, code, refers⟩, origin, stems, agree⟩ :=
    passes_numbers_iff lowered rfl (total ▸ formula?_tally) call (by decide) known
      showsValue_tally
  have taken : (Address.rectangle ⟨"S", 0, 0⟩ ⟨"S", 2, 0⟩).filter (takesNumber
      (Scope.ofWorkbook (tally 2.0) false) (typesOf (inputs ++ [choice])) s.cell) =
      [⟨"S", 0, 0⟩, ⟨"S", 2, 0⟩] := by
    rw [types, total]
    decide +kernel
  have numbers : (Address.rectangle ⟨"S", 0, 0⟩ ⟨"S", 2, 0⟩).filter (hasNumber (tally 2.0)) =
      [⟨"S", 0, 0⟩, ⟨"S", 2, 0⟩] := by
    rw [rectangle_tally]
    decide +kernel
  cases front
  cases back
  have same := taken.trans numbers.symm
  refine ⟨_, _, s, lowered, rfl, total, codes, ?_, same ▸ refers, origin, fun a member => ?_⟩
  · simpa using code
  · exact ⟨stems a member, agree.mp same a member⟩

/-- A choice between a number and a truth value, and a sum of it. -/
def undecided : Workbook where
  name := "Undecided"
  sheets := ["S"]
  cells := .ofList [(⟨"S", 0, 0⟩, ⟨.formula "IF(FALSE,1,TRUE)" (.call "IF"
      [.literal (.boolean false), .literal (.integer 1), .literal (.boolean true)]), none, none⟩),
    (⟨"S", 0, 1⟩,
      ⟨.formula "SUM(A1:A2)" (.call "SUM" [.range ⟨"S", 0, 0⟩ ⟨"S", 1, 0⟩]), none, none⟩)]

/-- The truth value is passed on, since the choice has the type of numbers. -/
theorem undecided_passes_boolean :
    (statements undecided false [⟨"S", 0, 0⟩, ⟨"S", 0, 1⟩]).map
        (fun program => program.getLast?.map (·.expr.render)) = .ok (some "XlRuntime.Sum(S_A1)") ∧
      evaluateCell undecided ⟨"S", 0, 0⟩ = .ok (.boolean true) ∧
      evaluateCell undecided ⟨"S", 1, 0⟩ = .ok .blank := by
  have choice : undecided.formula? ⟨"S", 0, 0⟩ = some (.call "IF"
      [.literal (.boolean false), .literal (.integer 1), .literal (.boolean true)]) := rfl
  refine ⟨by decide +kernel, ?_, Evaluation.evaluateCell_eq_ok (v := .blank) ⟨1, rfl⟩⟩
  exact Evaluation.evaluateCell_eq_ok ⟨1, (Evaluation.valueWithin_formula choice 0).trans rfl⟩

end Passing

section Counting

variable (w scope types cell) (program : List Statement)

/-- No value in the argument is an error. In a range, each cell is taken for a number exactly if its
value stems from one; a single value stems from an expression or a cell that is there, and from no
text. -/
def Unmixed : Expr → Prop
  | .range first last => ∀ a ∈ Address.rectangle first last, ShowsValue w a ∧
      ∃ origin, StemsFrom w scope program types cell (.cell a) origin ∧
        takesNumber scope types cell a = origin.any ValueType.isNumeric
  | e => ∃ v type, eval (valueOf Memory.none w []) cell e = .ok v ∧ (∀ e, v ≠ .error e) ∧
      StemsFrom w scope program types cell e (some type) ∧ type ≠ .text

variable {w scope types cell program} {its : List Item} {first last : Address}

/-- A count that is folded to a literal has no text to look at. -/
theorem count_eq_literal {k : Int64} (h : (count its).expr = .literal (.integer k)) :
    k = .ofNat (its.countP Item.isCounted) ∧ ∀ t, .direct t ∈ its → t.type ≠ .text := by
  have unchecked : its.filterMap Item.countCheck? = [] := by
    rcases List.eq_nil_or_concat (its.filterMap Item.countCheck?) with none | ⟨checks, last, some⟩
    · exact none
    · simp [count, some] at h
  constructor
  · simp only [count, unchecked, List.foldl_nil] at h
    cases h
    rfl
  · intro t member isText
    have check : Item.countCheck? (.direct t) = some (.support "CountNumeric" [t.expr]) := by
      rw [Item.countCheck?, if_pos isText]
    have listed := List.mem_filterMap.mpr ⟨_, member, check⟩
    rw [unchecked] at listed
    cases listed

/-- Of the values of an unmixed range, as many count as cells are taken for numbers. -/
theorem exists_values_of_unmixed (h : Unmixed w scope types cell program (.range first last)) :
    ∃ values, (Address.rectangle first last).mapM (valueOf Memory.none w []) = .ok values ∧
      (Address.rectangle first last).countP (takesNumber scope types cell) =
        (values.map fun v => (⟨v, true⟩ : Evaluation.Item)).countP Evaluation.Item.isCounted := by
  rw [Unmixed] at h
  generalize Address.rectangle first last = addresses at h ⊢
  induction addresses with
  | nil => exact ⟨[], rfl, rfl⟩
  | cons a addresses ih =>
      rw [List.forall_mem_cons] at h
      obtain ⟨⟨shows, origin, stems, same⟩, others⟩ := h
      obtain ⟨v, value, noError⟩ := shows.exists_valueOf
      obtain ⟨values, reads, counts⟩ := ih others
      refine ⟨v :: values, ?_, ?_⟩
      · rw [List.mapM_cons, value, reads]
        rfl
      · rw [List.map_cons, List.countP_cons, List.countP_cons, counts, same,
          isCounted_fromRange (stems.kindOf value noError)]

/-- Of unmixed arguments, lowering counts as many items as evaluation. -/
theorem exists_sequence_of_unmixed {args : List Expr}
    (unmixed : ∀ e ∈ args, Unmixed w scope types cell program e)
    (h : items scope types cell (arguments scope types cell args) = .ok its)
    (noText : ∀ t, .direct t ∈ its → t.type ≠ .text) :
    ∃ found, Evaluation.sequence (valueOf Memory.none w [])
        (Evaluation.arguments (valueOf Memory.none w []) cell args) = .ok found ∧
      its.countP Item.isCounted = found.countP Evaluation.Item.isCounted := by
  induction args generalizing its with
  | nil =>
      cases h
      exact ⟨[], rfl, rfl⟩
  | cons arg rest ih =>
      rw [arguments] at h
      obtain ⟨part, others, here, back, rfl⟩ := items_cons_eq_ok.mp h
      rw [List.forall_mem_cons] at unmixed
      obtain ⟨found, later, counts⟩ :=
        ih unmixed.2 back fun t member => noText t (List.mem_append_right _ member)
      rw [Evaluation.arguments, List.countP_append, counts]
      cases kind : arg.isRange with
      | true =>
          cases arg with
          | range first last =>
              obtain ⟨values, reads, same⟩ := exists_values_of_unmixed unmixed.1
              refine ⟨_, sequence_range reads later, ?_⟩
              rw [List.countP_append, countP_of_range here, same]
          | literal | cell | binary | unary | call => cases kind
      | false =>
          obtain ⟨t, -, rfl⟩ := itemsOf_direct kind here
          have direct : ∃ v type, eval (valueOf Memory.none w []) cell arg = .ok v ∧
              (∀ e, v ≠ .error e) ∧ StemsFrom w scope program types cell arg (some type) ∧
              type ≠ .text := by
            cases arg with
            | range first last => cases kind
            | literal | cell | binary | unary | call => exact unmixed.1
          obtain ⟨v, type, value, noError, stems, notText⟩ := direct
          have static : Item.isCounted (.direct t) := by
            simpa [Item.isCounted] using noText t (List.mem_append_left _ List.mem_cons_self)
          have dynamic := isCounted_direct (stems.kindOf value noError) notText
          rw [value]
          refine ⟨_, sequence_direct kind later, ?_⟩
          rw [List.countP_singleton, if_pos static, List.countP_cons_of_pos dynamic, Nat.add_comm]

variable {order : List Address} {inlineValues : Bool} {before after : List Statement}
variable {s : Statement} {e : Expr} {name : String} {args : List Expr}

/-- A count of unmixed arguments that is folded to a literal is the number of items that count. -/
theorem folded_count (lowered : statements w inlineValues order = .ok program)
    (split : program = before ++ s :: after) (found : w.formula? s.cell = some e)
    (call : (name, args) ∈ e.calls) (named : Function.ofName? name = some .count)
    (unmixed : ∀ arg ∈ args,
      Unmixed w (Scope.ofWorkbook w inlineValues) (typesOf before) s.cell program arg) :
    ∃ t, lower (Scope.ofWorkbook w inlineValues) (typesOf before) s.cell (.call name args) = .ok t ∧
      ∀ k, t.expr = .literal (.integer k) →
        ∃ items, Evaluation.sequence (valueOf Memory.none w [])
            (Evaluation.arguments (valueOf Memory.none w []) s.cell args) = .ok items ∧
          k = .ofNat (items.countP Evaluation.Item.isCounted) ∧
          eval (valueOf Memory.none w []) s.cell (.call name args) =
            .ok (.number (.ofNat (items.countP Evaluation.Item.isCounted))) := by
  obtain ⟨t, code⟩ :=
    exists_lower_of_mem_calls e (lower_of_formula? lowered split found) name args call
  refine ⟨t, code, fun k literal => ?_⟩
  obtain ⟨fault, counted, evaluated⟩ := lower_call (valueOf Memory.none w []) named code
  obtain ⟨its, all, rfl⟩ := map_eq_ok.mp counted
  obtain ⟨rfl, noText⟩ := count_eq_literal literal
  obtain ⟨items, sequenced, same⟩ := exists_sequence_of_unmixed unmixed all noText
  refine ⟨items, sequenced, by rw [same], ?_⟩
  rw [evaluated]
  exact map_eq_ok.mpr ⟨items, sequenced, rfl⟩

theorem unmixed_tally {inputs : List Statement} {choice s : Statement}
    (chosen : choice.cell = ⟨"S", 2, 0⟩) (total : s.cell = ⟨"S", 0, 1⟩)
    (types : typesOf (inputs ++ [choice]) =
      .ofList [(⟨"S", 0, 0⟩, .number), (⟨"S", 1, 0⟩, .text), (⟨"S", 2, 0⟩, .number)]) :
    Unmixed (tally 2.0) (Scope.ofWorkbook (tally 2.0) false) (typesOf (inputs ++ [choice])) s.cell
      (inputs ++ [choice] ++ [s]) (.range ⟨"S", 0, 0⟩ ⟨"S", 2, 0⟩) := by
  have number : (tally 2.0).literal? ⟨"S", 0, 0⟩ = some (.number 2.0) := rfl
  have text : (tally 2.0).literal? ⟨"S", 1, 0⟩ = some (.text "n/a") := rfl
  have branches : (tally 2.0).formula? ⟨"S", 2, 0⟩ = some (.call "IF"
      [.literal (.boolean true), .cell ⟨"S", 0, 0⟩, .literal (.boolean false)]) := rfl
  have taken : eval (valueOf Memory.none (tally 2.0) []) ⟨"S", 2, 0⟩ (.cell ⟨"S", 0, 0⟩) =
      eval (valueOf Memory.none (tally 2.0) []) ⟨"S", 2, 0⟩ (.call "IF"
        [.literal (.boolean true), .cell ⟨"S", 0, 0⟩, .literal (.boolean false)]) := rfl
  intro a member
  refine ⟨showsValue_tally a member, ?_⟩
  rw [rectangle_tally] at member
  rw [types, total]
  revert a
  rw [List.forall_mem_cons, List.forall_mem_cons, List.forall_mem_singleton]
  refine ⟨⟨_, .value number, by decide +kernel⟩, ⟨_, .value text, by decide +kernel⟩,
    some .number, ?_, by decide +kernel⟩
  -- The choice hands on the number in the first cell.
  rw [← chosen]
  refine .formula (List.append_assoc ..) (chosen ▸ branches) ?_
  rw [chosen]
  exact .handed rfl List.mem_cons_self taken (.value number)

/-- Two numbers in the cells, and the truth value given directly. -/
theorem tally_folded_count : ∃ program before s,
    statements (tally 2.0) false [⟨"S", 2, 0⟩, ⟨"S", 0, 1⟩] = .ok program ∧
      program = before ++ [s] ∧ s.cell = ⟨"S", 0, 1⟩ ∧
      ∃ t, lower (Scope.ofWorkbook (tally 2.0) false) (typesOf before) s.cell
          (.call "COUNT" [.range ⟨"S", 0, 0⟩ ⟨"S", 2, 0⟩, .literal (.boolean true)]) = .ok t ∧
        t.expr = .literal (.integer 3) ∧
        ∃ items, Evaluation.sequence (valueOf Memory.none (tally 2.0) [])
            (Evaluation.arguments (valueOf Memory.none (tally 2.0) []) s.cell
              [.range ⟨"S", 0, 0⟩ ⟨"S", 2, 0⟩, .literal (.boolean true)]) = .ok items ∧
          3 = Int64.ofNat (items.countP Evaluation.Item.isCounted) := by
  obtain ⟨inputs, choice, s, lowered, chosen, total, types⟩ := exists_statements_tally
  have direct : Unmixed (tally 2.0) (Scope.ofWorkbook (tally 2.0) false)
      (typesOf (inputs ++ [choice])) s.cell (inputs ++ [choice] ++ [s])
        (.literal (.boolean true)) :=
    ⟨_, _, rfl, nofun, .made rfl rfl, nofun⟩
  have call :
    ("COUNT", [.range ⟨"S", 0, 0⟩ ⟨"S", 2, 0⟩, .literal (.boolean true)]) ∈ tallied.calls :=
    List.mem_cons_of_mem _ List.mem_cons_self
  obtain ⟨t, code, counts⟩ := folded_count lowered rfl (total ▸ formula?_tally) call (by decide)
    (List.forall_mem_cons.mpr
      ⟨unmixed_tally chosen total types, List.forall_mem_singleton.mpr direct⟩)
  have folded : lower (Scope.ofWorkbook (tally 2.0) false) (.ofList
      [(⟨"S", 0, 0⟩, .number), (⟨"S", 1, 0⟩, .text), (⟨"S", 2, 0⟩, .number)]) ⟨"S", 0, 1⟩
      (.call "COUNT" [.range ⟨"S", 0, 0⟩ ⟨"S", 2, 0⟩, .literal (.boolean true)]) =
      .ok ⟨.literal (.integer 3), .integer⟩ := rfl
  rw [← types, ← total] at folded
  obtain rfl := Except.ok.inj (folded.symm.trans code)
  obtain ⟨items, sequenced, same, -⟩ := counts 3 rfl
  exact ⟨_, _, s, lowered, rfl, total, _, code, rfl, items, sequenced, same⟩

/-- The count of a cell that does not exist. -/
def loneCount : Workbook where
  name := "Lone"
  sheets := ["S"]
  cells := .ofList [(⟨"S", 0, 0⟩,
    ⟨.formula "COUNT(B1)" (.call "COUNT" [.cell ⟨"S", 0, 1⟩]), none, none⟩)]

/-- Taken for an integer, the missing cell counts, while its value is blank and does not. -/
theorem loneCount_counts_missing :
    (statements loneCount false [⟨"S", 0, 0⟩]).map
        (fun program => program.getLast?.map (·.expr.render)) = .ok (some "1") ∧
      evaluateCell loneCount ⟨"S", 0, 0⟩ = .ok (.number (.ofNat 0)) := by
  have count : loneCount.formula? ⟨"S", 0, 0⟩ = some (.call "COUNT" [.cell ⟨"S", 0, 1⟩]) := rfl
  refine ⟨by decide +kernel, ?_⟩
  exact Evaluation.evaluateCell_eq_ok ⟨2, (Evaluation.valueWithin_formula count 1).trans rfl⟩

end Counting

end SheetCompiler.Lowering
