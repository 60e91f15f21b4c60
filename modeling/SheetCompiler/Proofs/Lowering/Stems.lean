import SheetCompiler.Proofs.Lowering.Kinds

/-!
# Where values stem from

What is handed on keeps the kind it was made with, while its static type can change on the way: the
parts of a choice are converted to one type, and a cell that does not exist is taken for an integer.
So the kind of a value is not that of its static type, but that of the type where the value stems
from.

Along a program, every value that is no error stems from somewhere: from an expression that makes
it, from the literal in a cell, or from a cell that does not exist.
-/

namespace SheetCompiler

namespace Evaluation

variable {v : Value} {cell : Address}

theorem Block.mem_of_at? {b : Block} {row col : Int} (h : b.at? row col = some v) :
    v ∈ b.values := by
  rw [Block.at?] at h
  split at h
  case isTrue => cases h
  case isFalse => exact List.mem_of_getElem? h

/-- What is selected from a block stands in it. -/
theorem Block.mem_of_select {b : Block} {row col : Float} (h : b.select row col = .ok v) :
    v ∈ b.values := by
  simp only [Block.select] at h
  split at h
  case h_2 => cases h
  case h_1 found =>
    cases h
    split at found
    case isTrue => exact mem_of_at? found
    case isFalse =>
      split at found
      case isTrue => exact mem_of_at? found
      case isFalse =>
        split at found
        case isTrue => exact mem_of_at? found
        case isFalse => cases found

theorem Block.mem_of_lookup {b : Block} {key : Value} {col : Float} {approximate : Bool}
    (h : b.lookup key col approximate = .ok (.value v)) : v ∈ b.values := by
  simp only [Block.lookup] at h
  split at h
  case isTrue => cases h
  case isFalse =>
    split at h
    case h_1 => cases h
    case h_2 =>
      split at h
      case h_1 => cases h
      case h_2 =>
        split at h
        case h_1 found =>
          cases h
          exact List.mem_of_getElem? found
        case h_2 => cases h

/-! A value that is no error has passed every coercion on its way. -/

section Computations

variable (noError : ∀ e, v ≠ .error e)

include noError

theorem exists_of_withCoerced {α : Type} {c : Coerced α} {next : α → Except CompileError Value}
    (h : withCoerced c next = .ok v) : ∃ a, c = .ok a ∧ next a = .ok v := by
  cases c with
  | ok a => exact ⟨a, rfl, h⟩
  | error e => exact absurd (pure_eq_ok.mp h).symm (noError e)

theorem yes_or_no_of_withCoerced {c : Coerced Bool} {yes no : Except CompileError Value}
    (h : withCoerced c (fun b => if b then yes else no) = .ok v) : yes = .ok v ∨ no = .ok v := by
  obtain ⟨b, -, h⟩ := exists_of_withCoerced noError h
  cases b with
  | true => exact .inl h
  | false => exact .inr h

theorem eq_ok_of_fromCoerced {c : Coerced Value} (h : fromCoerced c id = v) : c = .ok v := by
  cases c with
  | ok u => exact congrArg Except.ok h
  | error e => exact absurd h.symm (noError e)

theorem exists_of_optionalNumber {arg : Option (Argument (Except CompileError))} {absent : Float}
    {next : Float → Except CompileError Value} (h : optionalNumber arg absent next = .ok v) :
    ∃ x, next x = .ok v := by
  cases arg with
  | none => exact ⟨absent, h⟩
  | some arg =>
      obtain ⟨u, -, h⟩ := bind_eq_ok.mp h
      obtain ⟨given, -, h⟩ := exists_of_withCoerced noError h
      exact ⟨given, h⟩

theorem exists_of_optionalBoolean {arg : Option (Argument (Except CompileError))} {absent : Bool}
    {next : Bool → Except CompileError Value} (h : optionalBoolean arg absent next = .ok v) :
    ∃ b, next b = .ok v := by
  cases arg with
  | none => exact ⟨absent, h⟩
  | some arg =>
      obtain ⟨u, -, h⟩ := bind_eq_ok.mp h
      obtain ⟨given, -, h⟩ := exists_of_withCoerced noError h
      exact ⟨given, h⟩

theorem eq_ok_of_withKey {key : Value} {next : Except CompileError Value}
    (h : withKey key next = .ok v) : next = .ok v := by
  cases key with
  | error e => exact absurd (pure_eq_ok.mp h).symm (noError e)
  | number | text | boolean | blank => exact h

theorem exists_of_choose {options : List (Argument (Except CompileError))} {index : Float}
    (h : choose cell options index = .ok v) : ∃ option ∈ options, option.value = .ok v := by
  rw [choose] at h
  split at h
  case isTrue => cases h
  case isFalse =>
    split at h
    case h_1 =>
      split at h
      case h_1 option found => exact ⟨option, List.mem_of_getElem? found, h⟩
      case h_2 => exact absurd (pure_eq_ok.mp h).symm (noError _)
    case h_2 => exact absurd (pure_eq_ok.mp h).symm (noError _)

end Computations

end Evaluation

namespace Lowering

open Code (ValueType)
open Evaluation (Memory eval exists_of_choose exists_of_optionalBoolean exists_of_optionalNumber
  exists_of_withCoerced eq_ok_of_fromCoerced eq_ok_of_withKey valueOf yes_or_no_of_withCoerced)
open Formula (Expr Function)

section Evaluation

variable {cell : Address} {v : Value} {read : Address → Except CompileError Value}

/-- A call that has a value is a call of the function it names. -/
theorem call_of_eval {name : String} {args : List Expr}
    (value : eval read cell (.call name args) = .ok v) :
    ∃ f fault, Function.ofName? name = some f ∧
      Evaluation.call read cell fault f (args.map fun e => ⟨e, eval read cell e⟩) = .ok v := by
  rw [eval] at value
  split at value
  case h_1 => cases value
  case h_2 f named =>
    split at value
    case isTrue => exact ⟨f, _, named, Evaluation.arguments_eq_map args ▸ value⟩
    case isFalse => cases value

/-- A value in a block is that of a cell of it. -/
theorem exists_blockCell {block : Expr} {x : Except CompileError Value} {b : Evaluation.Block}
    (found : Evaluation.block read cell ⟨block, x⟩ = .ok b) (member : v ∈ b.values) :
    ∃ part ∈ block.blockCells, eval read cell part = .ok v := by
  simp only [Evaluation.block] at found
  cases corners : block.corners? with
  | none =>
      rw [corners] at found
      cases found
  | some ends =>
      rw [corners] at found
      obtain ⟨values, reads, rfl⟩ := map_eq_ok.mp found
      obtain ⟨a, within, value⟩ := exists_left_of_forall₂ (mapM_eq_ok.mp reads) member
      refine ⟨.cell a, ?_, value⟩
      rw [Expr.blockCells, corners]
      exact List.mem_map_of_mem within

variable {f : Function} {fault : CompileError} {args parts : List Expr}

/-- A function that hands on a value hands on that of one of the parts. -/
theorem exists_part_of_call (hands : f.handedOn? args = some parts)
    (value : Evaluation.call read cell fault f (args.map fun e => ⟨e, eval read cell e⟩) = .ok v)
    (noError : ∀ e, v ≠ .error e) : ∃ part ∈ parts, eval read cell part = .ok v := by
  unfold Function.handedOn? at hands
  split at hands
  case h_7 => cases hands
  all_goals obtain rfl := Option.some.inj hands
  case h_1 | h_2 =>
    obtain ⟨u, -, value⟩ := bind_eq_ok.mp value
    rcases yes_or_no_of_withCoerced noError value with taken | taken
    · exact ⟨_, List.mem_cons_self, taken⟩
    · exact ⟨_, List.mem_cons_of_mem _ List.mem_cons_self, taken⟩
  case h_3 attempt otherwise =>
    obtain ⟨u, tried, value⟩ := bind_eq_ok.mp value
    cases u with
    | error e => exact ⟨otherwise, List.mem_cons_of_mem _ List.mem_cons_self, value⟩
    | number | text | boolean | blank =>
        obtain rfl := pure_eq_ok.mp value
        exact ⟨attempt, List.mem_cons_self, tried⟩
  case h_4 index options =>
    obtain ⟨u, -, value⟩ := bind_eq_ok.mp value
    obtain ⟨x, -, value⟩ := exists_of_withCoerced noError value
    obtain ⟨option, member, value⟩ := exists_of_choose noError value
    obtain ⟨e, listed, rfl⟩ := List.mem_map.mp member
    exact ⟨e, listed, value⟩
  case h_5 block others =>
    cases others with
    | nil => cases value
    | cons row others =>
        obtain ⟨values, found, value⟩ := bind_eq_ok.mp value
        obtain ⟨u, -, value⟩ := bind_eq_ok.mp value
        obtain ⟨r, -, value⟩ := exists_of_withCoerced noError value
        obtain ⟨c, value⟩ := exists_of_optionalNumber noError value
        have selected := eq_ok_of_fromCoerced noError (pure_eq_ok.mp value)
        exact exists_blockCell found (Evaluation.Block.mem_of_select selected)
  case h_6 key block others =>
    cases others with
    | nil => cases value
    | cons col others =>
        obtain ⟨k, -, value⟩ := bind_eq_ok.mp value
        obtain ⟨values, found, value⟩ := bind_eq_ok.mp (eq_ok_of_withKey noError value)
        obtain ⟨u, -, value⟩ := bind_eq_ok.mp value
        obtain ⟨c, -, value⟩ := exists_of_withCoerced noError value
        obtain ⟨near, value⟩ := exists_of_optionalBoolean noError value
        obtain ⟨place, looked, value⟩ := exists_of_withCoerced noError value
        cases place with
        | outside => cases value
        | value u =>
            obtain rfl := pure_eq_ok.mp value
            exact exists_blockCell found (Evaluation.Block.mem_of_lookup looked)

end Evaluation

section Parts

variable {scope : Scope} {types : Types} {cell : Address} {t : Typed}

/-- A cell that does not exist can be referred to. -/
theorem exists_reference_of_missing {a : Address} (absent : scope.workbook.cell? a = none) :
    ∃ t, scope.reference types cell a = .ok t := by
  have noLiteral : scope.workbook.literal? a = none := by rw [Workbook.literal?, absent]; rfl
  simp only [Scope.reference, noLiteral, absent, Option.isSome_none, Bool.false_eq_true, if_false]
  split
  · exact ⟨_, rfl⟩
  · split <;> exact ⟨_, rfl⟩

/-- Between the corners of a rectangle that is lowered, there is a reference to every cell. -/
theorem exists_reference_of_rectangle {first last a : Address} {cells : List (Option Typed)}
    (lowered : scope.rectangle types cell first last = .ok cells)
    (within : a ∈ Address.rectangle first last) : ∃ t, scope.reference types cell a = .ok t := by
  obtain ⟨c, -, reference⟩ := exists_right_of_forall₂ (mapM_eq_ok.mp lowered) within
  cases present : (scope.workbook.cell? a).isSome with
  | false => exact exists_reference_of_missing (by simpa using present)
  | true =>
      rw [if_pos present] at reference
      obtain ⟨t, found, -⟩ := map_eq_ok.mp reference
      exact ⟨t, found⟩

theorem exists_lower_of_mem_blockCells {block part : Expr} {x : Except CompileError Typed}
    {b : Block} (lowered : Lowering.block scope types cell ⟨block, x⟩ = .ok b)
    (member : part ∈ block.blockCells) :
    ∃ t, lower scope types cell part = .ok t := by
  simp only [Lowering.block] at lowered
  rw [Expr.blockCells] at member
  split at member
  case h_2 => cases member
  case h_1 first last corners =>
    rw [corners] at lowered
    obtain ⟨a, within, rfl⟩ := List.mem_map.mp member
    obtain ⟨cells, all, -⟩ := bind_eq_ok.mp lowered
    exact exists_reference_of_rectangle all within

variable {f : Function} {fault : CompileError} {args parts : List Expr}

/-- In a call that is lowered, the parts that it can hand on are lowered. -/
theorem exists_lower_of_mem_handedOn (hands : f.handedOn? args = some parts)
    (code : call scope types cell fault f (arguments scope types cell args) = .ok t) :
    ∀ part ∈ parts, ∃ t, lower scope types cell part = .ok t := by
  unfold Function.handedOn? at hands
  split at hands
  case h_7 => cases hands
  all_goals obtain rfl := Option.some.inj hands
  case h_1 test yes =>
    simp only [arguments, call, bind_eq_ok] at code
    obtain ⟨-, -, y, second, -⟩ := code
    rw [List.forall_mem_cons, List.forall_mem_singleton]
    exact ⟨⟨y, second⟩, _, rfl⟩
  case h_2 test yes no =>
    simp only [arguments, call, bind_eq_ok] at code
    obtain ⟨-, -, y, second, n, third, -⟩ := code
    rw [List.forall_mem_cons, List.forall_mem_singleton]
    exact ⟨⟨y, second⟩, n, third⟩
  case h_3 attempt otherwise =>
    simp only [arguments, call, bind_eq_ok] at code
    obtain ⟨a, first, o, second, -⟩ := code
    rw [List.forall_mem_cons, List.forall_mem_singleton]
    exact ⟨⟨a, first⟩, o, second⟩
  case h_4 index options =>
    simp only [arguments, arguments_eq_map, call, bind_eq_ok, mapM_eq_ok] at code
    obtain ⟨-, -, os, others, -⟩ := code
    intro part member
    obtain ⟨o, -, lowered⟩ := exists_right_of_forall₂ others (List.mem_map_of_mem member)
    exact ⟨o, lowered⟩
  case h_5 block others =>
    cases others with
    | nil => cases code
    | cons row others =>
        simp only [arguments, call, bind_eq_ok] at code
        obtain ⟨b, typed, -⟩ := code
        exact fun part => exists_lower_of_mem_blockCells typed
  case h_6 key block others =>
    cases others with
    | nil => cases code
    | cons col others =>
        simp only [arguments, call, bind_eq_ok] at code
        obtain ⟨k, -, b, typed, -⟩ := code
        exact fun part => exists_lower_of_mem_blockCells typed

end Parts

section Stems

variable (w : Workbook) (scope : Scope) (program : List Statement)

/-- Where the value of an expression in the formula of `cell` stems from: an expression that makes
it, with the static type it has there, or a cell that does not exist, and then there is no type. -/
inductive StemsFrom : Types → Address → Expr → Option ValueType → Prop
  | made {types : Types} {cell : Address} {e : Expr} {t : Typed} (makes : e.handedOn? = none)
      (lowered : lower scope types cell e = .ok t) : StemsFrom types cell e (some t.type)
  | missing {types : Types} {cell a : Address} (absent : w.cell? a = none) :
      StemsFrom types cell (.cell a) none
  | value {types : Types} {cell a : Address} {l : Literal} (literal : w.literal? a = some l) :
      StemsFrom types cell (.cell a) (some (.ofLiteral l))
  /-- The value of a formula, lowered with the statements before it. -/
  | formula {types : Types} {cell : Address} {before after : List Statement} {s : Statement}
      {e : Expr} {origin : Option ValueType} (split : program = before ++ s :: after)
      (found : w.formula? s.cell = some e) (stems : StemsFrom (typesOf before) s.cell e origin) :
      StemsFrom types cell (.cell s.cell) origin
  | handed {types : Types} {cell : Address} {e part : Expr} {parts : List Expr}
      {origin : Option ValueType} (hands : e.handedOn? = some parts) (member : part ∈ parts)
      (same : eval (valueOf Memory.none w []) cell part = eval (valueOf Memory.none w []) cell e)
      (stems : StemsFrom types cell part origin) : StemsFrom types cell e origin

variable {w scope program}

/-- The kind of a value that stems from the given place. -/
def KindOf (origin : Option ValueType) (v : Value) : Prop :=
  match origin with
  | some type => IsOf type v
  | none => v = .blank

/-- A value that is no error has the kind it stems from. -/
theorem StemsFrom.kindOf {types : Types} {cell : Address} {e : Expr} {origin : Option ValueType}
    {v : Value} (h : StemsFrom w scope program types cell e origin)
    (value : eval (valueOf Memory.none w []) cell e = .ok v) (noError : ∀ e, v ≠ .error e) :
    KindOf origin v := by
  induction h with
  | made makes lowered =>
      obtain ⟨e, failed⟩ | made := madeAs_of_lower makes lowered value
      · exact absurd failed (noError e)
      · exact made
  | @missing types cell a absent =>
      have blank : valueOf Memory.none w [] a = .ok .blank := by
        rw [Evaluation.valueOf_none_eq, absent]
      exact (Except.ok.inj (blank.symm.trans value)).symm
  | @value types cell a l literal =>
      have known : valueOf Memory.none w [] a = .ok (.ofLiteral l) :=
        Evaluation.valueOf_none_eq_ok ⟨1, Evaluation.valueWithin_literal literal 0⟩ (by simp)
      obtain rfl := Except.ok.inj (known.symm.trans value)
      exact isOf_literal l
  | formula split found stems ih => exact ih (ClassFile.eval_of_valueOf found value)
  | handed hands member same stems ih => exact ih (same.trans value)

/-- What a call can hand on is an argument, a reference into its block, or the literal that stands
for the alternative left out. -/
theorem mem_or_bare_of_handedOn {f : Function} {args parts : List Expr} {part : Expr}
    (hands : f.handedOn? args = some parts) (member : part ∈ parts) :
    part ∈ args ∨ (∃ a, part = .cell a) ∨ ∃ l, part = .literal l := by
  have cells {block : Expr} (inside : part ∈ block.blockCells) : ∃ a, part = .cell a := by
    rw [Expr.blockCells] at inside
    split at inside
    · obtain ⟨a, -, rfl⟩ := List.mem_map.mp inside
      exact ⟨a, rfl⟩
    · cases inside
  unfold Function.handedOn? at hands
  split at hands
  case h_7 => cases hands
  all_goals obtain rfl := Option.some.inj hands
  case h_1 test yes =>
    rw [List.mem_pair] at member
    rcases member with rfl | rfl
    · exact .inl (by simp)
    · exact .inr (.inr ⟨_, rfl⟩)
  case h_2 | h_3 =>
    rw [List.mem_pair] at member
    rcases member with rfl | rfl <;> exact .inl (by simp)
  case h_4 index options => exact .inl (List.mem_cons_of_mem _ member)
  case h_5 | h_6 => exact .inr (.inl (cells member))

section Expressions

variable (w scope program) (types : Types) (cell : Address)

/-- If the expression is lowered and its value is no error, the value stems from somewhere. -/
def Rooted (e : Expr) : Prop :=
  ∀ t v, lower scope types cell e = .ok t → eval (valueOf Memory.none w []) cell e = .ok v →
    (∀ e, v ≠ .error e) → ∃ origin, StemsFrom w scope program types cell e origin

variable {w scope program types cell}

mutual

/-- All expressions are rooted if references are. -/
theorem rooted_of_references (references : ∀ a, Rooted w scope program types cell (.cell a)) :
    (e : Expr) → Rooted w scope program types cell e
  | .literal _ => fun _ _ lowered _ _ => ⟨_, .made rfl lowered⟩
  | .cell a => references a
  | .range .. => nofun
  | .unary .plus operand => by
      intro t v lowered value noError
      obtain ⟨o, inner, -⟩ := bind_eq_ok.mp lowered
      obtain ⟨u, found, same⟩ := bind_eq_ok.mp value
      obtain rfl : u = v := pure_eq_ok.mp same
      obtain ⟨origin, stems⟩ := rooted_of_references references operand o u inner found noError
      exact ⟨origin, .handed rfl List.mem_cons_self (found.trans value.symm) stems⟩
  | .unary .neg _ => fun _ _ lowered _ _ => ⟨_, .made rfl lowered⟩
  | .unary .percent _ => fun _ _ lowered _ _ => ⟨_, .made rfl lowered⟩
  | .binary .. => fun _ _ lowered _ _ => ⟨_, .made rfl lowered⟩
  | .call name args => by
      intro t v lowered value noError
      obtain ⟨f, fault, named, called⟩ := call_of_eval value
      have same : (Expr.call name args).handedOn? = f.handedOn? args := by
        rw [Expr.handedOn?, named, Option.bind_some]
      cases hands : f.handedOn? args with
      | none => exact ⟨_, .made (same.trans hands) lowered⟩
      | some parts =>
          obtain ⟨fault', code, -⟩ := lower_call (valueOf Memory.none w []) named lowered
          obtain ⟨part, member, found⟩ := exists_part_of_call hands called noError
          obtain ⟨p, inner⟩ := exists_lower_of_mem_handedOn hands code part member
          have rooted : Rooted w scope program types cell part := by
            rcases mem_or_bare_of_handedOn hands member with inside | ⟨a, rfl⟩ | ⟨l, rfl⟩
            · exact rooted_of_mem references args part inside
            · exact references a
            · exact fun _ _ lowered _ _ => ⟨_, .made rfl lowered⟩
          obtain ⟨origin, stems⟩ := rooted p v inner found noError
          exact ⟨origin, .handed (same.trans hands) member (found.trans value.symm) stems⟩

theorem rooted_of_mem (references : ∀ a, Rooted w scope program types cell (.cell a)) :
    (args : List Expr) → ∀ e ∈ args, Rooted w scope program types cell e
  | [], _, member => nomatch member
  | first :: rest, e, member => by
      rcases List.mem_cons.mp member with same | later
      · exact same ▸ rooted_of_references references first
      · exact rooted_of_mem references rest e later

end

end Expressions

variable {order : List Address} {inlineValues : Bool} {before after : List Statement}
variable {s : Statement} {cell a : Address} {e : Expr} {t : Typed}

/-- A formula that is referred to has its statement before. -/
theorem exists_mem_of_reference (found : w.formula? a = some e)
    (reference : (Scope.ofWorkbook w inlineValues).reference (typesOf before) cell a = .ok t) :
    ∃ d ∈ before, d.cell = a := by
  have noLiteral : (Scope.ofWorkbook w inlineValues).workbook.literal? a = none :=
    Workbook.literal?_eq_none_of_formula found
  have present : ((Scope.ofWorkbook w inlineValues).workbook.cell? a).isSome :=
    Workbook.isSome_cell?_of_formula found
  simp only [Scope.reference, noLiteral, if_pos present] at reference
  split at reference
  case h_1 type known =>
    obtain ⟨d, member, entry⟩ := List.mem_map.mp (OrderedMap.mem_of_get?_ofList known)
    exact ⟨d, member, (Prod.mk.inj entry).1⟩
  case h_2 => cases reference

/-- The statement of a formula is the formula, lowered with the statements before it. -/
theorem lower_of_formula? (lowered : statements w inlineValues order = .ok program)
    (split : program = before ++ s :: after) (found : w.formula? s.cell = some e) :
    lower (Scope.ofWorkbook w inlineValues) (typesOf before) s.cell e = .ok ⟨s.expr, s.type⟩ := by
  rcases statement_cases lowered split with input | ⟨-, -, -, e', found', code⟩
  · obtain ⟨a, label, rfl, absent, -⟩ := mem_inputs input
    cases found.symm.trans absent
  · obtain rfl := Option.some.inj (found.symm.trans found')
    exact code

/-- Along a program, every value that is no error stems from somewhere. -/
theorem rooted_of_statements (lowered : statements w inlineValues order = .ok program)
    (split : program = before ++ after) :
    Rooted w (Scope.ofWorkbook w inlineValues) program (typesOf before) cell e := by
  -- What the formula refers to stands before it, in a shorter part of the program.
  generalize size : before.length = n
  induction n using Nat.strongRecOn generalizing before after cell e with
  | ind n ih =>
      refine rooted_of_references (fun a t v reference value noError => ?_) e
      obtain absent | ⟨l, found⟩ | ⟨e, found⟩ := w.cell_cases a
      · exact ⟨_, .missing absent⟩
      · exact ⟨_, .value found⟩
      · obtain ⟨d, member, rfl⟩ := exists_mem_of_reference found reference
        obtain ⟨earlier, between, cut⟩ := List.append_of_mem member
        have split' : program = earlier ++ d :: (between ++ after) := by
          rw [split, cut, List.append_assoc, List.cons_append]
        have shorter : earlier.length < n := by
          rw [← size, cut, List.length_append, List.length_cons]
          omega
        obtain ⟨origin, stems⟩ :=
          ih _ shorter split' rfl _ v (lower_of_formula? lowered split' found)
          (ClassFile.eval_of_valueOf found value) noError
        exact ⟨origin, .formula split' found stems⟩

end Stems

end Lowering

end SheetCompiler
