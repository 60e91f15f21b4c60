import Mathlib.Data.List.Perm.Basic
import SheetCompiler.Compilation
import SheetCompiler.Proofs.Lowering.Declarations
import SheetCompiler.Proofs.Naming.Wanted

/-!
# The members of the class

What a class declares, apart from the text around it: constants, fields and accessors. Constants and
fields have the final names of their statements, which are distinct and differ from the name of the
class. Accessors have names of their own, kept apart from one another only; they start with a
capital letter as no field does. What is left open is that an accessor has the name of the class.
-/

namespace SheetCompiler

namespace ClassFile

open Lowering (Statement)

/-- The members of a class. -/
structure Members where
  constants : List Declaration
  /-- The fields that the constructor sets from its parameters. -/
  inputs : List Declaration
  /-- The fields that the constructor computes. -/
  formulas : List Declaration
  /-- The accessors by name, each with the declaration that it reads. -/
  accessors : List (String × Declaration)

namespace Members

/-- The names of constants and fields. -/
def values (m : Members) : List String :=
  (m.constants ++ (m.inputs ++ m.formulas)).map Declaration.name

/-- The names of all members. -/
def names (m : Members) : List String :=
  m.values ++ m.accessors.map Prod.fst

/-- The lines of a constant. -/
def constantLines (d : Declaration) : List Line :=
  [line d.comment,
    line ("private const " ++ d.valueType ++ " " ++ d.name ++ " = " ++ d.expr.render ++ ";"), blank]

/-- The line that declares a field. -/
def fieldText (type name : String) : String :=
  "private readonly " ++ type ++ " " ++ name ++ ";"

/-- The lines of a field. -/
def fieldLines (d : Declaration) : List Line :=
  [line d.comment, line (fieldText d.fieldType d.name), blank]

/-- A parameter of the constructor, with what follows it. -/
def parameterLine (after : String) (d : Declaration) : Line :=
  line (d.valueType ++ " " ++ d.name ++ " = " ++ d.expr.render ++ after)

/-- The head of the constructor. Commas stand between the parameters and a bracket behind them. -/
def headLines (className : String) : List Declaration → List Line
  | [] => [line ("public " ++ className ++ "()")]
  | d :: rest => line ("public " ++ className ++ "(") ::
    indented ((d :: rest).dropLast.map (parameterLine ",") ++
      (d :: rest).getLast?.toList.map (parameterLine ")"))

/-- What the constructor assigns to the field of a formula. -/
def assigned (d : Declaration) : String :=
  if d.deferred then "new XlValue<" ++ d.valueType ++ ">(() => " ++ d.expr.render ++ ")"
  else d.expr.render

/-- The lines that compute a formula. -/
def formulaLines (d : Declaration) : List Line :=
  [line d.comment, line (d.name ++ " = " ++ assigned d ++ ";")]

/-- The line that sets the field of an input. -/
def inputLine (d : Declaration) : Line :=
  line ("this." ++ d.name ++ " = " ++ d.name ++ ";")

/-- The parts of the constructor: all inputs together, then the formulas one by one. -/
def constructorParts (inputs formulas : List Declaration) : List (List Line) :=
  (if inputs = [] then [] else [inputs.map inputLine]) ++ formulas.map formulaLines

/-- The lines of an accessor. -/
def accessorLines (accessor : String × Declaration) : List Line :=
  [blank, line accessor.2.comment,
    line ("public " ++ accessor.2.valueType ++ " " ++ accessor.1 ++ "() => " ++
      accessor.2.read ++ ";")]

/-- The lines of the class with these members. Blank lines stand between the parts of the
constructor. -/
def lines (m : Members) (layout : Layout) : List Line :=
  [line ("/// <summary>Computed model of workbook \"" ++ xmlText (singleLine layout.source)
      ++ "\".</summary>"),
    line ("public sealed class " ++ layout.className)] ++
    braced (m.constants.flatMap constantLines ++ (m.inputs ++ m.formulas).flatMap fieldLines ++
      headLines layout.className m.inputs ++
      braced ([blank].intercalate (constructorParts m.inputs m.formulas)) ++
      m.accessors.flatMap accessorLines)

end Members

/-- The accessors of declarations, each under the first free candidate of its name. -/
def accessors (used : List String) : List Declaration → List (String × Declaration)
  | [] => []
  | d :: rest =>
    let name := Naming.firstFree ("Get" ++ Naming.pascalCase d.name) "" used
    (name, d) :: accessors (name :: used) rest

/-- The members that declarations make up, with accessors for the output cells. -/
def members (declared : List Declaration) (outputs : List Address) : Members :=
  let formulas := declared.filter (·.statement.kind = .formula)
  let read := formulas.flatMap (·.statement.expr.occurrences)
  let (inputs, constants) :=
    (declared.filter (·.statement.kind = .input)).partition (read.contains ·.statement.raw)
  { constants, inputs, formulas,
    accessors := accessors [] (declared.filter (outputs.contains ·.statement.cell)) }

variable {declared : List Declaration} {outputs : List Address} {used : List String}

theorem accessorLines_eq (used : List String) (ds : List Declaration) :
    accessorLines used ds = (accessors used ds).flatMap Members.accessorLines := by
  induction ds generalizing used with
  | nil => rfl
  | cons d rest ih =>
      rw [accessorLines, ih, accessors, List.flatMap_cons]
      rfl

theorem parameterLines_eq (ds : List Declaration) : parameterLines ds =
    ds.dropLast.map (Members.parameterLine ",") ++
      ds.getLast?.toList.map (Members.parameterLine ")") := by
  induction ds with
  | nil => rfl
  | cons d rest ih =>
      cases rest with
      | nil => rfl
      | cons next rest =>
          rw [parameterLines, ih, List.dropLast_cons_cons, List.getLast?_cons_cons]
          · rfl
          · exact List.cons_ne_nil next rest

theorem constructorHead_eq (className : String) (inputs : List Declaration) :
    constructorHead className inputs = Members.headLines className inputs := by
  cases inputs with
  | nil => rfl
  | cons d rest =>
      rw [constructorHead, Members.headLines, ← parameterLines_eq, List.isEmpty_cons]
      rfl

theorem formulaLines_eq (d : Declaration) : formulaLines d = Members.formulaLines d := by
  have value : (if d.deferred then "new " ++ d.fieldType ++ "(() => " ++ d.expr.render ++ ")"
      else d.expr.render) = Members.assigned d := by
    rw [Members.assigned, Declaration.fieldType]
    split
    case isTrue => exact String.toList_inj.mp (by simp [String.toList_append])
    case isFalse => rfl
  rw [Members.formulaLines, ← value]
  rfl

theorem intercalate_blank_cons (first : List Line) (parts : List (List Line)) :
    [blank].intercalate (first :: parts) = first ++ parts.flatMap (blank :: ·) := by
  induction parts generalizing first with
  | nil => simp
  | cons part rest ih =>
      rw [List.intercalate_cons_cons, ih]
      simp

theorem constructorBody_eq (inputs formulas : List Declaration) :
    constructorBody inputs formulas =
      [blank].intercalate (Members.constructorParts inputs formulas) := by
  have computed (ds : List Declaration) : (ds.map Members.formulaLines).flatMap (blank :: ·) =
      ds.flatMap fun d => blank :: formulaLines d := by
    rw [List.flatMap_map]
    simp only [formulaLines_eq]
  cases inputs with
  | nil =>
      rw [constructorBody, Members.constructorParts, if_pos rfl, List.nil_append]
      cases formulas with
      | nil => rfl
      | cons d rest =>
          -- The blank line that is dropped stands before the first formula.
          rw [List.map_cons, intercalate_blank_cons, computed, ← formulaLines_eq]
          rfl
  | cons d rest =>
      rw [Members.constructorParts, if_neg (List.cons_ne_nil d rest), List.singleton_append,
        intercalate_blank_cons, computed]
      rfl

theorem Members.lines_eq (m : Members) (layout : Layout) : m.lines layout =
    [line ("/// <summary>Computed model of workbook \"" ++ xmlText (singleLine layout.source)
        ++ "\".</summary>"),
      line ("public sealed class " ++ layout.className)] ++
      braced (m.constants.flatMap ClassFile.constantLines ++
        (m.inputs ++ m.formulas).flatMap ClassFile.fieldLines ++
        constructorHead layout.className m.inputs ++
        braced (constructorBody m.inputs m.formulas) ++ m.accessors.flatMap accessorLines) := by
  rw [lines, constructorHead_eq, constructorBody_eq]
  rfl

/-- The class is written member by member. -/
theorem classLines_eq (layout : Layout) (declared : List Declaration) (outputs : List Address) :
    classLines layout declared outputs = (members declared outputs).lines layout := by
  rw [classLines, accessorLines_eq, Members.lines_eq]
  rfl

section Accessors

/-- Accessors do not take names in use, nor one another's. -/
theorem nodup_accessors (used : List String) (ds : List Declaration) :
    ((accessors used ds).map Prod.fst).Nodup ∧ ∀ a ∈ accessors used ds, a.1 ∉ used := by
  induction ds generalizing used with
  | nil => exact ⟨List.nodup_nil, by simp [accessors]⟩
  | cons d rest ih =>
      obtain ⟨n, -, name, free⟩ :=
        Naming.firstFree_spec ("Get" ++ Naming.pascalCase d.name) "" used
      rw [← name] at free
      obtain ⟨distinct, fresh⟩ :=
        ih (Naming.firstFree ("Get" ++ Naming.pascalCase d.name) "" used :: used)
      constructor
      · rw [accessors, List.map_cons, List.nodup_cons]
        refine ⟨?_, distinct⟩
        intro member
        obtain ⟨a, later, same⟩ := List.mem_map.mp member
        exact fresh a later (same ▸ List.mem_cons_self)
      · intro a member
        rw [accessors] at member
        cases List.mem_cons.mp member with
        | inl first => rwa [first]
        | inr later => exact fun taken => fresh a later (List.mem_cons_of_mem _ taken)

theorem startsGet_candidate (name : String) (n : Nat) :
    "Get".toList <+: (Naming.candidate ("Get" ++ name) "" n).toList := by
  cases n with
  | zero =>
      rw [Naming.candidate, String.toList_append]
      exact List.prefix_append _ _
  | succ n =>
      rw [Naming.candidate, String.toList_append, String.toList_append, String.toList_append,
        List.append_assoc, List.append_assoc]
      exact List.prefix_append _ _

/-- Whatever number it gets, the name of an accessor starts with `Get`. -/
theorem startsGet_of_mem_accessors {ds : List Declaration} {name : String}
    (h : name ∈ (accessors used ds).map Prod.fst) : "Get".toList <+: name.toList := by
  induction ds generalizing used with
  | nil => cases h
  | cons d rest ih =>
      rw [accessors, List.map_cons] at h
      cases List.mem_cons.mp h with
      | inl first =>
          obtain ⟨n, -, found, -⟩ :=
            Naming.firstFree_spec ("Get" ++ Naming.pascalCase d.name) "" used
          rw [first, found]
          exact startsGet_candidate _ n
      | inr later => exact ih later

theorem not_startsGet_of_startsSmall {name : String} (h : Naming.StartsSmall name) :
    ¬ "Get".toList <+: name.toList := by
  rintro ⟨rest, same⟩
  obtain ⟨c, rest', chars, small⟩ := h
  rw [chars] at same
  obtain ⟨rfl, -⟩ := List.cons.inj same
  revert small
  decide

end Accessors

section Declarations

variable {names : Naming.Mapping} {program : List Statement}

/-- Constants, inputs and formulas are all the declarations, each once. -/
theorem perm_members (declared : List Declaration) (outputs : List Address) :
    ((members declared outputs).constants ++
      ((members declared outputs).inputs ++ (members declared outputs).formulas)).Perm
        declared := by
  have kinds : ∀ d : Declaration, decide (d.statement.kind = .formula) =
      !decide (d.statement.kind = .input) := by
    intro d
    cases d.statement.kind <;> rfl
  simp only [members, List.partition_eq_filter_filter, kinds]
  rw [← List.append_assoc]
  refine List.Perm.trans (List.Perm.append_right _ ?_) (List.filter_append_perm _ declared)
  exact List.perm_append_comm.trans (List.filter_append_perm _ _)

theorem declare_eq_ok {deferred : List String} {s : Statement} {d : Declaration}
    (h : declare names deferred s = .ok d) : d.statement = s ∧ names.get? s.raw = some d.name := by
  rw [declare] at h
  split at h
  case h_1 => cases h
  case h_2 name found =>
    obtain ⟨e, -, made⟩ := bind_eq_ok.mp h
    cases made
    exact ⟨rfl, found⟩

/-- Each declaration has the final name of its statement. -/
theorem declarations_eq_ok (h : declarations names program = .ok declared) :
    declared.map (·.statement) = program ∧
      ∀ d ∈ declared, names.get? d.statement.raw = some d.name := by
  rw [declarations, mapM_eq_ok] at h
  constructor
  · generalize deferredNames program = deferred at h
    induction h with
    | nil => rfl
    | cons first _ ih => rw [List.map_cons, ih, (declare_eq_ok first).1]
  · intro d member
    obtain ⟨s, -, made⟩ := exists_left_of_forall₂ h member
    obtain ⟨same, found⟩ := declare_eq_ok made
    rw [same, found]

/-- Statements with different raw names have different final names. -/
theorem nodup_names (h : declarations names program = .ok declared)
    (raws : (program.map Statement.raw).Nodup)
    (injective : ∀ {raw other name}, names.get? raw = some name → names.get? other = some name →
      raw = other) : (declared.map Declaration.name).Nodup := by
  obtain ⟨statements, named⟩ := declarations_eq_ok h
  rw [← statements, List.map_map] at raws
  refine (List.Nodup.of_map _ raws).map_on ?_
  intro d first d' second same
  refine List.inj_on_of_nodup_map raws first second ?_
  refine injective (named d first) ?_
  rw [same]
  exact named d' second

end Declarations

section Names

variable {names : Naming.Mapping} {program : List Statement} {className : String}

theorem mem_values_iff {name : String} :
    name ∈ (members declared outputs).values ↔ name ∈ declared.map Declaration.name :=
  ((perm_members declared outputs).map Declaration.name).mem_iff

/-- Constants and fields have final names. -/
theorem get?_of_mem_values (h : declarations names program = .ok declared) {name : String}
    (member : name ∈ (members declared outputs).values) : ∃ raw, names.get? raw = some name := by
  obtain ⟨d, listed, rfl⟩ := List.mem_map.mp (mem_values_iff.mp member)
  exact ⟨d.statement.raw, (declarations_eq_ok h).2 d listed⟩

/-- The members have distinct names. -/
theorem nodup_members (h : declarations names program = .ok declared)
    (raws : (program.map Statement.raw).Nodup)
    (assigned : Naming.assign [className] program = .ok names) :
    (members declared outputs).names.Nodup := by
  obtain ⟨names', assigned', total⟩ := Naming.exists_assigned [className] program
  obtain rfl : names = names' := Except.ok.inj (assigned.symm.trans assigned')
  rw [Members.names, List.nodup_append]
  refine ⟨?_, (nodup_accessors [] _).1, ?_⟩
  · exact (((perm_members declared outputs).map Declaration.name).nodup_iff).mpr
      (nodup_names h raws total.injective)
  · intro name value accessor listed same
    subst same
    obtain ⟨raw, found⟩ := get?_of_mem_values h value
    have small := Naming.startsSmall_of_assign assigned found
    exact not_startsGet_of_startsSmall small (startsGet_of_mem_accessors listed)

/-- No constant or field has the name of the class. -/
theorem className_notMem_values (h : declarations names program = .ok declared)
    (assigned : Naming.assign [className] program = .ok names) :
    className ∉ (members declared outputs).values := by
  obtain ⟨names', assigned', total⟩ := Naming.exists_assigned [className] program
  obtain rfl : names = names' := Except.ok.inj (assigned.symm.trans assigned')
  intro member
  obtain ⟨raw, found⟩ := get?_of_mem_values h member
  exact (total.legal found).2 (List.mem_append_right _ List.mem_cons_self)

end Names

end ClassFile

open ClassFile

/-- What a compilation went through: the formulas in order, the program they are lowered to, the
names, the declarations, and the file that is written. -/
structure Compiled (w : Workbook) (options : Options) (c : Compilation) (layout : Layout)
    (program : List Lowering.Statement) (declared : List Declaration) : Prop where
  className : Compilation.checkedClassName w options = .ok c.className
  dotted : Compilation.checkNamespace options = .ok ()
  laidOut : layout = { className := c.className, namespaceName := options.namespaceName,
                       source := w.name, includeRuntime := options.includeRuntime }
  ordered : (Dependency.Graph.ofWorkbook w).order = .ok c.order
  lowered : Lowering.statements w options.inlineValues c.order = .ok program
  assigned : Naming.assign [c.className] program = .ok c.names
  chosen : Compilation.outputCells w (.ofWorkbook w) c.order options = .ok c.outputs
  declares : declarations c.names program = .ok declared
  written : c.source = renderLines (fileLines layout declared c.outputs)

theorem exists_compiled {w : Workbook} {options : Options} {c : Compilation}
    (h : compile w options = .ok c) :
    ∃ layout program declared, Compiled w options c layout program declared := by
  simp only [compile, bind_eq_ok, pure_eq_ok] at h
  obtain ⟨className, usable, ⟨⟩, dotted, order, ordered, program, lowered, names, assigned, outputs,
    chosen, text, written, evaluation, -, rfl⟩ := h
  rw [source, bind_eq_ok] at written
  obtain ⟨declared, declares, rendered⟩ := written
  exact ⟨_, program, declared, usable, dotted, rfl, ordered, lowered, assigned, chosen, declares,
    (Except.ok.inj rendered).symm⟩

namespace Compiled

variable {w : Workbook} {options : Options} {c : Compilation} {layout : Layout}
  {program : List Lowering.Statement} {declared : List Declaration}

theorem evaluationOrder (h : Compiled w options c layout program declared) :
    Dependency.EvaluationOrder w c.order :=
  Dependency.Graph.evaluationOrder_of_order_eq_ok h.ordered

theorem statements (h : Compiled w options c layout program declared) :
    declared.map (·.statement) = program :=
  (declarations_eq_ok h.declares).1

theorem legal (h : Compiled w options c layout program declared) {raw name : String}
    (found : c.names.get? raw = some name) :
    Naming.isIdentifier name ∧ name ∉ Code.keywords := by
  obtain ⟨names, assigned, total⟩ := Naming.exists_assigned [c.className] program
  obtain rfl : c.names = names := Except.ok.inj (h.assigned.symm.trans assigned)
  obtain ⟨identifier, free⟩ := total.legal found
  exact ⟨identifier, fun reserved => free (List.mem_append_left _ reserved)⟩

/-- The names of the declarations can be used as identifiers. -/
theorem isIdentifier_name (h : Compiled w options c layout program declared) :
    ∀ d ∈ declared, Naming.isIdentifier d.name :=
  fun d member => (h.legal ((declarations_eq_ok h.declares).2 d member)).1

end Compiled

/-- What a compilation writes is a class whose members have distinct names. None of them has the
name of the class, except perhaps an accessor where that name starts with `Get`. -/
theorem compile_members {w : Workbook} {options : Options} {c : Compilation}
    (h : compile w options = .ok c) :
    ∃ (layout : Layout) (program : List Lowering.Statement) (declared : List Declaration),
      Lowering.statements w options.inlineValues c.order = .ok program ∧
        declarations c.names program = .ok declared ∧
        layout.className = c.className ∧
        c.source = renderLines (fileLines layout declared c.outputs) ∧
        classLines layout declared c.outputs = (members declared c.outputs).lines layout ∧
        (members declared c.outputs).names.Nodup ∧
        c.className ∉ (members declared c.outputs).values ∧
        ("Get".toList <+: c.className.toList ∨
          c.className ∉ (members declared c.outputs).names) := by
  obtain ⟨layout, program, declared, compiled⟩ := exists_compiled h
  have raws := Lowering.nodup_raws compiled.evaluationOrder compiled.lowered
  have apart : c.className ∉ (members declared c.outputs).values :=
    className_notMem_values compiled.declares compiled.assigned
  refine ⟨layout, program, declared, compiled.lowered, compiled.declares, by rw [compiled.laidOut],
    compiled.written, classLines_eq _ _ _, nodup_members compiled.declares raws compiled.assigned,
    apart, ?_⟩
  by_cases starts : "Get".toList <+: c.className.toList
  · exact .inl starts
  · refine .inr fun member => ?_
    cases List.mem_append.mp member with
    | inl value => exact apart value
    | inr accessor => exact starts (startsGet_of_mem_accessors accessor)

/-- The name of the workbook and the label of its formula lead to the same name, for the class and
for an accessor. -/
def getTotal : Workbook where
  name := "get total"
  sheets := ["S"]
  cells := .ofList [
    (⟨"S", 0, 0⟩, ⟨.formula "B1&\"!\"" (.binary .concat (.cell ⟨"S", 0, 1⟩) (.literal (.text "!"))),
      some "Total model", none⟩),
    (⟨"S", 0, 1⟩, ⟨.value (.text "x"), none, none⟩)]

/-- The accessor has the name of the class. No other member has it, and the names are distinct. -/
theorem getTotal_members :
    ∃ c, compile getTotal {} = .ok c ∧ c.className = "GetTotalModel" ∧ c.outputs = [⟨"S", 0, 0⟩] ∧
      ∃ (layout : Layout) (declared : List Declaration),
        layout.className = c.className ∧
          c.source = renderLines (fileLines layout declared c.outputs) ∧
          classLines layout declared c.outputs = (members declared c.outputs).lines layout ∧
          (members declared c.outputs).names = ["s_B1", "totalModel", "GetTotalModel"] ∧
          (members declared c.outputs).names.Nodup ∧
          c.className ∉ (members declared c.outputs).values ∧
          c.className ∈ (members declared c.outputs).accessors.map Prod.fst := by
  have run : (do
      let c ← compile getTotal {}
      let program ← Lowering.statements getTotal false c.order
      let declared ← declarations c.names program
      return (c.className, c.outputs, (members declared c.outputs).names,
        (members declared c.outputs).accessors.map Prod.fst)) =
      .ok ("GetTotalModel", [⟨"S", 0, 0⟩], ["s_B1", "totalModel", "GetTotalModel"],
        ["GetTotalModel"]) := by
    decide +kernel
  simp only [bind_eq_ok, pure_eq_ok, Prod.mk.injEq] at run
  obtain ⟨c, compiled, program', lowered', declared', declares', className, outputs, names,
    accessor⟩ := run
  obtain ⟨layout, program, declared, lowered, declares, same, written, lines, distinct, apart, -⟩ :=
    compile_members compiled
  obtain rfl : program = program' := Except.ok.inj (lowered.symm.trans lowered')
  obtain rfl : declared = declared' := Except.ok.inj (declares.symm.trans declares')
  refine ⟨c, compiled, className, outputs, layout, declared, same, written, lines, names, distinct,
    apart, ?_⟩
  rw [accessor, className]
  exact List.mem_singleton_self _

end SheetCompiler
