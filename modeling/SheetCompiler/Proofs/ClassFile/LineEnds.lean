import SheetCompiler.Proofs.Address.Spelling
import SheetCompiler.Proofs.ClassFile.Members
import SheetCompiler.Proofs.Code.LineEnds

/-!
# Lines of the generated file

The file is laid out line by line, and a text of the workbook that holds a line end can break a line
in two. Such texts reach the file on four ways. The name of the workbook and the labels are
flattened, which removes carriage returns and line feeds and no other line end; text literals are
escaped, which leaves the separators; the names of sheets stand in comments as they are. All other
parts of a line are names made of letters, digits and underscores, or fixed.
-/

namespace SheetCompiler

namespace ClassFile

open Code (Holds lineEnds separators holds_append holds_iff holds_ofList)
open Lowering (Statement)

/-- The line ends that flattening a text leaves in it. -/
def otherLineEnds : List Char :=
  ['\u0085', '\u2028', '\u2029']

section Texts

theorem holds_singleLine (s : String) : Holds lineEnds (singleLine s) ↔ Holds otherLineEnds s := by
  have flattened : ∀ c : Char, (if c = '\r' || c = '\n' then ' ' else c) ∈ lineEnds ↔
      c ∈ otherLineEnds := by
    intro c
    by_cases cr : c = '\r'
    · subst cr
      decide
    · by_cases lf : c = '\n'
      · subst lf
        decide
      · simp [lineEnds, otherLineEnds, cr, lf]
  rw [singleLine, holds_ofList, holds_iff]
  simp only [List.mem_map, exists_exists_and_eq_and, flattened]

theorem holds_xmlText (s : String) : Holds lineEnds (xmlText s) ↔ Holds lineEnds s := by
  refine Code.holds_ofList_flatMap (fun c => ?_) s
  split
  case isTrue same =>
    rw [← holds_iff, same]
    decide
  case isFalse =>
    split
    case isTrue same =>
      rw [← holds_iff, same]
      decide
    case isFalse =>
      split
      case isTrue same =>
        rw [← holds_iff, same]
        decide
      case isFalse => simp

theorem holds_sheetText (sheet : String) :
    Holds lineEnds (Address.sheetText sheet) ↔ Holds lineEnds sheet := by
  have doubled : ∀ c, (∃ d ∈ (if c = '\'' then ['\'', '\''] else [c]), d ∈ lineEnds) ↔
      c ∈ lineEnds := by
    intro c
    split
    · simp_all
    · simp
  rw [Address.sheetText]
  split
  · rfl
  · rw [Text.delimited, Text.doubled, ← Code.holds_ofList_flatMap doubled sheet]
    simp +decide

theorem not_holds_localText (a : Address) : ¬ Holds lineEnds a.localText := by
  refine Code.not_holds_of_forall (p := Char.isAlphanum) ?_ (by decide)
  rw [Address.toList_localText]
  intro c member
  rw [Char.isAlphanum, Bool.or_eq_true]
  cases List.mem_append.mp member with
  | inl letter => exact .inl (Address.isAlpha_of_mem_columnChars letter)
  | inr digit => exact .inr (Nat.isDigit_of_mem_toDigits (by decide) (by decide) digit)

/-- Of an address, only the sheet can bring a line end. -/
theorem holds_text (a : Address) : Holds lineEnds a.text ↔ Holds lineEnds a.sheet := by
  simp +decide [Address.text, holds_sheetText, not_holds_localText]

theorem continuesIdentifier_of_mem {s : String} (h : Naming.isIdentifier s) {c : Char}
    (member : c ∈ s.toList) : Naming.continuesIdentifier c := by
  rw [Naming.isIdentifier] at h
  cases chars : s.toList with
  | nil =>
      rw [chars] at member
      cases member
  | cons first rest =>
      rw [chars] at h member
      simp only [Naming.isIdentifierChars, Naming.startsIdentifier, Bool.and_eq_true,
        Bool.or_eq_true, List.all_eq_true] at h
      cases List.mem_cons.mp member with
      | inl same =>
          rw [same, Naming.continuesIdentifier, Bool.or_eq_true, Bool.or_eq_true]
          exact h.1.imp_left .inl
      | inr later => exact h.2 c later

theorem not_holds_of_isIdentifier {s : String} (h : Naming.isIdentifier s) : ¬ Holds lineEnds s :=
  Code.not_holds_of_forall (fun _ => continuesIdentifier_of_mem h) (by decide)

theorem not_holds_of_isDottedName {s : String} (h : Naming.isDottedName s) :
    ¬ Holds lineEnds s := by
  have joined : ".".intercalate ((s.toList.splitOn '.').map String.ofList) = s := by
    rw [← String.toList_inj, String.toList_intercalate, List.map_map]
    simp
  rw [← joined, Code.holds_intercalate (by decide)]
  rintro ⟨part, member, holds⟩
  obtain ⟨cs, listed, rfl⟩ := List.mem_map.mp member
  have usable := List.all_eq_true.mp h cs listed
  rw [Naming.isUsable, Bool.and_eq_true] at usable
  exact not_holds_of_isIdentifier usable.1 holds

end Texts

/-- One of the lines holds a line end. -/
def Broken (lines : List Line) : Prop :=
  ∃ l ∈ lines, Holds lineEnds l.text

section Lines

variable {l : Line} {lines more : List Line}

@[simp] theorem text_line (s : String) : (line s).text = s := rfl

@[simp] theorem text_blank : blank.text = "" := rfl

@[simp] theorem not_broken_nil : ¬ Broken [] := by
  simp [Broken]

@[simp] theorem broken_cons : Broken (l :: lines) ↔ Holds lineEnds l.text ∨ Broken lines := by
  simp [Broken]

@[simp] theorem broken_append : Broken (lines ++ more) ↔ Broken lines ∨ Broken more := by
  simp only [Broken, List.mem_append, or_and_right, exists_or]

@[simp] theorem broken_flatMap {α : Type} {items : List α} {f : α → List Line} :
    Broken (items.flatMap f) ↔ ∃ a ∈ items, Broken (f a) := by
  induction items with
  | nil => simp
  | cons a rest ih => simp [ih]

@[simp] theorem broken_indented : Broken (indented lines) ↔ Broken lines := by
  simp [Broken, indented]

@[simp] theorem broken_dropLastBlank : Broken (dropLastBlank lines) ↔ Broken lines := by
  rw [dropLastBlank]
  split
  · case h_1 last found =>
      split
      · case isTrue empty =>
          obtain ⟨before, rfl⟩ := List.getLast?_eq_some_iff.mp found
          rw [String.isEmpty_iff] at empty
          simp +decide [empty]
      · rfl
  · rfl

@[simp] theorem broken_braced : Broken (braced lines) ↔ Broken lines := by
  simp +decide [braced]

end Lines

section Declarations

variable {d : Declaration} {inputs formulas : List Declaration}

/-- A comment is broken by the name of the sheet or by what is left of the label. -/
theorem holds_comment (d : Declaration) : Holds lineEnds d.comment ↔
    Holds lineEnds d.statement.cell.sheet ∨
      ∃ label, d.statement.label = some label ∧ Holds otherLineEnds label := by
  cases label : d.statement.label with
  | none => simp +decide [Declaration.comment, label, holds_text]
  | some text => simp +decide [Declaration.comment, label, holds_text, holds_singleLine]

theorem not_holds_valueType (d : Declaration) : ¬ Holds lineEnds d.valueType :=
  Code.Expr.not_holds_codeName _

theorem not_holds_fieldType (d : Declaration) : ¬ Holds lineEnds d.fieldType := by
  rw [Declaration.fieldType]
  split <;> simp +decide [not_holds_valueType]

/-- What is written of the declaration breaks a line. -/
def Declaration.Breaks (d : Declaration) : Prop :=
  Holds lineEnds d.comment ∨ Holds lineEnds d.expr.render

theorem broken_constantLines (named : ¬ Holds lineEnds d.name) :
    Broken (constantLines d) ↔ d.Breaks := by
  simp +decide [constantLines, Declaration.Breaks, not_holds_valueType, named]

theorem broken_fieldLines (named : ¬ Holds lineEnds d.name) :
    Broken (fieldLines d) ↔ Holds lineEnds d.comment := by
  simp +decide [fieldLines, not_holds_fieldType, named]

theorem broken_formulaLines (named : ¬ Holds lineEnds d.name) :
    Broken (formulaLines d) ↔ d.Breaks := by
  cases held : d.deferred <;>
    simp +decide [formulaLines, Declaration.Breaks, held, not_holds_fieldType, named]

theorem broken_parameterLines (named : ∀ d ∈ inputs, ¬ Holds lineEnds d.name) :
    Broken (parameterLines inputs) ↔ ∃ d ∈ inputs, Holds lineEnds d.expr.render := by
  fun_induction parameterLines inputs with
  | case1 => simp
  | case2 d => simp_all +decide [parameterLines.parameter, not_holds_valueType]
  | case3 d rest _ ih => simp_all +decide [parameterLines.parameter, not_holds_valueType]

theorem broken_constructorHead {className : String} (usable : ¬ Holds lineEnds className)
    (named : ∀ d ∈ inputs, ¬ Holds lineEnds d.name) :
    Broken (constructorHead className inputs) ↔ ∃ d ∈ inputs, Holds lineEnds d.expr.render := by
  rw [constructorHead]
  split
  · simp_all +decide
  · simp +decide [usable, broken_parameterLines named]

theorem broken_constructorBody (given : ∀ d ∈ inputs, ¬ Holds lineEnds d.name)
    (named : ∀ d ∈ formulas, ¬ Holds lineEnds d.name) :
    Broken (constructorBody inputs formulas) ↔ ∃ d ∈ formulas, d.Breaks := by
  have computed : Broken (formulas.flatMap fun d => blank :: formulaLines d) ↔
      ∃ d ∈ formulas, d.Breaks := by
    rw [broken_flatMap]
    refine exists_congr fun d => and_congr_right fun member => ?_
    simp +decide [broken_formulaLines (named d member)]
  have set : ¬ Broken (inputs.map fun d => line ("this." ++ d.name ++ " = " ++ d.name ++ ";")) := by
    rintro ⟨l, member, holds⟩
    obtain ⟨d, listed, rfl⟩ := List.mem_map.mp member
    simp +decide [given d listed] at holds
  simp only [constructorBody]
  split
  · -- The line that is dropped is blank.
    rw [← computed]
    cases formulas with
    | nil => simp
    | cons d rest => simp +decide
  · rw [broken_append, computed, or_iff_right set]

end Declarations

section Members

variable {declared : List Declaration} {layout : Layout}

theorem mem_accessors {used : List String} {ds : List Declaration}
    (named : ∀ d ∈ ds, Naming.isIdentifier d.name) :
    ∀ a ∈ accessors used ds, Naming.isIdentifier a.1 ∧ a.2 ∈ ds := by
  induction ds generalizing used with
  | nil => nofun
  | cons d rest ih =>
      intro a member
      rw [accessors] at member
      cases List.mem_cons.mp member with
      | inl first =>
          subst first
          obtain ⟨n, -, found, -⟩ :=
            Naming.firstFree_spec ("Get" ++ Naming.pascalCase d.name) "" used
          have pascal := Naming.isIdentifier_pascalCase (named d List.mem_cons_self)
          have base : Naming.isIdentifier ("Get" ++ Naming.pascalCase d.name) :=
            Naming.isIdentifier_append (by decide) fun c => continuesIdentifier_of_mem pascal
          rw [found]
          exact ⟨Naming.isIdentifier_candidate base n, List.mem_cons_self⟩
      | inr later =>
          have others : ∀ d ∈ rest, Naming.isIdentifier d.name :=
            fun d inside => named d (List.mem_cons_of_mem _ inside)
          exact (ih others a later).imp_right (List.mem_cons_of_mem _)

theorem broken_accessorLines {a : String × Declaration} (called : ¬ Holds lineEnds a.1)
    (named : ¬ Holds lineEnds a.2.name) :
    Broken (Members.accessorLines a) ↔ Holds lineEnds a.2.comment := by
  have read : ¬ Holds lineEnds a.2.read := by
    rw [Declaration.read]
    split <;> simp +decide [named]
  simp +decide [Members.accessorLines, not_holds_valueType, called, read]

theorem broken_members {m : Members} (usable : ¬ Holds lineEnds layout.className)
    (named : ∀ d ∈ m.constants ++ (m.inputs ++ m.formulas), ¬ Holds lineEnds d.name)
    (accessed : ∀ a ∈ m.accessors, ¬ Holds lineEnds a.1 ∧ ¬ Holds lineEnds a.2.name) :
    Broken (m.lines layout) ↔ Holds otherLineEnds layout.source ∨
      (∃ d ∈ m.constants, d.Breaks) ∨ (∃ d ∈ m.inputs ++ m.formulas, Holds lineEnds d.comment) ∨
      (∃ d ∈ m.inputs, Holds lineEnds d.expr.render) ∨ (∃ d ∈ m.formulas, d.Breaks) ∨
      ∃ a ∈ m.accessors, Holds lineEnds a.2.comment := by
  simp only [List.forall_mem_append] at named
  obtain ⟨constantsNamed, inputsNamed, formulasNamed⟩ := named
  have constants : (∃ d ∈ m.constants, Broken (constantLines d)) ↔ ∃ d ∈ m.constants, d.Breaks :=
    exists_congr fun d => and_congr_right fun member =>
      broken_constantLines (constantsNamed d member)
  have fields : (∃ d ∈ m.inputs ++ m.formulas, Broken (fieldLines d)) ↔
      ∃ d ∈ m.inputs ++ m.formulas, Holds lineEnds d.comment :=
    exists_congr fun d => and_congr_right fun member =>
      broken_fieldLines ((List.mem_append.mp member).elim (inputsNamed d) (formulasNamed d))
  have accessors : (∃ a ∈ m.accessors, Broken (Members.accessorLines a)) ↔
      ∃ a ∈ m.accessors, Holds lineEnds a.2.comment :=
    exists_congr fun a => and_congr_right fun member =>
      broken_accessorLines (accessed a member).1 (accessed a member).2
  rw [← constants, ← fields, ← accessors, ← broken_constructorHead usable inputsNamed,
    ← broken_constructorBody inputsNamed formulasNamed]
  simp +decide only [Members.lines_eq, broken_append, broken_cons, broken_braced, broken_flatMap,
    text_line, holds_append, holds_xmlText, holds_singleLine, usable, not_broken_nil, or_assoc,
    or_false, false_or]

/-- A class is broken by the name of the workbook or by one of its declarations. -/
theorem broken_classLines (usable : Naming.isIdentifier layout.className)
    (named : ∀ d ∈ declared, Naming.isIdentifier d.name) (outputs : List Address) :
    Broken (classLines layout declared outputs) ↔
      Holds otherLineEnds layout.source ∨ ∃ d ∈ declared, d.Breaks := by
  have listed : ∀ d, d ∈ (members declared outputs).constants ++
      ((members declared outputs).inputs ++ (members declared outputs).formulas) ↔ d ∈ declared :=
    fun d => (perm_members declared outputs).mem_iff
  have accessed : ∀ a ∈ (members declared outputs).accessors,
      Naming.isIdentifier a.1 ∧ a.2 ∈ declared := by
    intro a member
    obtain ⟨called, chosen⟩ := mem_accessors
      (fun d inside => named d (List.mem_filter.mp inside).1) a member
    exact ⟨called, (List.mem_filter.mp chosen).1⟩
  rw [classLines_eq, broken_members (not_holds_of_isIdentifier usable)
    (fun d member => not_holds_of_isIdentifier (named d ((listed d).mp member)))
    fun a member => (accessed a member).imp not_holds_of_isIdentifier
      fun inside => not_holds_of_isIdentifier (named a.2 inside)]
  simp only [List.mem_append] at listed ⊢
  constructor
  · rintro (source | ⟨d, constant, breaks⟩ | ⟨d, field, comment⟩ | ⟨d, input, written⟩ |
      ⟨d, formula, breaks⟩ | ⟨a, member, comment⟩)
    · exact .inl source
    · exact .inr ⟨d, (listed d).mp (.inl constant), breaks⟩
    · exact .inr ⟨d, (listed d).mp (.inr field), .inl comment⟩
    · exact .inr ⟨d, (listed d).mp (.inr (.inl input)), .inr written⟩
    · exact .inr ⟨d, (listed d).mp (.inr (.inr formula)), breaks⟩
    · exact .inr ⟨a.2, (accessed a member).2, .inl comment⟩
  · rintro (source | ⟨d, member, breaks⟩)
    · exact .inl source
    · rcases (listed d).mpr member with constant | input | formula
      · exact .inr (.inl ⟨d, constant, breaks⟩)
      · -- The comment of an input stands at its field, its value at its parameter.
        rcases breaks with comment | written
        · exact .inr (.inr (.inl ⟨d, .inl input, comment⟩))
        · exact .inr (.inr (.inr (.inl ⟨d, input, written⟩)))
      · exact .inr (.inr (.inr (.inr (.inl ⟨d, formula, breaks⟩))))

theorem not_broken_supportLines : ¬ Broken (Code.supportLines.map line) := by
  rintro ⟨l, member, holds⟩
  obtain ⟨s, listed, rfl⟩ := List.mem_map.mp member
  exact Code.not_holds_supportLines s listed holds

theorem broken_header (layout : Layout) :
    Broken (header layout) ↔ Holds otherLineEnds layout.source := by
  simp +decide [header, holds_singleLine, Code.imports]

/-- So is the whole file. -/
theorem broken_fileLines (usable : Naming.isIdentifier layout.className)
    (dotted : ∀ name ∈ layout.namespaceName, Naming.isDottedName name)
    (named : ∀ d ∈ declared, Naming.isIdentifier d.name) (outputs : List Address) :
    Broken (fileLines layout declared outputs) ↔
      Holds otherLineEnds layout.source ∨ ∃ d ∈ declared, d.Breaks := by
  have support :
      ¬ Broken (if layout.includeRuntime then blank :: Code.supportLines.map line else []) := by
    split <;> simp +decide [not_broken_supportLines]
  have body : Broken (classLines layout declared outputs ++
      if layout.includeRuntime then blank :: Code.supportLines.map line else []) ↔
        Holds otherLineEnds layout.source ∨ ∃ d ∈ declared, d.Breaks := by
    rw [broken_append, or_iff_left support, broken_classLines usable named]
  simp only [fileLines]
  rw [broken_append, broken_header]
  split
  · rw [body, or_self_left]
  · case h_2 name found =>
      have spaced := not_holds_of_isDottedName (dotted name (Option.mem_def.mpr found))
      rw [broken_cons, broken_braced, body]
      simp +decide [spaced]

end Members

section Programs

variable {names : Naming.Mapping} {deferred : List String} {program : List Statement}
  {declared : List Declaration}

/-- What is written of a statement breaks a line: the name of its sheet by any line end, its label
by one that flattening leaves, and its text literals by a separator. -/
def BreaksLine (s : Statement) : Prop :=
  Holds lineEnds s.cell.sheet ∨ (∃ label, s.label = some label ∧ Holds otherLineEnds label) ∨
    ∃ text, .text text ∈ s.expr.parts ∧ Holds separators text

theorem not_holds_readAs (legal : ∀ raw name, names.get? raw = some name → Naming.isIdentifier name)
    (raw name : String) (read : readAs names deferred raw = some name) : ¬ Holds lineEnds name := by
  obtain ⟨final, found, rfl⟩ := Option.map_eq_some_iff.mp read
  have plain := not_holds_of_isIdentifier (legal raw final found)
  split <;> simp +decide [plain]

theorem rename_of_declare {s : Statement} {d : Declaration}
    (h : declare names deferred s = .ok d) :
    s.expr.rename (readAs names deferred) = .ok d.expr := by
  rw [declare] at h
  split at h
  case h_1 => cases h
  case h_2 name found =>
    obtain ⟨e, renamed, made⟩ := bind_eq_ok.mp h
    cases made
    exact renamed

theorem breaks_of_declare {s : Statement} {d : Declaration} {Γ : Code.Context} {τ : Code.CodeType}
    (legal : ∀ raw name, names.get? raw = some name → Naming.isIdentifier name)
    (h : declare names deferred s = .ok d) (typed : Code.HasType Γ s.expr τ) :
    d.Breaks ↔ BreaksLine s := by
  have written := typed.holds_render_rename (rename_of_declare h) (not_holds_readAs legal)
  rw [Declaration.Breaks, holds_comment, written, (declare_eq_ok h).1, or_assoc]
  rfl

/-- The declarations of a program break lines where its statements do. -/
theorem exists_breaks_iff
    (legal : ∀ raw name, names.get? raw = some name → Naming.isIdentifier name)
    (h : declarations names program = .ok declared)
    (typed : ∀ s ∈ program, ∃ Γ τ, Code.HasType Γ s.expr τ) :
    (∃ d ∈ declared, d.Breaks) ↔ ∃ s ∈ program, BreaksLine s := by
  rw [declarations, mapM_eq_ok] at h
  constructor
  · rintro ⟨d, member, breaks⟩
    obtain ⟨s, listed, made⟩ := exists_left_of_forall₂ h member
    obtain ⟨Γ, τ, typed⟩ := typed s listed
    exact ⟨s, listed, (breaks_of_declare legal made typed).mp breaks⟩
  · rintro ⟨s, listed, breaks⟩
    obtain ⟨d, member, made⟩ := exists_right_of_forall₂ h listed
    obtain ⟨Γ, τ, typed⟩ := typed s listed
    exact ⟨d, member, (breaks_of_declare legal made typed).mpr breaks⟩

end Programs

end ClassFile

open ClassFile
open Code (Holds lineEnds)

theorem isIdentifier_of_checkedClassName {w : Workbook} {options : Options} {name : String}
    (h : Compilation.checkedClassName w options = .ok name) : Naming.isIdentifier name := by
  simp only [Compilation.checkedClassName] at h
  split at h
  · case isTrue usable =>
      rw [Except.ok.inj h, Naming.isUsable, Bool.and_eq_true] at usable
      exact usable.1
  · cases h

theorem isDottedName_of_checkNamespace {options : Options}
    (h : Compilation.checkNamespace options = .ok ()) :
    ∀ name ∈ options.namespaceName, Naming.isDottedName name := by
  intro name given
  rw [Compilation.checkNamespace, Option.mem_def.mp given] at h
  simp only at h
  split at h
  · assumption
  · cases h

/-- A line of the file that a compilation writes holds a line end exactly where the name of the
workbook or a statement of the program brings one. -/
theorem compile_broken_iff {w : Workbook} {options : Options} {c : Compilation}
    (h : compile w options = .ok c) :
    ∃ (layout : Layout) (declared : List Declaration) (program : List Lowering.Statement),
      Lowering.statements w options.inlineValues c.order = .ok program ∧
        declared.map (·.statement) = program ∧
        c.source = renderLines (fileLines layout declared c.outputs) ∧
        (Broken (fileLines layout declared c.outputs) ↔
          Holds otherLineEnds w.name ∨ ∃ s ∈ program, BreaksLine s) := by
  obtain ⟨layout, program, declared, compiled⟩ := exists_compiled h
  have legal (raw name : String) (found : c.names.get? raw = some name) :
      Naming.isIdentifier name :=
    (compiled.legal found).1
  have typed : ∀ s ∈ program, ∃ Γ τ, Code.HasType Γ s.expr τ := by
    intro s member
    obtain ⟨before, after, split⟩ := List.append_of_mem member
    exact ⟨_, _, Lowering.wellTyped_statement compiled.evaluationOrder compiled.lowered split⟩
  have usable : Naming.isIdentifier layout.className := by
    rw [compiled.laidOut]
    exact isIdentifier_of_checkedClassName compiled.className
  have dotted : ∀ name ∈ layout.namespaceName, Naming.isDottedName name := by
    rw [compiled.laidOut]
    exact isDottedName_of_checkNamespace compiled.dotted
  refine ⟨layout, declared, program, compiled.lowered, compiled.statements, compiled.written, ?_⟩
  rw [broken_fileLines usable dotted compiled.isIdentifier_name,
    exists_breaks_iff legal compiled.declares typed, compiled.laidOut]

/-- One value on a sheet whose name goes over two lines. -/
def twoLines : Workbook where
  name := "book"
  sheets := ["North\nSouth"]
  cells := .ofList [(⟨"North\nSouth", 0, 0⟩, ⟨.value (.text "x"), none, none⟩)]

theorem twoLines_broken : ∃ c, compile twoLines {} = .ok c ∧
    ∃ (layout : Layout) (declared : List Declaration),
      c.source = renderLines (fileLines layout declared c.outputs) ∧
        Broken (fileLines layout declared c.outputs) := by
  have run : (compile twoLines {}).map (·.order) = .ok [] := by decide +kernel
  have cells : (Lowering.statements twoLines false []).map (·.map (·.cell.sheet)) =
      .ok ["North\nSouth"] := by decide +kernel
  obtain ⟨c, compiled, order⟩ := map_eq_ok.mp run
  obtain ⟨layout, declared, program, lowered, -, written, broken⟩ := compile_broken_iff compiled
  rw [order] at lowered
  obtain ⟨program', lowered', sheets⟩ := map_eq_ok.mp cells
  obtain rfl : program = program' := Except.ok.inj (lowered.symm.trans lowered')
  obtain ⟨s, member, sheet⟩ : ∃ s ∈ program, s.cell.sheet = "North\nSouth" :=
    List.mem_map.mp (sheets ▸ List.mem_cons_self)
  refine ⟨c, compiled, layout, declared, written, broken.mpr (.inr ⟨s, member, .inl ?_⟩)⟩
  rw [sheet]
  decide

end SheetCompiler
