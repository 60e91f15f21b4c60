import SheetCompiler.Code.Render
import SheetCompiler.Proofs.Code.Typing
import SheetCompiler.Proofs.Except

/-!
# Line ends in generated expressions

An expression is written on one line. Of what it is made of, only two parts can bring a line end
into its text: its identifiers, which are names made elsewhere, and its text literals. In a text
literal control characters are escaped, and with them three of the five line ends; the other two,
the line separator and the paragraph separator, stand in the literal as they are.
-/

namespace SheetCompiler.Code

/-- The characters that end a line of C#. -/
def lineEnds : List Char :=
  ['\r', '\n', '\u0085', '\u2028', '\u2029']

/-- The line ends that are no control characters. -/
def separators : List Char :=
  ['\u2028', '\u2029']

/-- One of the characters occurs in the text. -/
def Holds (marks : List Char) (s : String) : Prop :=
  s.toList.any marks.contains

instance (marks : List Char) (s : String) : Decidable (Holds marks s) :=
  inferInstanceAs (Decidable (_ = true))

section Holds

variable {marks : List Char} {s t : String}

theorem holds_iff : Holds marks s ↔ ∃ c ∈ s.toList, c ∈ marks := by
  simp [Holds]

@[simp] theorem holds_append : Holds marks (s ++ t) ↔ Holds marks s ∨ Holds marks t := by
  simp only [holds_iff, String.toList_append, List.mem_append, or_and_right, exists_or]

@[simp] theorem holds_ofList {cs : List Char} :
    Holds marks (String.ofList cs) ↔ ∃ c ∈ cs, c ∈ marks := by
  rw [holds_iff, String.toList_ofList]

/-- A text of characters of a class that has none of the marks. -/
theorem not_holds_of_forall {p : Char → Bool} (h : ∀ c ∈ s.toList, p c)
    (apart : marks.any p = false) : ¬ Holds marks s := by
  rw [holds_iff]
  rintro ⟨c, member, mark⟩
  exact List.any_eq_false.mp apart c mark (h c member)

/-- A text that is written character by character, each as a line end or not. -/
theorem holds_ofList_flatMap {written : List Char} {f : Char → List Char}
    (each : ∀ c, (∃ d ∈ f c, d ∈ written) ↔ c ∈ marks) (s : String) :
    Holds written (String.ofList (s.toList.flatMap f)) ↔ Holds marks s := by
  rw [holds_ofList, holds_iff]
  simp only [← each, List.mem_flatMap]
  constructor
  · rintro ⟨d, ⟨c, member, inside⟩, mark⟩
    exact ⟨c, member, d, inside, mark⟩
  · rintro ⟨c, member, d, inside, mark⟩
    exact ⟨d, ⟨c, member, inside⟩, mark⟩

theorem holds_intercalate {joint : String} (h : ¬ Holds marks joint) (parts : List String) :
    Holds marks (joint.intercalate parts) ↔ ∃ s ∈ parts, Holds marks s := by
  induction parts with
  | nil => simp [holds_iff]
  | cons s rest ih =>
      cases rest with
      | nil => simp
      | cons t others => simp [String.intercalate_cons_cons, h, ih]

end Holds

section Support

/-- The printable characters of ASCII. -/
def isPrintable (c : Char) : Bool :=
  0x20 ≤ c.toNat && c.toNat < 0x7F

theorem not_holds_of_isPrintable {cs : List Char} (h : cs.all isPrintable) :
    ¬ Holds lineEnds (String.ofList cs) := by
  refine not_holds_of_forall (p := isPrintable) ?_ (by decide)
  rw [String.toList_ofList]
  exact List.all_eq_true.mp h

-- A text is given by its characters here, so that none of the lines below has to be decoded.
theorem forall_not_holds_cons {cs : List Char} {rest : List String} (h : cs.all isPrintable = true)
    (later : ∀ s ∈ rest, ¬ Holds lineEnds s) : ∀ s ∈ String.ofList cs :: rest, ¬ Holds lineEnds s :=
  List.forall_mem_cons.mpr ⟨not_holds_of_isPrintable h, later⟩

-- A long line is given in two parts.
theorem forall_not_holds_append_cons {cs ds : List Char} {rest : List String}
    (h : cs.all isPrintable = true) (h' : ds.all isPrintable = true)
    (later : ∀ s ∈ rest, ¬ Holds lineEnds s) :
    ∀ s ∈ (String.ofList cs ++ String.ofList ds) :: rest, ¬ Holds lineEnds s := by
  refine List.forall_mem_cons.mpr ⟨?_, later⟩
  rw [holds_append, not_or]
  exact ⟨not_holds_of_isPrintable h, not_holds_of_isPrintable h'⟩

theorem not_holds_supportLines : ∀ s ∈ supportLines, ¬ Holds lineEnds s := by
  unfold supportLines
  repeat first
    | refine forall_not_holds_cons (Eq.refl true) ?_
    | refine forall_not_holds_append_cons (Eq.refl true) (Eq.refl true) ?_
  nofun

end Support

section Literals

/-- A character of a number that is written with digits. -/
def writesNumber (c : Char) : Bool :=
  c.isDigit || c ∈ ['.', 'e', '-']

theorem writesNumber_of_mem_digitChars {n : Nat} {c : Char} (h : c ∈ Decimal.digitChars n) :
    writesNumber c := by
  have digit : c.isDigit := Nat.isDigit_of_mem_toDigits (by decide) (by decide) h
  rw [writesNumber, digit, Bool.true_or]

theorem writesNumber_of_mem_layout (style : Decimal.NumberStyle) (d : Decimal.Scientific) :
    ∀ c ∈ (style.layout d).toList, writesNumber c := by
  have digits : ∀ n, ∀ c ∈ Decimal.digitChars n, writesNumber c :=
    fun n c => writesNumber_of_mem_digitChars
  have zeros : ∀ n, ∀ c ∈ List.replicate n '0', writesNumber c := by
    intro n c member
    rw [List.eq_of_mem_replicate member]
    rfl
  rw [Decimal.NumberStyle.layout]
  split
  case isTrue =>
    split
    case isTrue =>
      rw [String.toList_ofList]
      split
      · simp only [List.forall_mem_append, List.forall_mem_cons]
        exact ⟨⟨digits _, zeros _⟩, rfl, rfl, nofun⟩
      · simp only [List.forall_mem_append]
        exact ⟨digits _, zeros _⟩
    case isFalse =>
      split
      · simp only [String.toList_ofList, List.forall_mem_append, List.forall_mem_cons]
        exact ⟨fun c member => digits _ c (List.mem_of_mem_take member), rfl,
          fun c member => digits _ c (List.mem_of_mem_drop member)⟩
      · simp only [String.toList_ofList, List.forall_mem_append, List.forall_mem_cons]
        exact ⟨rfl, rfl, zeros _, digits _⟩
  case isFalse =>
    simp only [String.toList_ofList, List.forall_mem_append, List.forall_mem_cons]
    refine ⟨?_, rfl, ?_, digits _⟩
    · -- The mantissa has the digits and a point behind the first.
      have all := digits d.digits
      revert all
      cases Decimal.digitChars d.digits with
      | nil => nofun
      | cons c rest =>
          intro all
          cases rest <;> grind [writesNumber]
    · split
      · exact List.forall_mem_singleton.mpr rfl
      · nofun

theorem not_holds_of_writesNumber {s : String} (h : ∀ c ∈ s.toList, writesNumber c) :
    ¬ Holds lineEnds s :=
  not_holds_of_forall h (by decide)

theorem not_holds_integerText (i : Int) : ¬ Holds lineEnds (integerText i) := by
  have digits : ¬ Holds lineEnds (String.ofList (Decimal.digitChars i.natAbs)) := by
    refine not_holds_of_writesNumber ?_
    rw [String.toList_ofList]
    exact fun c => writesNumber_of_mem_digitChars
  rw [integerText]
  split
  · rw [holds_append]
    exact not_or.mpr ⟨by decide, digits⟩
  · exact digits

theorem not_holds_write (x : Float) :
    ¬ Holds lineEnds (Decimal.NumberStyle.literal.write x) := by
  have digits := fun d => not_holds_of_writesNumber (writesNumber_of_mem_layout .literal d)
  have sign : ¬ Holds lineEnds (if Decimal.isNegative x then "-" else "") := by
    split <;> decide
  simp only [Decimal.NumberStyle.write]
  split
  · decide
  · split
    · rw [holds_append, not_or]
      exact ⟨sign, by decide⟩
    · rw [holds_append, not_or]
      exact ⟨sign, digits _⟩

theorem not_holds_numberCode (x : Float) : ¬ Holds lineEnds (numberCode x) := by
  simp only [numberCode]
  split
  · exact not_holds_write x
  · rw [holds_append, not_or]
    exact ⟨not_holds_write x, by decide⟩

/-- The characters up to the last control character: what is written of none of them ends a line. -/
theorem charCode_of_lt : ∀ n < 0xA0,
    (charCode (Char.ofNat n)).any lineEnds.contains = false ∧ Char.ofNat n ∉ separators := by
  decide +kernel

/-- A character of a text literal is written as a line end only where it is one of the
separators. -/
theorem exists_mem_charCode_iff (c : Char) : (∃ d ∈ charCode c, d ∈ lineEnds) ↔ c ∈ separators := by
  by_cases small : c.toNat < 0xA0
  · obtain ⟨escaped, other⟩ := charCode_of_lt c.toNat small
    rw [Char.ofNat_toNat] at escaped other
    constructor
    · rintro ⟨d, member, ends⟩
      exact absurd (List.contains_iff_mem.mpr ends) (List.any_eq_false.mp escaped d member)
    · exact fun member => absurd member other
  · have large : ∀ d : Char, d.toNat < 0xA0 → c ≠ d := by
      rintro d bound rfl
      exact small bound
    have plain : charCode c = [c] := by
      have control : isControl c = false := by
        simp only [isControl, Bool.or_eq_false_iff, Bool.and_eq_false_iff, decide_eq_false_iff_not]
        omega
      simp only [charCode, if_neg (large _ (by decide : '"'.toNat < 0xA0)),
        if_neg (large '\\' (by decide)), if_neg (large '\n' (by decide)),
        if_neg (large '\r' (by decide)), if_neg (large '\t' (by decide)),
        if_neg (large '\x00' (by decide)), control, Bool.false_eq_true, if_false]
    have ends : c ∈ lineEnds ↔ c ∈ separators := by
      simp only [lineEnds, separators, List.mem_cons, large '\r' (by decide),
        large '\n' (by decide), large '\u0085' (by decide), false_or]
    simp only [plain, List.mem_singleton, exists_eq_left, ends]

/-- Of the line ends in a text, its literal keeps the separators. -/
theorem holds_textCode (s : String) : Holds lineEnds (textCode s) ↔ Holds separators s := by
  rw [textCode, ← holds_ofList_flatMap exists_mem_charCode_iff s]
  simp +decide

end Literals

/-- A part of an expression whose text is not fixed. -/
inductive Part where
  /-- A text literal. -/
  | text (s : String)
  /-- The sign of an operator or the target of a call. -/
  | symbol (s : String)
  /-- An identifier. -/
  | name (s : String)
deriving DecidableEq

/-- The part ends a line when it is written out. -/
def Part.Ends : Part → Prop
  | text s => Holds separators s
  | symbol s | name s => Holds lineEnds s

namespace Expr

/-- The part that a literal makes up. -/
def literalParts : Literal → List Part
  | .text s => [.text s]
  | _ => []

mutual

/-- The parts of an expression in the order of its text. -/
def parts : Expr → List Part
  | .literal value => literalParts value
  | .null => []
  | .ident name => [.name name]
  | .cast _ operand | .lambda operand => operand.parts
  | .unary op operand => .symbol op.sign :: operand.parts
  | .binary op left right => left.parts ++ .symbol op.sign :: right.parts
  | .conditional test yes no => test.parts ++ yes.parts ++ no.parts
  | .call target items => .symbol target :: partsOf items
  | .array _ items => partsOf items

/-- The parts of a list of expressions. -/
def partsOf : List Expr → List Part
  | [] => []
  | e :: rest => e.parts ++ partsOf rest

end

section Render

theorem holds_literalCode (l : Literal) :
    Holds lineEnds (literalCode l) ↔ ∃ p ∈ literalParts l, p.Ends := by
  cases l with
  | integer i => simp [literalParts, literalCode, not_holds_integerText]
  | number x => simp [literalParts, literalCode, not_holds_numberCode]
  | text s => simp [literalParts, literalCode, holds_textCode, Part.Ends]
  | boolean b => cases b <;> simp +decide [literalParts]

theorem holds_parenthesized (e : Expr) (text : String) :
    Holds lineEnds (e.parenthesized text) ↔ Holds lineEnds text := by
  rw [parenthesized]
  split
  · simp +decide
  · rfl

theorem not_holds_codeName (t : ValueType) : ¬ Holds lineEnds t.codeName := by
  cases t <;> decide

theorem not_holds_elementName (t : ElementType) : ¬ Holds lineEnds t.codeName := by
  cases t with
  | of type => exact not_holds_codeName type
  | object => decide

theorem holds_render_unary (op : UnaryOp) (operand : Expr) :
    Holds lineEnds (Expr.unary op operand).render ↔
      Holds lineEnds op.sign ∨ Holds lineEnds operand.render := by
  cases operand <;> simp +decide [render, holds_parenthesized]

mutual

/-- An expression is written on one line unless one of its parts ends it. -/
theorem holds_render : (e : Expr) → (Holds lineEnds e.render ↔ ∃ p ∈ e.parts, p.Ends)
  | .literal value => holds_literalCode value
  | .null => by simp +decide [parts]
  | .ident name => by simp [render, parts, Part.Ends]
  | .cast type operand => by
      simp +decide [render, parts, holds_parenthesized, not_holds_codeName, holds_render operand]
  | .unary op operand => by
      simp [holds_render_unary, parts, holds_render operand, Part.Ends]
  | .binary op left right => by
      simp +decide [render, parts, holds_parenthesized, holds_render left, holds_render right,
        Part.Ends, or_and_right, exists_or, or_assoc]
  | .conditional test yes no => by
      simp +decide [render, parts, holds_parenthesized, holds_render test, holds_render yes,
        holds_render no, or_and_right, exists_or, or_assoc]
  | .call target args => by
      simp +decide [render, parts, holds_intercalate, holds_renderAll args, Part.Ends]
  | .array element items => by
      simp +decide [render, parts, holds_intercalate, holds_renderAll items, not_holds_elementName]
  | .lambda body => by simp +decide [render, parts, holds_render body]

theorem holds_renderAll : (items : List Expr) →
    ((∃ s ∈ renderAll items, Holds lineEnds s) ↔ ∃ p ∈ partsOf items, p.Ends)
  | [] => by simp [renderAll, partsOf]
  | e :: rest => by
      simp [renderAll, partsOf, holds_render e, holds_renderAll rest, or_and_right, exists_or]

end

end Render

end Expr

section Rename

variable {names : String → Option String}

/-- The second part is what becomes of the first under new names. -/
def Part.Renamed (names : String → Option String) : Part → Part → Prop
  | .name raw, p => ∃ name, names raw = some name ∧ p = .name name
  | part, p => p = part

namespace Expr

theorem renamed_literalParts (l : Literal) :
    List.Forall₂ (Part.Renamed names) (literalParts l) (literalParts l) := by
  cases l with
  | text s => exact .cons rfl .nil
  | _ => exact .nil

mutual

/-- Renaming changes identifiers and nothing else. -/
theorem parts_rename : (e : Expr) → {e' : Expr} → e.rename names = .ok e' →
    List.Forall₂ (Part.Renamed names) e.parts e'.parts
  | .literal value, _, renamed => by
      cases renamed
      exact renamed_literalParts value
  | .null, _, renamed => by
      cases renamed
      exact .nil
  | .ident raw, _, renamed => by
      rw [rename] at renamed
      split at renamed
      · case h_1 name found =>
          cases renamed
          exact .cons ⟨name, found, rfl⟩ .nil
      · cases renamed
  | .cast _ operand, _, renamed => by
      obtain ⟨operand', inner, rfl⟩ := map_eq_ok.mp renamed
      have kept := parts_rename operand inner
      exact kept
  | .lambda body, _, renamed => by
      obtain ⟨body', inner, rfl⟩ := map_eq_ok.mp renamed
      have kept := parts_rename body inner
      exact kept
  | .unary _ operand, _, renamed => by
      obtain ⟨operand', inner, rfl⟩ := map_eq_ok.mp renamed
      exact .cons rfl (parts_rename operand inner)
  | .binary _ left right, _, renamed => by
      obtain ⟨left', first, rest⟩ := bind_eq_ok.mp renamed
      obtain ⟨right', second, rfl⟩ := map_eq_ok.mp rest
      exact List.rel_append (parts_rename left first) (.cons rfl (parts_rename right second))
  | .conditional test yes no, _, renamed => by
      obtain ⟨test', first, rest⟩ := bind_eq_ok.mp renamed
      obtain ⟨yes', second, rest⟩ := bind_eq_ok.mp rest
      obtain ⟨no', third, rfl⟩ := map_eq_ok.mp rest
      exact List.rel_append (List.rel_append (parts_rename test first) (parts_rename yes second))
        (parts_rename no third)
  | .call _ args, _, renamed => by
      obtain ⟨args', inner, rfl⟩ := map_eq_ok.mp renamed
      exact .cons rfl (partsOf_renameAll args inner)
  | .array _ items, _, renamed => by
      obtain ⟨items', inner, rfl⟩ := map_eq_ok.mp renamed
      exact partsOf_renameAll items inner

theorem partsOf_renameAll : (items : List Expr) → {items' : List Expr} →
    renameAll names items = .ok items' →
    List.Forall₂ (Part.Renamed names) (partsOf items) (partsOf items')
  | [], _, renamed => by
      cases renamed
      exact .nil
  | e :: rest, _, renamed => by
      obtain ⟨e', first, others⟩ := bind_eq_ok.mp renamed
      obtain ⟨rest', later, rfl⟩ := map_eq_ok.mp others
      exact List.rel_append (parts_rename e first) (partsOf_renameAll rest later)

end

end Expr

end Rename

section Typed

variable {Γ : Context}

theorem not_holds_callable : ∀ f ∈ callable, ¬ Holds lineEnds f.1 := by
  decide +kernel

theorem not_holds_symbol_binary {op : BinaryOp} {l r : Expr} (sign : ¬ Holds lineEnds op.sign)
    (left : ∀ s, .symbol s ∈ l.parts → ¬ Holds lineEnds s)
    (right : ∀ s, .symbol s ∈ r.parts → ¬ Holds lineEnds s) :
    ∀ s, .symbol s ∈ (Expr.binary op l r).parts → ¬ Holds lineEnds s := by
  intro s member
  rw [Expr.parts, List.mem_append, List.mem_cons, Part.symbol.injEq] at member
  rcases member with inLeft | rfl | inRight
  · exact left s inLeft
  · exact sign
  · exact right s inRight

mutual

/-- What a typed expression calls and applies has a name of its own, without line ends. -/
theorem HasType.not_holds_symbol {e : Expr} {τ : CodeType} :
    HasType Γ e τ → ∀ s, .symbol s ∈ e.parts → ¬ Holds lineEnds s
  | .literal l => by cases l <;> simp [Expr.parts, Expr.literalParts]
  | .ident _ => by simp [Expr.parts]
  | .cast _ operand => operand.not_holds_symbol
  | .negate _ operand => by
      simp only [Expr.parts, List.mem_cons, Part.symbol.injEq, forall_eq_or_imp]
      exact ⟨by decide, operand.not_holds_symbol⟩
  | .not operand => by
      simp only [Expr.parts, List.mem_cons, Part.symbol.injEq, forall_eq_or_imp]
      exact ⟨by decide, operand.not_holds_symbol⟩
  | .add _ left right =>
      not_holds_symbol_binary (by decide) left.not_holds_symbol right.not_holds_symbol
  | .arithmetic numeric left right => by
      have signs : ∀ op ∈ [BinaryOp.sub, .mul, .div], ¬ Holds lineEnds op.sign := by decide
      exact not_holds_symbol_binary (signs _ numeric) left.not_holds_symbol right.not_holds_symbol
  | .comparison compares _ _ left right => by
      have signs : ∀ op ∈ [BinaryOp.eq, .ne, .lt, .le, .gt, .ge], ¬ Holds lineEnds op.sign := by
        decide
      exact not_holds_symbol_binary (signs _ compares) left.not_holds_symbol right.not_holds_symbol
  | .conditional tested yes no => by
      intro s member
      rcases List.mem_append.mp member with member | inNo
      · rcases List.mem_append.mp member with inTest | inYes
        · exact tested.not_holds_symbol s inTest
        · exact yes.not_holds_symbol s inYes
      · exact no.not_holds_symbol s inNo
  | .call _ known accepted => by
      simp only [Expr.parts, List.mem_cons, Part.symbol.injEq, forall_eq_or_imp]
      exact ⟨not_holds_callable _ known, accepted.not_holds_symbol⟩
  | .array accepted => accepted.not_holds_symbol
  | .lambda value => value.not_holds_symbol

theorem Passes.not_holds_symbol {e : Expr} {τ : CodeType} :
    Passes Γ e τ → ∀ s, .symbol s ∈ e.parts → ¬ Holds lineEnds s
  | .exact typed => typed.not_holds_symbol
  | .boxed typed => typed.not_holds_symbol
  | .null => nofun

theorem Accepted.not_holds_symbol {items : List Expr} {τs : List CodeType} :
    Accepted Γ items τs → ∀ s, .symbol s ∈ Expr.partsOf items → ¬ Holds lineEnds s
  | .nil => nofun
  | .cons first others => by
      intro s member
      cases List.mem_append.mp member with
      | inl here => exact first.not_holds_symbol s here
      | inr later => exact others.not_holds_symbol s later

end

variable {names : String → Option String} {e e' : Expr} {τ : CodeType}

/-- Under names without line ends, a typed expression is written on one line unless one of its text
literals holds a separator. -/
theorem HasType.holds_render_rename (typed : HasType Γ e τ) (renamed : e.rename names = .ok e')
    (named : ∀ raw name, names raw = some name → ¬ Holds lineEnds name) :
    Holds lineEnds e'.render ↔ ∃ text, .text text ∈ e.parts ∧ Holds separators text := by
  have parts := Expr.parts_rename e renamed
  rw [Expr.holds_render]
  constructor
  · rintro ⟨p, member, ends⟩
    obtain ⟨q, origin, becomes⟩ := exists_left_of_forall₂ parts member
    cases q with
    | text s =>
        cases becomes
        exact ⟨s, origin, ends⟩
    | symbol s =>
        cases becomes
        exact absurd ends (typed.not_holds_symbol s origin)
    | name raw =>
        obtain ⟨name, found, rfl⟩ := becomes
        exact absurd ends (named raw name found)
  · rintro ⟨text, member, holds⟩
    obtain ⟨q, kept, rfl⟩ := exists_right_of_forall₂ parts member
    exact ⟨.text text, kept, holds⟩

end Typed

end SheetCompiler.Code
