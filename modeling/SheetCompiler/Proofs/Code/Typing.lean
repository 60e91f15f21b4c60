import SheetCompiler.Code.Expr

/-!
# Types of generated expressions

Which generated expressions a compiler of the target language accepts. An expression has one type;
an argument or an array item may besides be boxed into an object. The functions that can be called
are listed with their signatures, and the list is not a second account of the support class: written
out, the signatures are the headers of its public functions, in order.
-/

namespace SheetCompiler.Code

/-- The type of a generated expression. -/
inductive CodeType where
  | value (type : ValueType)
  /-- The result of a comparison: less, equal or greater. -/
  | ordering
  | object
  /-- The type parameter of a generic function. -/
  | parameter
  | array (items : CodeType)
  /-- A value of the type when asked for it. -/
  | delayed (result : CodeType)
deriving DecidableEq

namespace CodeType

abbrev integer : CodeType := .value .integer
abbrev number : CodeType := .value .number
abbrev text : CodeType := .value .text
abbrev boolean : CodeType := .value .boolean

/-- The type as it is written. -/
def codeName : CodeType → String
  | value type => type.codeName
  | ordering => "int"
  | object => "object"
  | parameter => "T"
  | array items => items.codeName ++ "[]"
  | delayed result => "Func<" ++ result.codeName ++ ">"

/-- The type parameter occurs in the type. -/
def isGeneric : CodeType → Bool
  | parameter => true
  | array type | delayed type => type.isGeneric
  | value _ | ordering | object => false

/-- The type with its parameter replaced. -/
def instantiate (t : ValueType) : CodeType → CodeType
  | parameter => value t
  | array items => array (items.instantiate t)
  | delayed result => delayed (result.instantiate t)
  | type => type

/-- Values of the type are numbers to a comparison. -/
def isNumeric : CodeType → Bool
  | value type => type.isNumeric
  | ordering => true
  | _ => false

/-- The type of the items of an array. -/
def ofElement : ElementType → CodeType
  | .of type => value type
  | .object => object

end CodeType

/-- A parameter: its type and name. -/
abbrev Parameter := CodeType × String

/-- The signature of a function. -/
structure Signature where
  result : CodeType
  name : String
  parameters : List Parameter
  /-- What any number of further arguments is gathered into. -/
  others : Option Parameter := none
deriving DecidableEq

namespace Signature

/-- The signature as it is written. -/
def header (s : Signature) : String :=
  let all := s.parameters ++ s.others.toList
  let generic := s.result.isGeneric || all.any fun p => p.1.isGeneric
  let listed := s.parameters.map (fun p => p.1.codeName ++ " " ++ p.2) ++
    s.others.toList.map fun p => "params " ++ p.1.codeName ++ "[] " ++ p.2
  "public static " ++ s.result.codeName ++ " " ++ s.name ++ (if generic then "<T>" else "") ++
    "(" ++ ", ".intercalate listed ++ ")"

/-- The types of `count` arguments of the function, its type parameter being `t`. -/
def expected (s : Signature) (t : ValueType) (count : Nat) : List CodeType :=
  let further := s.others.toList.flatMap fun p => .replicate (count - s.parameters.length) p.1
  (s.parameters.map Prod.fst ++ further).map (CodeType.instantiate t)

end Signature

/-- A conversion from every type of value. -/
def conversions (result : CodeType) (name : String) : List Signature :=
  [.number, .integer, .boolean, .text, .object].map fun type =>
    ⟨result, name, [(type, "value")], none⟩

/-- A function of any number of arguments of one type. -/
def gathering (type : CodeType) (name : String) : Signature :=
  ⟨type, name, [], some (type, "values")⟩

/-- The functions of the support class. -/
def supportSignatures : List Signature :=
  conversions .number "ToNumber" ++ conversions .text "ToText" ++ conversions .boolean "ToBool" ++
  [⟨.ordering, "Compare", [(.object, "left"), (.object, "right")], none⟩,
    ⟨.number, "Divide", [(.number, "numerator"), (.number, "denominator")], none⟩,
    ⟨.number, "Power", [(.number, "value"), (.number, "exponent")], none⟩,
    ⟨.number, "Mod", [(.number, "value"), (.number, "divisor")], none⟩,
    ⟨.number, "Sqrt", [(.number, "value")], none⟩,
    ⟨.number, "Round", [(.number, "value"), (.number, "digits")], none⟩,
    ⟨.number, "RoundUp", [(.number, "value"), (.number, "digits")], none⟩,
    ⟨.number, "RoundDown", [(.number, "value"), (.number, "digits")], none⟩,
    gathering .number "Sum", gathering .number "Average", gathering .number "Min",
    gathering .number "Max", gathering .number "Product",
    ⟨.number, "Npv", [(.number, "rate")], some (.number, "values")⟩,
    ⟨.integer, "CountNumeric", [(.text, "value")], none⟩,
    gathering .boolean "And", gathering .boolean "Or",
    ⟨.parameter, "IfError", [(.delayed .parameter, "value"), (.delayed .parameter, "fallback")],
      none⟩,
    ⟨.parameter, "Choose", [(.number, "index")], some (.delayed .parameter, "options")⟩,
    ⟨.integer, "Len", [(.text, "value")], none⟩,
    ⟨.text, "Upper", [(.text, "value")], none⟩,
    ⟨.text, "Lower", [(.text, "value")], none⟩,
    ⟨.text, "Trim", [(.text, "value")], none⟩,
    ⟨.parameter, "Index", [(.array .parameter, "values"), (.integer, "width"), (.number, "row"),
      (.number, "column")], none⟩,
    ⟨.integer, "Match", [(.object, "key"), (.array .object, "values"), (.number, "matchType")],
      none⟩,
    ⟨.object, "VLookup", [(.object, "key"), (.array .object, "table"), (.integer, "width"),
      (.number, "column"), (.boolean, "approximate")], none⟩]

/-- Every listed function is one of the support class: what is written of it, followed by the rest
of a line, is found there, and in the same order. -/
theorem supportSignatures_header : ∃ rests : List String,
    rests.length = supportSignatures.length ∧
      (supportSignatures.zipWith (fun s rest => "    " ++ s.header ++ rest) rests).Sublist
        supportLines := by
  refine ⟨
    [" => value;", " => value;", " => value ? 1.0 : 0.0;", "", " => value switch", "",
      " => value.ToString(CultureInfo.InvariantCulture);", " => value ? \"TRUE\" : \"FALSE\";",
      " => value;", " => value switch", " => value != 0.0;", " => value != 0;", " => value;", "",
      " => value switch", "", "", " => Finite(Math.Pow(value, exponent));", "", "", "", "", "",
      " => values.Sum();", "", " => values.Length == 0 ? 0.0 : values.Min();",
      " => values.Length == 0 ? 0.0 : values.Max();", " =>", "", " =>", "", "", "", "",
      " => value.Length;", " => value.ToUpperInvariant();", " => value.ToLowerInvariant();",
      " =>", "", "", ""], rfl, ?_⟩
  decide +kernel

/-- The functions that can be called, by the names they are called with. -/
def callable : List (String × Signature) :=
  supportSignatures.map (fun s => (supportName s.name, s)) ++
    [("Math.Abs", ⟨.number, "Abs", [(.number, "value")], none⟩),
      ("Math.Floor", ⟨.number, "Floor", [(.number, "d")], none⟩)]

/-- The types of the declared cells. -/
abbrev Context := String → Option ValueType

mutual

/-- The type of an expression. -/
inductive HasType (Γ : Context) : Expr → CodeType → Prop
  | literal (l : Literal) : HasType Γ (.literal l) (.value (.ofLiteral l))
  | ident {name : String} {t : ValueType} (declared : Γ name = some t) :
      HasType Γ (.ident name) (.value t)
  | cast {e : Expr} {t : ValueType} (numeric : t.isNumeric) (operand : HasType Γ e (.value t)) :
      HasType Γ (.cast .number e) .number
  | negate {e : Expr} {t : ValueType} (numeric : t.isNumeric) (operand : HasType Γ e (.value t)) :
      HasType Γ (.unary .negate e) (.value t)
  | not {e : Expr} (operand : HasType Γ e .boolean) : HasType Γ (.unary .not e) .boolean
  /-- Numbers, integers and texts can be added. -/
  | add {l r : Expr} {t : ValueType} (addable : t ≠ .boolean) (left : HasType Γ l (.value t))
      (right : HasType Γ r (.value t)) : HasType Γ (.binary .add l r) (.value t)
  | arithmetic {op : BinaryOp} {l r : Expr} (numeric : op ∈ [.sub, .mul, .div])
      (left : HasType Γ l .number) (right : HasType Γ r .number) :
        HasType Γ (.binary op l r) .number
  | comparison {op : BinaryOp} {l r : Expr} {σ τ : CodeType}
      (compares : op ∈ [.eq, .ne, .lt, .le, .gt, .ge]) (numeric : σ.isNumeric)
      (numeric' : τ.isNumeric) (left : HasType Γ l σ) (right : HasType Γ r τ) :
        HasType Γ (.binary op l r) .boolean
  | conditional {test yes no : Expr} {τ : CodeType} (tested : HasType Γ test .boolean)
      (first : HasType Γ yes τ) (second : HasType Γ no τ) : HasType Γ (.conditional test yes no) τ
  | call {target : String} {s : Signature} {args : List Expr} (t : ValueType)
      (known : (target, s) ∈ callable) (accepted : Accepted Γ args (s.expected t args.length)) :
      HasType Γ (.call target args) (s.result.instantiate t)
  | array {element : ElementType} {items : List Expr}
      (accepted : Accepted Γ items (.replicate items.length (.ofElement element))) :
      HasType Γ (.array element items) (.array (.ofElement element))
  | lambda {body : Expr} {t : ValueType} (value : HasType Γ body (.value t)) :
      HasType Γ (.lambda body) (.delayed (.value t))

/-- The expression can be passed where a value of the type is expected. -/
inductive Passes (Γ : Context) : Expr → CodeType → Prop
  | exact {e : Expr} {τ : CodeType} (typed : HasType Γ e τ) : Passes Γ e τ
  | boxed {e : Expr} {t : ValueType} (typed : HasType Γ e (.value t)) : Passes Γ e .object
  | null : Passes Γ .null .object

/-- The expressions can be passed where values of the types are expected, one for each. -/
inductive Accepted (Γ : Context) : List Expr → List CodeType → Prop
  | nil : Accepted Γ [] []
  | cons {e : Expr} {τ : CodeType} {rest : List Expr} {τs : List CodeType} (first : Passes Γ e τ)
      (others : Accepted Γ rest τs) : Accepted Γ (e :: rest) (τ :: τs)

end

variable {Γ : Context}

section Accepted

theorem Accepted.append {first second : List Expr} {σs τs : List CodeType} (h : Accepted Γ first σs)
    (later : Accepted Γ second τs) : Accepted Γ (first ++ second) (σs ++ τs) := by
  induction first generalizing σs with
  | nil =>
      cases h
      exact later
  | cons e rest ih =>
      cases h with
      | cons passes others => exact .cons passes (ih others)

theorem Accepted.replicate {items : List Expr} {τ : CodeType} (each : ∀ e ∈ items, Passes Γ e τ) :
    Accepted Γ items (.replicate items.length τ) := by
  induction items with
  | nil => exact .nil
  | cons e rest ih =>
      refine .cons (each e List.mem_cons_self) (ih fun other member => ?_)
      exact each other (List.mem_cons_of_mem _ member)

theorem Accepted.length_eq {args : List Expr} {τs : List CodeType} (h : Accepted Γ args τs) :
    args.length = τs.length := by
  induction args generalizing τs with
  | nil =>
      cases h
      rfl
  | cons e rest ih =>
      cases h with
      | cons _ others => rw [List.length_cons, List.length_cons, ih others]

end Accepted

section Calls

/-- The support class has such a function. -/
def Offers (name : String) (parameters : List CodeType) (others : Option CodeType)
    (result : CodeType) : Prop :=
  ∃ s ∈ supportSignatures, s.name = name ∧ s.parameters.map Prod.fst = parameters ∧
    s.others.map Prod.fst = others ∧ s.result = result

instance (name : String) (parameters : List CodeType) (others : Option CodeType)
    (result : CodeType) : Decidable (Offers name parameters others result) :=
  inferInstanceAs (Decidable (∃ s ∈ supportSignatures, _))

variable {name : String} {parameters : List CodeType} {result rest : CodeType}

theorem mem_callable {s : Signature} (h : s ∈ supportSignatures) :
    (supportName s.name, s) ∈ callable :=
  List.mem_append_left _ (List.mem_map.mpr ⟨s, h, rfl⟩)

/-- A call of a support function. -/
theorem HasType.support {args : List Expr} (offers : Offers name parameters none result)
    (t : ValueType) (accepted : Accepted Γ args (parameters.map (CodeType.instantiate t))) :
    HasType Γ (.support name args) (result.instantiate t) := by
  obtain ⟨s, member, rfl, rfl, none, rfl⟩ := offers
  refine .call t (mem_callable member) ?_
  rw [Option.map_eq_none_iff] at none
  simpa only [Signature.expected, none, Option.toList_none, List.flatMap_nil, List.append_nil] using
    accepted

/-- A call of a support function that gathers what follows its parameters. -/
theorem HasType.gathered {first more : List Expr}
    (offers : Offers name parameters (some rest) result) (t : ValueType)
    (accepted : Accepted Γ first (parameters.map (CodeType.instantiate t)))
    (further : ∀ e ∈ more, HasType Γ e (rest.instantiate t)) :
    HasType Γ (.support name (first ++ more)) (result.instantiate t) := by
  obtain ⟨s, member, rfl, rfl, others, rfl⟩ := offers
  obtain ⟨p, gathers, rfl⟩ := Option.map_eq_some_iff.mp others
  have count : (first ++ more).length - s.parameters.length = more.length := by
    have fixed := accepted.length_eq
    simp only [List.length_map] at fixed
    rw [List.length_append]
    omega
  refine .call t (mem_callable member) ?_
  simp only [Signature.expected, gathers, Option.toList_some, List.flatMap_singleton, count,
    List.map_append, List.map_replicate]
  exact accepted.append (.replicate fun e member => .exact (further e member))

end Calls

mutual

/-- Every identifier of a typed expression is declared. -/
theorem HasType.declared {e : Expr} {τ : CodeType} :
    HasType Γ e τ → ∀ name ∈ e.occurrences, (Γ name).isSome
  | .literal _ => nofun
  | .ident known => by
      intro name member
      rw [List.mem_singleton.mp member, known]
      rfl
  | .cast _ operand => operand.declared
  | .negate _ operand => operand.declared
  | .not operand => operand.declared
  | .add _ left right => by
      intro name member
      rcases List.mem_append.mp member with inLeft | inRight
      · exact left.declared name inLeft
      · exact right.declared name inRight
  | .arithmetic _ left right => by
      intro name member
      rcases List.mem_append.mp member with inLeft | inRight
      · exact left.declared name inLeft
      · exact right.declared name inRight
  | .comparison _ _ _ left right => by
      intro name member
      rcases List.mem_append.mp member with inLeft | inRight
      · exact left.declared name inLeft
      · exact right.declared name inRight
  | .conditional tested yes no => by
      intro name member
      rcases List.mem_append.mp member with member | inNo
      · rcases List.mem_append.mp member with inTest | inYes
        · exact tested.declared name inTest
        · exact yes.declared name inYes
      · exact no.declared name inNo
  | .call _ _ accepted => accepted.declared
  | .array accepted => accepted.declared
  | .lambda value => value.declared

theorem Passes.declared {e : Expr} {τ : CodeType} :
    Passes Γ e τ → ∀ name ∈ e.occurrences, (Γ name).isSome
  | .exact typed => typed.declared
  | .boxed typed => typed.declared
  | .null => nofun

theorem Accepted.declared {items : List Expr} {τs : List CodeType} :
    Accepted Γ items τs → ∀ name ∈ Expr.occurrencesOf items, (Γ name).isSome
  | .nil => nofun
  | .cons first others => by
      intro name member
      rcases List.mem_append.mp member with here | later
      · exact first.declared name here
      · exact others.declared name later

end

end SheetCompiler.Code
