import SheetCompiler.CompileError
import SheetCompiler.Evaluation.Lookup
import SheetCompiler.Evaluation.Operators

/-!
# Function calls

The value of a call from its arguments. An argument is a computation, so that a function such as
`IF` runs only the arguments it needs, in the order in which it needs them. Cells are read through a
function `read`, which the evaluator supplies; the monad `m` carries whatever reading a cell takes.
-/

namespace SheetCompiler.Evaluation

open Formula (Function)

/-- An argument of a call: the expression as written, and the computation of its value. -/
structure Argument (m : Type → Type) where
  expr : Formula.Expr
  value : m Value

/-- A value in a sequence of arguments. -/
structure Item where
  value : Value
  /-- The value comes from a cell of a range. -/
  fromRange : Bool

/-- The numbers of a sequence. What comes from a range counts only if it is a number; any other
argument is coerced. The first error decides. -/
def numbers : List Item → Coerced (List Float)
  | [] => .ok []
  | item :: rest =>
    match item.value, item.fromRange with
    | .error e, _ => .error e
    | .number x, _ => do return x :: (← numbers rest)
    | _, true => numbers rest
    | v, false => do
      let x ← v.toNumber
      return x :: (← numbers rest)

/-- The truth values of a sequence. Texts and blanks from a range are passed over. -/
def booleans : List Item → Coerced (List Bool)
  | [] => .ok []
  | item :: rest =>
    match item.value, item.fromRange with
    | .error e, _ => .error e
    | .text _, true => booleans rest
    | .blank, true => booleans rest
    | v, _ => do
      let b ← v.toBoolean
      return b :: (← booleans rest)

/-- The item counts as a number. -/
def Item.isCounted (item : Item) : Bool :=
  match item.value with
  | .number _ => true
  | .boolean _ => !item.fromRange
  | .text s => !item.fromRange && (numberOfText? s).isSome
  | .error _ | .blank => false

/-- The words of a text, single spaces between them. -/
def trimSpaces (s : String) : String :=
  " ".intercalate (((s.toList.splitOn ' ').filter (!·.isEmpty)).map String.ofList)

/-- The function of one number. -/
def numeric (f : Function) (x : Float) : Value :=
  match f with
  | .abs => .number x.abs
  | .int => .number x.floor
  | _ => squareRoot x

/-- The function of two numbers. -/
def numericPair (f : Function) (x y : Float) : Value :=
  match f with
  | .power => power x y
  | .mod => modulo x y
  | .round => .number (round x y)
  | .roundUp => .number (roundUp x y)
  | _ => .number (roundDown x y)

/-- The function of one text. -/
def textual (f : Function) (s : String) : Value :=
  match f with
  | .len => .number (.ofNat s.length)
  | .upper => .text (Text.upper s)
  | .lower => .text (Text.lower s)
  | _ => .text (trimSpaces s)

/-- The function of a sequence of numbers. -/
def aggregate (f : Function) (xs : List Float) : Value :=
  match f with
  | .sum => .number (sum xs)
  | .average =>
    if xs.isEmpty then .error .divisionByZero else .number (sum xs / .ofNat xs.length)
  | .min => .number (joined lesser xs)
  | .max => .number (joined greater xs)
  | _ => if xs.isEmpty then .number 0.0 else .number (product xs)

/-- The function of a sequence of truth values. -/
def logical (f : Function) (bs : List Bool) : Value :=
  if bs.isEmpty then .error .value
  else .boolean (if f = .and then bs.all id else bs.any id)

section Computations

variable {m : Type → Type} [Monad m] [MonadExceptOf CompileError m]

/-- Goes on with a coerced value; an error ends the computation as an error value. -/
def withCoerced {α : Type} (c : Coerced α) (next : α → m Value) : m Value :=
  match c with
  | .ok a => next a
  | .error e => pure (.error e)

/-- The values of arguments in sequence, ranges row by row. -/
def sequence (read : Address → m Value) : List (Argument m) → m (List Item)
  | [] => pure []
  | arg :: rest => do
    let items ←
      match arg.expr with
      | .range first last => do
        let values ← (Address.rectangle first last).mapM read
        pure (values.map fun v => ⟨v, true⟩)
      | _ => do
        let v ← arg.value
        pure [⟨v, false⟩]
    return items ++ (← sequence read rest)

/-- The rectangle that an argument names. -/
def block (read : Address → m Value) (cell : Address) (arg : Argument m) : m Block :=
  match arg.expr.corners? with
  | none => throw (.invalidArguments cell .rangeNeeded)
  | some (first, last) => do
    let values ← (Address.rectangle first last).mapM read
    return ⟨values, Address.width first last⟩

/-- The texts of arguments joined, the first error deciding. -/
def concatenation (sofar : String) : List (Argument m) → m Value
  | [] => pure (.text sofar)
  | arg :: rest => do
    withCoerced (← arg.value).toText fun s => concatenation (sofar ++ s) rest

/-- The number of an optional argument. -/
def optionalNumber (arg : Option (Argument m)) (absent : Float) (next : Float → m Value) :
    m Value :=
  match arg with
  | none => next absent
  | some arg => do withCoerced (← arg.value).toNumber next

/-- The truth value of an optional argument. -/
def optionalBoolean (arg : Option (Argument m)) (absent : Bool) (next : Bool → m Value) : m Value :=
  match arg with
  | none => next absent
  | some arg => do withCoerced (← arg.value).toBoolean next

/-- The option with the given index, from one. -/
def choose (cell : Address) (options : List (Argument m)) (index : Float) : m Value :=
  if index.isNaN then throw (.strayIndex cell)
  else
    match Decimal.toInteger index with
    | .ofNat (i + 1) =>
      match options[i]? with
      | some option => option.value
      | none => pure (.error .value)
    | _ => pure (.error .value)

/-- The value of an error-free key, or the key's error. -/
def withKey (key : Value) (next : m Value) : m Value :=
  match key with
  | .error e => pure (.error e)
  | _ => next

/-- The value of a call in the formula of `cell`. `fault` reports a number of arguments that the
function does not take. -/
def call (read : Address → m Value) (cell : Address) (fault : CompileError) (f : Function)
    (args : List (Argument m)) : m Value :=
  match f, args with
  | .sum, args | .average, args | .min, args | .max, args | .product, args => do
    return fromCoerced (numbers (← sequence read args)) (aggregate f)
  | .count, args => do
    return .number (.ofNat ((← sequence read args).countP Item.isCounted))
  | .npv, rate :: payments => do
    withCoerced (← rate.value).toNumber fun r => do
      return fromCoerced (numbers (← sequence read payments)) fun xs =>
        .number (netPresentValue r xs)
  | .if, [condition, yes] => do
    withCoerced (← condition.value).toBoolean fun b =>
      if b then yes.value else pure (.boolean false)
  | .if, [condition, yes, no] => do
    withCoerced (← condition.value).toBoolean fun b => if b then yes.value else no.value
  | .ifError, [attempt, otherwise] => do
    match ← attempt.value with
    | .error _ => otherwise.value
    | v => pure v
  | .and, args | .or, args => do
    return fromCoerced (booleans (← sequence read args)) (logical f)
  | .not, [arg] => do
    return fromCoerced (← arg.value).toBoolean fun b => .boolean (!b)
  | .abs, [arg] | .int, [arg] | .sqrt, [arg] => do
    return fromCoerced (← arg.value).toNumber (numeric f)
  | .power, [left, right] | .mod, [left, right] | .round, [left, right] | .roundUp, [left, right]
  | .roundDown, [left, right] => do
    withCoerced (← left.value).toNumber fun x => do
      return fromCoerced (← right.value).toNumber (numericPair f x)
  | .concatenate, args => concatenation "" args
  | .len, [arg] | .upper, [arg] | .lower, [arg] | .trim, [arg] => do
    return fromCoerced (← arg.value).toText (textual f)
  | .index, range :: row :: col => do
    let values ← block read cell range
    withCoerced (← row.value).toNumber fun r =>
      optionalNumber col.head? 0.0 fun c => pure (fromCoerced (values.select r c) id)
  | .match, key :: range :: kind => do
    let k ← key.value
    withKey k do
      let values ← block read cell range
      optionalNumber kind.head? 1.0 fun t =>
        pure (fromCoerced (position k values.values t) fun n => .number (.ofNat n))
  | .vlookup, key :: range :: col :: approximate => do
    let k ← key.value
    withKey k do
      let values ← block read cell range
      withCoerced (← col.value).toNumber fun c =>
        optionalBoolean approximate.head? true fun near =>
          withCoerced (values.lookup k c near) fun
            | .value v => pure v
            | .outside => throw (.strayIndex cell)
  | .choose, index :: options => do
    withCoerced (← index.value).toNumber (choose cell options)
  | _, _ => throw fault

end Computations

end SheetCompiler.Evaluation
