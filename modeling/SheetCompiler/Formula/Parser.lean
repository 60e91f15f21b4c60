import SheetCompiler.Formula.Expr
import SheetCompiler.Formula.Lexer
import SheetCompiler.Text.Casing

/-!
# Reading expressions

Expressions are read by levels, the loosest binding first:

* `5`: comparisons `= <> < > <= >=`
* `4`: `&`
* `3`: `+` and `-`
* `2`: `*` and `/`
* `1`: `^`
* `0`: the signs `-` and `+` before an operand, then `%` behind it, then the operand itself

Every level between two operands associates to the left. A reference without a sheet lies on the
sheet of the formula. Every reading takes at least one token, which is why reading ends.
-/

namespace SheetCompiler.Formula

/-- Why tokens are no expression. -/
inductive GrammarFault where
  | empty
  | trailing (token : Token)
  | unexpectedToken (token : Token)
  | unexpectedEnd
  | missingAddress (sheet : String)
  | unclosedCall
  | unclosedGroup
  | unknownName (name : String)
  | missingRangeEnd
  | missingSheetRangeEnd
  | rangeAcrossSheets
  | invalidRangeEnd (name : String)
deriving DecidableEq

/-- The fault in words. -/
def GrammarFault.message : GrammarFault → String
  | empty => "Empty expression"
  | trailing token => "Unexpected token after expression: Some(" ++ token.description ++ ")"
  | unexpectedToken token => "Unexpected token: " ++ token.description
  | unexpectedEnd => "Unexpected end of expression"
  | missingAddress sheet => "Expected cell address after '" ++ sheet ++ "!'"
  | unclosedCall => "Expected ')' after function arguments"
  | unclosedGroup => "Expected ')' after expression"
  | unknownName name => "Unknown name or invalid reference: " ++ name
  | missingRangeEnd => "Expected cell address after ':'"
  | missingSheetRangeEnd => "Expected cell address after sheet in range"
  | rangeAcrossSheets => "Range corners must be on the same sheet"
  | invalidRangeEnd name => "Invalid range end: " ++ name

/-- Why a text is no formula. -/
inductive Fault where
  | lexical (fault : LexicalFault)
  | grammar (fault : GrammarFault)
deriving DecidableEq

/-- The fault in words. -/
def Fault.message : Fault → String
  | lexical fault => fault.message
  | grammar fault => fault.message

/-- A fault and where it stands. -/
structure ParseError where
  fault : Fault
  /-- The number of tokens before it, or of characters if the text has no tokens. -/
  position : Nat
deriving DecidableEq

/-- The error in words. -/
def ParseError.text (e : ParseError) : String :=
  "Parse error at token " ++ toString e.position ++ ": " ++ e.fault.message

namespace Parser

/-- A fault together with the number of tokens that are left where it stands. -/
abbrev Failure := GrammarFault × Nat

/-- What is read from the front of `ts`, with the tokens left behind it, which are fewer. -/
abbrev Reading (α : Type) (ts : List Token) :=
  Except Failure (α × { rest : List Token // rest.length < ts.length })

/-- What is read from the front of `ts`, possibly taking no token. -/
abbrev Continuation (α : Type) (ts : List Token) :=
  Except Failure (α × { rest : List Token // rest.length ≤ ts.length })

/-- The level of an operator between two operands. -/
def level : BinaryOp → Nat
  | .eq | .ne | .lt | .le | .gt | .ge => 5
  | .concat => 4
  | .add | .sub => 3
  | .mul | .div => 2
  | .pow => 1

/-- The operator of a level that a sign stands for. -/
def operatorAt? (l : Nat) (sign : Sign) : Option BinaryOp :=
  BinaryOp.all.find? fun op => level op == l && op.sign == sign

/-- The operator that a sign before an operand stands for. -/
def prefixOperator? : Sign → Option UnaryOp
  | .minus => some .neg
  | .plus => some .plus
  | _ => none

/-- The rectangle between two corners in any position. -/
def normalRange (sheet : String) (row col row' col' : Nat) : Expr :=
  .range ⟨sheet, min row row', min col col'⟩ ⟨sheet, max row row', max col col'⟩

/-- The far corner of a range whose near corner lies on `sheet`, read behind the colon. -/
def rangeEnd (sheet : String) (row col : Nat) : (ts : List Token) → Reading Expr ts
  | .identifier name :: rest =>
    match Address.parseLocal? name with
    | some (row', col') => .ok (normalRange sheet row col row' col', ⟨rest, by simp⟩)
    | none => .error (.invalidRangeEnd name, rest.length + 1)
  | .sheet other :: .identifier name :: rest =>
    if other = sheet then
      match Address.parseLocal? name with
      | some (row', col') =>
        .ok (normalRange sheet row col row' col', ⟨rest, by simp only [List.length_cons]; omega⟩)
      | none => .error (.invalidRangeEnd name, rest.length + 2)
    else
      .error (.rangeAcrossSheets, rest.length + 2)
  | .sheet _ :: rest => .error (.missingSheetRangeEnd, rest.length - 1)
  | ts => .error (.missingRangeEnd, ts.length)

/-- A reference to `name` on `sheet`, or a range if a colon follows. `left` counts the tokens from
the start of the reference. -/
def reference (sheet name : String) (left : Nat) (ts : List Token) : Continuation Expr ts :=
  match Address.parseLocal? name with
  | none => .error (.unknownName name, left)
  | some (row, col) =>
    match ts with
    | .colon :: rest =>
      match rangeEnd sheet row col rest with
      | .error e => .error e
      | .ok (e, ⟨after, h⟩) => .ok (e, ⟨after, by simp only [List.length_cons]; omega⟩)
    | ts => .ok (.cell ⟨sheet, row, col⟩, ⟨ts, Nat.le_refl _⟩)

/-- A name that is not a call: a truth value or a reference on the sheet of the formula. -/
def bareName (sheet name : String) (left : Nat) (ts : List Token) : Continuation Expr ts :=
  match Text.upper name with
  | "TRUE" => .ok (.literal (.boolean true), ⟨ts, Nat.le_refl _⟩)
  | "FALSE" => .ok (.literal (.boolean false), ⟨ts, Nat.le_refl _⟩)
  | _ => reference sheet name left ts

/-- Per cent signs behind an operand, each applied to what stands before it. -/
def percents (e : Expr) :
    (ts : List Token) → Expr × { rest : List Token // rest.length ≤ ts.length }
  | .operator .percent :: rest =>
    let (e', ⟨after, h⟩) := percents (.unary .percent e) rest
    (e', ⟨after, by simp only [List.length_cons]; omega⟩)
  | ts => (e, ⟨ts, Nat.le_refl _⟩)

/-- The tokens behind an opening parenthesis. -/
def opening? : (ts : List Token) → Option { rest : List Token // rest.length < ts.length }
  | .openParen :: rest => some ⟨rest, by simp⟩
  | _ => none

/-- The tokens behind a closing parenthesis. -/
def closing? : (ts : List Token) → Option { rest : List Token // rest.length < ts.length }
  | .closeParen :: rest => some ⟨rest, by simp⟩
  | _ => none

/-- The tokens behind a comma. -/
def comma? : (ts : List Token) → Option { rest : List Token // rest.length < ts.length }
  | .comma :: rest => some ⟨rest, by simp⟩
  | _ => none

/-- A sign and the tokens behind it. -/
def sign? : (ts : List Token) → Option (Sign × { rest : List Token // rest.length < ts.length })
  | .operator sign :: rest => some (sign, ⟨rest, by simp⟩)
  | _ => none

/-- A reference on the sheet that has just been named. -/
def sheetReference (sheet : String) : (ts : List Token) → Continuation Expr ts
  | .identifier name :: rest =>
    match reference sheet name (rest.length + 2) rest with
    | .error e => .error e
    | .ok (e, ⟨after, h⟩) => .ok (e, ⟨after, by simp only [List.length_cons]; omega⟩)
  | ts => .error (.missingAddress sheet, ts.length - 1)

mutual

/-- An expression whose operators between operands have at most level `l`. -/
def expression (sheet : String) (l : Nat) (ts : List Token) : Reading Expr ts :=
  match l with
  | l + 1 =>
    match expression sheet l ts with
    | .error e => .error e
    | .ok (left, ⟨rest, h⟩) =>
      match operands sheet l left rest with
      | .error e => .error e
      | .ok (e, ⟨after, h'⟩) => .ok (e, ⟨after, by omega⟩)
  | 0 => signed sheet ts
termination_by (ts.length, l + 2)

/-- Operators of level `l + 1` and their right operands, behind the left operand. -/
def operands (sheet : String) (l : Nat) (left : Expr) (ts : List Token) : Continuation Expr ts :=
  match sign? ts with
  | none => .ok (left, ⟨ts, Nat.le_refl _⟩)
  | some (sign, ⟨rest, h⟩) =>
    match operatorAt? (l + 1) sign with
    | none => .ok (left, ⟨ts, Nat.le_refl _⟩)
    | some op =>
      match expression sheet l rest with
      | .error e => .error e
      | .ok (right, ⟨rest', h'⟩) =>
        match operands sheet l (.binary op left right) rest' with
        | .error e => .error e
        | .ok (e, ⟨after, h''⟩) => .ok (e, ⟨after, by omega⟩)
termination_by (ts.length, 0)
decreasing_by all_goals omega

/-- An operand behind any number of signs. -/
def signed (sheet : String) (ts : List Token) : Reading Expr ts :=
  match sign? ts with
  | some (sign, ⟨rest, h⟩) =>
    match prefixOperator? sign with
    | some op =>
      match signed sheet rest with
      | .error e => .error e
      | .ok (e, ⟨after, h'⟩) => .ok (.unary op e, ⟨after, by omega⟩)
    | none => .error (.unexpectedToken (.operator sign), ts.length)
  | none =>
    match primary sheet ts with
    | .error e => .error e
    | .ok (e, ⟨rest, h⟩) =>
      let (e', ⟨after, h'⟩) := percents e rest
      .ok (e', ⟨after, by omega⟩)
termination_by (ts.length, 1)

/-- A literal, a reference, a call or an expression in parentheses. -/
def primary (sheet : String) (ts : List Token) : Reading Expr ts :=
  match ts with
  | [] => .error (.unexpectedEnd, 0)
  | token :: rest =>
    match token with
    | .integer i => .ok (.literal (.integer i), ⟨rest, by simp⟩)
    | .number x => .ok (.literal (.number x), ⟨rest, by simp⟩)
    | .text s => .ok (.literal (.text s), ⟨rest, by simp⟩)
    | .sheet other =>
      match sheetReference other rest with
      | .error e => .error e
      | .ok (e, ⟨after, h⟩) => .ok (e, ⟨after, by simp only [List.length_cons]; omega⟩)
    | .identifier name =>
      match opening? rest with
      | some ⟨inner, h⟩ =>
        match arguments sheet inner with
        | .error e => .error e
        | .ok (args, ⟨rest', h'⟩) =>
          match closing? rest' with
          | none => .error (.unclosedCall, rest'.length)
          | some ⟨after, h''⟩ =>
            .ok (.call (Text.upper name) args, ⟨after, by simp only [List.length_cons]; omega⟩)
      | none =>
        match bareName sheet name (rest.length + 1) rest with
        | .error e => .error e
        | .ok (e, ⟨after, h⟩) => .ok (e, ⟨after, by simp only [List.length_cons]; omega⟩)
    | .openParen =>
      match expression sheet 5 rest with
      | .error e => .error e
      | .ok (e, ⟨rest', h⟩) =>
        match closing? rest' with
        | none => .error (.unclosedGroup, rest'.length)
        | some ⟨after, h'⟩ => .ok (e, ⟨after, by simp only [List.length_cons]; omega⟩)
    | .operator sign => .error (.unexpectedToken (.operator sign), rest.length + 1)
    | .closeParen => .error (.unexpectedToken .closeParen, rest.length + 1)
    | .comma => .error (.unexpectedToken .comma, rest.length + 1)
    | .colon => .error (.unexpectedToken .colon, rest.length + 1)
termination_by (ts.length, 0)
decreasing_by all_goals simp_wf; omega

/-- The arguments of a call, up to its closing parenthesis. -/
def arguments (sheet : String) (ts : List Token) : Continuation (List Expr) ts :=
  match closing? ts with
  | some _ => .ok ([], ⟨ts, Nat.le_refl _⟩)
  | none =>
    match expression sheet 5 ts with
    | .error e => .error e
    | .ok (first, ⟨rest, h⟩) =>
      match moreArguments sheet rest with
      | .error e => .error e
      | .ok (others, ⟨after, h'⟩) => .ok (first :: others, ⟨after, by omega⟩)
termination_by (ts.length, 8)

/-- Arguments behind the first one, each with its comma. -/
def moreArguments (sheet : String) (ts : List Token) : Continuation (List Expr) ts :=
  match comma? ts with
  | none => .ok ([], ⟨ts, Nat.le_refl _⟩)
  | some ⟨rest, h⟩ =>
    match expression sheet 5 rest with
    | .error e => .error e
    | .ok (next, ⟨rest', h'⟩) =>
      match moreArguments sheet rest' with
      | .error e => .error e
      | .ok (others, ⟨after, h''⟩) => .ok (next :: others, ⟨after, by omega⟩)
termination_by (ts.length, 0)
decreasing_by all_goals omega

end

end Parser

/-- The expression that all the tokens of a formula on `sheet` make up. -/
def parseTokens (ts : List Token) (sheet : String) : Except ParseError Expr :=
  let failure := fun ((fault, left) : Parser.Failure) =>
    Except.error (ParseError.mk (.grammar fault) (ts.length - left))
  match ts with
  | [] => failure (.empty, 0)
  | ts =>
    match Parser.expression sheet 5 ts with
    | .error e => failure e
    | .ok (e, ⟨[], _⟩) => .ok e
    | .ok (_, ⟨token :: rest, _⟩) => failure (.trailing token, rest.length + 1)

/-- The expression of a formula on `sheet`. -/
def parse (formula sheet : String) : Except ParseError Expr :=
  match tokenize formula with
  | .error e => .error ⟨.lexical e.fault, e.position⟩
  | .ok ts => parseTokens ts sheet

end SheetCompiler.Formula
