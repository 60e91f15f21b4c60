/-!
# Built-in functions

The functions a formula may call, by their upper-case names, with the number of arguments each
takes.
-/

namespace SheetCompiler.Formula

/-- A built-in spreadsheet function. -/
inductive Function where
  | sum | average | min | max | count | product | npv
  | if | ifError | and | or | not
  | abs | round | roundUp | roundDown | int | sqrt | power | mod
  | concatenate | len | upper | lower | trim
  | index | match | vlookup | choose
deriving DecidableEq

namespace Function

/-- Every function with its name. -/
def table : List (String × Function) :=
  [("SUM", .sum), ("AVERAGE", .average), ("MIN", .min), ("MAX", .max), ("COUNT", .count),
    ("PRODUCT", .product), ("NPV", .npv), ("IF", .if), ("IFERROR", .ifError), ("AND", .and),
    ("OR", .or), ("NOT", .not), ("ABS", .abs), ("ROUND", .round), ("ROUNDUP", .roundUp),
    ("ROUNDDOWN", .roundDown), ("INT", .int), ("SQRT", .sqrt), ("POWER", .power), ("MOD", .mod),
    ("CONCATENATE", .concatenate), ("LEN", .len), ("UPPER", .upper), ("LOWER", .lower),
    ("TRIM", .trim), ("INDEX", .index), ("MATCH", .match), ("VLOOKUP", .vlookup),
    ("CHOOSE", .choose)]

/-- The function with the given upper-case name. -/
def ofName? (name : String) : Option Function :=
  table.lookup name

/-- How many arguments a function takes: at least `least`, and at most `most` where there is a
bound. -/
structure Arity where
  least : Nat
  most : Option Nat
deriving DecidableEq

/-- The number of arguments a function takes. -/
def arity : Function → Arity
  | .sum | .average | .min | .max | .count | .product | .and | .or | .concatenate => ⟨1, none⟩
  | .npv | .choose => ⟨2, none⟩
  | .if => ⟨2, some 3⟩
  | .ifError | .round | .roundUp | .roundDown | .power | .mod => ⟨2, some 2⟩
  | .not | .abs | .int | .sqrt | .len | .upper | .lower | .trim => ⟨1, some 1⟩
  | .index | .match => ⟨2, some 3⟩
  | .vlookup => ⟨3, some 4⟩

/-- The argument count lies within the arity. -/
def Arity.admits (a : Arity) (count : Nat) : Bool :=
  a.least ≤ count && a.most.all (count ≤ ·)

/-- The argument counts of an arity in words. -/
def Arity.text (a : Arity) : String :=
  match a.most with
  | none => "at least " ++ toString a.least
  | some most =>
    if most = a.least then toString a.least
    else toString a.least ++ " to " ++ toString most

/-- The function takes ranges as arguments and reads them as flat sequences. -/
def acceptsSequences : Function → Bool
  | .sum | .average | .min | .max | .count | .product | .npv | .and | .or => true
  | _ => false

end Function

end SheetCompiler.Formula
