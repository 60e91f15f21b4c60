/-!
# Column letters

Columns are numbered from zero and spelled in bijective base 26: `A` to `Z`, then `AA`, `AB` and so
on. Column numbers read from text are 32-bit words.
-/

namespace SheetCompiler.Address

/-- The upper-case letter with the given place in the alphabet, from zero. -/
def letter (n : Nat) : Char :=
  Char.ofNat ('A'.toNat + n)

/-- The letters of a column. -/
def columnChars (col : Nat) : List Char :=
  if col < 26 then
    [letter col]
  else
    columnChars (col / 26 - 1) ++ [letter (col % 26)]
termination_by col
decreasing_by omega

/-- The letters of a column as a text. -/
def columnLetters (col : Nat) : String :=
  String.ofList (columnChars col)

/-- The place of a letter in the alphabet, from one, whatever its case. -/
def letterValue (c : Char) : Nat :=
  c.toUpper.toNat - 'A'.toNat + 1

/-- The number as a 32-bit word, if it fits one. -/
def word? (n : Nat) : Option Nat :=
  if n < UInt32.size then some n else none

/-- Reads letters as digits in bijective base 26, `A` being one, behind letters of the value `n`.
Every number on the way has to fit a 32-bit word. -/
def lettersWord? (n : Nat) : List Char → Option Nat
  | [] => some n
  | c :: rest =>
    if c.isAlpha then do
      let shifted ← word? (n * 26)
      let next ← word? (shifted + letterValue c)
      lettersWord? next rest
    else none

/-- The column that letters spell, in either case: none without letters, with anything but letters,
or when the value does not fit a 32-bit word. -/
def columnOfChars? (cs : List Char) : Option Nat :=
  if cs.isEmpty then none else (lettersWord? 0 cs).map (· - 1)

/-- The column that a text spells. -/
def columnOfLetters? (letters : String) : Option Nat :=
  columnOfChars? letters.toList

end SheetCompiler.Address
