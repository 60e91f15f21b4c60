/-!
# Character ranges

A class of characters is given by the ascending list of its code point ranges, both ends included.
-/

namespace SheetCompiler.Text

/-- `n` lies in one of the ascending ranges. The scan ends at the first range above `n`. -/
def inRanges (n : Nat) : List (Nat × Nat) → Bool
  | [] => false
  | (first, last) :: rest => first ≤ n && (n ≤ last || inRanges n rest)

@[simp] theorem inRanges_nil (n : Nat) : inRanges n [] = false := rfl

@[simp] theorem inRanges_cons (n first last : Nat) (rest : List (Nat × Nat)) :
    inRanges n ((first, last) :: rest) =
      (decide (first ≤ n) && (decide (n ≤ last) || inRanges n rest)) :=
  rfl

end SheetCompiler.Text
