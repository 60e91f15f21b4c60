/-!
# Delimited text

Text between two equal marks. A mark inside the text is written twice, so the first single mark
closes it. Main statement: reading gives back what was written, whatever follows.
-/

namespace SheetCompiler.Text

/-- The characters with every `mark` doubled. -/
def doubled (mark : Char) (cs : List Char) : List Char :=
  cs.flatMap fun c => if c = mark then [mark, mark] else [c]

/-- The characters between two marks. -/
def delimited (mark : Char) (cs : List Char) : List Char :=
  mark :: (doubled mark cs ++ [mark])

/-- Reads on from behind an opening mark: the text before the closing mark and what follows it. A
text that is not closed has no reading. -/
def readDelimited (mark : Char) : List Char → Option (List Char × List Char)
  | [] => none
  | [c] => if c = mark then some ([], []) else none
  | c :: d :: rest =>
    if c = mark then
      if d = mark then
        (readDelimited mark rest).map fun (text, after) => (mark :: text, after)
      else
        some ([], d :: rest)
    else
      (readDelimited mark (d :: rest)).map fun (text, after) => (c :: text, after)

theorem readDelimited_length {mark : Char} {cs text after : List Char}
    (h : readDelimited mark cs = some (text, after)) : after.length < cs.length := by
  fun_induction readDelimited mark cs generalizing text after with
  | case1 => simp at h
  | case2 => simp_all
  | case3 => simp at h
  | case4 _ ih =>
    obtain ⟨⟨t, a⟩, ht, he⟩ := Option.map_eq_some_iff.mp h
    have := ih ht
    simp_all
    omega
  | case5 => simp_all
  | case6 _ _ _ _ ih =>
    obtain ⟨⟨t, a⟩, ht, he⟩ := Option.map_eq_some_iff.mp h
    have := ih ht
    simp_all
    omega

/-- Text written between marks is read back, as long as no further mark follows it. -/
theorem readDelimited_doubled (mark : Char) (cs after : List Char) (h : after.head? ≠ some mark) :
    readDelimited mark (doubled mark cs ++ mark :: after) = some (cs, after) := by
  induction cs with
  | nil =>
    cases after with
    | nil => simp [doubled, readDelimited]
    | cons d rest =>
      have : d ≠ mark := fun e => h (by simp [e])
      simp [doubled, readDelimited, this]
  | cons c cs ih =>
    have step : doubled mark (c :: cs) =
        (if c = mark then [mark, mark] else [c]) ++ doubled mark cs := by simp [doubled]
    rw [step]
    by_cases hc : c = mark
    · simp [hc, readDelimited, ih]
    · have : ∃ d rest, doubled mark cs ++ mark :: after = d :: rest := by
        cases hd : doubled mark cs with
        | nil => exact ⟨mark, after, rfl⟩
        | cons d rest => exact ⟨d, rest ++ mark :: after, rfl⟩
      obtain ⟨d, rest, hd⟩ := this
      rw [hd] at ih
      rw [if_neg hc, List.append_assoc, hd]
      simp [readDelimited, hc, ih]

end SheetCompiler.Text
