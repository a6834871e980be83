namespace Reckoner.Text

def isParameter (c : Char) : Bool := c.isDigit || c == ';' || c == '?'

/-- What follows the colour sequence at the start of the text, if there is one: an escape character
and a bracket, parameters, and a letter. -/
def afterSequence? : List Char → Option (List Char)
  | '\x1b' :: '[' :: cs =>
      match cs.dropWhile isParameter with
      | c :: rest => if c.isAlpha then some rest else none
      | [] => none
  | _ => none

theorem length_afterSequence? {cs rest : List Char} (h : afterSequence? cs = some rest) :
    rest.length < cs.length := by
  unfold afterSequence? at h
  split at h
  · rename_i ds
    have short := (List.dropWhile_sublist isParameter (l := ds)).length_le
    split at h
    · rename_i heq
      split at h
      · rw [heq] at short
        simp only [Option.some.injEq] at h
        subst h
        simp only [List.length_cons] at short ⊢
        omega
      · contradiction
    · contradiction
  · contradiction

def uncoloured : List Char → List Char
  | [] => []
  | c :: cs =>
      match _h : afterSequence? (c :: cs) with
      | some rest => uncoloured rest
      | none => c :: uncoloured cs
termination_by cs => cs.length
decreasing_by
  · exact length_afterSequence? _h
  · simp

theorem uncoloured_of_not_mem {cs : List Char} (h : '\x1b' ∉ cs) : uncoloured cs = cs := by
  fun_induction uncoloured cs with
  | case1 => rfl
  | case2 c cs rest sequence ih =>
      unfold afterSequence? at sequence
      split at sequence
      · rename_i escape
        exact absurd (escape ▸ List.mem_cons_self) h
      · simp at sequence
  | case3 c cs sequence ih => rw [ih fun later => h (List.mem_cons_of_mem c later)]

end Reckoner.Text
