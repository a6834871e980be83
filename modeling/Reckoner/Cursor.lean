namespace Reckoner

variable {α : Type}

/-- A list of items delivered one by one, with one item of lookahead. An item is pulled from the
source only when it is asked for. -/
structure Cursor (α : Type) where
  /-- The item that is pulled and not yet delivered. -/
  ahead : Option α
  source : List α
  consumed : Nat
deriving DecidableEq

namespace Cursor

def ofList (items : List α) : Cursor α := ⟨none, items, 0⟩

/-- The items still to deliver: to a reader a cursor is this list. -/
def rest (c : Cursor α) : List α := c.ahead.toList ++ c.source

def pulled (c : Cursor α) : Nat := c.consumed + c.ahead.toList.length

def fill (c : Cursor α) : Cursor α :=
  match c.ahead, c.source with
  | none, x :: xs => { c with ahead := some x, source := xs }
  | _, _ => c

def peek (c : Cursor α) : Option α × Cursor α := (c.fill.ahead, c.fill)

def atEnd (c : Cursor α) : Bool × Cursor α := (c.fill.ahead.isNone, c.fill)

def next (c : Cursor α) : Option α × Cursor α :=
  match c.ahead, c.source with
  | some x, xs => (some x, ⟨none, xs, c.consumed + 1⟩)
  | none, x :: xs => (some x, ⟨none, xs, c.consumed + 1⟩)
  | none, [] => (none, c)

def nextIf (test : α → Bool) (c : Cursor α) : Option α × Cursor α :=
  match c.fill.ahead with
  | some x => if test x then c.fill.next else (none, c.fill)
  | none => (none, c.fill)

@[simp]
theorem rest_ofList (items : List α) : (ofList items).rest = items := rfl

@[simp]
theorem rest_fill (c : Cursor α) : c.fill.rest = c.rest := by
  rcases c with ⟨_ | _, _ | _, _⟩ <;> rfl

@[simp]
theorem consumed_fill (c : Cursor α) : c.fill.consumed = c.consumed := by
  rcases c with ⟨_ | _, _ | _, _⟩ <;> rfl

@[simp]
theorem ahead_fill (c : Cursor α) : c.fill.ahead = c.rest.head? := by
  rcases c with ⟨_ | _, _ | _, _⟩ <;> rfl

theorem fst_next (c : Cursor α) : c.next.1 = c.rest.head? := by
  rcases c with ⟨_ | _, _ | _, _⟩ <;> rfl

theorem rest_next (c : Cursor α) : c.next.2.rest = c.rest.tail := by
  rcases c with ⟨_ | _, _ | _, _⟩ <;> rfl

theorem consumed_next (c : Cursor α) :
    c.next.2.consumed = c.consumed + c.next.1.toList.length := by
  rcases c with ⟨_ | _, _ | _, _⟩ <;> rfl

theorem fst_nextIf (test : α → Bool) (c : Cursor α) :
    (c.nextIf test).1 = c.rest.head?.filter test := by
  simp only [nextIf, ahead_fill]
  cases h : c.rest.head? with
  | none => rfl
  | some x => by_cases ht : test x <;> simp [ht, fst_next, h, Option.filter]

theorem rest_nextIf (test : α → Bool) (c : Cursor α) :
    (c.nextIf test).2.rest = c.rest.drop (c.nextIf test).1.toList.length := by
  rw [fst_nextIf]
  simp only [nextIf, ahead_fill]
  cases h : c.rest.head? with
  | none => simp
  | some x => by_cases ht : test x <;> simp [ht, rest_next, Option.filter]

theorem consumed_nextIf (test : α → Bool) (c : Cursor α) :
    (c.nextIf test).2.consumed = c.consumed + (c.nextIf test).1.toList.length := by
  rw [fst_nextIf]
  simp only [nextIf, ahead_fill]
  cases h : c.rest.head? with
  | none => simp
  | some x => by_cases ht : test x <;> simp [ht, consumed_next, fst_next, h, Option.filter]

theorem of_next_some {c c' : Cursor α} {x : α} (h : c.next = (some x, c')) :
    c.rest = x :: c'.rest ∧ c'.consumed = c.consumed + 1 := by
  have item := fst_next c
  have after := rest_next c
  have count := consumed_next c
  rw [h] at item after count
  obtain ⟨ys, hys⟩ := List.head?_eq_some_iff.1 item.symm
  exact ⟨by rw [after, hys, List.tail_cons], count⟩

theorem of_next_none {c c' : Cursor α} (h : c.next = (none, c')) :
    c.rest = [] ∧ c'.rest = [] ∧ c'.consumed = c.consumed := by
  have item := fst_next c
  have after := rest_next c
  have count := consumed_next c
  rw [h] at item after count
  have empty : c.rest = [] := List.head?_eq_none_iff.1 item.symm
  exact ⟨empty, by rw [after, empty, List.tail_nil], count⟩

theorem of_nextIf_some {test : α → Bool} {c c' : Cursor α} {x : α}
    (h : c.nextIf test = (some x, c')) :
    test x = true ∧ c.rest = x :: c'.rest ∧ c'.consumed = c.consumed + 1 := by
  have item := fst_nextIf test c
  have after := rest_nextIf test c
  have count := consumed_nextIf test c
  rw [h] at item after count
  obtain ⟨head, passes⟩ := Option.filter_eq_some_iff.1 item.symm
  obtain ⟨ys, hys⟩ := List.head?_eq_some_iff.1 head
  exact ⟨passes, by rw [after, hys]; rfl, count⟩

theorem of_nextIf_none {test : α → Bool} {c c' : Cursor α} (h : c.nextIf test = (none, c')) :
    c'.rest = c.rest ∧ c'.consumed = c.consumed ∧ ∀ x ∈ c.rest.head?, test x = false := by
  have item := fst_nextIf test c
  have after := rest_nextIf test c
  have count := consumed_nextIf test c
  rw [h] at item after count
  refine ⟨after, count, fun x hx => ?_⟩
  exact Bool.eq_false_iff.2 (Option.filter_eq_none_iff.1 item.symm x hx)

theorem length_rest_of_next {c c' : Cursor α} {item : Option α} (h : c.next = (item, c')) :
    c'.rest.length ≤ c.rest.length := by
  have after := rest_next c
  rw [h] at after
  simp [after]

theorem length_rest_of_nextIf {test : α → Bool} {c c' : Cursor α} {item : Option α}
    (h : c.nextIf test = (item, c')) : c'.rest.length ≤ c.rest.length := by
  have after := rest_nextIf test c
  rw [h] at after
  simp [after]

def skipWhile (test : α → Bool) (c : Cursor α) : Cursor α :=
  match _h : c.nextIf test with
  | (some _, c') => skipWhile test c'
  | (none, c') => c'
termination_by c.rest.length
decreasing_by
  rw [(of_nextIf_some _h).2.1]
  exact Nat.lt_succ_self _

theorem rest_skipWhile (test : α → Bool) (c : Cursor α) :
    (c.skipWhile test).rest = c.rest.dropWhile test := by
  fun_induction skipWhile test c with
  | case1 c x c' h ih =>
      obtain ⟨passes, before, -⟩ := of_nextIf_some h
      rw [ih, before, List.dropWhile_cons_of_pos passes]
  | case2 c c' h =>
      obtain ⟨after, -, stop⟩ := of_nextIf_none h
      rw [after]
      cases hr : c.rest with
      | nil => rfl
      | cons y ys => simp [stop y (by simp [hr])]

theorem consumed_skipWhile (test : α → Bool) (c : Cursor α) :
    (c.skipWhile test).consumed = c.consumed + (c.rest.takeWhile test).length := by
  fun_induction skipWhile test c with
  | case1 c x c' h ih =>
      obtain ⟨passes, before, count⟩ := of_nextIf_some h
      rw [ih, count, before, List.takeWhile_cons_of_pos passes, List.length_cons]
      omega
  | case2 c c' h =>
      obtain ⟨-, count, stop⟩ := of_nextIf_none h
      rw [count]
      cases hr : c.rest with
      | nil => rfl
      | cons y ys => simp [stop y (by simp [hr])]

theorem length_rest_skipWhile (test : α → Bool) (c : Cursor α) :
    (c.skipWhile test).rest.length ≤ c.rest.length := by
  rw [rest_skipWhile]
  exact (List.dropWhile_sublist test).length_le

def drain (c : Cursor α) : List α × Cursor α :=
  match _h : c.next with
  | (some x, c') => (x :: (drain c').1, (drain c').2)
  | (none, c') => ([], c')
termination_by c.rest.length
decreasing_by
  all_goals
    rw [(of_next_some _h).1]
    exact Nat.lt_succ_self _

end Cursor

inductive Cursor.Request (α : Type) where
  | next
  | peek
  | peekOr (fallback : α)
  | nextIf (test : α → Bool)
  | atEnd
  | more
  | drain
  | iterate

inductive Cursor.Answer (α : Type) where
  | item (x : α)
  | nothing
  | flag (b : Bool)
  | items (xs : List α)
  | exhausted

namespace Cursor

def Answer.ofItem? : Option α → Answer α
  | some x => item x
  | none => exhausted

def answer (c : Cursor α) : Request α → Answer α × Cursor α
  | .next => (.ofItem? c.next.1, c.next.2)
  | .peek => (.ofItem? c.peek.1, c.peek.2)
  | .peekOr fallback => (.item (c.peek.1.getD fallback), c.peek.2)
  | .nextIf test =>
      match c.nextIf test with
      | (some x, c') => (.item x, c')
      | (none, c') => (.nothing, c')
  | .atEnd => (.flag c.atEnd.1, c.atEnd.2)
  | .more => (.flag !c.atEnd.1, c.atEnd.2)
  | .drain => (.items c.drain.1, c.drain.2)
  | .iterate => (.flag true, c)

def answers (c : Cursor α) : List (Request α) → List (Answer α × Cursor α)
  | [] => []
  | r :: rs => c.answer r :: answers (c.answer r).2 rs

end Cursor

end Reckoner
