import Reckoner.Cursor

namespace Reckoner

variable {α : Type}

/-- A list that is there from the start, and a position in it. -/
structure Pointer (α : Type) where
  items : List α
  position : Nat

namespace Pointer

def item? (p : Pointer α) : Option α := p.items[p.position]?

def advance (p : Pointer α) : Pointer α := { p with position := p.position + 1 }

def answer (p : Pointer α) : Cursor.Request α → Cursor.Answer α × Pointer α
  | .next =>
      match p.item? with
      | some x => (.item x, p.advance)
      | none => (.exhausted, p)
  | .peek =>
      match p.item? with
      | some x => (.item x, p)
      | none => (.exhausted, p)
  | .peekOr fallback =>
      match p.item? with
      | some x => (.item x, p)
      | none => (.item fallback, p)
  | .nextIf test =>
      match p.item? with
      | some x => if test x then (.item x, p.advance) else (.nothing, p)
      | none => (.nothing, p)
  | .atEnd => (.flag (decide (p.position = p.items.length)), p)
  | .more => (.flag (decide (p.position < p.items.length)), p)
  | .drain => (.items (p.items.drop p.position), { p with position := p.items.length })
  | .iterate => (.flag true, p)

def answers (p : Pointer α) : List (Cursor.Request α) → List (Cursor.Answer α × Pointer α)
  | [] => []
  | r :: rs => p.answer r :: answers (p.answer r).2 rs

end Pointer

namespace Cursor

def after (c : Cursor α) : List (Request α) → Cursor α
  | [] => c
  | r :: rs => after (c.answer r).2 rs

/-- The items that a request takes. To look at an item is not to take it. -/
def Request.taken : Request α → Answer α → List α
  | .next, .item x | .nextIf _, .item x => [x]
  | .drain, .items xs => xs
  | _, _ => []

def delivered (c : Cursor α) : List (Request α) → List α
  | [] => []
  | r :: rs => r.taken (c.answer r).1 ++ delivered (c.answer r).2 rs

def Answer.shown (null : α) : Answer α → Answer α
  | nothing => item null
  | a => a

/-- A cursor over the items has those still to deliver that its counter leaves. -/
structure Over (items : List α) (c : Cursor α) : Prop where
  rest : c.rest = items.drop c.consumed
  consumed_le : c.consumed ≤ items.length

variable {items xs : List α} {c c' : Cursor α}

theorem over_ofList (items : List α) : (ofList items).Over items := ⟨rfl, Nat.zero_le _⟩

namespace Over

theorem of_taken (h : c.Over items) (taken : c.rest = xs ++ c'.rest)
    (count : c'.consumed = c.consumed + xs.length) : c'.Over items := by
  have size := congrArg List.length (h.rest.symm.trans taken)
  rw [List.length_drop, List.length_append] at size
  refine ⟨?_, ?_⟩
  · rw [count, ← List.drop_drop, ← h.rest, taken, List.drop_left]
  · have bound := h.consumed_le
    omega

theorem item?_eq (h : c.Over items) : (Pointer.mk items c.consumed).item? = c.rest.head? := by
  rw [h.rest, List.head?_drop]
  rfl

theorem rest_eq_nil_iff (h : c.Over items) : c.rest = [] ↔ c.consumed = items.length := by
  have bound := h.consumed_le
  rw [h.rest, List.drop_eq_nil_iff]
  omega

theorem take_append_rest (h : c.Over items) : items.take c.consumed ++ c.rest = items := by
  rw [h.rest, List.take_append_drop]

theorem source (h : c.Over items) : c.source = items.drop c.pulled := by
  have behind := congrArg (List.drop c.ahead.toList.length) h.rest
  rwa [Cursor.rest, List.drop_left, List.drop_drop] at behind

theorem pulled_le (h : c.Over items) : c.pulled ≤ items.length := by
  have size := congrArg List.length h.rest
  have bound := h.consumed_le
  rw [Cursor.rest, List.length_append, List.length_drop] at size
  rw [pulled]
  omega

end Over

theorem pulled_bounds (c : Cursor α) : c.pulled = c.consumed ∨ c.pulled = c.consumed + 1 := by
  unfold pulled
  cases c.ahead with
  | none => exact Or.inl rfl
  | some x => exact Or.inr rfl

theorem fst_drain (c : Cursor α) : c.drain.1 = c.rest := by
  fun_induction drain c with
  | case1 c x c' h ih => rw [ih, (of_next_some h).1]
  | case2 c c' h => rw [(of_next_none h).1]

theorem rest_drain (c : Cursor α) : c.drain.2.rest = [] := by
  fun_induction drain c with
  | case1 c x c' h ih => exact ih
  | case2 c c' h => exact (of_next_none h).2.1

theorem consumed_drain (c : Cursor α) : c.drain.2.consumed = c.consumed + c.rest.length := by
  fun_induction drain c with
  | case1 c x c' h ih =>
      obtain ⟨rest, count⟩ := of_next_some h
      rw [ih, count, rest, List.length_cons]
      omega
  | case2 c c' h =>
      obtain ⟨rest, -, count⟩ := of_next_none h
      rw [count, rest]
      rfl

theorem taken_answer (c : Cursor α) (r : Request α) :
    c.rest = r.taken (c.answer r).1 ++ (c.answer r).2.rest ∧
      (c.answer r).2.consumed = c.consumed + (r.taken (c.answer r).1).length := by
  have looked : c.rest = [] ++ c.fill.rest ∧ c.fill.consumed = c.consumed + 0 :=
    ⟨(rest_fill c).symm, consumed_fill c⟩
  cases r with
  | next =>
      simp only [answer]
      cases hn : c.next with
      | mk item c' =>
          cases item with
          | none =>
              obtain ⟨rest, rest', count⟩ := of_next_none hn
              exact ⟨rest.trans rest'.symm, count⟩
          | some x => exact of_next_some hn
  | peek =>
      simp only [answer, peek]
      cases c.fill.ahead <;> exact looked
  | peekOr fallback => exact looked
  | nextIf test =>
      simp only [answer]
      cases hn : c.nextIf test with
      | mk item c' =>
          cases item with
          | none =>
              obtain ⟨rest, count, -⟩ := of_nextIf_none hn
              exact ⟨rest.symm, count⟩
          | some x => exact (of_nextIf_some hn).2
  | atEnd | more => exact looked
  | drain =>
      refine ⟨?_, ?_⟩
      · rw [answer, Request.taken, fst_drain, rest_drain, List.append_nil]
      · rw [answer, Request.taken, fst_drain, consumed_drain]
  | iterate => exact ⟨rfl, rfl⟩

theorem Over.answer (h : c.Over items) (r : Request α) : (c.answer r).2.Over items :=
  h.of_taken (taken_answer c r).1 (taken_answer c r).2

/-- A position answers a request as the cursor over its items does that has come as far. -/
theorem Over.pointer_answer (h : c.Over items) (r : Request α) :
    (Pointer.mk items c.consumed).answer r =
      ((c.answer r).1, ⟨items, (c.answer r).2.consumed⟩) := by
  have count := (taken_answer c r).2
  have item := h.item?_eq
  cases r with
  | next =>
      have first := fst_next c
      rw [count]
      simp only [Pointer.answer, Cursor.answer, item, first]
      cases c.rest.head? <;> rfl
  | peek =>
      rw [count]
      simp only [Pointer.answer, Cursor.answer, Cursor.peek, ahead_fill, item]
      cases c.rest.head? <;> rfl
  | peekOr fallback =>
      rw [count]
      simp only [Pointer.answer, Cursor.answer, Cursor.peek, ahead_fill, item]
      cases c.rest.head? <;> rfl
  | nextIf test =>
      rw [count]
      simp only [Pointer.answer, Cursor.answer, item]
      cases hn : c.nextIf test with
      | mk taken c' =>
          cases taken with
          | none =>
              obtain ⟨-, -, stop⟩ := of_nextIf_none hn
              cases hr : c.rest.head? with
              | none => rfl
              | some x =>
                  simp only [stop x hr, Bool.false_eq_true, if_false]
                  rfl
          | some x =>
              obtain ⟨passes, rest, -⟩ := of_nextIf_some hn
              simp only [rest, List.head?_cons, passes, if_true]
              rfl
  | atEnd =>
      have ended := h.rest_eq_nil_iff
      rw [count]
      simp only [Pointer.answer, Cursor.answer, Cursor.atEnd, ahead_fill, ← ended]
      cases c.rest <;> rfl
  | more =>
      have left : c.consumed < items.length ↔ c.rest ≠ [] := by
        rw [ne_eq, h.rest_eq_nil_iff]
        exact Nat.lt_iff_le_and_ne.trans (and_iff_right h.consumed_le)
      rw [count]
      simp only [Pointer.answer, Cursor.answer, Cursor.atEnd, ahead_fill, left]
      cases c.rest <;> rfl
  | drain =>
      have size := congrArg List.length h.take_append_rest
      rw [List.length_append, List.length_take_of_le h.consumed_le] at size
      rw [count]
      simp only [Pointer.answer, Cursor.answer, Request.taken, fst_drain, ← h.rest, size]
  | iterate => rfl

theorem Over.pointer_answers (h : c.Over items) (requests : List (Request α)) :
    (Pointer.mk items c.consumed).answers requests =
      (c.answers requests).map fun a => (a.1, ⟨items, a.2.consumed⟩) := by
  induction requests generalizing c with
  | nil => rfl
  | cons r rs ih =>
      rw [Pointer.answers, h.pointer_answer r, answers, List.map_cons]
      exact congrArg _ (ih (h.answer r))

theorem Over.after (h : c.Over items) (requests : List (Request α)) :
    (c.after requests).Over items := by
  induction requests generalizing c with
  | nil => exact h
  | cons r rs ih => exact ih (h.answer r)

theorem delivered_append_rest (c : Cursor α) (requests : List (Request α)) :
    c.delivered requests ++ (c.after requests).rest = c.rest := by
  induction requests generalizing c with
  | nil => rfl
  | cons r rs ih => rw [delivered, Cursor.after, List.append_assoc, ih, ← (taken_answer c r).1]

theorem answers_concat (c : Cursor α) (before : List (Request α)) (r : Request α) :
    c.answers (before ++ [r]) = c.answers before ++ [(c.after before).answer r] := by
  induction before generalizing c with
  | nil => rfl
  | cons r rs ih => rw [List.cons_append, answers, ih, answers, List.cons_append, Cursor.after]

theorem Over.exhausted_iff (h : c.Over items) (r : Request α) :
    (c.answer r).1 = .exhausted ↔ (r = .next ∨ r = .peek) ∧ c.consumed = items.length := by
  rw [← h.rest_eq_nil_iff]
  have none_iff (item : Option α) : Answer.ofItem? item = .exhausted ↔ item = none := by
    cases item <;> simp [Answer.ofItem?]
  cases r with
  | next => simp [Cursor.answer, none_iff, fst_next]
  | peek => simp [Cursor.answer, none_iff, Cursor.peek]
  | nextIf test =>
      simp only [Cursor.answer]
      split <;> simp
  | peekOr | atEnd | more | drain | iterate => simp [Cursor.answer]

theorem Over.fallback_iff (h : c.Over items) {fallback : α} (hf : fallback ∉ items) :
    (c.answer (.peekOr fallback)).1 = .item fallback ↔ c.consumed = items.length := by
  rw [← h.rest_eq_nil_iff]
  simp only [Cursor.answer, Cursor.peek, ahead_fill, Answer.item.injEq]
  cases hr : c.rest with
  | nil => simp
  | cons x xs =>
      have present : x ∈ items := by
        rw [← h.take_append_rest, hr]
        exact List.mem_append_right _ List.mem_cons_self
      have other : x ≠ fallback := fun hx => hf (hx ▸ present)
      simp [other]

theorem Over.nextIf_null (h : c.Over items) {null : α} {test : α → Bool}
    (hn : items[c.consumed]? = some null) (passes : test null = true) :
    (c.answer (.nextIf test)).1.shown null = Answer.nothing.shown null ∧
      (c.answer (.nextIf test)).2.consumed = c.consumed + 1 := by
  have pointer := h.pointer_answer (.nextIf test)
  have item : (Pointer.mk items c.consumed).item? = some null := hn
  simp only [Pointer.answer, item, passes, if_true] at pointer
  obtain ⟨answered, moved⟩ := Prod.mk.inj pointer
  refine ⟨?_, (congrArg Pointer.position moved).symm⟩
  rw [← answered]
  rfl

/-- Any requests one after the other, also past the end. All answers are those of a position in the
list, and the counter is that position. No more than one item is pulled ahead of it and none twice;
what has been taken, with what a drain gives from there, is the whole list in its order. In this
state a request fails for want of an item, or gets its fallback, exactly at the end; and taking an
item that is seen as no item moves the position like taking any other. -/
theorem answers_positioned (items : List α) (requests : List (Request α)) :
    let c := (ofList items).after requests
    (∀ r, (ofList items).answers (requests ++ [r]) =
        (ofList items).answers requests ++ [c.answer r]) ∧
      (Pointer.mk items 0).answers requests =
        ((ofList items).answers requests).map (fun a => (a.1, ⟨items, a.2.consumed⟩)) ∧
      c.consumed ≤ items.length ∧ c.source = items.drop c.pulled ∧ c.pulled ≤ items.length ∧
      (c.pulled = c.consumed ∨ c.pulled = c.consumed + 1) ∧
      (ofList items).delivered requests = items.take c.consumed ∧
      (ofList items).delivered requests ++ c.drain.1 = items ∧
      (∀ r, (c.answer r).1 = .exhausted ↔
        (r = .next ∨ r = .peek) ∧ c.consumed = items.length) ∧
      (∀ fallback ∉ items,
        (c.answer (.peekOr fallback)).1 = .item fallback ↔ c.consumed = items.length) ∧
      ∀ null test, items[c.consumed]? = some null → test null = true →
        (c.answer (.nextIf test)).1.shown null = Answer.nothing.shown null ∧
          (c.answer (.nextIf test)).2.consumed = c.consumed + 1 := by
  intro c
  have along : c.Over items := (over_ofList items).after requests
  have all : (ofList items).delivered requests ++ c.rest = items :=
    delivered_append_rest (ofList items) requests
  refine ⟨answers_concat _ requests, (over_ofList items).pointer_answers requests,
    along.consumed_le, along.source, along.pulled_le, pulled_bounds c, ?_, ?_, along.exhausted_iff,
    fun _ => along.fallback_iff, fun _ _ => along.nextIf_null⟩
  · exact List.append_cancel_right (all.trans along.take_append_rest.symm)
  · rw [fst_drain]
    exact all

/-- Of a list that starts with a `none`, this item is looked at and then taken: it looks as if nothing
had been taken, and what is drained after it is the rest. -/
theorem answers_positioned_none :
    let items := [none, some 0, none]
    let c := (ofList items).after [.peek]
    let c' := (ofList items).after [.peek, .nextIf Option.isNone]
    items[c.consumed]? = some none ∧
      (c.answer (.nextIf Option.isNone)).1.shown none = Answer.nothing.shown none ∧
      c'.consumed = 1 ∧ [none] ++ c'.drain.1 = items := by
  intro items c c'
  obtain ⟨-, -, -, -, -, -, -, -, -, -, taking⟩ := answers_positioned items [.peek]
  obtain ⟨-, -, -, -, -, -, -, drained, -⟩ :=
    answers_positioned items [.peek, .nextIf Option.isNone]
  obtain ⟨seen, moved⟩ := taking none Option.isNone rfl rfl
  exact ⟨rfl, seen, moved, drained⟩

end Cursor

end Reckoner
