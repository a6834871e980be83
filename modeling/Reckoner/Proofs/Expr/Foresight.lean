import Reckoner.Proofs.Expr.Walk

namespace Reckoner

/-- A tree without what its literals hold. -/
inductive Shape where
  | literal (kind : Kind)
  | grouping (inner : Shape)
  | unary (operator : Token) (right : Shape)
  | binary (left : Shape) (operator : Token) (right : Shape)
  | missing
deriving DecidableEq

namespace Shape

def literalKind : Kind → Except EvalFault ValueKind
  | .number => .ok .number
  | .string => .ok .string
  | .trueWord | .falseWord => .ok .bool
  | .nilWord => .ok .nil
  | kind => .error (.literalKind kind)

def unaryKind (operator : Token) (right : ValueKind) : Except EvalFault ValueKind :=
  match operator.kind with
  | .minus => if right = .number then .ok .number else .error (.operands operator .number)
  | .bang => if right = .bool then .ok .bool else .error (.operands operator .boolean)
  | kind => .error (.unaryOperator kind)

def binaryKind (operator : Token) (left right : ValueKind) : Except EvalFault ValueKind :=
  match operator.kind with
  | .plus =>
      if left = .number ∧ right = .number then .ok .number
      else if left = .string ∧ right = .string then .ok .string
      else .error (.operands operator .numbersOrStrings)
  | .minus | .star | .slash =>
      if left = .number ∧ right = .number then .ok .number
      else .error (.operands operator .numbers)
  | .greater | .greaterEqual | .less | .lessEqual =>
      if left = .number ∧ right = .number then .ok .bool
      else .error (.operands operator .numbers)
  | .equalEqual | .bangEqual => .ok .bool
  | kind => .error (.binaryOperator kind)

/-- The kind of the value that trees of this shape have, or the fault that they have in common. -/
def predict : Shape → Except EvalFault ValueKind
  | literal kind => literalKind kind
  | grouping inner => inner.predict
  | unary operator right => right.predict.bind (unaryKind operator)
  | binary left operator right =>
      left.predict.bind fun l => right.predict.bind fun r => binaryKind operator l r
  | missing => .error .missingNode

inductive HasKind : Shape → ValueKind → Prop where
  | number : HasKind (literal .number) .number
  | string : HasKind (literal .string) .string
  | truth {kind : Kind} : kind ∈ [Kind.trueWord, .falseWord] → HasKind (literal kind) .bool
  | nil : HasKind (literal .nilWord) .nil
  | grouping {inner : Shape} {kind : ValueKind} :
      HasKind inner kind → HasKind (grouping inner) kind
  | negation {operator : Token} {right : Shape} :
      operator.kind = .minus → HasKind right .number → HasKind (unary operator right) .number
  | complement {operator : Token} {right : Shape} :
      operator.kind = .bang → HasKind right .bool → HasKind (unary operator right) .bool
  | arithmetic {operator : Token} {left right : Shape} :
      operator.kind ∈ [Kind.plus, .minus, .star, .slash] → HasKind left .number →
      HasKind right .number → HasKind (binary left operator right) .number
  | concatenation {operator : Token} {left right : Shape} :
      operator.kind = .plus → HasKind left .string → HasKind right .string →
      HasKind (binary left operator right) .string
  | comparison {operator : Token} {left right : Shape} :
      operator.kind ∈ [Kind.greater, .greaterEqual, .less, .lessEqual] → HasKind left .number →
      HasKind right .number → HasKind (binary left operator right) .bool
  | equality {operator : Token} {left right : Shape} {l r : ValueKind} :
      operator.kind ∈ [Kind.equalEqual, .bangEqual] → HasKind left l → HasKind right r →
      HasKind (binary left operator right) .bool

theorem HasKind.of_literalKind {kind : Kind} {k : ValueKind} (h : literalKind kind = .ok k) :
    (literal kind).HasKind k := by
  unfold literalKind at h
  split at h <;> cases h
  · exact .number
  · exact .string
  · exact .truth (by decide)
  · exact .truth (by decide)
  · exact .nil

theorem HasKind.of_unaryKind {operator : Token} {right : Shape} {r k : ValueKind}
    (hr : right.HasKind r) (h : unaryKind operator r = .ok k) :
    (unary operator right).HasKind k := by
  unfold unaryKind at h
  split at h
  next hk =>
    split at h <;> cases h
    next eq => exact .negation hk (eq ▸ hr)
  next hk =>
    split at h <;> cases h
    next eq => exact .complement hk (eq ▸ hr)
  next => cases h

theorem HasKind.of_binaryKind {operator : Token} {left right : Shape} {l r k : ValueKind}
    (hl : left.HasKind l) (hr : right.HasKind r) (h : binaryKind operator l r = .ok k) :
    (binary left operator right).HasKind k := by
  unfold binaryKind at h
  split at h
  next hk =>
    split at h
    next both =>
      cases h
      exact .arithmetic (by simp [hk]) (both.1 ▸ hl) (both.2 ▸ hr)
    next =>
      split at h <;> cases h
      next both => exact .concatenation hk (both.1 ▸ hl) (both.2 ▸ hr)
  iterate 3
    next hk =>
      split at h <;> cases h
      next both => exact .arithmetic (by simp [hk]) (both.1 ▸ hl) (both.2 ▸ hr)
  iterate 4
    next hk =>
      split at h <;> cases h
      next both => exact .comparison (by simp [hk]) (both.1 ▸ hl) (both.2 ▸ hr)
  iterate 2
    next hk =>
      cases h
      exact .equality (by simp [hk]) hl hr
  next => cases h

theorem predict_of_hasKind {s : Shape} {k : ValueKind} (h : s.HasKind k) : s.predict = .ok k := by
  induction h with
  | number | string | nil => rfl
  | truth hk =>
      simp only [List.mem_cons, List.not_mem_nil, or_false] at hk
      rcases hk with rfl | rfl <;> rfl
  | grouping _ ih => exact ih
  | negation hk _ ih | complement hk _ ih => simp [predict, ih, Except.bind, unaryKind, hk]
  | arithmetic hk _ _ ihl ihr | comparison hk _ _ ihl ihr =>
      simp only [predict, ihl, ihr, Except.bind]
      simp only [List.mem_cons, List.not_mem_nil, or_false] at hk
      rcases hk with hk | hk | hk | hk <;> simp [binaryKind, hk]
  | equality hk _ _ ihl ihr =>
      simp only [predict, ihl, ihr, Except.bind]
      simp only [List.mem_cons, List.not_mem_nil, or_false] at hk
      rcases hk with hk | hk <;> simp [binaryKind, hk]
  | concatenation hk _ _ ihl ihr => simp [predict, ihl, ihr, Except.bind, binaryKind, hk]

theorem predict_eq_ok_iff {s : Shape} {k : ValueKind} : s.predict = .ok k ↔ s.HasKind k := by
  refine ⟨fun h => ?_, predict_of_hasKind⟩
  induction s generalizing k with
  | literal kind => exact .of_literalKind h
  | grouping inner ih => exact .grouping (ih h)
  | unary operator right ih =>
      obtain ⟨r, hr, h⟩ := Expr.bind_eq_ok h
      exact .of_unaryKind (ih hr) h
  | binary left operator right ihl ihr =>
      obtain ⟨l, hl, h⟩ := Expr.bind_eq_ok h
      obtain ⟨r, hr, h⟩ := Expr.bind_eq_ok h
      exact .of_binaryKind (ihl hl) (ihr hr) h
  | missing => simp [predict] at h

end Shape

namespace Value

theorem map_kind_unary (operator : Token) (r : Value) :
    (unary operator r).map kind = Shape.unaryKind operator r.kind := by
  unfold unary Shape.unaryKind
  cases operator.kind <;> cases r <;> rfl

theorem map_kind_arithmetic (operator : Token) {f : Float → Float → Except EvalFault Float}
    (hf : ∀ x y, ∃ z, f x y = .ok z) (l r : Value) :
    (arithmetic operator f l r).map kind =
      if l.kind = .number ∧ r.kind = .number then .ok .number
      else .error (.operands operator .numbers) := by
  cases l <;> cases r <;> try rfl
  rename_i x y
  obtain ⟨z, hz⟩ := hf x y
  simp [arithmetic, hz, Except.map, kind]

theorem map_kind_comparison (operator : Token) (f : Float → Float → Bool) (l r : Value) :
    (comparison operator f l r).map kind =
      if l.kind = .number ∧ r.kind = .number then .ok .bool
      else .error (.operands operator .numbers) := by
  cases l <;> cases r <;> rfl

theorem map_kind_sum (operator : Token) (l r : Value) :
    (sum operator l r).map kind =
      if l.kind = .number ∧ r.kind = .number then .ok .number
      else if l.kind = .string ∧ r.kind = .string then .ok .string
      else .error (.operands operator .numbersOrStrings) := by
  cases l <;> cases r <;> rfl

/-- No operator looks further than at the kinds of its operands to find out what it makes of them. -/
theorem map_kind_binary (operator : Token) (l r : Value) :
    (binary operator l r).map kind = Shape.binaryKind operator l.kind r.kind := by
  unfold binary Shape.binaryKind
  cases operator.kind with
  | plus => exact map_kind_sum operator l r
  | minus => exact map_kind_arithmetic operator (fun x y => ⟨x - y, rfl⟩) l r
  | star => exact map_kind_arithmetic operator (fun x y => ⟨x * y, rfl⟩) l r
  | slash => exact map_kind_arithmetic operator divide_eq_ok l r
  | greater | greaterEqual | less | lessEqual => exact map_kind_comparison operator _ l r
  | _ => rfl

end Value

namespace Expr

def shape : Expr → Shape
  | literal kind _ => .literal kind
  | grouping inner => .grouping inner.shape
  | unary operator right => .unary operator right.shape
  | binary left operator right => .binary left.shape operator right.shape
  | missing => .missing

def Carries : Expr → Prop
  | literal kind payload =>
      (kind = .number → ∃ x, payload = some (.number x)) ∧
        (kind = .string → ∃ s, payload = some (.text s))
  | grouping inner => inner.Carries
  | unary _ right => right.Carries
  | binary left _ right => left.Carries ∧ right.Carries
  | missing => True

theorem map_kind_literalValue {kind : Kind} {payload : Option Payload}
    (h : (literal kind payload).Carries) :
    (literalValue kind payload).map Value.kind = Shape.literalKind kind := by
  cases kind with
  | number =>
      obtain ⟨x, rfl⟩ := h.1 rfl
      rfl
  | string =>
      obtain ⟨s, rfl⟩ := h.2 rfl
      rfl
  | _ => rfl

theorem map_kind_bind {x : Except EvalFault Value} {f : Value → Except EvalFault Value}
    {g : ValueKind → Except EvalFault ValueKind} (h : ∀ v, (f v).map Value.kind = g v.kind) :
    (x.bind f).map Value.kind = (x.map Value.kind).bind g := by
  cases x with
  | error fault => rfl
  | ok v => exact h v

theorem map_kind_bind_unary (operator : Token) (x : Except EvalFault Value) :
    (x.bind (Value.unary operator)).map Value.kind =
      (x.map Value.kind).bind (Shape.unaryKind operator) :=
  map_kind_bind (Value.map_kind_unary operator)

theorem map_kind_bind_binary (operator : Token) (x y : Except EvalFault Value) :
    (x.bind fun l => y.bind fun r => Value.binary operator l r).map Value.kind =
      (x.map Value.kind).bind fun l =>
        (y.map Value.kind).bind fun r => Shape.binaryKind operator l r :=
  map_kind_bind fun l => map_kind_bind (Value.map_kind_binary operator l)

theorem map_kind_walk {e : Expr} (h : e.Carries) : e.walk.map Value.kind = e.shape.predict := by
  induction e with
  | literal kind payload => exact map_kind_literalValue h
  | grouping inner ih => exact ih h
  | unary operator right ih =>
      rw [walk, shape, Shape.predict, map_kind_bind_unary, ih h]
  | binary left operator right ihl ihr =>
      rw [walk, shape, Shape.predict, map_kind_bind_binary, ihl h.1, ihr h.2]
  | missing => rfl

theorem of_shape_literal {e : Expr} {kind : Kind} (h : e.shape = .literal kind) :
    ∃ payload, e = literal kind payload := by
  cases e <;> simp_all [shape]

theorem of_shape_grouping {e : Expr} {s : Shape} (h : e.shape = .grouping s) :
    ∃ inner, e = grouping inner ∧ inner.shape = s := by
  cases e <;> simp_all [shape]

theorem of_shape_unary {e : Expr} {operator : Token} {s : Shape} (h : e.shape = .unary operator s) :
    ∃ right, e = unary operator right ∧ right.shape = s := by
  cases e <;> simp_all [shape]

theorem of_shape_binary {e : Expr} {operator : Token} {s t : Shape}
    (h : e.shape = .binary s operator t) :
    ∃ left right, e = binary left operator right ∧ left.shape = s ∧ right.shape = t := by
  cases e with
  | binary left operator' right =>
      obtain ⟨hl, rfl, hr⟩ := Shape.binary.inj h
      exact ⟨left, right, rfl, hl, hr⟩
  | _ => simp [shape] at h

theorem of_shape_missing {e : Expr} (h : e.shape = .missing) : e = missing := by
  cases e <;> simp_all [shape]

theorem outermost_of_shape_eq {e e' : Expr} (h : e'.shape = e.shape) :
    e'.outermost = e.outermost := by
  induction e generalizing e' with
  | literal kind payload =>
      obtain ⟨payload', rfl⟩ := of_shape_literal h
      rfl
  | grouping inner ih =>
      obtain ⟨inner', rfl, hi⟩ := of_shape_grouping h
      rw [outermost, outermost, ih hi]
  | unary operator right =>
      obtain ⟨right', rfl, -⟩ := of_shape_unary h
      rfl
  | binary left operator right =>
      obtain ⟨left', right', rfl, -, -⟩ := of_shape_binary h
      rfl
  | missing =>
      obtain rfl := of_shape_missing h
      rfl

theorem map_kind_evaluateWithin (outer : Token) (depth : Nat) {e e' : Expr} (h : e.Carries)
    (h' : e'.Carries) (hs : e'.shape = e.shape) :
    (evaluateWithin outer depth e').map Value.kind =
      (evaluateWithin outer depth e).map Value.kind := by
  induction depth generalizing e e' with
  | zero => rfl
  | succ depth ih =>
      cases e with
      | literal kind payload =>
          obtain ⟨payload', rfl⟩ := of_shape_literal hs
          exact (map_kind_literalValue h').trans (map_kind_literalValue h).symm
      | grouping inner =>
          obtain ⟨inner', rfl, hi⟩ := of_shape_grouping hs
          have carries : inner.Carries ∧ inner'.Carries := ⟨h, h'⟩
          exact ih carries.1 carries.2 hi
      | unary operator right =>
          obtain ⟨right', rfl, hr⟩ := of_shape_unary hs
          have carries : right.Carries ∧ right'.Carries := ⟨h, h'⟩
          rw [evaluateWithin_unary, evaluateWithin_unary, map_kind_bind_unary,
            map_kind_bind_unary, ih carries.1 carries.2 hr]
      | binary left operator right =>
          obtain ⟨left', right', rfl, hl, hr⟩ := of_shape_binary hs
          rw [evaluateWithin_binary, evaluateWithin_binary, map_kind_bind_binary,
            map_kind_bind_binary, ih h.1 h'.1 hl, ih h.2 h'.2 hr]
      | missing =>
          obtain rfl := of_shape_missing hs
          rfl

/-- An evaluation that keeps within its depth has a value just where its shape is predicted one, of
this kind, and else the predicted fault; a kind is predicted by the rules; and trees of one shape
evaluate to values of one kind or to the same fault, at whatever depth. -/
theorem evaluate_predicted {e : Expr} (h : e.Carries) :
    (e.evaluate ≠ .error (.tooDeep e.outermost) →
      e.evaluate.map Value.kind = e.shape.predict) ∧
    (e.height ≤ depthBudget → e.evaluate ≠ .error (.tooDeep e.outermost)) ∧
    (∀ kind, e.shape.predict = .ok kind ↔ e.shape.HasKind kind) ∧
    ∀ e' : Expr, e'.Carries → e'.shape = e.shape →
      e'.evaluate.map Value.kind = e.evaluate.map Value.kind := by
  refine ⟨fun deep => ?_, fun low => ?_, fun _ => Shape.predict_eq_ok_iff, fun e' h' hs => ?_⟩
  · rcases evaluateWithin_eq_walk_or e.outermost depthBudget e with walked | tooDeep
    · rw [evaluate, walked, map_kind_walk h]
    · exact absurd tooDeep deep
  · rw [evaluate, evaluateWithin_of_height_le low]
    exact walk_ne_tooDeep e _
  · rw [evaluate, evaluate, outermost_of_shape_eq hs]
    exact map_kind_evaluateWithin _ _ h h' hs

theorem evaluate_predicted_comparison :
    let slash : Token := ⟨.slash, "/", 1, none⟩
    let less : Token := ⟨.less, "<", 1, none⟩
    let e : Expr := .binary
      (.binary (.literal .number (some (.number 1))) slash (.literal .number (some (.number 0))))
      less (.literal .string (some (.text "a")))
    e.Carries ∧ e.evaluate.map Value.kind = .error (.operands less .numbers) := by
  intro slash less e
  have carries : e.Carries := by simp [e, Carries]
  have low : e.height ≤ depthBudget := by decide
  obtain ⟨predicted, shallow, -⟩ := evaluate_predicted carries
  exact ⟨carries, predicted (shallow low)⟩

end Expr

end Reckoner
