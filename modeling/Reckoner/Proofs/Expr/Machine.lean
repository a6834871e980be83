import Reckoner.Proofs.Expr.Walk

namespace Reckoner

inductive Halt where
  | fault (fault : EvalFault)
  | underflow
deriving DecidableEq

namespace Node

def push (stack : List Value) : Except EvalFault Value → Except Halt (List Value)
  | .ok v => .ok (v :: stack)
  | .error fault => .error (.fault fault)

/-- One instruction. The top of the stack is the head of the list, so that the right operand of an
operator comes off first. -/
def step : Node → List Value → Except Halt (List Value)
  | literal kind payload, stack => push stack (Expr.literalValue kind payload)
  | grouping, stack => .ok stack
  | unary operator, right :: stack => push stack (Value.unary operator right)
  | binary operator, right :: left :: stack => push stack (Value.binary operator left right)
  | missing, _ => .error (.fault .missingNode)
  | _, _ => .error .underflow

def exec : List Node → List Value → Except Halt (List Value)
  | [], stack => .ok stack
  | n :: rest, stack => (n.step stack).bind (exec rest)

theorem exec_append (code rest : List Node) (stack : List Value) :
    exec (code ++ rest) stack = (exec code stack).bind (exec rest) := by
  induction code generalizing stack with
  | nil => rfl
  | cons n code ih =>
      rw [List.cons_append, exec, exec]
      cases n.step stack with
      | error halt => rfl
      | ok after => exact ih after

theorem exec_single (n : Node) (stack : List Value) : exec [n] stack = n.step stack := by
  rw [exec]
  cases n.step stack <;> rfl

end Node

namespace Expr

open Node

def top : Expr → Node
  | literal kind payload => .literal kind payload
  | grouping _ => .grouping
  | unary operator _ => .unary operator
  | binary _ operator _ => .binary operator
  | missing => .missing

def parts : Expr → List Expr
  | literal kind payload => [literal kind payload]
  | grouping inner => inner.parts ++ [grouping inner]
  | unary operator right => right.parts ++ [unary operator right]
  | binary left operator right => left.parts ++ right.parts ++ [binary left operator right]
  | missing => [missing]

/-- The tree with all its groupings taken out. -/
def ungrouped : Expr → Expr
  | literal kind payload => literal kind payload
  | grouping inner => inner.ungrouped
  | unary operator right => unary operator right.ungrouped
  | binary left operator right => binary left.ungrouped operator right.ungrouped
  | missing => missing

theorem map_top_parts (e : Expr) : e.parts.map top = e.postorder := by
  induction e with
  | literal | missing => rfl
  | grouping inner ih => rw [parts, postorder, List.map_append, ih]; rfl
  | unary operator right ih => rw [parts, postorder, List.map_append, ih]; rfl
  | binary left operator right ihl ihr =>
      rw [parts, postorder, List.map_append, List.map_append, ihl, ihr]
      rfl

theorem exec_postorder (e : Expr) (stack : List Value) :
    exec e.postorder stack = push stack e.walk := by
  -- for any stack, since the right operand runs on top of the value of the left one
  induction e generalizing stack with
  | literal kind payload => exact exec_single _ _
  | grouping inner ih =>
      rw [postorder, exec_append, ih, walk]
      cases inner.walk <;> rfl
  | unary operator right ih =>
      rw [postorder, exec_append, ih, walk]
      cases right.walk with
      | error fault => rfl
      | ok r => exact exec_single _ _
  | binary left operator right ihl ihr =>
      rw [postorder, exec_append, exec_append, ihl, walk]
      cases left.walk with
      | error fault => rfl
      | ok l =>
          change ((exec right.postorder (l :: stack)).bind _) = _
          rw [ihr]
          cases right.walk with
          | error fault => rfl
          | ok r => exact exec_single _ _
  | missing => rfl

theorem walk_ungrouped (e : Expr) : e.ungrouped.walk = e.walk := by
  induction e with
  | literal | missing => rfl
  | grouping inner ih => exact ih
  | unary operator right ih => rw [ungrouped, walk, walk, ih]
  | binary left operator right ihl ihr => rw [ungrouped, walk, walk, ihl, ihr]

def Settled (depth : Nat) (ts : List Expr) : Prop :=
  ∀ t ∈ ts, t.height ≤ depth ∧ ∃ v, t.walk = .ok v

theorem Settled.mono {depth depth' : Nat} {ts : List Expr} (h : Settled depth ts)
    (hd : depth ≤ depth') : Settled depth' ts :=
  fun t ht => ⟨Nat.le_trans (h t ht).1 hd, (h t ht).2⟩

theorem Settled.append {depth : Nat} {ts us : List Expr} (h : Settled depth ts)
    (h' : Settled depth us) : Settled depth (ts ++ us) :=
  List.forall_mem_append.2 ⟨h, h'⟩

theorem settled_singleton {e : Expr} {v : Value} (h : e.walk = .ok v) : Settled e.height [e] :=
  List.forall_mem_singleton.2 ⟨Nat.le_refl _, v, h⟩

theorem settled_parts {e : Expr} {v : Value} (h : e.walk = .ok v) : Settled e.height e.parts := by
  induction e generalizing v with
  | literal | missing => exact settled_singleton h
  | grouping inner ih =>
      have top := settled_singleton h
      exact ((ih h).mono (Nat.le_succ _)).append top
  | unary operator right ih =>
      have top := settled_singleton h
      obtain ⟨r, hr, -⟩ := bind_eq_ok h
      exact ((ih hr).mono (Nat.le_succ _)).append top
  | binary left operator right ihl ihr =>
      have top := settled_singleton h
      obtain ⟨l, hl, h⟩ := bind_eq_ok h
      obtain ⟨r, hr, -⟩ := bind_eq_ok h
      have low : left.height ≤ (binary left operator right).height :=
        Nat.le_succ_of_le (Nat.le_max_left _ _)
      have low' : right.height ≤ (binary left operator right).height :=
        Nat.le_succ_of_le (Nat.le_max_right _ _)
      exact (((ihl hl).mono low).append ((ihr hr).mono low')).append top

/-- With `stack` to start from, the machine gets through `before` and stops at the top of `part`. -/
structure FailsAt (depth : Nat) (stack : List Value) (fault : EvalFault) (before : List Expr)
    (part : Expr) : Prop where
  settled : Settled depth before
  low : part.height ≤ depth
  fails : part.walk = .error fault
  stops : ∃ found, exec (before.map top) stack = .ok found ∧
    part.top.step found = .error (.fault fault)

def FailsIn (depth : Nat) (stack : List Value) (fault : EvalFault) (ts : List Expr) : Prop :=
  ∃ before part after, ts = before ++ part :: after ∧ FailsAt depth stack fault before part

section

variable {outer : Token} {depth : Nat} {stack found : List Value} {fault : EvalFault}
  {ts us : List Expr}

theorem FailsIn.mono {depth' : Nat} (h : FailsIn depth stack fault ts) (hd : depth ≤ depth') :
    FailsIn depth' stack fault ts := by
  obtain ⟨before, part, after, eq, h⟩ := h
  exact ⟨before, part, after, eq, h.settled.mono hd, Nat.le_trans h.low hd, h.fails, h.stops⟩

theorem FailsIn.append (h : FailsIn depth stack fault ts) (us : List Expr) :
    FailsIn depth stack fault (ts ++ us) := by
  obtain ⟨before, part, after, rfl, h⟩ := h
  exact ⟨before, part, after ++ us, by simp, h⟩

theorem FailsIn.after (h : FailsIn depth found fault us) (hs : Settled depth ts)
    (run : exec (ts.map top) stack = .ok found) : FailsIn depth stack fault (ts ++ us) := by
  obtain ⟨before, part, after, rfl, h⟩ := h
  obtain ⟨found', run', stop⟩ := h.stops
  refine ⟨ts ++ before, part, after, by simp, hs.append h.settled, h.low, h.fails, found', ?_, stop⟩
  rw [List.map_append, exec_append, run]
  exact run'

theorem failsIn_singleton {e : Expr} (low : e.height ≤ depth) (fails : e.walk = .error fault)
    (stop : e.top.step stack = .error (.fault fault)) : FailsIn depth stack fault [e] :=
  ⟨[], e, [], rfl, List.forall_mem_nil _, low, fails, stack, rfl, stop⟩

theorem of_evaluateWithin {e : Expr} {v : Value} (h : evaluateWithin outer depth e = .ok v)
    (stack : List Value) :
    e.walk = .ok v ∧ Settled depth e.parts ∧ exec (e.parts.map top) stack = .ok (v :: stack) := by
  have low := height_le_of_evaluateWithin h
  have value : e.walk = .ok v := by rw [← evaluateWithin_of_height_le low, h]
  refine ⟨value, (settled_parts value).mono low, ?_⟩
  rw [map_top_parts, exec_postorder, value]
  rfl

theorem failsIn_of_evaluateWithin {e : Expr} (h : evaluateWithin outer depth e = .error fault)
    (deep : fault ≠ .tooDeep outer) (stack : List Value) : FailsIn depth stack fault e.parts := by
  -- an operand that fails does so within one level less, and the parts before it have their values
  induction depth generalizing e stack with
  | zero => exact absurd (Except.error.inj h).symm deep
  | succ depth ih =>
      cases e with
      | literal kind payload =>
          refine failsIn_singleton (Nat.succ_le_succ (Nat.zero_le depth)) h ?_
          rw [top, step, show literalValue kind payload = _ from h]
          rfl
      | missing =>
          obtain rfl := Except.error.inj h
          exact failsIn_singleton (Nat.succ_le_succ (Nat.zero_le depth)) rfl rfl
      | grouping inner => exact ((ih h stack).mono (Nat.le_succ depth)).append _
      | unary operator right =>
          rw [evaluateWithin_unary] at h
          cases hr : evaluateWithin outer depth right with
          | error cause =>
              obtain rfl : cause = fault := by simpa [hr, Except.bind] using h
              exact ((ih hr stack).mono (Nat.le_succ depth)).append _
          | ok r =>
              have fails : Value.unary operator r = .error fault := by
                simpa [hr, Except.bind] using h
              obtain ⟨value, settled, run⟩ := of_evaluateWithin hr stack
              refine FailsIn.after ?_ (settled.mono (Nat.le_succ depth)) run
              refine failsIn_singleton (Nat.succ_le_succ (height_le_of_evaluateWithin hr)) ?_ ?_
              · rw [walk, value]
                exact fails
              · rw [top, step, fails]
                rfl
      | binary left operator right =>
          rw [evaluateWithin_binary] at h
          cases hl : evaluateWithin outer depth left with
          | error cause =>
              obtain rfl : cause = fault := by simpa [hl, Except.bind] using h
              exact (((ih hl stack).mono (Nat.le_succ depth)).append _).append _
          | ok l =>
              obtain ⟨value, settled, run⟩ := of_evaluateWithin hl stack
              rw [parts, List.append_assoc]
              refine FailsIn.after ?_ (settled.mono (Nat.le_succ depth)) run
              cases hr : evaluateWithin outer depth right with
              | error cause =>
                  obtain rfl : cause = fault := by simpa [hl, hr, Except.bind] using h
                  exact ((ih hr (l :: stack)).mono (Nat.le_succ depth)).append _
              | ok r =>
                  have fails : Value.binary operator l r = .error fault := by
                    simpa [hl, hr, Except.bind] using h
                  obtain ⟨value', settled', run'⟩ := of_evaluateWithin hr (l :: stack)
                  refine FailsIn.after ?_ (settled'.mono (Nat.le_succ depth)) run'
                  have low : max left.height right.height ≤ depth :=
                    Nat.max_le.2 ⟨height_le_of_evaluateWithin hl, height_le_of_evaluateWithin hr⟩
                  refine failsIn_singleton (Nat.succ_le_succ low) ?_ ?_
                  · rw [walk, value, value']
                    exact fails
                  · rw [top, step, fails]
                    rfl

end

/-- An evaluation that keeps within its depth comes to what the machine makes of the nodes in
postorder: to the value that it leaves on the stack, or to the fault at which it stops. This is the
fault of the first part, in this order, that has no value. Groupings make no difference. -/
theorem evaluate_executes (e : Expr) :
    (e.evaluate ≠ .error (.tooDeep e.outermost) →
      exec e.postorder [] = push [] e.evaluate ∧
      (∀ fault, e.evaluate = .error fault → ∃ before part after,
        e.parts = before ++ part :: after ∧ (∀ t ∈ before, ∃ v, t.evaluate = .ok v) ∧
        part.evaluate = .error fault ∧ ∃ stack, exec (before.map top) [] = .ok stack ∧
          part.top.step stack = .error (.fault fault)) ∧
      ∀ e' : Expr, e'.ungrouped = e.ungrouped → e'.evaluate ≠ .error (.tooDeep e'.outermost) →
        e'.evaluate = e.evaluate) ∧
    (e.height ≤ depthBudget → e.evaluate ≠ .error (.tooDeep e.outermost)) ∧
    e.parts.map top = e.postorder := by
  have within {t : Expr} (low : t.height ≤ depthBudget) : t.evaluate = t.walk :=
    evaluateWithin_of_height_le low
  refine ⟨fun shallow => ⟨?_, fun fault h => ?_, fun e' same shallow' => ?_⟩, fun low => ?_,
    map_top_parts e⟩
  · rw [exec_postorder, evaluate_of_shallow shallow]
  · have deep : fault ≠ .tooDeep e.outermost := by
      rintro rfl
      exact shallow h
    obtain ⟨before, part, after, eq, stop⟩ := failsIn_of_evaluateWithin h deep []
    refine ⟨before, part, after, eq, fun t ht => ?_, ?_, stop.stops⟩
    · obtain ⟨low, v, value⟩ := stop.settled t ht
      exact ⟨v, (within low).trans value⟩
    · exact (within stop.low).trans stop.fails
  · rw [evaluate_of_shallow shallow', evaluate_of_shallow shallow, ← walk_ungrouped e', same,
      walk_ungrouped]
  · rw [within low]
    exact walk_ne_tooDeep e _

theorem evaluate_executes_product :
    let plus : Token := ⟨.plus, "+", 1, none⟩
    let star : Token := ⟨.star, "*", 2, none⟩
    let product : Expr := .binary (.literal .number (some (.number 2))) star
      (.literal .string (some (.text "x")))
    let e : Expr := .binary (.literal .number (some (.number 1))) plus (.grouping product)
    let e' : Expr := .binary (.literal .number (some (.number 1))) plus product
    e.evaluate ≠ .error (.tooDeep e.outermost) ∧
      exec e.postorder [] = .error (.fault (.operands star .numbers)) ∧
      e'.evaluate = .error (.operands star .numbers) := by
  intro plus star product e e'
  obtain ⟨same, shallow, -⟩ := evaluate_executes e
  obtain ⟨-, shallow', -⟩ := evaluate_executes e'
  have keeps : e.evaluate ≠ .error (.tooDeep e.outermost) := shallow (by decide)
  obtain ⟨run, -, regrouped⟩ := same keeps
  have fails : e.evaluate = .error (.operands star .numbers) := rfl
  refine ⟨keeps, ?_, ?_⟩
  · rw [run, fails]
    rfl
  · rw [regrouped e' rfl (shallow' (by decide)), fails]

end Expr

end Reckoner
