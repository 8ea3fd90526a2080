import Companions.Proofs.Eval.Contract
import Companions.Proofs.Eval.Messages
set_option autoImplicit false

/-!
# Evaluation step by step

What evaluating a place comes to, first for any node and then for the forms of nodes that are run
one behind the other, and what a call comes to.
-/

namespace Companions

namespace Interpreter

variable {m : Interpreter} {call : Declaration → Option Value → List Value → Outcome} {b : Body}
  {self : Option Value} {fuel : Nat} {e : ExprRef} {type : TypeId} {l l' : Locals}
  {r : Except Unwind Value}

/-! ## Nodes -/

theorem eval_of_none (hx : b.node? e = none) :
    m.eval call b self (fuel + 1) e = throwThe Fault (.unknownNode e) := by
  rw [eval, Body.node, hx]
  rfl

/-- Evaluating a place that holds a node is evaluating the node. -/
theorem eval_of_node {x : Expr} (hx : b.node? e = some x) :
    m.eval call b self (fuel + 1) e =
      m.evalForm call b self (m.eval call b self fuel) x.form := by
  rw [eval, Body.node, hx]
  rfl

/-- Calling with values that reach the parameters is calling the function. -/
theorem callBound_run {callee : FunctionSymbol} {receiver : Option Value}
    {bound : List (ParamSymbol × Value)} {d : Declaration} {values : List Value}
    (hd : m.declaration? callee = some d) (hroute : route d.params bound = .ok values) :
    (m.callBound call callee receiver bound).run.run l =
      (call d receiver values).map fun r => (r, l) := by
  unfold callBound
  rw [hd]
  dsimp only
  rw [hroute]
  dsimp only
  cases call d receiver values with
  | error fault => rfl
  | ok r => exact Evaluating.run_resume r

/-- A block of one statement is the statement. -/
theorem eval_block_singleton {statements : Span .expressions} {s : ExprRef}
    (hx : b.node? e = some ⟨.block statements, type⟩)
    (hitems : b.readStatements statements = .ok [s]) :
    m.eval call b self (fuel + 1) e = m.eval call b self fuel s := by
  rw [eval_of_node hx, evalForm, hitems]
  simp

/-- What a return makes of the end of its value. -/
def returning (target : LabelId) : Except Unwind Value → Except Unwind Value
  | .ok v => .error (.ret target v)
  | .error u => .error u

theorem eval_ret_run {target : LabelId} {v : ExprId}
    (hx : b.node? e = some ⟨.ret target (some v), type⟩)
    (hv : (m.eval call b self fuel (some v)).run.run l = .ok (r, l')) :
    (m.eval call b self (fuel + 1) e).run.run l = .ok (returning target r, l') := by
  rw [eval_of_node hx, evalForm, evalOptional, bind_map_left]
  cases r with
  | ok value =>
    rw [Evaluating.run_bind_of_ok hv]
    rfl
  | error u =>
    rw [Evaluating.run_bind_of_unwind hv]
    rfl

theorem eval_ret_run_of_fault {target : LabelId} {v : ExprId} {fault : Fault}
    (hx : b.node? e = some ⟨.ret target (some v), type⟩)
    (hv : (m.eval call b self fuel (some v)).run.run l = .error fault) :
    (m.eval call b self (fuel + 1) e).run.run l = .error fault := by
  rw [eval_of_node hx, evalForm, evalOptional, bind_map_left]
  exact Evaluating.run_bind_of_fault hv

/-- Making an object without arguments gives an object of the constructor's class. -/
theorem eval_new_run {s : ConstructorSymbol} {k : Constructor} {arguments : Span .arguments}
    (hx : b.node? e = some ⟨.new s arguments, type⟩)
    (harguments : b.readArguments arguments = .ok []) (hk : m.program.constructor? s = some k) :
    (m.eval call b self (fuel + 1) e).run.run l = .ok (.ok (.object k.type), l) := by
  rw [eval_of_node hx, evalForm, harguments, hk]
  rfl

/-- Stopping with an error is failing with it, and leaves the bindings alone. -/
theorem stop_run_eq {e : EvalError} :
    (m.stop e : Evaluating Value).run.run l = (m.failing e).map fun r => (r, l) := by
  rw [stop, failing]
  cases e.worded m.program.pools.names <;> rfl

/-- A handler of the type of all that can be thrown takes whatever was thrown. -/
theorem handlerFor_throwable {h : Handler} {exception : Value} {nullability : Nullability}
    (htype : m.program.pools.types.get? h.param.type =
      some ⟨.object m.program.builtins.throwableClass, nullability⟩)
    (hthrowable : m.isThrowable exception = true) :
    m.handlerFor exception [h] = .ok (some h) := by
  have haccepts : m.accepts (m.classesOf exception) h = .ok true := by
    rw [isThrowable] at hthrowable
    simp [accepts, TypePool.classOf, TypePool.get, htype, bind, Except.bind, pure, Except.pure]
    simpa using hthrowable
  simp [handlerFor, firstAccepting, haccepts, bind, Except.bind, pure, Except.pure]

/-- A handler ends as its block ends. -/
theorem handle_run {go : ExprRef → Evaluating Value} {exception : Value} {h : Handler}
    (hblock : (go h.block).run.run (l.bind h.param.symbol exception) = .ok (r, l')) :
    (handle go exception h).run.run l = .ok (r, l'.unbind h.param.symbol) := by
  have hbind : (modify (·.bind h.param.symbol exception) : Evaluating Unit).run.run l =
      .ok (.ok (), l.bind h.param.symbol exception) := rfl
  have hunbind : (modify (·.unbind h.param.symbol) : Evaluating Unit).run.run l' =
      .ok (.ok (), l'.unbind h.param.symbol) := rfl
  rw [handle, Evaluating.run_bind_of_ok hbind,
    Evaluating.run_bind_of_ok (Evaluating.run_outcome_of_ok hblock),
    Evaluating.run_bind_of_ok hunbind, Evaluating.run_resume]

/-! ## Calls -/

variable {d : Declaration} {arguments : List Value} {room : Nat}

theorem invoke_of_no_body (h : d.body = none) :
    m.invoke room d self arguments = m.failing (.missingBody d.id) := by
  rw [invoke.eq_def, h]

theorem invoke_of_no_root (h : d.body = some b) (hroot : b.contains b.root = false) :
    m.invoke room d self arguments = m.failing (.missingRoot d.id) := by
  rw [invoke.eq_def, h]
  dsimp only
  rw [hroot]
  rfl

theorem invoke_zero (h : d.body = some b) (hroot : b.contains b.root = true) :
    m.invoke 0 d self arguments = .ok (.error (.error (.stackOverflow maxCallDepth))) := by
  rw [invoke.eq_def, h]
  dsimp only
  rw [if_pos hroot]

/-- A call that is not started ends in an error, unless its message asks for an unknown name. -/
theorem failing_cases (m : Interpreter) (e : EvalError) :
    m.failing e = .ok (.error (.error e)) ∨
      ∃ n ∈ e.names, m.failing e = .error (.unknownName n) ∧
        ¬ m.program.pools.names.Knows n := by
  rcases e.worded_cases m.program.pools.names with ⟨-, hok⟩ | ⟨n, hn, hfault, hunknown⟩
  · exact .inl (by rw [failing, hok]; rfl)
  · exact .inr ⟨n, hn, by rw [failing, hfault]; rfl, hunknown⟩

theorem eq_error_of_failing {e : EvalError} (h : m.failing e = .ok r) :
    r = .error (.error e) := by
  rcases m.failing_cases e with hok | ⟨_, -, hfault, -⟩
  · exact Except.ok.inj (h.symm.trans hok)
  · rw [hfault] at h
    cases h

theorem failing_of_worded {e : EvalError} (h : e.worded m.program.pools.names = .ok e) :
    m.failing e = .ok (.error (.error e)) := by
  rw [failing, h]
  rfl

/-- A function without a body that has a root is not started, wherever it is called. -/
theorem exists_root_or_error (m : Interpreter) (d : Declaration) :
    (∃ b, d.body = some b ∧ b.contains b.root = true) ∨
      ∃ e, (e = .missingBody d.id ∨ e = .missingRoot d.id) ∧
        ∀ room self arguments, m.invoke room d self arguments = m.failing e := by
  cases hbody : d.body with
  | none => exact .inr ⟨_, .inl rfl, fun _ _ _ => invoke_of_no_body hbody⟩
  | some b =>
    cases hroot : b.contains b.root with
    | false => exact .inr ⟨_, .inr rfl, fun _ _ _ => invoke_of_no_root hbody hroot⟩
    | true => exact .inl ⟨b, rfl, hroot⟩

/-- What the end of a call amounts to, from outside. -/
def reported : Except Unwind Value → Except EvalError Value
  | .ok v => .ok v
  | .error (.thrown exception) => .error (.uncaught exception)
  | .error (.error e) => .error e
  | .error (.ret label _) => .error (.unboundLabel label)

/-- The outermost call answers what its end amounts to, unless an exception is of a class whose name
is unknown. -/
theorem answer_cases (m : Interpreter) (r : Except Unwind Value) :
    m.answer r = .ok (reported r) ∨
      ∃ v, r = .error (.thrown v) ∧ ∃ n ∈ (EvalError.uncaught v).names,
        m.answer r = .error (.unknownName n) ∧ ¬ m.program.pools.names.Knows n := by
  match r with
  | .ok v => exact .inl rfl
  | .error (.error e) => exact .inl rfl
  | .error (.ret label v) => exact .inl rfl
  | .error (.thrown v) =>
    rcases (EvalError.uncaught v).worded_cases m.program.pools.names with
      ⟨-, hok⟩ | ⟨n, hn, hfault, hunknown⟩
    · exact .inl (by rw [answer, hok]; rfl)
    · exact .inr ⟨v, rfl, n, hn, by rw [answer, hfault]; rfl, hunknown⟩

/-- An exception is answered once the path of its class has been written. -/
theorem answer_object (m : Interpreter) (c : ClassId) :
    m.answer (.error (.thrown (.object c))) =
      (c.display m.program.pools.names).map fun _ => .error (.uncaught (.object c)) := by
  rw [answer, EvalError.worded, EvalError.message_uncaught]
  cases c.display m.program.pools.names <;> rfl

/-- A call from outside runs the function and answers what that ends in. -/
theorem call_eq_bind {s : FunctionSymbol} (hd : m.declaration? s = some d)
    (harguments : arguments.length = d.params.length) :
    m.call s self arguments = m.invoke maxCallDepth d self arguments >>= m.answer := by
  rw [call, hd]
  exact if_pos harguments

/-- A call unwinds as the evaluation of the body does, which is no return then, or because a return
has not arrived. -/
theorem land_cases {u : Unwind} (h : land d b r = .error u) :
    (r = .error u ∧ ∀ label value, u ≠ .ret label value) ∨
      ∃ label value, r = .error (.ret label value) ∧
        (b.label? label).bind (·.target) ≠ some d.symbol ∧ u = .error (.unboundLabel label) := by
  cases r with
  | ok v => cases h
  | error u' =>
    cases u' with
    | ret label value =>
      rw [land] at h
      split at h
      · cases h
      · next hforeign =>
        cases h
        exact .inr ⟨label, value, rfl, hforeign, rfl⟩
    | thrown exception =>
      cases h
      exact .inl ⟨rfl, fun _ _ hret => by cases hret⟩
    | error e =>
      cases h
      exact .inl ⟨rfl, fun _ _ hret => by cases hret⟩

/-- A call comes to the evaluation of the body in a new frame. -/
theorem invoke_succ (h : d.body = some b) (hroot : b.contains b.root = true) :
    m.invoke (room + 1) d self arguments =
      ((m.eval (m.invoke room) b self (m.budget b) b.root).run.run
        (Locals.ofArguments d.params arguments)).map fun r => land d b r.1 := by
  rw [invoke.eq_def, h]
  dsimp only
  rw [if_pos hroot]
  rfl

/-- The same, said as work in two steps. -/
theorem invoke_succ_bind (h : d.body = some b) (hroot : b.contains b.root = true) :
    m.invoke (room + 1) d self arguments =
      (m.eval (m.invoke room) b self (m.budget b) b.root).run.run
        (Locals.ofArguments d.params arguments) >>= fun r => pure (land d b r.1) := by
  rw [invoke.eq_def, h]
  dsimp only
  rw [if_pos hroot]

end Interpreter

end Companions
