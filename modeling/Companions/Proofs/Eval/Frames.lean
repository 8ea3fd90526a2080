import Companions.Proofs.Eval.Lexical
set_option autoImplicit false

/-!
# Frames of calls

A frame belongs to one call: it holds the receiver, which stays what it is, and the bindings, which
change while the call runs.  Here all frames stand on one stack that everything has a hold of, with
the frame of the innermost call on top.  A call puts a frame on the stack and takes it off again.
What is evaluated on the stack comes to what is evaluated in a frame of its own
(`Interpreter.evalOnFrames_run`): the receivers are as they were, and so are all frames further
down, whatever unwinds.
-/

namespace Companions

/-- The receiver of a call, and what is bound while it runs. -/
structure CallFrame where
  self : Option Value
  locals : Locals
  deriving DecidableEq, Repr, Inhabited

/-- The frame of the call that runs, and those of the calls that wait for it, the last one first. -/
structure CallStack where
  running : CallFrame
  waiting : List CallFrame
  deriving DecidableEq, Repr, Inhabited

namespace CallStack

/-- Gives a parameter of the call that runs a value. -/
def bind (s : CallStack) (p : ParamSymbol) (v : Value) : CallStack :=
  { s with running := { s.running with locals := s.running.locals.bind p v } }

/-- Takes the value of a parameter of the call that runs away. -/
def unbind (s : CallStack) (p : ParamSymbol) : CallStack :=
  { s with running := { s.running with locals := s.running.locals.unbind p } }

/-- A call begins. -/
def push (s : CallStack) (frame : CallFrame) : CallStack := ⟨frame, s.running :: s.waiting⟩

/-- The call that runs has ended. -/
def pop (s : CallStack) : CallStack :=
  match s.waiting with
  | [] => s
  | frame :: rest => ⟨frame, rest⟩

end CallStack

/-- Evaluation that has a hold of all frames. -/
abbrev OnFrames := StateT CallStack (Except Fault)

theorem OnFrames.liftM_ok {α : Type} (a : α) :
    (liftM (Except.ok a : Except Fault α) : OnFrames α) = pure a := rfl

namespace Interpreter

/-- Evaluates the node at a place in the frame on top of the stack. -/
def evalOnFrames (m : Interpreter)
    (call : Declaration → Option Value → List Value → OnFrames (Except Unwind Value)) (b : Body) :
    (fuel : Nat) → ExprRef → OnFrames (Except Unwind Value)
  | 0, _ => throw .endless
  | fuel + 1, e => do
    match (← b.node e).form with
    | .attempt block handlers =>
      let result ← m.evalOnFrames call b fuel block
      match ← m.taken b handlers result with
      | none => return result
      | some (h, exception) =>
        modify (·.bind h.param.symbol exception)
        let result ← m.evalOnFrames call b fuel h.block
        modify (·.unbind h.param.symbol)
        return result
    | form =>
      let frame := (← get).running
      ending frame.locals
        (m.evalForm call b frame.self (fun c => within (m.evalOnFrames call b fuel c)) form)

/-- Runs a function in a frame that is on top of the stack meanwhile. -/
def invokeOnFrames (m : Interpreter) (room : Nat) (d : Declaration) (self : Option Value)
    (arguments : List Value) : OnFrames (Except Unwind Value) :=
  match d.body with
  | none => m.failing (.missingBody d.id)
  | some b =>
    if b.contains b.root then
      match room with
      | 0 => return .error (.error (.stackOverflow maxCallDepth))
      | room + 1 => do
        modify (·.push ⟨self, .ofArguments d.params arguments⟩)
        let result ← m.evalOnFrames (m.invokeOnFrames room) b (m.budget b) b.root
        modify (·.pop)
        return land d b result
    else m.failing (.missingRoot d.id)

variable {m : Interpreter} {call : Declaration → Option Value → List Value → Outcome}
  {onFrames : Declaration → Option Value → List Value → OnFrames (Except Unwind Value)}
  {b : Body} {self : Option Value} {fuel : Nat} {e : ExprRef} {x : Expr} {l : Locals}
  {waiting : List CallFrame} {block : ExprRef} {handlers : Span .handlers}

theorem evalOnFrames_of_none (hx : b.node? e = none) (s : CallStack) :
    (m.evalOnFrames onFrames b (fuel + 1) e).run s = .error (.unknownNode e) := by
  rw [evalOnFrames, Body.node, hx]
  rfl

theorem evalOnFrames_of_attempt {type : TypeId}
    (hx : b.node? e = some ⟨.attempt block handlers, type⟩) (s : CallStack) :
    (m.evalOnFrames onFrames b (fuel + 1) e).run s = (do
      let (result, s) ← (m.evalOnFrames onFrames b fuel block).run s
      match ← m.taken b handlers result with
      | none => return (result, s)
      | some (h, exception) =>
        let (result, s) ← (m.evalOnFrames onFrames b fuel h.block).run
          (s.bind h.param.symbol exception)
        return (result, s.unbind h.param.symbol)) := by
  rw [evalOnFrames, Body.node, hx, orFault_some, OnFrames.liftM_ok, pure_bind, StateT.run_bind]
  refine congrArg _ (funext fun p => ?_)
  obtain ⟨result, s'⟩ := p
  dsimp only
  cases m.taken b handlers result with
  | error fault => rfl
  | ok found =>
    cases found with
    | none => rfl
    | some handling => rfl

theorem evalOnFrames_of_form (hx : b.node? e = some x) (hform : x.form.Steady) (s : CallStack) :
    (m.evalOnFrames onFrames b (fuel + 1) e).run s =
      (ending s.running.locals (m.evalForm onFrames b s.running.self
        (fun c => within (m.evalOnFrames onFrames b fuel c)) x.form)).run s := by
  rw [evalOnFrames, Body.node, hx]
  obtain ⟨form, type⟩ := x
  cases form with
  | attempt block handlers => exact hform.elim
  | _ => rfl

/-! ## The two ways compared -/

/-- The stack on top of which the frame is. -/
def onTop (self : Option Value) (waiting : List CallFrame) (l : Locals) : CallStack :=
  ⟨⟨self, l⟩, waiting⟩

/-- Calls put the stack back. -/
def PutsBack (call : Declaration → Option Value → List Value → Outcome)
    (onFrames : Declaration → Option Value → List Value → OnFrames (Except Unwind Value)) : Prop :=
  ∀ d target values s, (onFrames d target values).run s =
    (call d target values).map fun r => (r, s)

/-- What changes the bindings of the frame on the stack changes those of a frame of its own. -/
def topmost (self : Option Value) (waiting : List CallFrame) (around : Locals) :
    Pairing (Except Fault) OnFrames where
  Rel x y := ∀ l, (y.run.run around).run (onTop self waiting l) =
    (x.run.run l).map fun r => ((r.1, around), onTop self waiting r.2)
  pure a l := rfl
  throw u l := rfl
  bind := by
    intro α β x y f g hxy hfg l
    rw [Evaluating.run_bind, Evaluating.run_bind, StateT.run_bind, hxy l]
    cases x.run.run l with
    | error fault => rfl
    | ok result =>
      obtain ⟨u | a, l'⟩ := result
      · rfl
      · exact hfg a l'
  read := by
    intro α β z f g hfg l
    cases z with
    | error fault => rfl
    | ok a => exact hfg a rfl l

/-- A node that leaves the bindings alone can be evaluated on the stack if all that it refers to
can. -/
theorem ending_run_onTop {form : ExprForm} {go : ExprRef → Evaluating Value}
    {below : ExprRef → OnFrames (Except Unwind Value)} (hcall : PutsBack call onFrames)
    (hform : form.Detached)
    (hgo : ∀ r ∈ b.references form, ∀ l, (below r.place).run (onTop self waiting l) =
      ((go r.place).run.run l).map fun r => (r.1, onTop self waiting r.2)) :
    (ending l (m.evalForm onFrames b self (fun c => within (below c)) form)).run
        (onTop self waiting l) =
      ((m.evalForm call b self go form).run.run l).map fun r =>
        (r.1, onTop self waiting r.2) := by
  have hpaired : (topmost self waiting l).Rel (m.evalForm call b self go form)
      (m.evalForm onFrames b self (fun c => within (below c)) form) := by
    refine Pairing.evalForm hform (fun d target values l' => ?_) fun r hr l' => ?_
    · rw [Evaluating.run_calling, Evaluating.run_calling, StateT.run_bind, hcall]
      cases call d target values with
      | error fault => rfl
      | ok r => rfl
    · rw [run_within, StateT.run_bind, hgo r hr l']
      cases (go r.place).run.run l' with
      | error fault => rfl
      | ok r => rfl
  rw [ending, StateT.run_bind, hpaired l]
  cases (m.evalForm call b self go form).run.run l with
  | error fault => rfl
  | ok r => rfl

/-- What is evaluated on the stack comes to what is evaluated in a frame of its own, if calls put
the stack back.  The induction is on the nodes that a path may still visit. -/
theorem evalOnFrames_run (hcall : PutsBack call onFrames) :
    (m.evalOnFrames onFrames b fuel e).run (onTop self waiting l) =
      ((m.eval call b self fuel e).run.run l).map fun r => (r.1, onTop self waiting r.2) := by
  induction fuel generalizing e l with
  | zero => rfl
  | succ fuel ih =>
    cases hx : b.node? e with
    | none =>
      rw [eval_of_none hx, evalOnFrames_of_none hx]
      rfl
    | some x =>
      obtain ⟨form, type⟩ := x
      rw [eval_of_node hx]
      cases form with
      | param p =>
        rw [evalForm_param_run, evalOnFrames_of_form hx trivial, ending, evalForm_param_run, pure_bind]
        rfl
      | attempt block handlers =>
        rw [evalForm_attempt_run, evalOnFrames_of_attempt hx, ih]
        cases (m.eval call b self fuel block).run.run l with
        | error fault => rfl
        | ok r =>
          obtain ⟨result, l'⟩ := r
          change (m.taken b handlers result >>= _) = Except.map _ (m.taken b handlers result >>= _)
          cases m.taken b handlers result with
          | error fault => rfl
          | ok found =>
            obtain _ | ⟨handler, exception⟩ := found
            · rfl
            · change ((m.evalOnFrames onFrames b fuel handler.block).run
                  (onTop self waiting (l'.bind handler.param.symbol exception)) >>= _) =
                Except.map _ ((m.eval call b self fuel handler.block).run.run
                  (l'.bind handler.param.symbol exception) >>= _)
              rw [ih]
              cases (m.eval call b self fuel handler.block).run.run
                  (l'.bind handler.param.symbol exception) with
              | error fault => rfl
              | ok r => rfl
      | _ =>
        rw [evalOnFrames_of_form hx trivial]
        exact ending_run_onTop hcall trivial fun r _ l => ih

/-- A function without a body that has a root is not started, and no frame is put on the stack. -/
theorem putsBack_of_started {room : Nat} {d : Declaration} {values : List Value} {s : CallStack}
    (h : ∀ b, d.body = some b → b.contains b.root = true →
      (m.invokeOnFrames room d self values).run s =
        (m.invoke room d self values).map fun r => (r, s)) :
    (m.invokeOnFrames room d self values).run s =
      (m.invoke room d self values).map fun r => (r, s) := by
  cases hbody : d.body with
  | none =>
    rw [invoke_of_no_body hbody, invokeOnFrames.eq_def, hbody]
    cases m.failing (.missingBody d.id) <;> rfl
  | some b =>
    cases hroot : b.contains b.root with
    | true => exact h b hbody hroot
    | false =>
      rw [invoke_of_no_root hbody hroot, invokeOnFrames.eq_def, hbody]
      dsimp only
      rw [hroot]
      cases m.failing (.missingRoot d.id) <;> rfl

/-- A call on the stack ends as it does anywhere, and puts the stack back.  The induction is on the
calls that may still become active. -/
theorem putsBack_invoke (m : Interpreter) (room : Nat) :
    PutsBack (m.invoke room) (m.invokeOnFrames room) := by
  induction room with
  | zero =>
    intro d target values s
    refine putsBack_of_started fun b hbody hroot => ?_
    rw [invoke_zero hbody hroot, invokeOnFrames.eq_def, hbody]
    dsimp only
    rw [hroot]
    rfl
  | succ room ih =>
    intro d target values s
    refine putsBack_of_started fun b hbody hroot => ?_
    have hbelow : (m.invokeOnFrames (room + 1) d target values).run s =
        (m.evalOnFrames (m.invokeOnFrames room) b (m.budget b) b.root).run
          (onTop target (s.running :: s.waiting) (.ofArguments d.params values)) >>=
            fun r => .ok (land d b r.1, r.2.pop) := by
      rw [invokeOnFrames.eq_def, hbody]
      dsimp only
      rw [hroot]
      rfl
    rw [hbelow, evalOnFrames_run ih, invoke_succ hbody hroot]
    cases (m.eval (m.invoke room) b target (m.budget b) b.root).run.run
        (.ofArguments d.params values) with
    | error fault => rfl
    | ok r => rfl

/-! ## What evaluation leaves behind -/

/-- What the evaluation of a place on a stack of frames leaves behind, where `room` more calls may
become active. -/
structure LeavesFrames (m : Interpreter) (room : Nat) (b : Body) (fuel : Nat) (e : ExprRef)
    (s : CallStack) : Prop where
  /-- Only bindings of the frame on top may differ, and they are what they come to in a frame of its
  own.  Its receiver and all other frames are as they were. -/
  alone : (m.evalOnFrames (m.invokeOnFrames room) b fuel e).run s =
    ((m.eval (m.invoke room) b s.running.self fuel e).run.run s.running.locals).map fun r =>
      (r.1, ⟨⟨s.running.self, r.2⟩, s.waiting⟩)
  /-- If the parameters of handlers are apart, the bindings are as they were too, whatever the
  evaluation ends in. -/
  restored : b.Apart e s.running.locals → ∀ r s',
    (m.evalOnFrames (m.invokeOnFrames room) b fuel e).run s = .ok (r, s') → s' = s
  /-- Then each read is of the innermost binding, for handing the bindings down comes to the
  same. -/
  innermost : b.Apart e s.running.locals →
    (m.eval (m.invoke room) b s.running.self fuel e).run.run s.running.locals =
      (m.evalLexical (m.invoke room) b s.running.self fuel e s.running.locals.bindings).map
        fun r => (r, s.running.locals)

/-- Wherever a place is evaluated, the frames are left so. -/
theorem leavesFrames (m : Interpreter) (room : Nat) (b : Body) (fuel : Nat) (e : ExprRef)
    (s : CallStack) : m.LeavesFrames room b fuel e s := by
  have halone : (m.evalOnFrames (m.invokeOnFrames room) b fuel e).run s =
      ((m.eval (m.invoke room) b s.running.self fuel e).run.run s.running.locals).map fun r =>
        (r.1, ⟨⟨s.running.self, r.2⟩, s.waiting⟩) :=
    evalOnFrames_run (m.putsBack_invoke room)
  refine ⟨halone, fun hapart r s' hrun => ?_, fun hapart => eval_eq_lexical hapart⟩
  rw [halone, eval_eq_lexical hapart] at hrun
  cases hlexical : m.evalLexical (m.invoke room) b s.running.self fuel e
      s.running.locals.bindings with
  | error fault =>
    rw [hlexical] at hrun
    cases hrun
  | ok result =>
    rw [hlexical] at hrun
    cases hrun
    rfl

end Interpreter

/-! ## A handler inside a handler -/

namespace Sample

/-- The outer handler, whose parameter is the second one, throws again; the inner handler, whose
parameter is the third one, reads the parameter of the outer one. -/
def rethrowingBody : Body where
  nodes := #[⟨.new ⟨0⟩ .empty, .any⟩, ⟨.raise (some ⟨0⟩), .nothing⟩, ⟨.param ⟨2⟩, .any⟩,
    ⟨.attempt (some ⟨1⟩) ⟨0, 1⟩, .any⟩, ⟨.attempt (some ⟨1⟩) ⟨1, 1⟩, .any⟩]
  statements := #[]
  arguments := #[]
  handlers := #[
    ⟨⟨⟨3⟩, .empty, Program.empty.builtins.throwable, .none, .source⟩, some ⟨2⟩⟩,
    ⟨⟨⟨2⟩, .empty, Program.empty.builtins.throwable, .none, .source⟩, some ⟨3⟩⟩]
  labels := #[]
  root := some ⟨4⟩

/-- The parameter is bound to null in the frame that runs, and to unit in one that waits. -/
def stacked (p : ParamSymbol) : CallStack :=
  ⟨⟨none, Locals.empty.bind p .null⟩, [⟨some .unit, Locals.empty.bind p .unit⟩]⟩

end Sample

open Sample in
/-- Both handlers put back what they have bound. -/
theorem Interpreter.leavesFrames_rethrowing :
    rethrowingBody.Apart rethrowingBody.root (stacked ⟨1⟩).running.locals ∧
      ((new .empty).evalOnFrames ((new .empty).invokeOnFrames 0) rethrowingBody 5
        rethrowingBody.root).run (stacked ⟨1⟩) =
          .ok (.ok (.object Program.empty.builtins.throwableClass), stacked ⟨1⟩) := by
  have hapart : rethrowingBody.Apart rethrowingBody.root (stacked ⟨1⟩).running.locals :=
    Body.apart_of_apartWithin (n := 5) (by decide +kernel)
  have hends : (((new .empty).evalOnFrames ((new .empty).invokeOnFrames 0) rethrowingBody 5
      rethrowingBody.root).run (stacked ⟨1⟩)).map (·.1) =
        .ok (.ok (.object Program.empty.builtins.throwableClass)) := by
    decide +kernel
  cases hrun : ((new .empty).evalOnFrames ((new .empty).invokeOnFrames 0) rethrowingBody 5
      rethrowingBody.root).run (stacked ⟨1⟩) with
  | error fault =>
    rw [hrun] at hends
    cases hends
  | ok result =>
    obtain ⟨r, s'⟩ := result
    rw [hrun] at hends
    cases hends
    have hback : s' = stacked ⟨1⟩ :=
      (leavesFrames (new .empty) 0 rethrowingBody 5 rethrowingBody.root (stacked ⟨1⟩)).restored
        hapart _ s' hrun
    exact ⟨hapart, by rw [hback]⟩

open Sample in
/-- A handler whose parameter is that of the frame leaves it without a value. -/
example : (((Interpreter.new .empty).evalOnFrames ((Interpreter.new .empty).invokeOnFrames 0)
    rethrowingBody 5 rethrowingBody.root).run (stacked ⟨2⟩)).map (·.2) =
      .ok ⟨⟨none, .empty⟩, (stacked ⟨2⟩).waiting⟩ := by
  decide +kernel

end Companions
