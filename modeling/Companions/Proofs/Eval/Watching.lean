import Companions.Proofs.Eval.Depth
set_option autoImplicit false

/-!
# Watched runs

Under the counter, every node is written down when its evaluation begins.  So runs that leave the
same behind have evaluated the same nodes, each as often in the one as in the other.

Watching changes nothing (`Frame.eval_eq_run`).
-/

namespace Companions

/-- What evaluation inside a frame finds, and what it leaves behind: the bindings, the counter, and
what has been written down so far. -/
structure Standing where
  locals : Locals
  gauge : Gauge
  deriving DecidableEq, Repr, Inhabited

namespace Standing

/-- The place is about to be evaluated while the calls are active. -/
def noting (s : Standing) (active : List FunctionSymbol) (place : ExprRef) : Standing :=
  { s with gauge := { s.gauge with
      moments := s.gauge.moments ++ [⟨active, s.gauge.depth, .node place⟩] } }

/-- The handler is about to run. -/
def entering (s : Standing) (h : Handler) (exception : Value) : Standing :=
  { s with locals := s.locals.bind h.param.symbol exception }

/-- The handler has run. -/
def leaving (s : Standing) (h : Handler) : Standing :=
  { s with locals := s.locals.unbind h.param.symbol }

end Standing

section Watch

variable {α β : Type} {x : EvaluatingOver Gauged α} {f : α → EvaluatingOver Gauged β}
  {s s' : Standing} {u : Unwind} {a : α}

/-- What the evaluation ends in, and what it leaves behind. -/
def watch (x : EvaluatingOver Gauged α) (s : Standing) :
    Except Fault (Except Unwind α × Standing) :=
  ((x.run.run s.locals).run s.gauge).map fun r => (r.1.1, ⟨r.1.2, r.2⟩)

/-- Goes on where a watched run has ended in a value. -/
def follow (f : α → EvaluatingOver Gauged β) :
    Except Unwind α × Standing → Except Fault (Except Unwind β × Standing)
  | (.ok a, s) => watch (f a) s
  | (.error u, s) => .ok (.error u, s)

/-- Goes on where a watched run has ended in an exception. -/
def attend (g : Value → EvaluatingOver Gauged Value) :
    Except Unwind Value × Standing → Except Fault (Except Unwind Value × Standing)
  | (.error (.thrown exception), s) => watch (g exception) s
  | r => .ok r

theorem watch_bind (x : EvaluatingOver Gauged α) (f : α → EvaluatingOver Gauged β) (s : Standing) :
    watch (x >>= f) s = watch x s >>= follow f := by
  rw [watch, watch, Evaluating.run_bind, StateT.run_bind]
  cases (x.run.run s.locals).run s.gauge with
  | error fault => rfl
  | ok r =>
    obtain ⟨⟨_ | _, _⟩, _⟩ := r <;> rfl

theorem watch_bind_of_ok (h : watch x s = .ok (.ok a, s')) :
    watch (x >>= f) s = watch (f a) s' := by
  rw [watch_bind, h]
  rfl

theorem watch_bind_of_unwind (h : watch x s = .ok (.error u, s')) :
    watch (x >>= f) s = .ok (.error u, s') := by
  rw [watch_bind, h]
  rfl

variable {y : EvaluatingOver Gauged Value} {g : Value → EvaluatingOver Gauged Value}
  {exception : Value}

theorem watch_catching (y : EvaluatingOver Gauged Value) (g : Value → EvaluatingOver Gauged Value)
    (s : Standing) : watch (Interpreter.catching y g) s = watch y s >>= attend g := by
  rw [watch, watch, Evaluating.run_catching, StateT.run_bind]
  cases (y.run.run s.locals).run s.gauge with
  | error fault => rfl
  | ok r =>
    obtain ⟨⟨(_ | _ | _) | _, _⟩, _⟩ := r <;> rfl

theorem watch_catching_of_thrown (h : watch y s = .ok (.error (.thrown exception), s')) :
    watch (Interpreter.catching y g) s = watch (g exception) s' := by
  rw [watch_catching, h]
  rfl

theorem watch_catching_of_unwind (h : watch y s = .ok (.error u, s'))
    (hu : ∀ exception, u ≠ .thrown exception) :
    watch (Interpreter.catching y g) s = .ok (.error u, s') := by
  rw [watch_catching, h]
  cases u with
  | thrown exception => exact absurd rfl (hu exception)
  | _ => rfl

theorem watch_handle (go : ExprRef → EvaluatingOver Gauged Value) (exception : Value) (h : Handler)
    (s : Standing) : watch (Interpreter.handle go exception h) s =
      (watch (go h.block) (s.entering h exception)).map fun r => (r.1, r.2.leaving h) := by
  rw [watch, watch, Evaluating.run_handle, StateT.run_bind]
  simp only [Standing.entering]
  cases ((go h.block).run.run (s.locals.bind h.param.symbol exception)).run s.gauge <;> rfl

end Watch

/-! ## Frames -/

/-- What the evaluation of a body does not change: what calls do, the receiver, and the calls that
are active. -/
structure Frame where
  interpreter : Interpreter
  call : Declaration → Option Value → List Value → Gauged (Except Unwind Value)
  body : Body
  self : Option Value
  active : List FunctionSymbol

/-- The evaluation of a place from some standing, at most `fuel` nodes deep. -/
structure Visit where
  place : ExprRef
  fuel : Nat
  standing : Standing

namespace Frame

/-- Evaluates what a node of the frame refers to. -/
def go (F : Frame) (fuel : Nat) : ExprRef → EvaluatingOver Gauged Value :=
  F.interpreter.evalGauged F.call F.body F.self F.active fuel

/-- What a visit ends in, and what it leaves behind. -/
def run (F : Frame) (w : Visit) : Except Fault (Except Unwind Value × Standing) :=
  watch (F.go w.fuel w.place) w.standing

variable {F : Frame} {place : ExprRef} {fuel : Nat} {s : Standing} {x : Expr}

/-- A node is written down and then evaluated. -/
theorem run_of_node (hx : F.body.node? place = some x) :
    F.run ⟨place, fuel + 1, s⟩ =
      watch (F.interpreter.evalForm F.call F.body F.self (F.go fuel) x.form)
        (s.noting F.active place) := by
  have hnoted : watch (liftM (Gauged.note F.active (.node place)) : EvaluatingOver Gauged Unit) s =
      .ok (.ok (), s.noting F.active place) := rfl
  rw [run, go, Interpreter.evalGauged, watch_bind_of_ok hnoted, Body.node, hx]
  rfl

/-- With the counter showing how many calls are active, a frame of an active call evaluates what the
frame evaluates without a counter. -/
theorem eval_eq_run {room : Nat} (hroom : F.active.length + room = maxCallDepth)
    (hcall : F.call = F.interpreter.invokeGauged (room + 1) F.active) {w : Visit}
    (hdepth : w.standing.gauge.depth = F.active.length) :
    (F.interpreter.eval (F.interpreter.invoke room) F.body F.self w.fuel w.place).run.run
      w.standing.locals = (F.run w).map fun r => (r.1, r.2.locals) := by
  have hcompares := Interpreter.evalGauged_compares (m := F.interpreter) rfl
    (fun _ d target values _ =>
      Interpreter.invokeGauged_tallies (m := F.interpreter) hroom d target values)
    F.body F.self w.fuel w.place
  obtain ⟨place, fuel, locals, depth, moments⟩ := w
  cases hdepth
  rw [run, go, watch, hcall]
  dsimp only
  rcases hcompares locals moments with
    ⟨fault, hplain, hgauged⟩ | ⟨ended, more, hplain, hgauged, -, -⟩
  · rw [hplain, hgauged]
    rfl
  · rw [hplain, hgauged]
    rfl

end Frame

end Companions
