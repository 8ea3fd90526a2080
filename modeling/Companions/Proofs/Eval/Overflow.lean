import Companions.Proofs.Eval.Comparing
set_option autoImplicit false

/-!
# Overflows

Too many calls are an error that no node begins, no node looks at and no handler takes.  So an
evaluation that comes to an overflow ends in it.  What compares with an evaluation up to that point
is said of the work beneath the frame (`Overflow.Tracking`), and carries over to whole evaluations
(`Overflow.Tracking.comparison`): what follows an overflow never has to be compared.
-/

namespace Companions

/-- Too many calls are active. -/
def Unwind.overflow : Unwind := .error (.stackOverflow maxCallDepth)

theorem Unwind.Begun.ne_overflow {P : Value → Prop} {u : Unwind} (h : u.Begun P) :
    u ≠ .overflow := by
  rintro rfl
  exact h

namespace Overflow

/-- The evaluation has ended in an overflow. -/
def Reached {α : Type} (r : Except Unwind α × Locals) : Prop := r.1 = .error .overflow

/-- How work over `N` compares with work that only a fault ends from beneath.  What is `spent` is
handed on as it is, so nothing is asked of work that follows it. -/
structure Tracking (N : Type → Type) [Monad N] [MonadLiftT (Except Fault) N] where
  Rel : {ρ : Type} → (spent : ρ → Prop) → N ρ → Except Fault ρ → Prop
  pure : ∀ {ρ : Type} {spent : ρ → Prop} {r : ρ}, ¬ spent r → Rel spent (pure r) (.ok r)
  read : ∀ {ρ : Type} (z : Except Fault ρ), Rel (fun _ => False) (liftM z) z
  bind : ∀ {ρ σ : Type} {spent : ρ → Prop} {spent' : σ → Prop} {x : N ρ} {y : Except Fault ρ}
    {k : ρ → N σ} {k' : ρ → Except Fault σ}, Rel spent x y →
    (∀ r, spent r → ∃ r', spent' r' ∧ k r = Pure.pure r' ∧ k' r = .ok r') →
    (∀ r, y = .ok r → ¬ spent r → Rel spent' (k r) (k' r)) → Rel spent' (x >>= k) (y >>= k')

namespace Tracking

open Evaluating

variable {N : Type → Type} [Monad N] [MonadLiftT (Except Fault) N]

/-- Evaluations compare if they do from all bindings. -/
def Compares (T : Tracking N) {α : Type} (x : EvaluatingOver N α) (y : Evaluating α) : Prop :=
  ∀ l, T.Rel Reached (x.run.run l) (y.run.run l)

variable {T : Tracking N} {α β : Type}

theorem compares_pure (a : α) : T.Compares (Pure.pure a) (Pure.pure a) := by
  intro l
  have hnot : ¬ Reached ((.ok a, l) : Except Unwind α × Locals) := nofun
  exact T.pure hnot

theorem compares_throw {u : Unwind} (h : u ≠ .overflow) :
    T.Compares (throw u : EvaluatingOver N α) (throw u) := by
  intro l
  have hnot : ¬ Reached ((.error u, l) : Except Unwind α × Locals) :=
    fun heq => h (Except.error.inj heq)
  exact T.pure hnot

theorem compares_bind {x : EvaluatingOver N α} {y : Evaluating α} {f : α → EvaluatingOver N β}
    {g : α → Evaluating β} (h : T.Compares x y)
    (hrest : ∀ l a l', y.run.run l = .ok (.ok a, l') → T.Compares (f a) (g a)) :
    T.Compares (x >>= f) (y >>= g) := by
  intro l
  rw [run_bind, run_bind]
  refine T.bind (h l) ?_ ?_
  · rintro ⟨r, l'⟩ (rfl : r = _)
    exact ⟨(.error .overflow, l'), rfl, rfl, rfl⟩
  · rintro ⟨u | a, l'⟩ hy hnot
    · have hnot : ¬ Reached ((.error u, l') : Except Unwind β × Locals) :=
        fun heq => hnot (congrArg Except.error (Except.error.inj heq))
      exact T.pure hnot
    · exact hrest l a l' hy l'

/-- What has landed is an overflow exactly if it was one before. -/
theorem rel_land {x : EvaluatingOver N Value} {y : Evaluating Value} (h : T.Compares x y)
    (d : Declaration) (b : Body) (l : Locals) :
    T.Rel (· = .error .overflow) (x.run.run l >>= fun r => Pure.pure (Interpreter.land d b r.1))
      (y.run.run l >>= fun r => Pure.pure (Interpreter.land d b r.1)) := by
  refine T.bind (h l) ?_ fun r _ hnot => T.pure fun hland => ?_
  · rintro ⟨r, l'⟩ (rfl : r = _)
    exact ⟨.error .overflow, rfl, rfl, rfl⟩
  · rcases Interpreter.land_cases hland with ⟨hr, -⟩ | ⟨label, value, -, -, heq⟩
    · exact hnot hr
    · cases heq

variable [LawfulMonad N]

/-- What is read from outside the frame has no overflow. -/
theorem compares_liftM (z : Except Fault α) :
    T.Compares (liftM z : EvaluatingOver N α) (liftM z : Evaluating α) := by
  intro l
  rw [run_read, run_read]
  refine T.bind (T.read z) (fun r h => h.elim) fun a _ _ => ?_
  have hnot : ¬ Reached ((.ok a, l) : Except Unwind α × Locals) := nofun
  exact T.pure hnot

theorem compares_get : T.Compares (get : EvaluatingOver N Locals) (get : Evaluating Locals) := by
  intro l
  rw [run_get, run_get]
  have hnot : ¬ Reached ((.ok l, l) : Except Unwind Locals × Locals) := nofun
  exact T.pure hnot

/-- No handler takes an overflow. -/
theorem compares_catching {x : EvaluatingOver N Value} {y : Evaluating Value}
    {f : Value → EvaluatingOver N Value} {g : Value → Evaluating Value} (h : T.Compares x y)
    (hrest : ∀ exception, T.Compares (f exception) (g exception)) :
    T.Compares (Interpreter.catching x f) (Interpreter.catching y g) := by
  intro l
  rw [run_catching, run_catching]
  refine T.bind (h l) ?_ ?_
  · rintro ⟨r, l'⟩ (rfl : r = _)
    exact ⟨(.error .overflow, l'), rfl, rfl, rfl⟩
  · rintro ⟨r, l'⟩ hy hnot
    match r, hnot with
    | .error (.thrown exception), _ => exact hrest exception l'
    | .error (.ret label v), hnot => exact T.pure hnot
    | .error (.error e), hnot => exact T.pure hnot
    | .ok v, hnot => exact T.pure hnot

theorem compares_handle {go : ExprRef → EvaluatingOver N Value} {go' : ExprRef → Evaluating Value}
    {exception : Value} {h : Handler} (hblock : T.Compares (go h.block) (go' h.block)) :
    T.Compares (Interpreter.handle go exception h) (Interpreter.handle go' exception h) := by
  intro l
  rw [run_handle, run_handle]
  refine T.bind (hblock _) ?_ fun r _ hnot => T.pure hnot
  rintro ⟨r, l'⟩ (rfl : r = _)
  exact ⟨(.error .overflow, l'.unbind h.param.symbol), rfl, rfl, rfl⟩

/-- A call goes over what the function ends in. -/
theorem compares_calling
    {call : Declaration → Option Value → List Value → N (Except Unwind Value)}
    {call' : Declaration → Option Value → List Value → Outcome} {d : Declaration}
    {target : Option Value} {values : List Value}
    (h : T.Rel (· = .error .overflow) (call d target values) (call' d target values)) :
    T.Compares (Interpreter.calling call d target values)
      (Interpreter.calling call' d target values) := by
  intro l
  rw [run_calling, run_calling]
  refine T.bind h ?_ fun r _ hnot => T.pure hnot
  rintro r rfl
  exact ⟨(.error .overflow, l), rfl, rfl, rfl⟩

/-- The comparison of whole evaluations.  Nothing has to be known of the values. -/
def comparison (T : Tracking N) : Comparison N (Except Fault) where
  value _ := True
  Rel A x y := T.Compares x y ∧ Gives A y
  plain _ _ := trivial
  pure ha := ⟨compares_pure _, .pure ha⟩
  bind hx hf := ⟨compares_bind hx.1 fun l a l' hy => (hf a (hx.2 l a l' hy)).1,
    hx.2.bind fun a ha => (hf a ha).2⟩
  throw hu := ⟨compares_throw hu.ne_overflow, .throw _⟩
  Readable _ := True
  nameless _ := trivial
  read {_ z} _ := ⟨compares_liftM z, .liftM z⟩
  bindings := ⟨compares_get, fun _ _ _ _ _ _ _ => trivial⟩
  catching hx hf := ⟨compares_catching hx.1 fun exception => (hf exception trivial).1, .any _⟩
  handle _ hblock := ⟨compares_handle hblock.1, .any _⟩

variable {m : Interpreter} {b : Body} {self : Option Value}
  {call : Declaration → Option Value → List Value → N (Except Unwind Value)}
  {call' : Declaration → Option Value → List Value → Outcome}

theorem admits : T.comparison.Admits m b self :=
  ⟨fun _ _ => trivial, fun _ _ _ _ => trivial, fun _ _ _ => trivial, fun _ _ => trivial⟩

theorem calls (h : ∀ callee d target values, m.declaration? callee = some d →
    T.Rel (· = .error .overflow) (call d target values) (call' d target values)) :
    T.comparison.Calls m call call' :=
  fun callee d target values hd _ _ => ⟨compares_calling (h callee d target values hd), .any _⟩

end Tracking

end Overflow

end Companions
