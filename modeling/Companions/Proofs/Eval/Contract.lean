import Companions.Eval.Interpreter
import Mathlib.Data.List.Forall2
set_option autoImplicit false

/-!
# Contracts of evaluation

Evaluation ends in a fault, or with bindings and a value or a way to unwind.  A contract says that
a property of the bindings is kept and which ways to unwind there are (`Evaluating.Keeps`).  It also
says which faults there may be: where there may be none, the contract promises an ending.  What is
said of the values is said apart (`Evaluating.Gives`).

There is one rule for each way in which evaluation is put together.
-/

namespace Companions

namespace Evaluating

variable {α β : Type} {l l' : Locals}

/-! ## Running a step at a time -/

theorem run_bind_of_ok {x : Evaluating α} {f : α → Evaluating β} {a : α}
    (h : x.run.run l = .ok (.ok a, l')) : (x >>= f).run.run l = (f a).run.run l' := by
  rw [ExceptT.run_bind, StateT.run_bind, h]
  rfl

theorem run_bind_of_unwind {x : Evaluating α} {f : α → Evaluating β} {u : Unwind}
    (h : x.run.run l = .ok (.error u, l')) : (x >>= f).run.run l = .ok (.error u, l') := by
  rw [ExceptT.run_bind, StateT.run_bind, h]
  rfl

theorem run_bind_of_fault {x : Evaluating α} {f : α → Evaluating β} {fault : Fault}
    (h : x.run.run l = .error fault) : (x >>= f).run.run l = .error fault := by
  rw [ExceptT.run_bind, StateT.run_bind, h]
  rfl

theorem run_outcome_of_ok {x : Evaluating Value} {r : Except Unwind Value}
    (h : x.run.run l = .ok (r, l')) : (Interpreter.outcome x).run.run l = .ok (.ok r, l') := by
  rw [Interpreter.outcome, ExceptT.run_lift, StateT.run_map, h]
  rfl

theorem run_outcome_of_fault {x : Evaluating Value} {fault : Fault}
    (h : x.run.run l = .error fault) : (Interpreter.outcome x).run.run l = .error fault := by
  rw [Interpreter.outcome, ExceptT.run_lift, StateT.run_map, h]
  rfl

theorem run_resume (r : Except Unwind Value) :
    (Interpreter.resume r : Evaluating Value).run.run l = .ok (r, l) := by
  cases r <;> rfl

/-- What is there to be read goes on into the evaluation. -/
@[simp] theorem liftM_ok (a : α) :
    (liftM (Except.ok a : Except Fault α) : Evaluating α) = pure a := rfl

/-- Items that each end in a value and leave the bindings alone end in the values. -/
theorem run_mapM_of_ok {items : List α} {f : α → Evaluating β} {results : List β}
    (h : List.Forall₂ (fun a r => (f a).run.run l = .ok (.ok r, l)) items results) :
    (items.mapM f).run.run l = .ok (.ok results, l) := by
  induction h with
  | nil => rfl
  | cons hfirst _ ih =>
    rw [List.mapM_cons, run_bind_of_ok hfirst, run_bind_of_ok ih]
    rfl

/-! ## Values -/

/-- Where the evaluation ends in a value, the value has the property. -/
def Gives (A : α → Prop) (x : Evaluating α) : Prop :=
  ∀ l a l', x.run.run l = .ok (.ok a, l') → A a

namespace Gives

variable {A : α → Prop} {B : β → Prop}

theorem pure {a : α} (h : A a) : Gives A (pure a : Evaluating α) := by
  intro l a' l' hrun
  cases hrun
  exact h

theorem bind {x : Evaluating α} {f : α → Evaluating β} (hx : Gives A x)
    (hf : ∀ a, A a → Gives B (f a)) : Gives B (x >>= f) := by
  intro l b l' hrun
  cases hfirst : x.run.run l with
  | error fault =>
    rw [run_bind_of_fault hfirst] at hrun
    cases hrun
  | ok result =>
    obtain ⟨u | a, l₁⟩ := result
    · rw [run_bind_of_unwind hfirst] at hrun
      cases hrun
    · rw [run_bind_of_ok hfirst] at hrun
      exact hf a (hx l a l₁ hfirst) l₁ b l' hrun

/-- Where there is no value, anything holds of the value. -/
theorem throw (u : Unwind) : Gives A (throw u : Evaluating α) := by
  intro l a l' hrun
  cases hrun

/-- What is read is what is there to be read. -/
theorem liftM (x : Except Fault α) : Gives (fun a => x = .ok a) (liftM x : Evaluating α) := by
  intro l a l' hrun
  cases x with
  | ok b =>
    cases hrun
    rfl
  | error fault => cases hrun

/-- Nothing is said of the values. -/
theorem any (x : Evaluating α) : Gives (fun _ => True) x := fun _ _ _ _ => trivial

/-- Position by position, the values of a list belong to its items. -/
theorem mapM {R : α → β → Prop} {items : List α} {f : α → Evaluating β}
    (h : ∀ a ∈ items, Gives (R a) (f a)) : Gives (List.Forall₂ R items) (items.mapM f) := by
  induction items with
  | nil => exact .pure .nil
  | cons a rest ih =>
    rw [List.mapM_cons]
    refine (h a List.mem_cons_self).bind fun b hb => ?_
    refine (ih fun a ha => h a (List.mem_cons_of_mem _ ha)).bind fun bs hbs => ?_
    exact .pure (.cons hb hbs)

end Gives

/-! ## Contracts -/

/-- Where `P` holds of the bindings, it holds of them in the end, and if the evaluation unwinds,
then in one of the ways of `I`.  There is an end, or a fault that there may be. -/
def Keeps (mayFault : Fault → Prop) (P : Locals → Prop) (I : Unwind → Prop)
    (x : Evaluating α) : Prop :=
  ∀ l, P l → (∃ fault, x.run.run l = .error fault ∧ mayFault fault) ∨
    ∃ r l', x.run.run l = .ok (r, l') ∧ P l' ∧ ∀ u, r = .error u → I u

variable {mayFault : Fault → Prop} {P P' : Locals → Prop} {I : Unwind → Prop}

namespace Keeps

theorem pure (a : α) : Keeps mayFault P I (pure a : Evaluating α) := by
  intro l hl
  exact .inr ⟨.ok a, l, rfl, hl, fun u hu => by cases hu⟩

theorem throw {u : Unwind} (h : ∀ l, P l → I u) :
    Keeps mayFault P I (throw u : Evaluating α) := by
  intro l hl
  refine .inr ⟨.error u, l, rfl, hl, fun u' hu => ?_⟩
  cases hu
  exact h l hl

theorem resume {r : Except Unwind Value} (h : ∀ l u, P l → r = .error u → I u) :
    Keeps mayFault P I (Interpreter.resume r) := by
  intro l hl
  exact .inr ⟨r, l, run_resume r, hl, fun u hu => h l u hl hu⟩

/-- The rest of an evaluation may count on what the first part says of its values. -/
theorem bindGives {A : α → Prop} {x : Evaluating α} {f : α → Evaluating β}
    (hx : Keeps mayFault P I x) (hgives : Gives A x)
    (hf : ∀ a, A a → Keeps mayFault P I (f a)) : Keeps mayFault P I (x >>= f) := by
  intro l hl
  rcases hx l hl with ⟨fault, hrun, hmay⟩ | ⟨r, l', hrun, hl', hu⟩
  · exact .inl ⟨fault, run_bind_of_fault hrun, hmay⟩
  · cases r with
    | error u =>
      refine .inr ⟨.error u, l', run_bind_of_unwind hrun, hl', fun u' heq => ?_⟩
      cases heq
      exact hu u rfl
    | ok a =>
      rw [run_bind_of_ok hrun]
      exact hf a (hgives l a l' hrun) l' hl'

theorem bind {x : Evaluating α} {f : α → Evaluating β} (hx : Keeps mayFault P I x)
    (hf : ∀ a, Keeps mayFault P I (f a)) : Keeps mayFault P I (x >>= f) :=
  hx.bindGives (.any x) fun a _ => hf a

theorem map {x : Evaluating α} (g : α → β) (hx : Keeps mayFault P I x) :
    Keeps mayFault P I (g <$> x) := by
  rw [map_eq_pure_bind]
  exact hx.bind fun a => .pure _

/-- What is read from outside the frame is there, or it is missed with a fault that there may be. -/
theorem lift {x : Except Fault α} (h : ∀ fault, x = .error fault → mayFault fault) :
    Keeps mayFault P I (liftM x : Evaluating α) := by
  cases x with
  | ok a => exact .pure a
  | error fault => exact fun l _ => .inl ⟨fault, rfl, h fault rfl⟩

/-- As `bind`, where the evaluation goes on with what was read. -/
theorem liftBind {x : Except Fault α} {f : α → Evaluating β}
    (h : ∀ fault, x = .error fault → mayFault fault)
    (hf : ∀ a, x = .ok a → Keeps mayFault P I (f a)) :
    Keeps mayFault P I ((liftM x : Evaluating α) >>= f) := by
  cases x with
  | ok a => exact hf a rfl
  | error fault => exact fun l _ => .inl ⟨fault, rfl, h fault rfl⟩

/-- The bindings are looked at, and the rest of the evaluation leaves them as they are. -/
theorem getBind {f : Locals → Evaluating α} (hf : ∀ l, P l → Keeps mayFault (· = l) I (f l)) :
    Keeps mayFault P I (get >>= f) := by
  intro l hl
  have hget : (get : Evaluating Locals).run.run l = .ok (.ok l, l) := rfl
  rw [run_bind_of_ok hget]
  rcases hf l hl l rfl with hfault | ⟨r, l', hrun, rfl, hu⟩
  · exact .inl hfault
  · exact .inr ⟨r, l', hrun, hl, hu⟩

/-- What evaluation ends in is handed on instead of ending the rest. -/
theorem outcomeBind {x : Evaluating Value} {f : Except Unwind Value → Evaluating α}
    (hx : Keeps mayFault P I x)
    (hf : ∀ r, (∀ u, r = .error u → I u) → Keeps mayFault P I (f r)) :
    Keeps mayFault P I (Interpreter.outcome x >>= f) := by
  intro l hl
  rcases hx l hl with ⟨fault, hrun, hmay⟩ | ⟨r, l', hrun, hl', hu⟩
  · exact .inl ⟨fault, run_bind_of_fault (run_outcome_of_fault hrun), hmay⟩
  · rw [run_bind_of_ok (run_outcome_of_ok hrun)]
    exact hf r hu l' hl'

/-- Bindings may be changed for the time of an evaluation if they are changed back. -/
theorem bracket {x : Evaluating Value} {enter leave : Locals → Locals}
    (henter : ∀ l, P l → P' (enter l)) (hx : Keeps mayFault P' I x)
    (hleave : ∀ l, P' l → P (leave l)) :
    Keeps mayFault P I (do
      modify enter
      let r ← Interpreter.outcome x
      modify leave
      Interpreter.resume r) := by
  intro l hl
  have henterRun : (modify enter : Evaluating Unit).run.run l = .ok (.ok (), enter l) := rfl
  rw [run_bind_of_ok henterRun]
  rcases hx (enter l) (henter l hl) with ⟨fault, hrun, hmay⟩ | ⟨r, l', hrun, hl', hu⟩
  · exact .inl ⟨fault, run_bind_of_fault (run_outcome_of_fault hrun), hmay⟩
  · have hleaveRun : (modify leave : Evaluating Unit).run.run l' = .ok (.ok (), leave l') := rfl
    rw [run_bind_of_ok (run_outcome_of_ok hrun), run_bind_of_ok hleaveRun, run_resume]
    exact .inr ⟨r, leave l', rfl, hleave l' hl', hu⟩

theorem mapM {items : List α} {f : α → Evaluating β}
    (h : ∀ a ∈ items, Keeps mayFault P I (f a)) : Keeps mayFault P I (items.mapM f) := by
  induction items with
  | nil => exact .pure _
  | cons a rest ih =>
    rw [List.mapM_cons]
    exact (h a List.mem_cons_self).bind fun _ =>
      (ih fun a ha => h a (List.mem_cons_of_mem _ ha)).bind fun _ => .pure _

theorem forM {items : List α} {f : α → Evaluating Unit}
    (h : ∀ a ∈ items, Keeps mayFault P I (f a)) : Keeps mayFault P I (items.forM f) := by
  induction items with
  | nil => exact .pure _
  | cons a rest ih =>
    exact (h a List.mem_cons_self).bind fun _ => ih fun a ha => h a (List.mem_cons_of_mem _ ha)

theorem foldlM {items : List α} {f : β → α → Evaluating β}
    (h : ∀ a ∈ items, ∀ c, Keeps mayFault P I (f c a)) (c : β) :
    Keeps mayFault P I (items.foldlM f c) := by
  induction items generalizing c with
  | nil => exact .pure _
  | cons a rest ih =>
    rw [List.foldlM_cons]
    exact (h a List.mem_cons_self c).bind fun _ =>
      ih (fun a ha => h a (List.mem_cons_of_mem _ ha)) _

end Keeps

end Evaluating

end Companions
