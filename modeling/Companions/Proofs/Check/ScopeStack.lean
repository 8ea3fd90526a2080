import Companions.Companion.Check
set_option autoImplicit false

/-!
# The check with a stack of parameters

What a node may read depends on the handlers around it.  Here the whole walk over a body has a hold
of one stack of readable parameters: a handler's parameter is put on it before the handler's block
is checked, and taken off it afterwards, whether or not something is wrong with the block.  A check
on the stack comes to what a check under that scope comes to, and the stack is as it was
(`Surroundings.agrees_checkOnStack`); so a companion is checked alike in either way
(`Surroundings.checkStacked_eq`).
-/

namespace Companions

/-- A check that has a hold of the parameters that can be read.  Where it stops, the stack is as it
is by then. -/
abbrev Stacked := ExceptT Malformed (StateT (List ParamSymbol) (Except Fault))

namespace Stacked

variable {α β : Type} {scope : List ParamSymbol}

/-- What the check comes to if `scope` is on the stack. -/
def answer (scope : List ParamSymbol) (w : Stacked α) : Checking α :=
  ExceptT.mk ((w.run.run scope).map Prod.fst)

/-- Runs a check with one more parameter on the stack, which is taken off also if the check finds
that something is wrong. -/
def under (p : ParamSymbol) (w : Stacked Unit) : Stacked Unit := ExceptT.mk do
  modify (p :: ·)
  let result ← w.run
  modify List.tail
  return result

/-- With `scope` on the stack the check comes to what the other one comes to, and the stack is as
it was. -/
def Agrees (scope : List ParamSymbol) (w : Stacked α) (c : Checking α) : Prop :=
  w.run.run scope = c.run.map fun result => (result, scope)

theorem Agrees.answer_eq {w : Stacked α} {c : Checking α} (h : Agrees scope w c) :
    w.answer scope = c := by
  change ((w.run.run scope).map Prod.fst : Except Fault (Except Malformed α)) = c.run
  rw [h]
  cases c.run <;> rfl

theorem agrees_pure (a : α) : Agrees scope (pure a) (pure a) := rfl

theorem agrees_throw (wrong : Malformed) :
    Agrees scope (throw wrong : Stacked α) (throw wrong) := rfl

theorem agrees_liftM (x : Except Fault α) :
    Agrees scope (liftM x : Stacked α) (liftM x) := by
  cases x <;> rfl

/-- What is on the stack can be read. -/
theorem agrees_get {f : List ParamSymbol → Stacked α} {c : Checking α}
    (h : Agrees scope (f scope) c) : Agrees scope (get >>= f) c := h

/-- One step after the other. -/
theorem Agrees.bind {w : Stacked α} {c : Checking α} {f : α → Stacked β} {g : α → Checking β}
    (h : Agrees scope w c) (hfg : ∀ a, Agrees scope (f a) (g a)) :
    Agrees scope (w >>= f) (c >>= g) := by
  have hrun : (w >>= f).run.run scope = (w.run.run scope >>= fun found =>
      match found.1 with
      | .error wrong => pure (.error wrong, found.2)
      | .ok a => (f a).run.run found.2) := by
    rw [ExceptT.run_bind, StateT.run_bind]
    refine congrArg _ (funext fun found => ?_)
    obtain ⟨_ | a, left⟩ := found <;> rfl
  rw [Agrees, hrun, h, ExceptT.run_bind]
  cases c.run with
  | error fault => rfl
  | ok result =>
    cases result with
    | error wrong => rfl
    | ok a => exact hfg a

theorem agrees_forM {items : List α} {f : α → Stacked Unit} {g : α → Checking Unit}
    (h : ∀ a, Agrees scope (f a) (g a)) : Agrees scope (items.forM f) (items.forM g) := by
  induction items with
  | nil => exact agrees_pure ()
  | cons a rest ih => exact (h a).bind fun _ => ih

theorem agrees_require (condition : Bool) (wrong : Malformed) :
    Agrees scope (Checking.require condition wrong) (Checking.require condition wrong) := by
  cases condition
  · exact agrees_throw wrong
  · exact agrees_pure ()

theorem agrees_found (answer : Option α) (wrong : Malformed) :
    Agrees scope (Checking.found answer wrong) (Checking.found answer wrong) := by
  cases answer with
  | none => exact agrees_throw wrong
  | some a => exact agrees_pure a

/-- What is put on the stack for a check is no longer there after it. -/
theorem Agrees.under {p : ParamSymbol} {w : Stacked Unit} {c : Checking Unit}
    (h : Agrees (p :: scope) w c) : Agrees scope (w.under p) c := by
  change (w.run.run (p :: scope) >>= fun found => Except.ok (found.1, found.2.tail)) = _
  rw [h]
  cases c.run <;> rfl

end Stacked

open Checking Stacked

/-- Arguments are checked without a look at the stack. -/
theorem agrees_checkBinding (scope : List ParamSymbol) (node : ExprRef) (index : Nat)
    (pairs : List (Argument × Parameter)) :
    Agrees scope (checkBinding node index pairs) (checkBinding node index pairs) := by
  induction pairs generalizing index with
  | nil => exact agrees_pure ()
  | cons pair rest ih => exact (agrees_require _ _).bind fun _ => ih (index + 1)

namespace Surroundings

variable {s : Surroundings} {b : Body}

/-- Checks a node and all that it refers to, with what can be read on the stack. -/
def checkOnStack (s : Surroundings) (b : Body) :
    (fuel : Nat) → (parent node : ExprRef) → Stacked Unit
  | 0, _, _ => throwThe Fault .endless
  | fuel + 1, parent, node => do
    let x ← found (b.node? node) (.danglingChild parent node)
    require (s.types.contains x.type) (.unknownType node x.type)
    s.checkForm b (← get) (s.checkOnStack b fuel node) node x.form
    match x.form with
    | .attempt _ handlers =>
      (← b.readHandlers handlers).forM fun h =>
        (s.checkOnStack b fuel node h.block).under h.param.symbol
    | _ => pure ()

/-- Checks that `d` is a companion of `other`, with its parameters as the first ones on the
stack. -/
def checkStacked (s : Surroundings) (d other : Declaration) : Checking Unit := do
  checkParams d other
  let b ← found d.body .missingBody
  require (b.contains b.root) (.missingRoot b.root)
  checkLabels d.symbol 0 b.labels.toList
  (s.checkOnStack b (b.size + 1) none b.root).answer (d.params.map (·.symbol))

/-- The form of a node is checked alike if all that the node refers to is. -/
theorem agrees_checkForm {scope : List ParamSymbol} {child : ExprRef → Stacked Unit}
    {childBelow : ExprRef → Checking Unit} (h : ∀ e, Agrees scope (child e) (childBelow e))
    (node : ExprRef) (form : ExprForm) :
    Agrees scope (s.checkForm b scope child node form)
      (s.checkForm b scope childBelow node form) := by
  have hany (e : ExprRef) : Agrees scope (checkForm.childIfAny child e)
      (checkForm.childIfAny childBelow e) := by
    cases e with
    | none => exact agrees_pure ()
    | some e => exact h (some e)
  cases form with
  | const _ | self _ => exact agrees_pure ()
  | param p => exact agrees_require _ _
  | call callee receiver arguments =>
    exact (agrees_found _ _).bind fun d => (agrees_require _ _).bind fun _ =>
      (agrees_liftM _).bind fun arguments => (agrees_require _ _).bind fun _ =>
        (agrees_checkBinding _ _ _ _).bind fun _ => (hany receiver).bind fun _ =>
          agrees_forM fun a => h a.value
  | new constr arguments =>
    exact (agrees_found _ _).bind fun k => (agrees_liftM _).bind fun arguments =>
      (agrees_require _ _).bind fun _ => agrees_forM fun a => h a.value
  | block statements => exact (agrees_liftM _).bind fun _ => agrees_forM h
  | ret target value => exact (agrees_require _ _).bind fun _ => hany value
  | attempt block _ => exact h block
  | raise exception => exact h exception
  | elvis left right => exact (h left).bind fun _ => h right
  | branch condition yes no => exact (h condition).bind fun _ => (h yes).bind fun _ => hany no
  | binary _ left right => exact (h left).bind fun _ => h right

/-- A check on the stack comes to the check under the scope that is on it, and leaves the stack as
it was.  The induction is on how many nodes deep the check may still go. -/
theorem agrees_checkOnStack (fuel : Nat) (scope : List ParamSymbol) (parent node : ExprRef) :
    Agrees scope (s.checkOnStack b fuel parent node) (s.checkNode b fuel scope parent node) := by
  induction fuel generalizing scope parent node with
  | zero => exact agrees_liftM (.error .endless)
  | succ fuel ih =>
    rw [checkOnStack, checkNode]
    refine (agrees_found _ _).bind fun x => (agrees_require _ _).bind fun _ => ?_
    refine agrees_get ((agrees_checkForm (ih scope node) node x.form).bind fun _ => ?_)
    cases x.form with
    | attempt block handlers =>
      exact (agrees_liftM _).bind fun handlers => agrees_forM fun h => (ih _ node h.block).under
    | _ => exact agrees_pure ()

/-- A companion is checked alike on the stack and under scopes that are handed down. -/
theorem checkStacked_eq (s : Surroundings) (d other : Declaration) :
    s.checkStacked d other = s.check d other := by
  unfold checkStacked check
  simp only [(agrees_checkOnStack _ _ _ _).answer_eq]

end Surroundings

end Companions
