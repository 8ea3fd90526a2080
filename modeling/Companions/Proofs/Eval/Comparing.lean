import Companions.Proofs.Eval.Nodes
set_option autoImplicit false

/-!
# Two evaluations in step

One body can be evaluated in two ways: with other calls, or over something else beneath the frame.
How the two compare is a relation, and what it has to satisfy for each way in which evaluation is
put together is a `Comparison`.  A node compares with itself if what it refers to and what it calls
does (`Comparison.evalForm`), and so does a place (`Comparison.eval`).

A comparison carries along what is known of all values that go around.
-/

namespace Companions

/-- A value that is neither a text nor an object. -/
def Value.Plain : Value → Prop
  | .string _ => False
  | .object _ => False
  | _ => True

/-- An operator answers plain values. -/
theorem BinaryOp.plain_of_apply {op : BinaryOp} {v w u : Value} (h : op.apply v w = .ok u) :
    u.Plain := by
  have hexactly : ∀ n, exactly op n = .ok u → u.Plain := by
    intro n hn
    unfold exactly at hn
    split at hn <;> cases hn
    exact trivial
  unfold apply at h
  split at h
  · cases h
    exact trivial
  · cases h
    exact trivial
  · split at h
    · unfold onInts at h
      split at h
      · exact hexactly _ h
      · exact hexactly _ h
      all_goals cases h; exact trivial
    · cases h

/-- An error that a node can begin itself, where `P` holds of the values at hand. -/
def EvalError.Begun (P : Value → Prop) : EvalError → Prop
  | .notThrowable v => P v
  | .nonBoolCondition v => P v
  | .typeMismatch _ v w => P v ∧ P w
  | .uncaught _ => False
  | .missingBody _ => False
  | .missingRoot _ => False
  | .unboundLabel _ => False
  | .stackOverflow _ => False
  | _ => True

/-- A way to unwind that a node can begin itself, where `P` holds of the values at hand. -/
def Unwind.Begun (P : Value → Prop) : Unwind → Prop
  | .ret _ v => P v
  | .thrown v => P v
  | .error e => e.Begun P

namespace Interpreter

variable {N : Type → Type} [Monad N]

/-- Runs `f` on an exception that `x` throws. -/
def catching (x : EvaluatingOver N Value) (f : Value → EvaluatingOver N Value) :
    EvaluatingOver N Value := do
  match ← outcome x with
  | .error (.thrown exception) => f exception
  | result => resume result

/-- Calls a function and goes on with what that ends in. -/
def calling (call : Declaration → Option Value → List Value → N (Except Unwind Value))
    (d : Declaration) (target : Option Value) (values : List Value) : EvaluatingOver N Value := do
  resume (← liftM (call d target values))

/-- What is picked for the parameters is among what was bound. -/
theorem mem_of_pick {bound : List (ParamSymbol × Value)} {params : List Parameter}
    {values : List Value} (h : pick bound params = .ok values) :
    ∀ v ∈ values, ∃ p, (p, v) ∈ bound := by
  induction params generalizing values with
  | nil =>
    cases h
    simp
  | cons p rest ih =>
    rw [pick] at h
    cases hlookup : bound.lookup p.symbol with
    | none =>
      rw [hlookup] at h
      cases h
    | some v =>
      rw [hlookup] at h
      cases hrest : pick bound rest with
      | error e =>
        rw [hrest] at h
        cases h
      | ok others =>
        rw [hrest] at h
        cases h
        obtain ⟨before, after, hbound, -⟩ := List.lookup_eq_some_iff.1 hlookup
        exact List.forall_mem_cons.2 ⟨⟨p.symbol, by simp [hbound]⟩, ih hrest⟩

theorem mem_of_route {params : List Parameter} {bound : List (ParamSymbol × Value)}
    {values : List Value} (h : route params bound = .ok values) :
    ∀ v ∈ values, ∃ p, (p, v) ∈ bound := by
  unfold route at h
  cases hpick : pick bound params with
  | error e =>
    rw [hpick] at h
    cases h
  | ok others =>
    rw [hpick] at h
    simp only [bind, Except.bind, pure, Except.pure] at h
    split at h
    · cases h
      exact mem_of_pick hpick
    · cases h

end Interpreter

/-! ## Reading from outside the frame -/

/-- What is read is not missed for want of a name. -/
def Nameless {α : Type} (x : Except Fault α) : Prop := ∀ n, x ≠ .error (.unknownName n)

namespace Nameless

variable {α β : Type}

theorem of_ok (a : α) : Nameless (.ok a : Except Fault α) := nofun

theorem bind {x : Except Fault α} {f : α → Except Fault β} (hx : Nameless x)
    (hf : ∀ a, x = .ok a → Nameless (f a)) : Nameless (x >>= f) := by
  cases x with
  | ok a => exact hf a rfl
  | error fault =>
    intro n h
    exact hx n (congrArg Except.error (Except.error.inj h))

theorem node (b : Body) (e : ExprRef) : Nameless (b.node e) := by
  unfold Body.node
  cases b.node? e <;> nofun

theorem span {list : ListKind} (store : Array α) (s : Span list) :
    Nameless (Body.read store s) := by
  unfold Body.read
  split <;> nofun

theorem accepts (m : Interpreter) (classes : List ClassId) (h : Handler) :
    Nameless (m.accepts classes h) := by
  have hclass : Nameless (m.program.pools.types.classOf h.param.type) := by
    refine bind ?_ fun t _ => ?_
    · unfold TypePool.get
      cases m.program.pools.types.get? h.param.type <;> nofun
    · split <;> exact of_ok _
  refine hclass.bind fun c _ => ?_
  cases c <;> exact of_ok _

theorem firstAccepting (m : Interpreter) (classes : List ClassId) (handlers : List Handler) :
    Nameless (m.firstAccepting classes handlers) := by
  induction handlers with
  | nil => exact of_ok _
  | cons h rest ih =>
    refine (accepts m classes h).bind fun accepted _ => ?_
    cases accepted
    · exact ih
    · exact of_ok _

end Nameless

/-! ## Running over whatever is beneath the frame -/

namespace Evaluating

variable {N : Type → Type} [Monad N] {α β : Type}

/-- Goes on where evaluation has ended in a value. -/
def proceed (f : α → EvaluatingOver N β) :
    Except Unwind α × Locals → N (Except Unwind β × Locals)
  | (.ok a, l) => (f a).run.run l
  | (.error u, l) => pure (.error u, l)

/-- Goes on where evaluation has ended in an exception. -/
def rescue (f : Value → EvaluatingOver N Value) :
    Except Unwind Value × Locals → N (Except Unwind Value × Locals)
  | (.error (.thrown exception), l) => (f exception).run.run l
  | (r, l) => pure (r, l)

theorem run_bind (x : EvaluatingOver N α) (f : α → EvaluatingOver N β) (l : Locals) :
    (x >>= f).run.run l = x.run.run l >>= proceed f := by
  rw [ExceptT.run_bind, StateT.run_bind]
  refine congrArg _ (funext fun r => ?_)
  obtain ⟨u | a, l'⟩ := r <;> rfl

variable [LawfulMonad N]

theorem run_outcome (x : EvaluatingOver N Value) (l : Locals) :
    (Interpreter.outcome x).run.run l = x.run.run l >>= fun r => pure (.ok r.1, r.2) := by
  rw [Interpreter.outcome, ExceptT.run_lift, StateT.run_map, map_eq_pure_bind]

theorem run_catching (x : EvaluatingOver N Value) (f : Value → EvaluatingOver N Value)
    (l : Locals) : (Interpreter.catching x f).run.run l = x.run.run l >>= rescue f := by
  rw [Interpreter.catching, run_bind, run_outcome, bind_assoc]
  refine congrArg _ (funext fun r => ?_)
  rw [pure_bind]
  obtain ⟨(_ | _ | _) | v, l'⟩ := r <;> rfl

theorem run_modify (f : Locals → Locals) (l : Locals) :
    (modify f : EvaluatingOver N Unit).run.run l = pure (.ok (), f l) := by
  change (ExceptT.lift (StateT.modifyGet fun l => ((), f l) : StateT Locals N Unit)).run.run l = _
  rw [ExceptT.run_lift, StateT.run_map]
  exact map_pure _ _

theorem run_get (l : Locals) : (get : EvaluatingOver N Locals).run.run l = pure (.ok l, l) := by
  change (ExceptT.lift (StateT.get : StateT Locals N Locals)).run.run l = _
  rw [ExceptT.run_lift, StateT.run_map]
  exact map_pure _ _

theorem run_handle (go : ExprRef → EvaluatingOver N Value) (exception : Value) (h : Handler)
    (l : Locals) : (Interpreter.handle go exception h).run.run l =
      (go h.block).run.run (l.bind h.param.symbol exception) >>=
        fun r => pure (r.1, r.2.unbind h.param.symbol) := by
  rw [Interpreter.handle, run_bind, run_modify, pure_bind, proceed, run_bind, run_outcome,
    bind_assoc]
  refine congrArg _ (funext fun r => ?_)
  rw [pure_bind, proceed, run_bind, run_modify, pure_bind, proceed]
  obtain ⟨u | v, l'⟩ := r <;> rfl

/-- Work from beneath the frame leaves the bindings as they are. -/
theorem run_liftM (x : N α) (l : Locals) :
    (liftM x : EvaluatingOver N α).run.run l = x >>= fun a => pure (.ok a, l) := by
  change (ExceptT.lift (StateT.lift x)).run.run l = _
  simp

theorem run_read [MonadLiftT (Except Fault) N] (z : Except Fault α) (l : Locals) :
    (liftM z : EvaluatingOver N α).run.run l = (liftM z : N α) >>= fun a => pure (.ok a, l) :=
  run_liftM (liftM z : N α) l

theorem run_calling (call : Declaration → Option Value → List Value → N (Except Unwind Value))
    (d : Declaration) (target : Option Value) (values : List Value) (l : Locals) :
    (Interpreter.calling call d target values).run.run l =
      call d target values >>= fun r => pure (r, l) := by
  rw [Interpreter.calling, run_bind, run_liftM, bind_assoc]
  refine congrArg _ (funext fun r => ?_)
  rw [pure_bind]
  cases r <;> rfl

end Evaluating

/-! ## Comparisons -/

/-- A relation between evaluations over `N` and evaluations over `N'` that is kept by all ways to
put evaluations together. -/
structure Comparison (N N' : Type → Type) [Monad N] [Monad N'] [MonadLiftT (Except Fault) N]
    [MonadLiftT (Except Fault) N'] where
  /-- What holds of all values that go around. -/
  value : Value → Prop
  /-- The evaluations compare, and what they have for a value is one of `A`. -/
  Rel : {α : Type} → (A : α → Prop) → EvaluatingOver N α → EvaluatingOver N' α → Prop
  plain : ∀ v, v.Plain → value v
  pure : ∀ {α : Type} {A : α → Prop} {a : α}, A a → Rel A (pure a) (pure a)
  bind : ∀ {α β : Type} {A : α → Prop} {B : β → Prop} {x : EvaluatingOver N α}
    {y : EvaluatingOver N' α} {f : α → EvaluatingOver N β} {g : α → EvaluatingOver N' β},
    Rel A x y → (∀ a, A a → Rel B (f a) (g a)) → Rel B (x >>= f) (y >>= g)
  throw : ∀ {α : Type} {A : α → Prop} {u : Unwind}, u.Begun value → Rel A (throw u) (throw u)
  /-- What may be read from outside the frame. -/
  Readable : {α : Type} → Except Fault α → Prop
  nameless : ∀ {α : Type} {z : Except Fault α}, Nameless z → Readable z
  /-- What is read from outside the frame is the same in both. -/
  read : ∀ {α : Type} {z : Except Fault α}, Readable z →
    Rel (fun a => z = .ok a) (liftM z) (liftM z)
  bindings : Rel (fun l : Locals => ∀ p v, l.get? p = some v → value v) get get
  catching : ∀ {x : EvaluatingOver N Value} {y : EvaluatingOver N' Value}
    {f : Value → EvaluatingOver N Value} {g : Value → EvaluatingOver N' Value},
    Rel value x y → (∀ exception, value exception → Rel value (f exception) (g exception)) →
      Rel value (Interpreter.catching x f) (Interpreter.catching y g)
  handle : ∀ {go : ExprRef → EvaluatingOver N Value} {go' : ExprRef → EvaluatingOver N' Value}
    {exception : Value} {h : Handler}, value exception → Rel value (go h.block) (go' h.block) →
      Rel value (Interpreter.handle go exception h) (Interpreter.handle go' exception h)

namespace Comparison

variable {N N' : Type → Type} [Monad N] [Monad N'] [MonadLiftT (Except Fault) N]
  [MonadLiftT (Except Fault) N'] {R : Comparison N N'}
  {α β : Type} {m : Interpreter} {b : Body} {self : Option Value}
  {call : Declaration → Option Value → List Value → N (Except Unwind Value)}
  {call' : Declaration → Option Value → List Value → N' (Except Unwind Value)}
  {go : ExprRef → EvaluatingOver N Value} {go' : ExprRef → EvaluatingOver N' Value}

theorem forM {items : List α} {f : α → EvaluatingOver N Unit} {g : α → EvaluatingOver N' Unit}
    (h : ∀ a, R.Rel (fun _ => True) (f a) (g a)) :
    R.Rel (fun _ => True) (items.forM f) (items.forM g) := by
  induction items with
  | nil => exact R.pure trivial
  | cons a rest ih => exact R.bind (h a) fun _ _ => ih

theorem foldlM {A : β → Prop} {items : List α} {f : β → α → EvaluatingOver N β}
    {g : β → α → EvaluatingOver N' β} (h : ∀ c a, R.Rel A (f c a) (g c a)) {c : β} (hc : A c) :
    R.Rel A (items.foldlM f c) (items.foldlM g c) := by
  induction items generalizing c with
  | nil => exact R.pure hc
  | cons a rest ih =>
    rw [List.foldlM_cons, List.foldlM_cons]
    exact R.bind (h c a) fun _ hc' => ih hc'

/-- Calls of functions that can be called compare. -/
def Calls (R : Comparison N N') (m : Interpreter)
    (call : Declaration → Option Value → List Value → N (Except Unwind Value))
    (call' : Declaration → Option Value → List Value → N' (Except Unwind Value)) : Prop :=
  ∀ callee d target values, m.declaration? callee = some d → (∀ v, target = some v → R.value v) →
    (∀ v ∈ values, R.value v) →
    R.Rel R.value (Interpreter.calling call d target values)
      (Interpreter.calling call' d target values)

/-- The values that come up in a frame with the receiver `self` have the property, and messages
about such values may be read. -/
structure Admits (R : Comparison N N') (m : Interpreter) (b : Body) (this : Option Value) :
    Prop where
  messages : ∀ e : EvalError, e.Begun R.value → R.Readable (e.worded m.program.pools.names)
  constants : ∀ x ∈ b.nodes, ∀ c, x.form = .const c → R.value (.ofConstant c)
  objects : ∀ s k, m.program.constructor? s = some k → R.value (.object k.type)
  receiver : ∀ v, this = some v → R.value v

/-- A value, or unit where there is none. -/
theorem value_getD {found : Option Value} (h : ∀ v, found = some v → R.value v) :
    R.value (found.getD .unit) := by
  cases found with
  | none => exact R.plain .unit trivial
  | some v => exact h v rfl

/-- Evaluations that stop with the same error compare. -/
theorem stop (hm : R.Admits m b self) {e : EvalError} (he : e.Begun R.value) :
    R.Rel R.value (m.stop e) (m.stop e) := by
  refine R.bind (R.read (hm.messages e he)) fun e' he' => R.throw ?_
  rw [(EvalError.eq_of_worded he').1]
  exact he

theorem callBound (hcalls : R.Calls m call call') (callee : FunctionSymbol)
    {receiver : Option Value} (hreceiver : ∀ v, receiver = some v → R.value v)
    {bound : List (ParamSymbol × Value)} (hbound : ∀ pair ∈ bound, R.value pair.2) :
    R.Rel R.value (m.callBound call callee receiver bound)
      (m.callBound call' callee receiver bound) := by
  unfold Interpreter.callBound
  cases hd : m.declaration? callee with
  | none => exact R.throw trivial
  | some d =>
    dsimp only
    cases hroute : Interpreter.route d.params bound with
    | error e =>
      refine R.throw ?_
      rcases Interpreter.error_of_route hroute with ⟨p, rfl⟩ | ⟨expected, found, rfl⟩ <;>
        exact trivial
    | ok values =>
      refine hcalls callee d receiver values hd hreceiver fun v hv => ?_
      obtain ⟨p, hp⟩ := Interpreter.mem_of_route hroute v hv
      exact hbound _ hp

variable [LawfulMonad N] [LawfulMonad N']

theorem weaken {A B : α → Prop} {x : EvaluatingOver N α} {y : EvaluatingOver N' α}
    (h : R.Rel A x y) (hAB : ∀ a, A a → B a) : R.Rel B x y := by
  have hbind : R.Rel B (x >>= Pure.pure) (y >>= Pure.pure) :=
    R.bind h fun a ha => R.pure (hAB a ha)
  rwa [bind_pure, bind_pure] at hbind

theorem mapM {A : β → Prop} {items : List α} {f : α → EvaluatingOver N β}
    {g : α → EvaluatingOver N' β} (h : ∀ a, R.Rel A (f a) (g a)) :
    R.Rel (fun results => ∀ r ∈ results, A r) (items.mapM f) (items.mapM g) := by
  induction items with
  | nil => exact R.pure (by simp)
  | cons a rest ih =>
    rw [List.mapM_cons, List.mapM_cons]
    refine R.bind (h a) fun r hr => R.bind ih fun rs hrs => R.pure ?_
    exact List.forall_mem_cons.2 ⟨hr, hrs⟩

theorem evalOptional (h : ∀ e, R.Rel R.value (go e) (go' e)) (e : ExprRef) :
    R.Rel (fun found => ∀ v, found = some v → R.value v) (Interpreter.evalOptional go e)
      (Interpreter.evalOptional go' e) := by
  cases e with
  | none => exact R.pure fun v hv => by cases hv
  | some e =>
    rw [Interpreter.evalOptional, Interpreter.evalOptional, map_eq_pure_bind, map_eq_pure_bind]
    refine R.bind (h (some e)) fun v hv => R.pure fun w hw => ?_
    exact Option.some.inj hw ▸ hv

/-- A node compares with itself if what it refers to and what it calls does. -/
theorem evalForm (hm : R.Admits m b self) (hcalls : R.Calls m call call')
    (hgo : ∀ e, R.Rel R.value (go e) (go' e)) {x : Expr} (hx : x ∈ b.nodes) :
    R.Rel R.value (m.evalForm call b self go x.form) (m.evalForm call' b self go' x.form) := by
  cases hform : x.form with
  | const c => exact R.pure (hm.constants x hx c hform)
  | param p =>
    refine R.bind R.bindings fun l hl => ?_
    cases hp : l.get? p with
    | some v => exact R.pure (hl p v hp)
    | none => exact R.throw trivial
  | self owner =>
    cases hself : self with
    | some v => exact R.pure (hm.receiver v hself)
    | none => exact R.throw trivial
  | call callee receiver arguments =>
    refine R.bind (evalOptional hgo receiver) fun target htarget => ?_
    refine R.bind (R.read (R.nameless (.span _ _))) fun items _ =>
      R.bind (mapM fun a => ?_) fun bound hbound =>
        callBound hcalls callee htarget hbound
    exact R.bind (hgo a.value) fun v hv => R.pure hv
  | new constr arguments =>
    refine R.bind (R.read (R.nameless (.span _ _))) fun items _ =>
      R.bind (forM fun a => ?_) fun _ _ => ?_
    · exact R.bind (hgo a.value) fun _ _ => R.pure trivial
    · cases hk : m.program.constructor? constr with
      | none => exact R.throw trivial
      | some k => exact R.pure (hm.objects constr k hk)
  | block statements =>
    exact R.bind (R.read (R.nameless (.span _ _))) fun items _ =>
      foldlM (fun _ s => hgo s) (R.plain .unit trivial)
  | ret target value =>
    exact R.bind (evalOptional hgo value) fun found hfound => R.throw (value_getD hfound)
  | attempt block handlers =>
    refine R.catching (hgo block) fun exception hexception => ?_
    refine R.bind (R.read (R.nameless (.span _ _))) fun items _ =>
      R.bind (R.read (R.nameless (.firstAccepting m _ _))) fun found _ => ?_
    cases found with
    | none => exact R.throw hexception
    | some h => exact R.handle hexception (hgo h.block)
  | raise exception =>
    refine R.bind (hgo exception) fun v hv => ?_
    split
    · exact R.throw hv
    · exact stop hm hv
  | elvis left right =>
    refine R.bind (hgo left) fun v hv => ?_
    split
    · exact hgo right
    · exact R.pure hv
  | branch condition yes no =>
    refine R.bind (hgo condition) fun v hv => ?_
    split
    · exact hgo yes
    · exact R.bind (evalOptional hgo no) fun found hfound => R.pure (value_getD hfound)
    · exact stop hm hv
  | binary op left right =>
    refine R.bind (hgo left) fun v hv => R.bind (hgo right) fun w hw => ?_
    cases happly : op.apply v w with
    | ok u => exact R.pure (R.plain u (BinaryOp.plain_of_apply happly))
    | error e =>
      refine R.throw ?_
      rcases BinaryOp.error_of_apply happly with rfl | rfl
      · exact ⟨hv, hw⟩
      · exact trivial

/-- A place compares with itself if calls do.  The induction is on the nodes that a path may still
visit. -/
theorem eval (hm : R.Admits m b self) (hcalls : R.Calls m call call') (fuel : Nat) (e : ExprRef) :
    R.Rel R.value (m.eval call b self fuel e) (m.eval call' b self fuel e) := by
  induction fuel generalizing e with
  | zero =>
    have hendless : Nameless (.error .endless : Except Fault Value) := nofun
    exact weaken (R.read (R.nameless hendless)) fun a h => by cases h
  | succ fuel ih =>
    refine R.bind (R.read (R.nameless (.node b e))) fun x hx => evalForm hm hcalls ih ?_
    exact Body.mem_nodes_of_node? (orFault_eq_ok_iff.1 hx)

end Comparison

end Companions
