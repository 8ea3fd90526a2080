import Companions.Proofs.Body.References
import Companions.Proofs.Eval.Steps
set_option autoImplicit false

/-!
# What a node can end in

Most ways to end are handed on from what a node refers to.  Here is said once which ways a node has
of its own: the unwindings that it can begin (`Interpreter.Raises`) and the faults that it can meet
(`Interpreter.Faults`).  A contract that allows these is kept by the node, if it is kept by what the
node refers to (`evalForm_keeps`), and so a contract is kept by a place if all nodes on the paths
from there allow it (`eval_keeps`).

Besides, the message of an error may ask for a name that is not known.  Every contract here tolerates
that fault (`Interpreter.Tolerates`).

A contract may depend on what is readable: it asks of the bindings what holds where a scope is
readable, and a handler has to bring about what holds in its block.
-/

namespace Companions

namespace Interpreter

/-- The ways to unwind that a node can begin itself in a frame with the receiver `self`, where the
bindings are `l` and calls end as `call` says. -/
inductive Raises (m : Interpreter) (call : Declaration → Option Value → List Value → Outcome)
    (b : Body) (self : Option Value) (l : Locals) : ExprForm → Unwind → Prop
  | unboundParam {p : ParamSymbol} (unbound : l.get? p = none) :
      Raises m call b self l (.param p) (.error (.unboundParam p))
  | noReceiver {type : ClassId} (absent : self = none) :
      Raises m call b self l (.self type) (.error .noReceiver)
  | unknownFunction {callee : FunctionSymbol} {receiver : ExprRef} {arguments : Span .arguments}
      (unknown : m.declaration? callee = none) :
      Raises m call b self l (.call callee receiver arguments) (.error (.unknownFunction callee))
  /-- The arguments do not reach the parameters. -/
  | misrouted {callee : FunctionSymbol} {receiver : ExprRef} {arguments : Span .arguments}
      {d : Declaration} {bound : List (ParamSymbol × Value)} {e : EvalError}
      (found : m.declaration? callee = some d)
      (named : bound.map (·.1) = (Body.items b.arguments arguments).map (·.param))
      (failed : route d.params bound = .error e) :
      Raises m call b self l (.call callee receiver arguments) (.error e)
  /-- The function that is called unwinds. -/
  | called {callee : FunctionSymbol} {receiver : ExprRef} {arguments : Span .arguments}
      {d : Declaration} {target : Option Value} {values : List Value} {u : Unwind}
      (found : m.declaration? callee = some d) (complete : values.length = d.params.length)
      (unwound : call d target values = .ok (.error u)) :
      Raises m call b self l (.call callee receiver arguments) u
  | unknownConstructor {constr : ConstructorSymbol} {arguments : Span .arguments}
      (unknown : m.program.constructor? constr = none) :
      Raises m call b self l (.new constr arguments) (.error (.unknownConstructor constr))
  | returned {target : LabelId} {value : ExprRef} {v : Value} :
      Raises m call b self l (.ret target value) (.ret target v)
  | thrown {exception : ExprRef} {v : Value} (throwable : m.isThrowable v = true) :
      Raises m call b self l (.raise exception) (.thrown v)
  | notThrowable {exception : ExprRef} {v : Value} :
      Raises m call b self l (.raise exception) (.error (.notThrowable v))
  | nonBoolCondition {condition yes no : ExprRef} {v : Value} :
      Raises m call b self l (.branch condition yes no) (.error (.nonBoolCondition v))
  | operator {op : BinaryOp} {left right : ExprRef} {v w : Value} {e : EvalError}
      (failed : op.apply v w = .error e) :
      Raises m call b self l (.binary op left right) (.error e)

/-- A fault that there may be, or that of asking for an unknown name. -/
def Tolerates (m : Interpreter) (mayFault : Prop) (fault : Fault) : Prop :=
  mayFault ∨ m.program.pools.names.Lacks fault

/-- The node can meet a fault itself, other than that of asking for an unknown name. -/
inductive Faults (m : Interpreter) (call : Declaration → Option Value → List Value → Outcome)
    (b : Body) : ExprForm → Prop
  | span {form : ExprForm} (misfit : ¬ b.FormFits form) : Faults m call b form
  /-- The pool does not know the type of a handler. -/
  | handlerType {form : ExprForm} {h : Handler} (listed : h ∈ b.handlersOf form)
      (unknown : m.program.pools.types.contains h.param.type = false) : Faults m call b form
  /-- The function that is called faults. -/
  | called {callee : FunctionSymbol} {receiver : ExprRef} {arguments : Span .arguments}
      {d : Declaration} {target : Option Value} {values : List Value} {fault : Fault}
      (found : m.declaration? callee = some d) (faulted : call d target values = .error fault)
      (other : ¬ m.program.pools.names.Lacks fault) :
      Faults m call b (.call callee receiver arguments)

end Interpreter

/-- A call faults as it may, or else ends with a value or in one of the ways of `I`. -/
def Outcome.Ends (mayFault : Fault → Prop) (I : Unwind → Prop) (outcome : Outcome) : Prop :=
  (∃ fault, outcome = .error fault ∧ mayFault fault) ∨
    ∃ r, outcome = .ok r ∧ ∀ u, r = .error u → I u

theorem Outcome.Ends.of_unwind {mayFault : Fault → Prop} {I : Unwind → Prop} {outcome : Outcome}
    {u : Unwind}
    (h : Outcome.Ends mayFault I outcome) (hu : outcome = .ok (.error u)) : I u := by
  rcases h with ⟨fault, hfault, -⟩ | ⟨r, hr, hunwinds⟩
  · rw [hu] at hfault
    cases hfault
  · rw [hu] at hr
    cases hr
    exact hunwinds u rfl

theorem Outcome.Ends.of_fault {mayFault : Fault → Prop} {I : Unwind → Prop} {outcome : Outcome}
    {fault : Fault} (h : Outcome.Ends mayFault I outcome) (hfault : outcome = .error fault) :
    mayFault fault := by
  rcases h with ⟨_, heq, hmay⟩ | ⟨r, hr, -⟩
  · exact Except.error.inj (hfault.symm.trans heq) ▸ hmay
  · rw [hfault] at hr
    cases hr

theorem Outcome.Ends.of_error {mayFault : Fault → Prop} {I : Unwind → Prop} {e : EvalError}
    (h : I (.error e)) : Outcome.Ends mayFault I (.ok (.error (.error e))) := by
  refine .inr ⟨_, rfl, fun u hu => ?_⟩
  cases hu
  exact h

/-- A call that is not started ends in an error, or its message asks for an unknown name. -/
theorem Outcome.Ends.failing {m : Interpreter} {mayFault : Prop} {I : Unwind → Prop}
    {e : EvalError} (h : I (.error e)) :
    Outcome.Ends (m.Tolerates mayFault) I (m.failing e) := by
  rcases m.failing_cases e with hok | ⟨n, -, hfault, hunknown⟩
  · exact hok ▸ .of_error h
  · exact .inl ⟨_, hfault, .inr ⟨n, rfl, hunknown⟩⟩

/-- What is asked of the bindings around a handler holds in its block with the handler's parameter
bound, and again behind the handler. -/
structure Handler.Carries (h : Handler) (P : List ParamSymbol → Locals → Prop)
    (scope : List ParamSymbol) : Prop where
  enter : ∀ l v, P scope l → P (h.param.symbol :: scope) (l.bind h.param.symbol v)
  leave : ∀ l, P (h.param.symbol :: scope) l → P scope (l.unbind h.param.symbol)

/-- Operators fail on operands of other types and where the result does not fit. -/
theorem BinaryOp.error_of_apply {op : BinaryOp} {v w : Value} {e : EvalError}
    (h : op.apply v w = .error e) : e = .typeMismatch op v w ∨ e = .integerOverflow op := by
  have hexactly : ∀ n, exactly op n = .error e → e = .integerOverflow op := by
    intro n hn
    unfold exactly at hn
    split at hn <;> cases hn
    rfl
  unfold apply at h
  split at h
  · cases h
  · cases h
  · split at h
    · unfold onInts at h
      split at h
      · exact .inr (hexactly _ h)
      · exact .inr (hexactly _ h)
      all_goals cases h
    · cases h
      exact .inl rfl

namespace Interpreter

variable {m : Interpreter} {call : Declaration → Option Value → List Value → Outcome} {b : Body}
  {self : Option Value} {mayFault : Prop} {P : List ParamSymbol → Locals → Prop}
  {I : Unwind → Prop} {scope : List ParamSymbol} {form : ExprForm}

/-- A contract allows what the node does itself, where `scope` is readable. -/
structure Allows (m : Interpreter) (call : Declaration → Option Value → List Value → Outcome)
    (b : Body) (this : Option Value) (mayFault : Prop) (P : List ParamSymbol → Locals → Prop)
    (I : Unwind → Prop) (scope : List ParamSymbol) (form : ExprForm) : Prop where
  raises : ∀ l u, P scope l → m.Raises call b this l form u → I u
  faults : m.Faults call b form → mayFault
  handlers : ∀ h ∈ b.handlersOf form, h.Carries P scope

/-- What is there to be read, unless there may be a fault, is read as the contract has it. -/
theorem tolerates_of_faults {α : Type} {x : Except Fault α} (h : ¬ mayFault → ∃ a, x = .ok a) :
    ∀ fault, x = .error fault → m.Tolerates mayFault fault := by
  intro fault hx
  refine .inl (Classical.not_not.1 fun hmay => ?_)
  obtain ⟨a, ha⟩ := h hmay
  rw [hx] at ha
  cases ha

/-! ## Handlers -/

theorem accepts_ok (classes : List ClassId) {h : Handler}
    (htype : m.program.pools.types.contains h.param.type = true) :
    ∃ a, m.accepts classes h = .ok a := by
  obtain ⟨t, ht⟩ := TypePool.contains_iff.1 htype
  obtain ⟨kind, nullability⟩ := t
  cases kind <;>
    simp [accepts, TypePool.classOf, TypePool.get, ht, bind, Except.bind, pure, Except.pure]

/-- Looking for a handler succeeds if the types of the handlers are known. -/
theorem firstAccepting_ok {classes : List ClassId} {handlers : List Handler}
    (h : ∀ h ∈ handlers, m.program.pools.types.contains h.param.type = true) :
    ∃ found, m.firstAccepting classes handlers = .ok found := by
  induction handlers with
  | nil => exact ⟨none, rfl⟩
  | cons first rest ih =>
    obtain ⟨accepted, haccepts⟩ := accepts_ok classes (h first List.mem_cons_self)
    obtain ⟨found, hrest⟩ := ih fun h' hh' => h h' (List.mem_cons_of_mem _ hh')
    cases accepted <;> simp [firstAccepting, haccepts, hrest, bind, Except.bind, pure, Except.pure]

theorem mem_of_firstAccepting {classes : List ClassId} {handlers : List Handler} {h : Handler}
    (hfound : m.firstAccepting classes handlers = .ok (some h)) : h ∈ handlers := by
  induction handlers with
  | nil => cases hfound
  | cons first rest ih =>
    simp only [firstAccepting, bind, Except.bind] at hfound
    split at hfound
    · cases hfound
    · split at hfound
      · cases hfound
        exact List.mem_cons_self
      · exact List.mem_cons_of_mem _ (ih hfound)

/-! ## Calls -/

theorem length_of_pick {bound : List (ParamSymbol × Value)} {params : List Parameter}
    {values : List Value} (h : pick bound params = .ok values) :
    values.length = params.length := by
  induction params generalizing values with
  | nil =>
    cases h
    rfl
  | cons p rest ih =>
    rw [pick] at h
    cases hlookup : bound.lookup p.symbol with
    | none =>
      rw [hlookup] at h
      cases h
    | some v =>
      rw [hlookup] at h
      cases hrest : pick bound rest with
      | error e =>
        rw [hrest] at h
        cases h
      | ok values' =>
        rw [hrest] at h
        cases h
        rw [List.length_cons, List.length_cons, ih hrest]

theorem error_of_pick {bound : List (ParamSymbol × Value)} {params : List Parameter}
    {e : EvalError} (h : pick bound params = .error e) : ∃ p, e = .missingArgument p := by
  induction params with
  | nil => cases h
  | cons p rest ih =>
    rw [pick] at h
    cases hlookup : bound.lookup p.symbol with
    | none =>
      rw [hlookup] at h
      cases h
      exact ⟨p.symbol, rfl⟩
    | some v =>
      rw [hlookup] at h
      cases hrest : pick bound rest with
      | ok values =>
        rw [hrest] at h
        cases h
      | error e' =>
        rw [hrest] at h
        cases h
        exact ih hrest

/-- A function is called with a value for each of its parameters. -/
theorem length_of_route {params : List Parameter} {bound : List (ParamSymbol × Value)}
    {values : List Value} (h : route params bound = .ok values) :
    values.length = params.length := by
  unfold route at h
  cases hpick : pick bound params with
  | error e =>
    rw [hpick] at h
    cases h
  | ok values' =>
    rw [hpick] at h
    simp only [bind, Except.bind, pure, Except.pure] at h
    split at h
    · cases h
      exact length_of_pick hpick
    · cases h

/-- Arguments fail to reach the parameters for want of one or for their number. -/
theorem error_of_route {params : List Parameter} {bound : List (ParamSymbol × Value)}
    {e : EvalError} (h : route params bound = .error e) :
    (∃ p, e = .missingArgument p) ∨ ∃ expected found, e = .argumentCount expected found := by
  unfold route at h
  cases hpick : pick bound params with
  | error e' =>
    rw [hpick] at h
    cases h
    exact .inl (error_of_pick hpick)
  | ok values =>
    rw [hpick] at h
    simp only [bind, Except.bind, pure, Except.pure] at h
    split at h
    · cases h
    · cases h
      exact .inr ⟨_, _, rfl⟩

variable {go : ExprRef → Evaluating Value}

theorem evalOptional_keeps {e : ExprRef} {P : Locals → Prop}
    (h : ∀ v, e = some v → Evaluating.Keeps (m.Tolerates mayFault) P I (go e)) :
    Evaluating.Keeps (m.Tolerates mayFault) P I (evalOptional go e) := by
  cases e with
  | none => exact .pure none
  | some v => exact (h v rfl).map some

/-- The arguments of a call end in values that carry the names of the arguments. -/
theorem gives_named (arguments : List Argument) :
    Evaluating.Gives (fun bound => bound.map (·.1) = arguments.map (·.param))
      (arguments.mapM fun a => do return (a.param, ← go a.value)) := by
  have hitem : ∀ a ∈ arguments, Evaluating.Gives
      (fun pair : ParamSymbol × Value => a.param = pair.1)
      (do return (a.param, ← go a.value)) :=
    fun a _ => (Evaluating.Gives.any (go a.value)).bind fun v _ => .pure rfl
  intro l bound l' hrun
  have hnamed := Evaluating.Gives.mapM hitem l bound l' hrun
  exact (List.forall₂_eq_eq_eq ▸ (List.forall₂_map_left_iff.2 (List.forall₂_map_right_iff.2
    hnamed)) : arguments.map (·.param) = bound.map (·.1)).symm

theorem callBound_keeps {callee : FunctionSymbol} {receiver : ExprRef}
    {arguments : Span .arguments} {target : Option Value} {bound : List (ParamSymbol × Value)}
    (hallows : m.Allows call b self mayFault P I scope (.call callee receiver arguments))
    (hnamed : bound.map (·.1) = (Body.items b.arguments arguments).map (·.param)) :
    Evaluating.Keeps (m.Tolerates mayFault) (P scope) I
      (m.callBound call callee target bound) := by
  unfold callBound
  cases hd : m.declaration? callee with
  | none => exact .throw fun l hl => hallows.raises l _ hl (.unknownFunction hd)
  | some d =>
    dsimp only
    cases hroute : route d.params bound with
    | error e => exact .throw fun l hl => hallows.raises l _ hl (.misrouted hd hnamed hroute)
    | ok values =>
      dsimp only
      cases hcall : call d target values with
      | error fault =>
        refine .liftBind (fun fault' heq => ?_) fun r hr => by cases hr
        cases heq
        by_cases hlacks : m.program.pools.names.Lacks fault
        · exact .inr hlacks
        · exact .inl (hallows.faults (.called hd hcall hlacks))
      | ok r =>
        refine .resume fun l u hl hu => ?_
        rw [hu] at hcall
        exact hallows.raises l u hl (.called hd (length_of_route hroute) hcall)

/-- An error that comes up where the contract allows it keeps the contract. -/
theorem stop_keeps {e : EvalError} {P : Locals → Prop} (h : ∀ l, P l → I (.error e)) :
    Evaluating.Keeps (m.Tolerates mayFault) P I (m.stop e) := by
  refine .liftBind (fun fault hfault => .inr (EvalError.lacks_of_worded hfault)) fun e' he' => ?_
  rw [(EvalError.eq_of_worded he').1]
  exact .throw h

/-! ## Nodes -/

/-- A node keeps a contract that allows what it does itself, if what it refers to does. -/
theorem evalForm_keeps (hallows : m.Allows call b self mayFault P I scope form)
    (hgo : ∀ r ∈ b.references form,
      Evaluating.Keeps (m.Tolerates mayFault) (P (r.scope scope)) I (go r.place)) :
    Evaluating.Keeps (m.Tolerates mayFault) (P scope) I (m.evalForm call b self go form) := by
  have hfits : ¬ mayFault → b.FormFits form :=
    fun hnot => Classical.not_not.1 fun hmisfit => hnot (hallows.faults (.span hmisfit))
  cases form with
  | const value => exact .pure _
  | param p =>
    refine .getBind fun l hl => ?_
    cases hp : l.get? p with
    | some v => exact .pure v
    | none =>
      refine .throw fun l' hl' => ?_
      exact hallows.raises l _ hl (.unboundParam hp)
  | self owner =>
    cases hself : self with
    | some v => exact .pure v
    | none => exact .throw fun l hl => hallows.raises l _ hl (.noReceiver hself)
  | call callee receiver arguments =>
    refine .bind (evalOptional_keeps fun v hv => ?_) fun given => ?_
    · exact hgo (.plain receiver) (by simp [Body.references, hv])
    refine .liftBind (tolerates_of_faults fun hmay => ⟨_, Body.read_of_fits (hfits hmay)⟩)
      fun args hargs => ?_
    rw [← Body.items_of_read hargs]
    refine .bindGives (.mapM fun a ha => ?_) (gives_named _) fun bound hnamed =>
      callBound_keeps hallows hnamed
    exact (hgo (.plain a.value)
      (List.mem_append_right _ (List.mem_map_of_mem ha))).bind fun v => .pure _
  | new constr arguments =>
    refine .liftBind (tolerates_of_faults fun hmay => ⟨_, Body.read_of_fits (hfits hmay)⟩)
      fun args hargs => ?_
    refine .bind (.forM fun a ha => ?_) fun _ => ?_
    · rw [← Body.items_of_read hargs] at ha
      exact (hgo (.plain a.value) (List.mem_map_of_mem ha)).bind fun _ => .pure _
    cases hk : m.program.constructor? constr with
    | none => exact .throw fun l hl => hallows.raises l _ hl (.unknownConstructor hk)
    | some k => exact .pure _
  | block statements =>
    refine .liftBind (tolerates_of_faults fun hmay => ⟨_, Body.read_of_fits (hfits hmay)⟩)
      fun items hitems => ?_
    refine .foldlM (fun c hc _ => ?_) _
    rw [← Body.items_of_read hitems] at hc
    exact hgo (.plain c) (List.mem_map_of_mem hc)
  | ret target value =>
    refine .bind (evalOptional_keeps fun v hv => ?_) fun _ => ?_
    · exact hgo (.plain value) (by simp [Body.references, hv])
    · exact .throw fun l hl => hallows.raises l _ hl .returned
  | attempt block handlers =>
    refine .outcomeBind (hgo (.plain block) (by simp [Body.references])) fun r hr => ?_
    split
    · next exception =>
      refine .liftBind (tolerates_of_faults fun hmay => ⟨_, Body.read_of_fits (hfits hmay)⟩)
        fun items hitems => ?_
      rw [← Body.items_of_read hitems]
      refine .liftBind (tolerates_of_faults fun hmay => ?_) fun found hfound => ?_
      · refine firstAccepting_ok fun h hh => ?_
        cases htype : m.program.pools.types.contains h.param.type with
        | true => rfl
        | false => exact absurd (hallows.faults (.handlerType hh htype)) hmay
      · cases found with
        | none => exact .throw fun _ _ => hr _ rfl
        | some h =>
          have hmem : h ∈ b.handlersOf (.attempt block handlers) := mem_of_firstAccepting hfound
          have hcarries := hallows.handlers h hmem
          exact .bracket (fun l hl => hcarries.enter l exception hl)
            (hgo (.handling h) (Body.handling_mem_references hmem)) hcarries.leave
    · exact .resume fun _ u _ hu => hr u hu
  | raise exception =>
    refine (hgo (.plain exception) (by simp [Body.references])).bind fun v => ?_
    split
    · next h => exact .throw fun l hl => hallows.raises l _ hl (.thrown h)
    · exact stop_keeps fun l hl => hallows.raises l _ hl .notThrowable
  | elvis left right =>
    refine (hgo (.plain left) (by simp [Body.references])).bind fun v => ?_
    split
    · exact hgo (.plain right) (by simp [Body.references])
    · exact .pure v
  | branch condition yes no =>
    refine (hgo (.plain condition) (by simp [Body.references])).bind fun v => ?_
    split
    · exact hgo (.plain yes) (by simp [Body.references])
    · refine .bind (evalOptional_keeps fun v hv => ?_) fun _ => .pure _
      exact hgo (.plain no) (by simp [Body.references, hv])
    · exact stop_keeps fun l hl => hallows.raises l _ hl .nonBoolCondition
  | binary op left right =>
    refine (hgo (.plain left) (by simp [Body.references])).bind fun v => ?_
    refine (hgo (.plain right) (by simp [Body.references])).bind fun w => ?_
    cases happly : op.apply v w with
    | ok value => exact .pure value
    | error e => exact .throw fun l hl => hallows.raises l _ hl (.operator happly)

/-- Evaluating a place keeps a contract that all nodes on the paths from there allow.  If there may
be no fault, the paths have to lead to nodes only and to be no longer than they are followed.  The
induction is on the nodes that a path may still visit. -/
theorem eval_keeps (fuel : Nat) (scope : List ParamSymbol) (e : ExprRef)
    (hnodes : ∀ scope' e' x, b.Path scope e scope' e' → b.node? e' = some x →
      m.Allows call b self mayFault P I scope' x.form)
    (hplaces : ¬ mayFault → ∀ scope' e', b.Path scope e scope' e' → b.contains e' = true)
    (hdepth : ¬ mayFault → b.WithinDepth fuel e) :
    Evaluating.Keeps (m.Tolerates mayFault) (P scope) I (m.eval call b self fuel e) := by
  induction fuel generalizing scope e with
  | zero =>
    exact .lift (x := .error .endless) (tolerates_of_faults fun hmay => (hdepth hmay).elim)
  | succ fuel ih =>
    cases hx : b.node? e with
    | none =>
      rw [eval_of_none hx]
      refine .lift (x := .error _) (tolerates_of_faults fun hmay => ?_)
      obtain ⟨x, hx'⟩ := Body.contains_iff.1 (hplaces hmay scope e (.here scope e))
      rw [hx] at hx'
      cases hx'
    | some x =>
      rw [eval_of_node hx]
      refine evalForm_keeps (hnodes scope e x (.here scope e) hx) fun r hr => ?_
      refine ih (r.scope scope) r.place ?_ ?_ ?_
      · exact fun scope' e' x' hpath => hnodes scope' e' x' (.step hx hr hpath)
      · exact fun hmay scope' e' hpath => hplaces hmay scope' e' (.step hx hr hpath)
      · exact fun hmay => (hdepth hmay).reference hx hr

/-! ## Functions -/

theorem size_lt_budget (m : Interpreter) (b : Body) : b.size + 1 ≤ m.budget b :=
  Nat.le_mul_of_pos_right _ (Nat.pow_pos (Nat.succ_pos _))

/-- A call ends as the evaluation of the body does, once that has landed. -/
theorem invoke_ends_of_keeps {d : Declaration} {arguments : List Value} {room : Nat}
    {Q : Locals → Prop} {J : Unwind → Prop} (hbody : d.body = some b)
    (hroot : b.contains b.root = true)
    (hkeeps : Evaluating.Keeps (m.Tolerates mayFault) Q I
      (m.eval (m.invoke room) b self (m.budget b) b.root))
    (hframe : Q (Locals.ofArguments d.params arguments))
    (hland : ∀ r, (∀ u, r = .error u → I u) → ∀ u, land d b r = .error u → J u) :
    Outcome.Ends (m.Tolerates mayFault) J (m.invoke (room + 1) d self arguments) := by
  rw [invoke_succ hbody hroot]
  rcases hkeeps _ hframe with ⟨fault, hrun, hmay⟩ | ⟨r, l, hrun, -, hunwinds⟩
  · exact .inl ⟨fault, by rw [hrun]; rfl, hmay⟩
  · exact .inr ⟨land d b r, by rw [hrun]; rfl, hland r hunwinds⟩

end Interpreter

end Companions
