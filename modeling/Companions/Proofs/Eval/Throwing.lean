import Companions.Proofs.Eval.Nodes
set_option autoImplicit false

/-!
# What running a function can end in

Only objects that can be thrown are ever thrown, whatever is run: `throw` looks before it unwinds,
and everything else hands on what it was given.  And running does not fault where nothing that it
reads is missing (`Body.Runnable`), unless the message of an error asks for an unknown name.  Both
are said of a whole run at once (`Interpreter.invoke_ends`), because the same induction carries them:
on the nodes along a path, and on the calls that are active.  What is to be looked at is what a node
does itself.
-/

namespace Companions

/-- Nothing that running the body reads is missing, and running comes to an end. -/
structure Body.Runnable (types : TypePool) (b : Body) : Prop where
  acyclic : b.Acyclic
  spans : b.SpansFit
  /-- Nodes refer to nodes. -/
  closed : ∀ x ∈ b.nodes, ∀ r ∈ b.references x.form, b.contains r.place = true
  handlers : ∀ h ∈ b.handlers, types.contains h.param.type = true

/-- In a runnable body, paths lead from nodes to nodes. -/
theorem Body.Runnable.contains_of_path {types : TypePool} {b : Body} {scope scope' : List ParamSymbol}
    {e e' : ExprRef} (h : b.Runnable types) (hpath : b.Path scope e scope' e')
    (he : b.contains e = true) : b.contains e' = true := by
  induction hpath with
  | here => exact he
  | step hx hr _ ih => exact ih (h.closed _ (Body.mem_nodes_of_node? hx) _ hr)

/-- At the place `i` the spans of the node fit, and it refers to nodes before it. -/
def Body.RefersBack (b : Body) (i : Nat) (x : Expr) : Prop :=
  b.FormFits x.form ∧ ∀ r ∈ b.references x.form, ∃ c : ExprId, r.place = some c ∧ c.number < i

/-- A body is runnable if its spans fit and its nodes refer to nodes before them. -/
theorem Body.runnable_of_refersBack {types : TypePool} {b : Body}
    (hnodes : ∀ i x, b.nodes[i]? = some x → b.RefersBack i x)
    (hhandlers : ∀ h ∈ b.handlers, types.contains h.param.type = true) : b.Runnable types where
  acyclic := by
    refine Descends.acyclic fun i r hr c hc => ?_
    obtain ⟨c', hplace, hlt⟩ := (hnodes i _ (Array.getElem?_eq_getElem i.isLt)).2 r hr
    obtain rfl : c' = c := Option.some.inj (hplace.symm.trans hc)
    exact hlt
  spans x hx := by
    obtain ⟨i, hi⟩ := Array.getElem?_of_mem hx
    exact (hnodes i x hi).1
  closed x hx r hr := by
    obtain ⟨i, hi⟩ := Array.getElem?_of_mem hx
    obtain ⟨c, hplace, hlt⟩ := (hnodes i x hi).2 r hr
    obtain ⟨hsize, -⟩ := Array.getElem?_eq_some_iff.1 hi
    rw [hplace]
    exact decide_eq_true (Nat.lt_trans hlt hsize)
  handlers := hhandlers

namespace Interpreter

/-- A way to unwind that evaluation may take: an exception has to be throwable. -/
def Escapes (m : Interpreter) : Unwind → Prop
  | .thrown v => m.isThrowable v = true
  | _ => True

/-- A way to unwind that a call may take: a return has arrived. -/
def Leaves (m : Interpreter) : Unwind → Prop
  | .ret _ _ => False
  | u => m.Escapes u

/-- A call faults if it may, or else ends with a value or in a way that it may take. -/
def Ends (m : Interpreter) (mayFault : Prop) (outcome : Outcome) : Prop :=
  Outcome.Ends (m.Tolerates mayFault) m.Leaves outcome

/-- The functions that can be called are runnable. -/
def Runnable (m : Interpreter) : Prop :=
  ∀ s d b, m.declaration? s = some d → d.body = some b → b.Runnable m.program.pools.types

variable {m : Interpreter} {mayFault : Prop} {b : Body}
  {call : Declaration → Option Value → List Value → Outcome} {self : Option Value}

theorem Leaves.escapes {u : Unwind} (h : m.Leaves u) : m.Escapes u := by
  cases u with
  | ret label value => exact h.elim
  | thrown exception => exact h
  | error e => exact trivial

/-- A node throws only what can be thrown if the calls do, and it does not fault if the body is
runnable and the calls do not. -/
theorem allows_escapes {form : ExprForm} {scope : List ParamSymbol}
    (hcall : ∀ s d receiver arguments, m.declaration? s = some d →
      m.Ends mayFault (call d receiver arguments))
    (hb : ¬ mayFault → b.Runnable m.program.pools.types) (hfits : ¬ mayFault → b.FormFits form) :
    m.Allows call b self mayFault (fun _ _ => True) m.Escapes scope form where
  raises l u _ hraises := by
    cases hraises with
    | @called callee _ _ d target values _ found _ unwound =>
      have hleaves : m.Leaves u := (hcall callee d target values found).of_unwind unwound
      exact hleaves.escapes
    | thrown throwable => exact throwable
    | _ => exact trivial
  faults hfaults := by
    cases hfaults with
    | span misfit => exact Classical.not_not.1 fun hmay => misfit (hfits hmay)
    | @handlerType _ h listed unknown =>
      refine Classical.not_not.1 fun hmay => ?_
      have hknown := (hb hmay).handlers h (Body.mem_handlers_of_mem_handlersOf listed)
      rw [unknown] at hknown
      cases hknown
    | @called callee _ _ d target values fault found faulted other =>
      exact ((hcall callee d target values found).of_fault faulted).resolve_right other
  handlers _ _ := ⟨fun _ _ _ => trivial, fun _ _ => trivial⟩

/-- Evaluation throws only what can be thrown if the calls do, and it does not fault if the body is
runnable and the calls do not. -/
theorem eval_escapes
    (hcall : ∀ s d receiver arguments, m.declaration? s = some d →
      m.Ends mayFault (call d receiver arguments))
    (hb : ¬ mayFault → b.Runnable m.program.pools.types) (fuel : Nat) (e : ExprRef)
    (he : ¬ mayFault → b.contains e = true ∧ b.WithinDepth fuel e) :
    Evaluating.Keeps (m.Tolerates mayFault) (fun _ => True) m.Escapes
      (m.eval call b self fuel e) := by
  refine eval_keeps (P := fun _ _ => True) fuel [] e ?_ ?_ fun hmay => (he hmay).2
  · exact fun scope e' x _ hx => allows_escapes hcall hb fun hmay => (hb hmay).spans.node hx
  · exact fun hmay scope e' hpath => (hb hmay).contains_of_path hpath (he hmay).1

/-! ## Calls -/

/-- What has landed is no return any more. -/
theorem land_leaves {d : Declaration} {r : Except Unwind Value}
    (h : ∀ u, r = .error u → m.Escapes u) : ∀ u, land d b r = .error u → m.Leaves u := by
  intro u hland
  rcases land_cases hland with ⟨hu, hret⟩ | ⟨label, value, -, -, rfl⟩
  · cases u with
    | ret label value => exact absurd rfl (hret label value)
    | _ => exact h _ hu
  · exact trivial

/-- A function without a body that has a root is not started, and ends in an error. -/
theorem ends_of_started {room : Nat} {d : Declaration} {arguments : List Value}
    {I : Unwind → Prop} (hbody : I (.error (.missingBody d.id)))
    (hroot : I (.error (.missingRoot d.id)))
    (h : ∀ b, d.body = some b → b.contains b.root = true →
      Outcome.Ends (m.Tolerates mayFault) I (m.invoke room d self arguments)) :
    Outcome.Ends (m.Tolerates mayFault) I (m.invoke room d self arguments) := by
  rcases m.exists_root_or_error d with ⟨b, hb, hr⟩ | ⟨e, he, hinvoke⟩
  · exact h b hb hr
  · rw [hinvoke]
    rcases he with rfl | rfl
    · exact .failing hbody
    · exact .failing hroot

/-- A call throws only what can be thrown, and returns nowhere else than to its caller.  It does not
fault if all that can be called is runnable.  The induction is on the calls that may still become
active. -/
theorem invoke_ends (hm : ¬ mayFault → m.Runnable) (room : Nat) {d : Declaration}
    (hd : ¬ mayFault → ∀ b, d.body = some b → b.Runnable m.program.pools.types)
    (self : Option Value) (arguments : List Value) :
    m.Ends mayFault (m.invoke room d self arguments) := by
  induction room generalizing d self arguments with
  | zero =>
    refine ends_of_started trivial trivial fun b hbody hroot => ?_
    rw [invoke_zero hbody hroot]
    exact .of_error trivial
  | succ room ih =>
    refine ends_of_started trivial trivial fun b hbody hroot => ?_
    have hcall : ∀ s d' receiver values, m.declaration? s = some d' →
        m.Ends mayFault (m.invoke room d' receiver values) := fun s d' receiver values hd' =>
      ih (fun hmay b' hb' => hm hmay s d' b' hd' hb') receiver values
    have hplace : ¬ mayFault → b.contains b.root = true ∧ b.WithinDepth (m.budget b) b.root :=
      fun hmay => ⟨hroot, (Body.withinDepth_of_acyclic (hd hmay b hbody).acyclic _).mono
        (size_lt_budget m b)⟩
    have hkeeps : Evaluating.Keeps (m.Tolerates mayFault) (fun _ => True) m.Escapes
        (m.eval (m.invoke room) b self (m.budget b) b.root) :=
      eval_escapes hcall (fun hmay => hd hmay b hbody) _ _ hplace
    exact invoke_ends_of_keeps hbody hroot hkeeps trivial fun r => land_leaves

variable {room : Nat} {d : Declaration} {arguments : List Value}

/-- A call that does not fault ends in a way that it may take. -/
theorem leaves_of_invoke_eq_ok {r : Except Unwind Value}
    (h : m.invoke room d self arguments = .ok r) : ∀ u, r = .error u → m.Leaves u := by
  have hends : m.Ends True (m.invoke room d self arguments) :=
    invoke_ends (fun hnot => absurd trivial hnot) room (fun hnot => absurd trivial hnot) self
      arguments
  rcases hends with ⟨fault, hfault, -⟩ | ⟨r', hr', hleaves⟩
  · rw [hfault] at h
    cases h
  · rw [hr'] at h
    cases h
    exact hleaves

/-- A call comes to an end if all that can be called is runnable, unless the message of an error asks
for an unknown name. -/
theorem Runnable.exists_invoke_eq_ok (hm : m.Runnable)
    (hd : ∀ b, d.body = some b → b.Runnable m.program.pools.types) (room : Nat)
    (self : Option Value) (arguments : List Value) :
    (∃ r, m.invoke room d self arguments = .ok r) ∨
      ∃ fault, m.invoke room d self arguments = .error fault ∧
        m.program.pools.names.Lacks fault := by
  have hends : m.Ends False (m.invoke room d self arguments) :=
    invoke_ends (fun _ => hm) room (fun _ => hd) self arguments
  rcases hends with ⟨fault, hfault, hfalse | hlacks⟩ | ⟨r, hr, -⟩
  · exact hfalse.elim
  · exact .inr ⟨fault, hfault, hlacks⟩
  · exact .inl ⟨r, hr⟩

end Interpreter

end Companions
