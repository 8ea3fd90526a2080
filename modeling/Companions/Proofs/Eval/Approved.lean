import Companions.Proofs.Check.Approval
import Companions.Proofs.Eval.Nodes
set_option autoImplicit false

/-!
# Running what was approved

An evaluation follows the paths along which the check has walked.  So what an approval says of the
nodes on these paths holds of the nodes that are run, and no node is missing and no span out of
range when a safe body is run (`Surroundings.BodySafe.eval_keeps`).  An approval does not say that
the types of handlers are known.  They are looked up when an exception comes to the handlers
(`Declaration.HandlersKnown`).  Nor does it say that the names are known that the message of an error
asks for.
-/

namespace Companions

/-- The types of the handlers that the paths through the body of a function come to are known. -/
def Declaration.HandlersKnown (types : TypePool) (d : Declaration) : Prop :=
  ∀ b, d.body = some b → ∀ scope h, b.Offers (d.params.map (·.symbol)) scope h →
    types.contains h.param.type = true

/-- Some path through the body comes to a call of the function. -/
def Declaration.Calls (d : Declaration) (callee : FunctionSymbol) : Prop :=
  ∃ b scope e x receiver arguments, d.body = some b ∧
    b.Path (d.params.map (·.symbol)) b.root scope e ∧ b.node? e = some x ∧
    x.form = .call callee receiver arguments

/-- What the functions that the interpreter runs are checked against. -/
def Interpreter.surroundings (m : Interpreter) : Surroundings :=
  ⟨⟨m.declaration?, m.program.constructor?⟩, m.program.pools.types⟩

/-- Every function that can be called has passed the check, as a companion of some function. -/
def Interpreter.Approved (m : Interpreter) : Prop :=
  ∀ s d, m.declaration? s = some d → ∃ other, (m.surroundings.check d other).run = .ok (.ok ())

/-- A function that can be called in an approved interpreter has a safe body. -/
theorem Interpreter.Approved.exists_bodySafe {m : Interpreter} (hm : m.Approved)
    {s : FunctionSymbol} {d : Declaration} (hd : m.declaration? s = some d) :
    ∃ b, d.body = some b ∧ m.surroundings.BodySafe d b := by
  obtain ⟨other, happroved⟩ := hm s d hd
  exact Surroundings.exists_bodySafe happroved

/-- It is enough that the types of all handlers of the body are known. -/
theorem Declaration.HandlersKnown.of_all {types : TypePool} {d : Declaration}
    (h : ∀ b, d.body = some b → ∀ h ∈ b.handlers, types.contains h.param.type = true) :
    d.HandlersKnown types := by
  rintro b hbody scope handler ⟨e, x, -, -, hlisted⟩
  exact h b hbody handler (Body.mem_handlers_of_mem_handlersOf hlisted)

namespace Surroundings

variable {s : Surroundings} {d : Declaration} {b : Body} {m : Interpreter}
  {call : Declaration → Option Value → List Value → Outcome} {self : Option Value}
  {mayFault : Prop}

/-- A node of a safe body faults only where a call does, or for want of the type of a handler. -/
theorem BodySafe.mayFault_of_faults (h : s.BodySafe d b) (hbody : d.body = some b)
    (hcall : ∀ callee d' target values fault, d.Calls callee →
      m.declaration? callee = some d' → call d' target values = .error fault →
        m.Tolerates mayFault fault)
    (hhandlers : ¬ mayFault → d.HandlersKnown m.program.pools.types) {scope : List ParamSymbol}
    {e : ExprRef} {x : Expr} (hpath : b.Path (d.params.map (·.symbol)) b.root scope e)
    (hx : b.node? e = some x) (hfaults : m.Faults call b x.form) : mayFault := by
  generalize hform : x.form = form at hfaults
  cases hfaults with
  | span misfit => exact absurd (hform ▸ h.spans scope e x hpath hx) misfit
  | @handlerType _ handler listed unknown =>
    refine Classical.not_not.1 fun hmay => ?_
    have hknown := hhandlers hmay b hbody scope handler ⟨e, x, hpath, hx, hform ▸ listed⟩
    rw [unknown] at hknown
    cases hknown
  | called found faulted other =>
    have hmay := hcall _ _ _ _ _ ⟨b, scope, e, x, _, _, hbody, hpath, hx, hform⟩ found faulted
    exact hmay.resolve_right other

/-- Evaluating a safe body keeps a contract if the nodes on its paths unwind in the ways of the
contract, and its handlers carry over what the contract asks of the bindings. -/
theorem BodySafe.eval_keeps {P : List ParamSymbol → Locals → Prop} {I : Unwind → Prop}
    (h : s.BodySafe d b) (hbody : d.body = some b)
    (hcall : ∀ callee d' target values fault, d.Calls callee →
      m.declaration? callee = some d' → call d' target values = .error fault →
        m.Tolerates mayFault fault)
    (hhandlers : ¬ mayFault → d.HandlersKnown m.program.pools.types)
    (hraises : ∀ scope e x, b.Path (d.params.map (·.symbol)) b.root scope e →
      b.node? e = some x → ∀ l u, P scope l → m.Raises call b self l x.form u → I u)
    (hcarries : ∀ scope handler, b.Offers (d.params.map (·.symbol)) scope handler →
      handler.Carries P scope) :
    Evaluating.Keeps (m.Tolerates mayFault) (P (d.params.map (·.symbol))) I
      (m.eval call b self (m.budget b) b.root) := by
  refine Interpreter.eval_keeps _ _ _ (fun scope e x hpath hx => ?_)
    (fun _ scope e hpath => h.contains hpath) fun _ => h.depth.mono (m.size_lt_budget b)
  constructor
  · exact hraises scope e x hpath hx
  · exact h.mayFault_of_faults hbody hcall hhandlers hpath hx
  · exact fun handler hlisted => hcarries scope handler ⟨e, x, hpath, hx, hlisted⟩

end Surroundings

end Companions
