import Companions.Proofs.Eval.Approved
set_option autoImplicit false

/-!
# What is in scope is bound

The check gives back what was readable around a handler when it leaves the handler, but a frame
forgets the handler's parameter there.  So what is in scope has a value when it is read, as long as
no handler takes a symbol that is readable already (`Declaration.Shadows`).  Where one does, the
outer parameter is lost behind the handler, and an approved function may come to a read that finds
nothing.
-/

namespace Companions

namespace Locals

theorem get?_bind_ne_none {l : Locals} {p q : ParamSymbol} (v : Value)
    (h : q ≠ p → l.get? q ≠ none) : (l.bind p v).get? q ≠ none := by
  by_cases heq : q = p
  · rw [heq, get?_bind_self]
    exact Option.some_ne_none v
  · rw [get?_bind_of_ne l heq]
    exact h heq

theorem get?_foldl_ne_none {pairs : List (Parameter × Value)} {p : ParamSymbol} {l : Locals}
    (h : p ∉ pairs.map (·.1.symbol) → l.get? p ≠ none) :
    (pairs.foldl (fun l (p, v) => l.bind p.symbol v) l).get? p ≠ none := by
  induction pairs generalizing l with
  | nil => exact h List.not_mem_nil
  | cons first rest ih =>
    refine ih fun hrest => get?_bind_ne_none _ fun hne => h ?_
    rw [List.map_cons, List.mem_cons, not_or]
    exact ⟨hne, hrest⟩

/-- In the frame of a call with an argument for each parameter, all parameters are bound. -/
theorem get?_ofArguments_ne_none {params : List Parameter} {values : List Value} {p : ParamSymbol}
    (hlength : values.length = params.length) (hp : p ∈ params.map (·.symbol)) :
    (ofArguments params values).get? p ≠ none := by
  refine get?_foldl_ne_none fun hnot => absurd ?_ hnot
  have hfst : (params.zip values).map (·.1) = params := List.map_fst_zip (Nat.le_of_eq hlength.symm)
  rw [← hfst, List.map_map] at hp
  exact hp

end Locals

/-- Some path through the body comes to a handler whose parameter is readable under its symbol
already. -/
def Declaration.Shadows (d : Declaration) (p : ParamSymbol) : Prop :=
  ∃ b scope h, d.body = some b ∧ b.Offers (d.params.map (·.symbol)) scope h ∧
    h.param.symbol = p ∧ p ∈ scope

/-- The parameter has a value if it is in scope. -/
def Locals.Covers (p : ParamSymbol) (scope : List ParamSymbol) (l : Locals) : Prop :=
  p ∈ scope → l.get? p ≠ none

/-- A handler that does not take the place of what is readable around it leaves that bound. -/
theorem Handler.carries_covers {h : Handler} {p : ParamSymbol} {scope : List ParamSymbol}
    (hfresh : h.param.symbol = p → p ∉ scope) : h.Carries (Locals.Covers p) scope where
  enter l v hl hp := by
    refine Locals.get?_bind_ne_none v fun hne => ?_
    exact hl ((List.mem_cons.1 hp).resolve_left hne)
  leave l hl hp := by
    -- unbinding loses what is in scope exactly if the handler has taken its symbol
    have hne : p ≠ h.param.symbol := fun heq => hfresh heq.symm hp
    rw [Locals.get?_unbind_of_ne l hne]
    exact hl (List.mem_cons_of_mem _ hp)

namespace Interpreter

variable {m : Interpreter} {call : Declaration → Option Value → List Value → Outcome}
  {self : Option Value} {s : Surroundings} {d other : Declaration} {b : Body} {p : ParamSymbol}

/-- Some function that `d` calls, with a value for each of its parameters, ends in the unwinding. -/
def CallEndsIn (m : Interpreter) (call : Declaration → Option Value → List Value → Outcome)
    (d : Declaration) (u : Unwind) : Prop :=
  ∃ callee d' target values, d.Calls callee ∧ m.declaration? callee = some d' ∧
    values.length = d'.params.length ∧ call d' target values = .ok (.error u)

/-- If the unwinding is for want of the parameter, then it has come out of a call. -/
def MissesInCall (m : Interpreter) (call : Declaration → Option Value → List Value → Outcome)
    (d : Declaration) (p : ParamSymbol) (u : Unwind) : Prop :=
  u = .error (.unboundParam p) → m.CallEndsIn call d u

/-- Where what is in scope is bound, a sound node misses it only if a function that it calls
does. -/
theorem missesInCall_of_raises {scope : List ParamSymbol} {form : ExprForm} {l : Locals}
    {u : Unwind} (hsound : s.FormSound b scope form) (hl : l.Covers p scope)
    (hcalls : ∀ callee receiver arguments, form = .call callee receiver arguments → d.Calls callee)
    (hraises : m.Raises call b self l form u) : m.MissesInCall call d p u := by
  intro hu
  cases hraises with
  | unboundParam unbound =>
    cases hu
    exact absurd unbound (hl hsound)
  | misrouted _ _ failed =>
    cases hu
    rcases error_of_route failed with ⟨q, hq⟩ | ⟨expected, found, hcount⟩
    · cases hq
    · cases hcount
  | @called callee _ _ d' target values _ found complete unwound =>
    exact ⟨callee, d', target, values, hcalls callee _ _ rfl, found, complete, unwound⟩
  | operator failed =>
    cases hu
    rcases BinaryOp.error_of_apply failed with h | h <;> cases h
  | _ => cases hu

/-- A function with a safe body misses a parameter only where a function that it calls does. -/
theorem invoke_misses (hsafe : s.BodySafe d b) (hbody : d.body = some b) (hshadows : ¬ d.Shadows p)
    {arguments : List Value} (harguments : arguments.length = d.params.length) (m : Interpreter)
    (room : Nat) (self : Option Value) :
    Outcome.Ends (m.Tolerates True) (m.MissesInCall (m.invoke room) d p)
      (m.invoke (room + 1) d self arguments) := by
  have hkeeps : Evaluating.Keeps (m.Tolerates True) (Locals.Covers p (d.params.map (·.symbol)))
      (m.MissesInCall (m.invoke room) d p)
      (m.eval (m.invoke room) b self (m.budget b) b.root) := by
    refine hsafe.eval_keeps hbody (fun _ _ _ _ _ _ _ _ => .inl trivial)
      (fun h => absurd trivial h) ?_ ?_
    · intro scope e x hpath hx l u hl hraises
      refine missesInCall_of_raises (hsafe.form hpath hx) hl ?_ hraises
      exact fun callee receiver arguments hform =>
        ⟨b, scope, e, x, receiver, arguments, hbody, hpath, hx, hform⟩
    · intro scope h hoffers
      exact h.carries_covers fun heq hp => hshadows ⟨b, scope, h, hbody, hoffers, heq, hp⟩
  refine invoke_ends_of_keeps hbody hsafe.root hkeeps ?_ ?_
  · exact Locals.get?_ofArguments_ne_none harguments
  · rintro r hr u hland rfl
    rcases land_cases hland with ⟨hu, -⟩ | ⟨_, _, -, -, hother⟩
    · exact hr _ hu rfl
    · cases hother

/-- Where no more calls may become active, none of them misses a parameter. -/
theorem not_callEndsIn_zero : ¬ m.CallEndsIn (m.invoke 0) d (.error (.unboundParam p)) := by
  rintro ⟨callee, d', target, values, -, -, -, hcall⟩
  rcases m.exists_root_or_error d' with ⟨b, hbody, hroot⟩ | ⟨e, he, hinvoke⟩
  · rw [invoke_zero hbody hroot] at hcall
    cases hcall
  · rw [hinvoke] at hcall
    cases eq_error_of_failing hcall
    rcases he with h | h <;> cases h

/-- Where every function that can be called is approved and shadows nothing, no call misses a
parameter, however many calls may still become active. -/
theorem invoke_ne_unboundParam (hm : m.Approved)
    (hshadows : ∀ s d, m.declaration? s = some d → ¬ d.Shadows p) (room : Nat)
    {symbol : FunctionSymbol} (hd : m.declaration? symbol = some d) (self : Option Value)
    {arguments : List Value} (harguments : arguments.length = d.params.length) :
    m.invoke room d self arguments ≠ .ok (.error (.error (.unboundParam p))) := by
  intro h
  induction room generalizing symbol d self arguments with
  | zero =>
    obtain ⟨b, hbody, hsafe⟩ := hm.exists_bodySafe hd
    rw [invoke_zero hbody hsafe.root] at h
    cases h
  | succ room ih =>
    obtain ⟨b, hbody, hsafe⟩ := hm.exists_bodySafe hd
    have hends := invoke_misses hsafe hbody (hshadows symbol d hd) harguments m room self
    -- the parameter is missed one call deeper, and so on until no call may become active
    obtain ⟨callee, d', target, values, -, found, hlength, hcall⟩ := hends.of_unwind h rfl
    exact ih found target hlength hcall

/-- Running an approved function on an argument for each parameter reads a parameter that is not
bound only where a function that it calls does, unless a handler of its own takes the symbol of the
parameter where that is readable. -/
theorem callEndsIn_of_unboundParam (happroved : (s.check d other).run = .ok (.ok ()))
    (hshadows : ¬ d.Shadows p) (m : Interpreter) (room : Nat) (self : Option Value)
    {arguments : List Value} (harguments : arguments.length = d.params.length)
    (h : m.invoke (room + 1) d self arguments = .ok (.error (.error (.unboundParam p)))) :
    m.CallEndsIn (m.invoke room) d (.error (.unboundParam p)) := by
  obtain ⟨b, hbody, hsafe⟩ := Surroundings.exists_bodySafe happroved
  exact (invoke_misses hsafe hbody hshadows harguments m room self).of_unwind h rfl

end Interpreter

/-! ## A parameter that is lost -/

namespace Sample

/-- Catches what it throws under the symbol of its own parameter, and then answers the parameter. -/
def forgettingBody : Body where
  nodes := #[⟨.new ⟨0⟩ .empty, .any⟩, ⟨.raise (some ⟨0⟩), .nothing⟩, ⟨.const .null, .nullableNothing⟩,
    ⟨.attempt (some ⟨1⟩) ⟨0, 1⟩, .any⟩, ⟨.param ⟨1⟩, .string⟩, ⟨.ret ⟨0⟩ (some ⟨4⟩), .nothing⟩,
    ⟨.block ⟨0, 2⟩, .nothing⟩]
  statements := #[some ⟨3⟩, some ⟨5⟩]
  arguments := #[]
  handlers := #[⟨⟨⟨1⟩, .empty, Program.empty.builtins.throwable, .none, .source⟩, some ⟨2⟩⟩]
  labels := #[⟨.empty, some ⟨1⟩⟩]
  root := some ⟨6⟩

/-- Answers what the function that forgets its parameter answers. -/
def askingBody : Body where
  nodes := #[⟨.param ⟨3⟩, .string⟩, ⟨.call ⟨1⟩ none ⟨0, 1⟩, .string⟩]
  statements := #[]
  arguments := #[⟨some ⟨0⟩, ⟨1⟩⟩]
  handlers := #[]
  labels := #[]
  root := some ⟨1⟩

/-- The function whose handler takes the place of its parameter. -/
def forgetting : Declaration := textFunction ⟨1⟩ ⟨1⟩ (some forgettingBody)

/-- The function that calls it. -/
def asking : Declaration := textFunction ⟨2⟩ ⟨3⟩ (some askingBody)

/-- Runs both functions. -/
def forgetful : Interpreter := ⟨.empty, [forgetting, asking]⟩

theorem not_shadows_asking (p : ParamSymbol) : ¬ asking.Shadows p := by
  rintro ⟨b, scope, h, hbody, ⟨e, x, -, -, hlisted⟩, -⟩
  cases hbody
  exact Array.not_mem_empty h (Body.mem_handlers_of_mem_handlersOf hlisted)

end Sample

open Sample in
/-- The function that forgets its parameter misses it in the end, and so does the one that calls it,
which itself shadows nothing. -/
theorem callEndsIn_of_unboundParam_asking :
    ((forgetful.surroundings.check asking original).run = .ok (.ok ()) ∧
      ¬ asking.Shadows ⟨1⟩ ∧ [Value.null].length = asking.params.length ∧
      forgetful.invoke (1 + 1) asking none [.null] = .ok (.error (.error (.unboundParam ⟨1⟩)))) ∧
    forgetful.CallEndsIn (forgetful.invoke 1) asking (.error (.unboundParam ⟨1⟩)) := by
  have happroved : (forgetful.surroundings.check asking original).run = .ok (.ok ()) := by
    decide +kernel
  have harguments : [Value.null].length = asking.params.length := rfl
  have hrun : forgetful.invoke (1 + 1) asking none [.null] =
      .ok (.error (.error (.unboundParam ⟨1⟩))) := by
    decide +kernel
  have hshadows := not_shadows_asking ⟨1⟩
  exact ⟨⟨happroved, hshadows, harguments, hrun⟩,
    Interpreter.callEndsIn_of_unboundParam happroved hshadows _ _ _ harguments hrun⟩

open Sample in
/-- The check approves a function with an acyclic body that misses its own parameter when it is run,
and not for what it calls: its handler has taken the symbol. -/
theorem unboundParam_of_shadows :
    (forgetful.surroundings.check forgetting original).run = .ok (.ok ()) ∧
      (∀ b, forgetting.body = some b → b.Acyclic) ∧
      forgetful.declaration? ⟨1⟩ = some forgetting ∧ [Value.null].length = forgetting.params.length ∧
      forgetful.call ⟨1⟩ none [.null] = .ok (.error (.unboundParam ⟨1⟩)) ∧
      forgetful.invoke (0 + 1) forgetting none [.null] =
        .ok (.error (.error (.unboundParam ⟨1⟩))) ∧
      ¬ forgetful.CallEndsIn (forgetful.invoke 0) forgetting (.error (.unboundParam ⟨1⟩)) := by
  refine ⟨by decide +kernel, ?_, rfl, rfl, by decide +kernel, by decide +kernel,
    Interpreter.not_callEndsIn_zero⟩
  rintro _ ⟨⟩
  exact Body.Descends.acyclic (by decide)

end Companions
