import Companions.Proofs.Eval.Approved
set_option autoImplicit false

/-!
# What is approved is linked

A function is linked if all that running it asks for by symbol, place or label is there: the
functions and constructors that it calls, a value for each parameter of theirs, a body with a root,
and a target for each return.  The check looks for all of this once.  Where every function that can
be called has passed, no call ends for want of any of it, however deep the calls are nested and
whatever is thrown on the way (`Interpreter.call_linked`).
-/

namespace Companions

/-- Something that running a function asks for is not there. -/
def EvalError.IsLinkage : EvalError → Prop
  | unknownFunction _ | unknownConstructor _ | missingBody _ | missingRoot _ | unboundLabel _
  | missingArgument _ | argumentCount _ _ => True
  | _ => False

instance : DecidablePred EvalError.IsLinkage
  | .unknownFunction _ | .unknownConstructor _ | .missingBody _ | .missingRoot _
  | .unboundLabel _ | .missingArgument _ | .argumentCount _ _ => inferInstanceAs (Decidable True)
  | .uncaught _ | .unboundParam _ | .noReceiver | .notThrowable _ | .nonBoolCondition _
  | .typeMismatch _ _ _ | .integerOverflow _ | .stackOverflow _ =>
    inferInstanceAs (Decidable False)

namespace Interpreter

/-- No function that can be called has a handler of an unknown type. -/
def HandlersKnown (m : Interpreter) : Prop :=
  ∀ s d, m.declaration? s = some d → d.HandlersKnown m.program.pools.types

variable {m : Interpreter} {mayFault : Prop} {b : Body} {d : Declaration} {s : FunctionSymbol}
  {call : Declaration → Option Value → List Value → Outcome} {self : Option Value}

theorem mem_of_declaration? (h : m.declaration? s = some d) :
    d ∈ m.registered ++ m.program.declarations := by
  rw [declaration?, Option.or_eq_some_iff] at h
  rcases h with h | ⟨-, h⟩
  · exact List.mem_append_left _ (List.mem_of_find?_eq_some h)
  · exact List.mem_append_right _ (List.mem_of_find?_eq_some h)

/-! ## Arguments -/

theorem exists_pick {bound : List (ParamSymbol × Value)} {params : List Parameter}
    (h : ∀ p ∈ params, p.symbol ∈ bound.map (·.1)) : ∃ values, pick bound params = .ok values := by
  induction params with
  | nil => exact ⟨[], rfl⟩
  | cons p rest ih =>
    obtain ⟨values, hrest⟩ := ih fun q hq => h q (List.mem_cons_of_mem _ hq)
    cases hlookup : bound.lookup p.symbol with
    | none =>
      obtain ⟨pair, hpair, heq⟩ := List.mem_map.1 (h p List.mem_cons_self)
      have hne := List.lookup_eq_none_iff.1 hlookup pair hpair
      simp [heq] at hne
    | some v =>
      refine ⟨v :: values, ?_⟩
      rw [pick, hlookup]
      dsimp only
      rw [hrest]
      rfl

/-- Arguments that name the parameters position by position reach them. -/
theorem exists_route {bound : List (ParamSymbol × Value)} {params : List Parameter}
    (h : bound.map (·.1) = params.map (·.symbol)) : ∃ values, route params bound = .ok values := by
  obtain ⟨values, hpick⟩ : ∃ values, pick bound params = .ok values :=
    exists_pick fun p hp => h ▸ List.mem_map_of_mem hp
  have hlength : bound.length = values.length := by
    have hparams := congrArg List.length h
    rw [List.length_map, List.length_map] at hparams
    rw [length_of_pick hpick, hparams]
  exact ⟨values, by simp [route, hpick, hlength, bind, Except.bind, pure, Except.pure]⟩

/-! ## Nodes -/

/-- The ways in which a linked body unwinds: returns leave the function. -/
def BodyLinked (d : Declaration) (b : Body) : Unwind → Prop
  | .ret label _ => (b.label? label).bind (·.target) = some d.symbol
  | .thrown _ => True
  | .error e => ¬ e.IsLinkage

/-- The ways in which a call of a linked function unwinds: returns have arrived. -/
def CallLinked : Unwind → Prop
  | .ret _ _ => False
  | .thrown _ => True
  | .error e => ¬ e.IsLinkage

theorem CallLinked.bodyLinked {u : Unwind} (h : CallLinked u) : BodyLinked d b u := by
  cases u with
  | ret label value => exact h.elim
  | thrown exception => exact trivial
  | error e => exact h

/-- A sound node finds what it asks for. -/
theorem bodyLinked_of_raises (hlabels : ∀ l ∈ b.labels, l.target = some d.symbol)
    (hcall : ∀ callee d' target values, m.declaration? callee = some d' →
      Outcome.Ends (m.Tolerates mayFault) CallLinked (call d' target values))
    {scope : List ParamSymbol}
    {form : ExprForm} (hform : m.surroundings.FormSound b scope form) {l : Locals} {u : Unwind}
    (hraises : m.Raises call b self l form u) : BodyLinked d b u := by
  cases hraises with
  | unknownFunction unknown =>
    obtain ⟨d', found, -⟩ := hform
    exact absurd (found.symm.trans unknown) (Option.some_ne_none d')
  | misrouted found named failed =>
    -- the values carry the names of the arguments, and these were checked against the callee
    obtain ⟨d', found', -, hparams⟩ := hform
    cases found'.symm.trans found
    obtain ⟨values, hroute⟩ := exists_route (named.trans hparams)
    rw [hroute] at failed
    cases failed
  | called found _ unwound =>
    have hlinked := (hcall _ _ _ _ found).of_unwind unwound
    exact hlinked.bodyLinked
  | unknownConstructor unknown =>
    obtain ⟨k, found, -⟩ := hform
    exact absurd (found.symm.trans unknown) (Option.some_ne_none k)
  | returned =>
    -- the check of the node knows the label, and that of the body where it leads
    obtain ⟨l, hlabel⟩ := hform
    have htarget := hlabels l (Array.mem_of_getElem? hlabel)
    simp [BodyLinked, hlabel, htarget]
  | thrown => exact trivial
  | operator failed => rcases BinaryOp.error_of_apply failed with rfl | rfl <;> exact id
  | unboundParam | noReceiver | notThrowable | nonBoolCondition => exact id

/-! ## Calls -/

/-- A return that leaves the function has arrived. -/
theorem callLinked_of_land {r : Except Unwind Value} (h : ∀ u, r = .error u → BodyLinked d b u) :
    ∀ u, land d b r = .error u → CallLinked u := by
  intro u hland
  rcases land_cases hland with ⟨hu, hret⟩ | ⟨label, value, hr, hforeign, -⟩
  · cases u with
    | ret label value => exact absurd rfl (hret label value)
    | _ => exact h _ hu
  · exact absurd (h _ hr) hforeign

/-- However many calls may still become active, a call in an approved interpreter finds what it asks
for, and faults only for want of the type of a handler or of a name for a message. -/
theorem invoke_linked (hm : m.Approved) (room : Nat) (hd : m.declaration? s = some d)
    (self : Option Value) (arguments : List Value) :
    Outcome.Ends (m.Tolerates (¬ m.HandlersKnown)) CallLinked
      (m.invoke room d self arguments) := by
  induction room generalizing s d self arguments with
  | zero =>
    obtain ⟨b, hbody, hsafe⟩ := hm.exists_bodySafe hd
    rw [invoke_zero hbody hsafe.root]
    exact .of_error id
  | succ room ih =>
    obtain ⟨b, hbody, hsafe⟩ := hm.exists_bodySafe hd
    have hcall : ∀ callee d' target values, m.declaration? callee = some d' →
        Outcome.Ends (m.Tolerates (¬ m.HandlersKnown)) CallLinked
          (m.invoke room d' target values) :=
      fun callee d' target values found => ih found target values
    have hkeeps : Evaluating.Keeps (m.Tolerates (¬ m.HandlersKnown)) (fun _ => True)
        (BodyLinked d b) (m.eval (m.invoke room) b self (m.budget b) b.root) := by
      refine hsafe.eval_keeps (P := fun _ _ => True) hbody ?_ ?_ ?_ ?_
      · intro callee d' target values fault _ found hfault
        exact (hcall callee d' target values found).of_fault hfault
      · exact fun hmay => Classical.not_not.1 hmay s d hd
      · intro scope e x hpath hx l u _ hraises
        exact bodyLinked_of_raises hsafe.labels hcall (hsafe.form hpath hx) hraises
      · exact fun _ _ _ => ⟨fun _ _ _ => trivial, fun _ _ => trivial⟩
    exact invoke_ends_of_keeps hbody hsafe.root hkeeps trivial fun r => callLinked_of_land

/-- In an interpreter whose functions have all passed the check, a call with as many arguments as
the function has parameters comes to an answer, and this is not that something is not there.  Only
where a handler is of an unknown type, or the message of an error asks for an unknown name, does the
call fault instead. -/
theorem call_linked (hm : m.Approved) (hd : m.declaration? s = some d) (self : Option Value)
    {arguments : List Value} (harguments : arguments.length = d.params.length) :
    (∃ answer, m.call s self arguments = .ok answer ∧
      ∀ e, answer = .error e → ¬ e.IsLinkage) ∨
    ∃ fault, m.call s self arguments = .error fault ∧
      (¬ m.HandlersKnown ∨ m.program.pools.names.Lacks fault) := by
  rw [call_eq_bind hd harguments]
  rcases invoke_linked hm maxCallDepth hd self arguments with
    ⟨fault, hfault, hunknown⟩ | ⟨r, hr, hlinked⟩
  · exact .inr ⟨fault, by rw [hfault]; rfl, hunknown⟩
  rw [hr]
  rcases m.answer_cases r with hanswer | ⟨v, -, n, -, hfault, hunknown⟩
  · refine .inl ⟨reported r, hanswer, fun e he => ?_⟩
    cases r with
    | ok v => cases he
    | error u =>
      have hu := hlinked u rfl
      cases u with
      | ret label value => exact hu.elim
      | thrown exception =>
        cases he
        exact id
      | error e' =>
        cases he
        exact hu
  · exact .inr ⟨_, hfault, .inr ⟨n, rfl, hunknown⟩⟩

end Interpreter

/-! ## A call that throws -/

namespace Sample

/-- Throws a new object, whatever the parameter is. -/
def throwingBody : Body where
  nodes := #[⟨.new ⟨0⟩ .empty, .any⟩, ⟨.raise (some ⟨0⟩), .nothing⟩]
  statements := #[]
  arguments := #[]
  handlers := #[]
  labels := #[]
  root := some ⟨1⟩

/-- Answers what the function that throws does, or its own parameter when that has thrown. -/
def guardingBody : Body where
  nodes := #[⟨.param ⟨1⟩, .string⟩, ⟨.call ⟨2⟩ none ⟨0, 1⟩, .string⟩,
    ⟨.ret ⟨0⟩ (some ⟨1⟩), .nothing⟩, ⟨.ret ⟨0⟩ (some ⟨0⟩), .nothing⟩,
    ⟨.attempt (some ⟨2⟩) ⟨0, 1⟩, .nothing⟩]
  statements := #[]
  arguments := #[⟨some ⟨0⟩, ⟨3⟩⟩]
  handlers := #[⟨⟨⟨2⟩, .empty, Program.empty.builtins.throwable, .none, .source⟩, some ⟨3⟩⟩]
  labels := #[⟨.empty, some ⟨1⟩⟩]
  root := some ⟨4⟩

/-- The function that calls another one and catches what that throws. -/
def guarding : Declaration := textFunction ⟨1⟩ ⟨1⟩ (some guardingBody)

/-- The function that throws. -/
def throwing : Declaration := textFunction ⟨2⟩ ⟨3⟩ (some throwingBody)

/-- Runs both functions. -/
def guarded : Interpreter := ⟨.empty, [guarding, throwing]⟩

theorem guarded_approved : guarded.Approved := by
  intro s d hd
  have happroved : ∀ d ∈ guarded.registered ++ guarded.program.declarations,
      (guarded.surroundings.check d original).run = .ok (.ok ()) := by decide +kernel
  exact ⟨original, happroved d (Interpreter.mem_of_declaration? hd)⟩

end Sample

open Sample in
/-- The exception of the nested call is caught, and nothing is missing. -/
theorem call_linked_guarding :
    (guarded.Approved ∧ guarded.declaration? ⟨1⟩ = some guarding ∧
      [Value.null].length = guarding.params.length) ∧
    ∃ answer, guarded.call ⟨1⟩ none [.null] = .ok answer ∧
      ∀ e, answer = .error e → ¬ e.IsLinkage := by
  have hd : guarded.declaration? ⟨1⟩ = some guarding := rfl
  have harguments : [Value.null].length = guarding.params.length := rfl
  refine ⟨⟨guarded_approved, hd, harguments⟩, ?_⟩
  rcases Interpreter.call_linked guarded_approved hd none harguments with
    hanswer | ⟨fault, hfault, -⟩
  · exact hanswer
  · have hcall : guarded.call ⟨1⟩ none [.null] = .ok (.ok .null) := by decide +kernel
    rw [hcall] at hfault
    cases hfault

open Sample in
example : guarded.call ⟨1⟩ none [.null] = .ok (.ok .null) := by decide +kernel

end Companions
