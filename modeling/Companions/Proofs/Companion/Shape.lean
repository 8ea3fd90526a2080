import Companions.Proofs.Check.Approval
import Companions.Proofs.Companion.Calls
set_option autoImplicit false

/-!
# The shape of a companion

What a generated declaration looks like does not depend on the host, on what the generator was asked
before or on how it came by its index.  The signature repeats that of the function, and the body
calls the function once (`Companion.HasShape`).
-/

namespace Companions

/-- The node is a call. -/
def ExprForm.IsCall (form : ExprForm) : Prop :=
  ∃ callee receiver arguments, form = .call callee receiver arguments

/-- The only call of the body stands at the place `e`.  It is one of `f` on the receiver, and its
arguments hand the parameters on to those of `f`. -/
structure Body.CallsAt (b : Body) (e : ExprRef) (f : Declaration) (params : List Parameter)
    (receiver : ExprRef) (arguments : List Argument) : Prop where
  call : ∃ span, b.node? e = some ⟨.call f.symbol receiver span, f.returnType⟩ ∧
    b.readArguments span = .ok arguments
  only : ∀ e' x, b.node? e' = some x → x.form.IsCall → e' = e
  noReceiver : f.owner = none → receiver = none
  receiver : ∀ owner, f.owner = some owner → ∃ place type, receiver = some place ∧
    b.node? receiver = some ⟨.self owner, type⟩
  length : arguments.length = f.params.length
  arguments : ∀ (i : Nat) (own theirs : Parameter), params[i]? = some own →
    f.params[i]? = some theirs → ∃ place type, arguments[i]? = some ⟨place, theirs.symbol⟩ ∧
      b.node? place = some ⟨.param own.symbol, type⟩

/-- What the companion `id` of `f` looks like that was asked for when the pools were `q₀` and answered
when they were `q`, where its types stand. -/
structure Companion.HasShape (strategy : Strategy) (id : CallableId) (f : Declaration) (q₀ : Pools)
    (c : Companion) (q : Pools) : Prop where
  symbol : c.declaration.symbol = c.symbol
  /-- The symbol was minted for the companion. -/
  minted : q₀.symbols.MintsFunction q.symbols c.symbol
  /-- So it is new, if the counter has not come round. -/
  fresh : q.symbols.functions ≤ SymbolSupply.capacity → ¬ q₀.symbols.HasFunction c.symbol
  /-- Position by position; there are as many. -/
  params : List.Forall₂ (fun own theirs => own.Repeats theirs strategy.provenance)
    c.declaration.params f.params
  status : c.declaration.status = f.status
  provenance : c.declaration.provenance = strategy.provenance
  returnType : ∃ t t', q.types.get? f.returnType = some t ∧
    q.types.get? c.declaration.returnType = some t' ∧ t'.kind = t.kind ∧
      t'.nullability = strategy.nullability
  annotations : c.declaration.annotations = []
  phase : c.declaration.phase = .body
  body : ∃ b, c.declaration.body = some b ∧ b.labels = #[⟨id.name, some c.symbol⟩] ∧
    (∀ e target value type, b.node? e = some ⟨.ret target value, type⟩ → target = ⟨0⟩) ∧
    ∃ e receiver arguments, b.CallsAt e f c.declaration.params receiver arguments
  id : c.declaration.id = id

namespace Forwarding

variable {host : Host} {errorClass : ClassId} {f : Declaration} {params : List Parameter}
  {label : Label} {q : Pools} {strategy : Strategy} {b : Body} {selfType : TypeId}
  {more : List Expr} {e : ExprRef} {x : Expr}

/-- A node of a body that begins with the nodes of the call: a receiver or a reader, the call, or
one of those behind it. -/
theorem node_cases (hcopies : params.length = f.params.length)
    (hnodes : b.nodes = (callNodes f params selfType ++ more).toArray) (hx : b.node? e = some x) :
    ((∃ owner, x.form = .self owner) ∨ ∃ p, x.form = .param p) ∨
      (e = some ⟨callPlace f⟩ ∧
        x = ⟨.call f.symbol (receiverPlace f) ⟨0, f.params.length⟩, f.returnType⟩) ∨
      x ∈ more := by
  obtain ⟨⟨n⟩, rfl⟩ : ∃ n, e = some n := by
    cases e with
    | none => cases hx
    | some n => exact ⟨n, rfl⟩
  have hat : (callNodes f params selfType ++ more)[n]? = some x := by
    simpa [Body.node?, hnodes] using hx
  have hlength : (callNodes f params selfType).length = callPlace f + 1 := length_callNodes hcopies
  rcases Nat.lt_trichotomy n (callPlace f) with hlt | rfl | hgt
  · -- before the call stand the receiver and the readers
    have hmem : x ∈ receiverNodes f selfType ++ params.map reader := by
      have hlen : (receiverNodes f selfType ++ params.map reader).length = callPlace f := by
        simp [length_receiverNodes, callPlace, hcopies]
      rw [callNodes, List.append_assoc, List.getElem?_append_left (by omega)] at hat
      exact List.mem_of_getElem? hat
    rcases List.mem_append.1 hmem with hmem | hmem
    · obtain ⟨owner, -, rfl⟩ := List.mem_map.1 hmem
      exact .inl (.inl ⟨owner, rfl⟩)
    · obtain ⟨p, -, rfl⟩ := List.mem_map.1 hmem
      exact .inl (.inr ⟨p.symbol, rfl⟩)
  · have hlast : b.node? (some ⟨callPlace f⟩) =
        some ⟨.call f.symbol (receiverPlace f) ⟨0, f.params.length⟩, f.returnType⟩ := by
      simp [Body.node?, hnodes, callNodes, callPlace, length_receiverNodes, hcopies]
    rw [hx] at hlast
    exact .inr (.inl ⟨rfl, Option.some.inj hlast⟩)
  · rw [List.getElem?_append_right (by omega)] at hat
    exact .inr (.inr (List.mem_of_getElem? hat))

theorem getElem?_argumentsFrom {n i : Nat} {declared : List Parameter} {p : Parameter}
    (h : declared[i]? = some p) :
    (argumentsFrom n declared)[i]? = some ⟨some ⟨n + i⟩, p.symbol⟩ := by
  induction declared generalizing n i with
  | nil => simp at h
  | cons first rest ih =>
    cases i with
    | zero =>
      cases h
      rfl
    | succ i =>
      have hrest := ih (n := n + 1) (i := i) (by simpa using h)
      rw [Nat.add_right_comm, Nat.add_assoc] at hrest
      exact hrest

/-- A body that holds the call, and no other one, calls the function there. -/
theorem HoldsCall.callsAt (h : HoldsCall b f params selfType)
    (honly : ∀ e' x, b.node? e' = some x → x.form.IsCall → e' = some ⟨callPlace f⟩) :
    b.CallsAt (some ⟨callPlace f⟩) f params (receiverPlace f)
      (argumentsFrom (readersStart f) f.params) where
  call := ⟨_, h.call, h.readArguments⟩
  only := honly
  noReceiver howner := by rw [receiverPlace, howner, Option.map_none]
  receiver owner howner := by
    have hplace : receiverPlace f = some ⟨0⟩ := by rw [receiverPlace, howner, Option.map_some]
    exact ⟨⟨0⟩, selfType, hplace, hplace ▸ h.receiver owner howner⟩
  length := length_argumentsFrom _ _
  arguments i own theirs hown htheirs :=
    ⟨_, own.type, getElem?_argumentsFrom htheirs, h.readers i own hown⟩

/-- A body that forwards returns to its label only, and its call is the only one. -/
theorem Forwards.shape (hcopies : params.length = f.params.length)
    (h : Forwards host errorClass f params label q strategy b) :
    (∀ e target value type, b.node? e = some ⟨.ret target value, type⟩ → target = ⟨0⟩) ∧
      ∃ e receiver arguments, b.CallsAt e f params receiver arguments := by
  obtain ⟨selfType, more, hnodes, harguments, hcalls, hreturns⟩ : ∃ selfType more,
      b.nodes = (callNodes f params selfType ++ more).toArray ∧
      b.arguments = (argumentsFrom (readersStart f) f.params).toArray ∧
      (∀ x ∈ more, ¬ x.form.IsCall) ∧
      ∀ x ∈ more, ∀ target value, x.form = .ret target value → target = ⟨0⟩ := by
    cases h with
    | @orNull selfType _ _ _ _ =>
      refine ⟨selfType, _, rfl, rfl, ?_, ?_⟩ <;> simp [orNullNodes, ExprForm.IsCall]
    | @orThrow selfType _ _ _ _ _ _ _ =>
      refine ⟨selfType, _, rfl, rfl, ?_, ?_⟩ <;> simp [orThrowNodes, ExprForm.IsCall]
  refine ⟨fun e target value type hx => ?_, _, _, _,
    (holdsCall_of_nodes hcopies hnodes harguments).callsAt fun e x hx hcall => ?_⟩
  · rcases node_cases hcopies hnodes hx with (⟨_, hform⟩ | ⟨_, hform⟩) | ⟨-, heq⟩ | hmem
    · cases hform
    · cases hform
    · cases heq
    · exact hreturns _ hmem target value rfl
  · rcases node_cases hcopies hnodes hx with (⟨_, hform⟩ | ⟨_, hform⟩) | ⟨he, -⟩ | hmem
    · obtain ⟨_, _, _, heq⟩ := hcall
      cases hform.symm.trans heq
    · obtain ⟨_, _, _, heq⟩ := hcall
      cases hform.symm.trans heq
    · exact he
    · exact absurd hcall (hcalls x hmem)

end Forwarding

variable {host : Host} {strategy : Strategy} {errorClass : ClassId} {id : CallableId}
  {origin : FunctionSymbol} {f : Declaration} {c : Companion} {q₀ q₁ q : Pools}

/-- What a companion that was made looks like. -/
theorem Companion.IsMade.hasShape (h : c.IsMade strategy errorClass host id origin f q₁ q)
    (hgrows : q₀.Grows q₁) : c.HasShape strategy id f q₀ q where
  symbol := h.symbol
  minted := h.minted.mono hgrows.functions (Nat.le_refl _)
  fresh hroom := (h.minted.mono hgrows.functions (Nat.le_refl _)).not_hasFunction hroom
  params := by
    have hrepeats := Surroundings.repeats_of_check h.approved
    rwa [h.provenance] at hrepeats
  status := h.status
  provenance := h.provenance
  returnType := by
    obtain ⟨t, ht, hreturn⟩ := h.returnType
    exact ⟨t, _, ht, hreturn, rfl, rfl⟩
  annotations := h.annotations
  phase := h.phase
  body := by
    obtain ⟨b, hbody, hforwards⟩ := h.body
    have hcopies : c.declaration.params.length = f.params.length := by
      rw [h.params, length_copiesFrom]
    exact ⟨b, hbody, hforwards.labels, hforwards.shape hcopies⟩
  id := h.id

/-- Whatever a generator hands out has the shape of a companion of the host's declaration. -/
theorem Generator.shape_of_generate {g g' : Generator} {owner : Option ClassId}
    (h : (g.generate host id owner).run q₀ = .ok ((.ok (some c), g'), q)) :
    ∃ f, host.declaration c.origin = some f ∧ c.HasShape g.strategy id f q₀ q := by
  obtain ⟨f, q₁, hgrows, hf, hmade⟩ := run_generate_eq_some h
  exact ⟨f, hf, hmade.hasShape hgrows⟩

open Sample in
/-- A companion of a function with one parameter. -/
theorem Generator.shape_of_generate_find :
    ∃ (g g' : Generator) (q₀ q : Pools) (c : Companion) (f : Declaration),
      (g.generate (program.host Sample.registry) findOrThrow none).run q₀ =
        .ok ((.ok (some c), g'), q) ∧
      program.declaration? c.origin = some f ∧ f.params.length = 1 ∧
      c.HasShape .throwOnNull findOrThrow f q₀ q := by
  obtain ⟨g, q₀, c, q, f, hcalled⟩ := exists_called endsIn_find
  obtain ⟨g', hgen⟩ := hcalled.generated
  obtain ⟨f', hf', hshape⟩ := shape_of_generate hgen
  obtain rfl : f' = f := Option.some.inj (hf'.symm.trans hcalled.installed.origin)
  rw [hcalled.strategy] at hshape
  exact ⟨g, g', q₀, q, c, f', hgen, hf', hcalled.length, hshape⟩

end Companions
