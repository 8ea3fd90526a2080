import Companions.Companion.Generator
import Companions.Proofs.Companion.Soundness
set_option autoImplicit false

/-!
# Making a companion

A companion is made in steps that each add to the pools, and is approved in the end.  What the
steps come to is said once (`Companion.IsMade`): `run_make_eq_ok` reads it off a companion that was
made, and `exists_run_make` says that a companion of a function with a known signature is always
made, because the check has nothing to object to.
-/

namespace Companions

/-! ## Work that may end in an error -/

namespace Generating

variable {α β : Type} {p q r : Pools}

theorem run_bind_of_ok {x : Generating α} {f : α → Generating β} {a : α}
    (h : x.run.run p = .ok (.ok a, q)) : (x >>= f).run.run p = (f a).run.run q := by
  rw [ExceptT.run_bind, StateT.run_bind, h]
  rfl

theorem run_bind_of_error {x : Generating α} {f : α → Generating β} {e : GenerationError}
    (h : x.run.run p = .ok (.error e, q)) : (x >>= f).run.run p = .ok (.error e, q) := by
  rw [ExceptT.run_bind, StateT.run_bind, h]
  rfl

/-- Work in two steps ends in the error of the first step, or where the second step ends. -/
theorem run_bind_cases {x : Generating α} {f : α → Generating β} {made : Except GenerationError β}
    (h : (x >>= f).run.run p = .ok (made, r)) :
    (∃ e, x.run.run p = .ok (.error e, r) ∧ made = .error e) ∨
      ∃ a q, x.run.run p = .ok (.ok a, q) ∧ (f a).run.run q = .ok (made, r) := by
  cases hx : x.run.run p with
  | error fault =>
    rw [ExceptT.run_bind, StateT.run_bind, hx] at h
    cases h
  | ok result =>
    obtain ⟨e | a, q⟩ := result
    · rw [run_bind_of_error hx] at h
      cases h
      exact .inl ⟨e, rfl, rfl⟩
    · exact .inr ⟨a, q, rfl, run_bind_of_ok hx ▸ h⟩

/-- Work in two steps has an answer exactly if both steps have one. -/
theorem run_bind_eq_ok_iff {x : Generating α} {f : α → Generating β} {b : β} :
    (x >>= f).run.run p = .ok (.ok b, r) ↔
      ∃ a q, x.run.run p = .ok (.ok a, q) ∧ (f a).run.run q = .ok (.ok b, r) := by
  constructor
  · intro h
    obtain ⟨e, -, heq⟩ | hboth := run_bind_cases h
    · cases heq
    · exact hboth
  · rintro ⟨a, q, hx, hf⟩
    rw [run_bind_of_ok hx, hf]

theorem run_pure_eq_ok_iff {a b : α} :
    (pure a : Generating α).run.run p = .ok (.ok b, q) ↔ a = b ∧ p = q := by
  constructor
  · intro h
    cases h
    exact ⟨rfl, rfl⟩
  · rintro ⟨rfl, rfl⟩
    rfl

/-- Work that cannot end in an error has the answers that it had. -/
theorem run_lift_eq_ok_iff {x : Growing α} {a : α} :
    (liftM x : Generating α).run.run p = .ok (.ok a, q) ↔ x.run p = .ok (a, q) := by
  change (ExceptT.run (ExceptT.lift x)).run p = _ ↔ _
  rw [ExceptT.run_lift, StateT.run_map]
  cases x.run p with
  | error fault =>
    constructor <;> intro h <;> cases h
  | ok result =>
    constructor
    · intro h
      cases h
      rfl
    · intro h
      cases h
      rfl

end Generating

/-! ## Copies of parameters -/

namespace Companion

/-- The parameters under the symbols that are minted from the `n`-th on. -/
def copiesFrom (provenance : Provenance) : Nat → List Parameter → List Parameter
  | _, [] => []
  | n, p :: rest =>
    p.copyAs ⟨SymbolSupply.shown n⟩ provenance :: copiesFrom provenance (n + 1) rest

variable {provenance : Provenance}

@[simp] theorem length_copiesFrom (n : Nat) (params : List Parameter) :
    (copiesFrom provenance n params).length = params.length := by
  induction params generalizing n with
  | nil => rfl
  | cons p rest ih => simp [copiesFrom, ih]

theorem map_symbol_copiesFrom (n : Nat) (params : List Parameter) :
    (copiesFrom provenance n params).map (·.symbol) =
      (List.range' n params.length).map fun n => ⟨SymbolSupply.shown n⟩ := by
  induction params generalizing n with
  | nil => rfl
  | cons p rest ih => simp [copiesFrom, ih, Parameter.copyAs, List.range'_succ]

/-- No two copies share a symbol, for the counter does not come round among them. -/
theorem nodup_copiesFrom (n : Nat) {params : List Parameter}
    (h : params.length ≤ SymbolSupply.capacity) :
    ((copiesFrom provenance n params).map (·.symbol)).Nodup := by
  rw [map_symbol_copiesFrom]
  refine List.Nodup.map_on (fun i hi j hj heq => ?_) List.nodup_range'
  have hi := List.mem_range'_1.1 hi
  have hj := List.mem_range'_1.1 hj
  exact SymbolSupply.eq_of_shown_eq (congrArg ParamSymbol.number heq) (by omega) (by omega)

/-- Each copy repeats its parameter, if the symbols from the `n`-th on are new. -/
theorem copiesFrom_repeat {n : Nat} {params : List Parameter}
    (hroom : n + params.length ≤ SymbolSupply.capacity)
    (h : ∀ p ∈ params, SymbolSupply.HandedOut n p.symbol.number) :
    List.Forall₂ (fun own theirs => own.Repeats theirs provenance)
      (copiesFrom provenance n params) params := by
  induction params generalizing n with
  | nil => exact .nil
  | cons p rest ih =>
    have hp := h p List.mem_cons_self
    rw [List.length_cons] at hroom
    refine .cons ⟨rfl, rfl, rfl, ?_, rfl⟩ (ih (by omega) fun p' hp' =>
      (h p' (List.mem_cons_of_mem _ hp')).mono (Nat.le_succ n))
    intro hsymbol
    rw [← hsymbol] at hp
    exact SymbolSupply.not_handedOut_shown (by omega) (Nat.le_refl n) hp

theorem type_of_mem_copiesFrom {n : Nat} {params : List Parameter} {p : Parameter}
    (h : p ∈ copiesFrom provenance n params) : ∃ p' ∈ params, p.type = p'.type := by
  induction params generalizing n with
  | nil => simp [copiesFrom] at h
  | cons p₀ rest ih =>
    rcases List.mem_cons.1 h with rfl | h
    · exact ⟨p₀, List.mem_cons_self, rfl⟩
    · obtain ⟨p', hp', htype⟩ := ih h
      exact ⟨p', List.mem_cons_of_mem _ hp', htype⟩

/-- The pools once parameters were minted. -/
def afterParams (q : Pools) (count : Nat) : Pools :=
  { q with symbols := { q.symbols with params := q.symbols.params + count } }

theorem grows_afterParams (q : Pools) (count : Nat) : q.Grows (afterParams q count) :=
  ⟨fun _ _ h => h, fun _ _ h => h, Nat.le_refl _, Nat.le_add_right _ _, Nat.le_refl _⟩

theorem afterParams_afterParams (q : Pools) (m n : Nat) :
    afterParams (afterParams q m) n = afterParams q (n + m) := by
  simp [afterParams, Nat.add_assoc, Nat.add_comm m n]

theorem mintParams_run (params : List Parameter) (q : Pools) :
    (mintParams provenance params).run q =
      .ok (copiesFrom provenance q.symbols.params params, afterParams q params.length) := by
  induction params generalizing q with
  | nil => rfl
  | cons p rest ih =>
    have hmint : Growing.mintParam.run q =
        .ok (⟨SymbolSupply.shown q.symbols.params⟩, afterParams q 1) := rfl
    rw [mintParams, Growing.run_bind_of_ok hmint, Growing.run_bind_of_ok (ih _),
      afterParams_afterParams]
    rfl

end Companion

/-! ## Bodies of both strategies -/

namespace Forwarding

/-- What the body of a companion with the given parameters and label is, and what its types stand
for in the pools. -/
inductive Forwards (host : Host) (errorClass : ClassId) (f : Declaration)
    (params : List Parameter) (label : Label) (q : Pools) : Strategy → Body → Prop
  | orNull {selfType : TypeId} {handler : Parameter}
      (self : ∀ owner, f.owner = some owner →
        q.types.get? selfType = some ⟨.object owner, .notNull⟩)
      (name : q.names.text? handler.name = some "e")
      (type : handler.type = host.builtins.throwable) (flags : handler.flags = .none) :
      Forwards host errorClass f params label q .nullOnThrow
        (orNullBody host.builtins f params selfType handler label)
  | orThrow {selfType errorType notNull : TypeId} {constr : ConstructorSymbol}
      (self : ∀ owner, f.owner = some owner →
        q.types.get? selfType = some ⟨.object owner, .notNull⟩)
      (found : host.noArgConstructor errorClass = some constr)
      (error : q.types.get? errorType = some ⟨.object errorClass, .notNull⟩)
      (type : ∃ t, q.types.get? f.returnType = some t ∧
        q.types.get? notNull = some { t with nullability := .notNull }) :
      Forwards host errorClass f params label q .throwOnNull
        (orThrowBody host.builtins constr f params selfType errorType notNull label)

variable {host : Host} {errorClass : ClassId} {f : Declaration} {params : List Parameter}
  {label : Label} {q q' : Pools} {strategy : Strategy} {b : Body}

/-- The types stand for the same ever after. -/
theorem Forwards.mono (h : Forwards host errorClass f params label q strategy b)
    (hgrows : q.Grows q') : Forwards host errorClass f params label q' strategy b := by
  cases h with
  | orNull hself hname htype hflags =>
    exact .orNull (fun owner ho => hgrows.types _ _ (hself owner ho)) (hgrows.names _ _ hname) htype
      hflags
  | orThrow hself hconstr herror htype =>
    obtain ⟨t, ht, hnotNull⟩ := htype
    exact .orThrow (fun owner ho => hgrows.types _ _ (hself owner ho)) hconstr
      (hgrows.types _ _ herror) ⟨t, hgrows.types _ _ ht, hgrows.types _ _ hnotNull⟩

/-- There is one label. -/
theorem Forwards.labels (h : Forwards host errorClass f params label q strategy b) :
    b.labels = #[label] := by
  cases h <;> rfl

/-- Binding the label changes nothing else. -/
theorem Forwards.withLabels (h : Forwards host errorClass f params label q strategy b)
    (other : Label) :
    Forwards host errorClass f params other q strategy { b with labels := #[other] } := by
  cases h with
  | orNull hself hname htype hflags => exact .orNull hself hname htype hflags
  | orThrow hself hconstr herror htype => exact .orThrow hself hconstr herror htype

/-- A body that was made is the body that is expected. -/
theorem run_body_eq_ok (hcopies : params.length = f.params.length) {name : Name} {l : LabelId}
    (h : (body strategy host errorClass f params name).run.run q = .ok (.ok (l, b), q')) :
    q.Grows q' ∧ l = ⟨0⟩ ∧
      Forwards host errorClass f params ⟨name, none⟩ q' strategy b := by
  cases strategy with
  | nullOnThrow =>
    obtain ⟨made, q₁, hmade, h⟩ := Generating.run_bind_eq_ok_iff.1 h
    obtain ⟨heq, rfl⟩ := Generating.run_pure_eq_ok_iff.1 h
    cases heq
    obtain ⟨handler, rfl, hhandler⟩ :=
      run_orNull_eq_ok hcopies (Generating.run_lift_eq_ok_iff.1 hmade)
    refine ⟨(grows_receiverPools f q).trans hhandler.grows, rfl, .orNull ?_ hhandler.name
      hhandler.type hhandler.flags⟩
    exact fun owner ho => hhandler.grows.types _ _ (get?_receiverPools ho q)
  | throwOnNull =>
    cases hconstr : host.noArgConstructor errorClass with
    | none =>
      simp only [body, hconstr] at h
      cases h
    | some constr =>
      simp only [body, hconstr] at h
      obtain ⟨made, q₁, hmade, h⟩ := Generating.run_bind_eq_ok_iff.1 h
      obtain ⟨heq, rfl⟩ := Generating.run_pure_eq_ok_iff.1 h
      cases heq
      obtain ⟨errorType, notNull, rfl, htypes⟩ :=
        run_orThrow_eq_ok hcopies (Generating.run_lift_eq_ok_iff.1 hmade)
      refine ⟨(grows_receiverPools f q).trans htypes.grows, rfl, .orThrow ?_ hconstr
        htypes.errorType htypes.notNull⟩
      exact fun owner ho => htypes.grows.types _ _ (get?_receiverPools ho q)

/-- A body that was made hands on no more parameters than a span can count: its call was made
first. -/
theorem length_of_run_body (hcopies : params.length = f.params.length) {name : Name} {l : LabelId}
    (h : (body strategy host errorClass f params name).run.run q = .ok (.ok (l, b), q')) :
    f.params.length ≤ Body.maxListLength := by
  cases strategy with
  | nullOnThrow =>
    obtain ⟨made, q₁, hmade, -⟩ := Generating.run_bind_eq_ok_iff.1 h
    obtain ⟨⟨e, c⟩, q₂, hcall, -⟩ :=
      Growing.run_bind_eq_ok_iff.1 (Generating.run_lift_eq_ok_iff.1 hmade)
    exact ((run_call_eq_ok_iff name hcopies).1 hcall).1
  | throwOnNull =>
    cases hconstr : host.noArgConstructor errorClass with
    | none =>
      simp only [body, hconstr] at h
      cases h
    | some constr =>
      simp only [body, hconstr] at h
      obtain ⟨made, q₁, hmade, -⟩ := Generating.run_bind_eq_ok_iff.1 h
      obtain ⟨⟨e, c⟩, q₂, hcall, -⟩ :=
        Growing.run_bind_eq_ok_iff.1 (Generating.run_lift_eq_ok_iff.1 hmade)
      exact ((run_call_eq_ok_iff name hcopies).1 hcall).1

/-- The body of `fOrThrow` needs a class that can be made from nothing. -/
theorem run_body_eq_error (hconstr : host.noArgConstructor errorClass = none) (name : Name) :
    (body .throwOnNull host errorClass f params name).run.run q =
      .ok (.error (.missingNoArgConstructor errorClass f.id), q) := by
  simp only [body, hconstr]
  rfl

/-- Making a body succeeds if a span can say how many parameters there are, the return type is
known and, for `fOrThrow`, the error class can be made from nothing. -/
theorem exists_run_body (hcopies : params.length = f.params.length)
    (hlen : f.params.length ≤ Body.maxListLength)
    (hreturn : q.types.contains f.returnType = true)
    (hconstr : strategy = .throwOnNull → host.noArgConstructor errorClass ≠ none) (name : Name) :
    ∃ l b q', (body strategy host errorClass f params name).run.run q = .ok (.ok (l, b), q') := by
  cases strategy with
  | nullOnThrow =>
    obtain ⟨handler, q', hrun, -⟩ := orNull_run name (q := q) hcopies hlen host.builtins
    exact ⟨⟨0⟩, orNullBody host.builtins f params (receiverPools f q).1 handler ⟨name, none⟩, q',
      Generating.run_bind_of_ok (Generating.run_lift_eq_ok_iff.2 hrun)⟩
  | throwOnNull =>
    cases hfound : host.noArgConstructor errorClass with
    | none => exact absurd hfound (hconstr rfl)
    | some constr =>
      obtain ⟨b, q', hrun⟩ := exists_run_orThrow name (q := q) hcopies hlen
        host.builtins errorClass constr hreturn
      refine ⟨⟨0⟩, b, q', ?_⟩
      simp only [body, hfound]
      exact Generating.run_bind_of_ok (Generating.run_lift_eq_ok_iff.2 hrun)

end Forwarding

/-! ## Companions -/

/-- What a host answers is what it was asked for. -/
structure Host.Reliable (host : Host) : Prop where
  nothing : host.builtins.nothing = .nothing
  null : host.builtins.null = .nullableNothing
  declaration : ∀ s d, host.declaration s = some d → d.symbol = s
  constr : ∀ c s, host.noArgConstructor c = some s → ∃ k, host.constr s = some k ∧ k.params = []

/-- What the signature of a function refers to is known, and a span can say how many parameters
there are. -/
structure Declaration.SignatureKnown (f : Declaration) (q : Pools) : Prop where
  name : ∃ text, q.names.text? f.id.name = some text
  returnType : q.types.contains f.returnType = true
  params : ∀ p ∈ f.params, q.symbols.HasParam p.symbol ∧ q.types.contains p.type = true
  length : f.params.length ≤ Body.maxListLength

instance (f : Declaration) (q : Pools) : Decidable (f.SignatureKnown q) :=
  decidable_of_iff ((q.names.text? f.id.name).isSome ∧ q.types.contains f.returnType = true ∧
      (∀ p ∈ f.params, q.symbols.HasParam p.symbol ∧ q.types.contains p.type = true) ∧
      f.params.length ≤ Body.maxListLength)
    ⟨fun h => ⟨Option.isSome_iff_exists.1 h.1, h.2.1, h.2.2.1, h.2.2.2⟩,
      fun h => ⟨Option.isSome_iff_exists.2 h.name, h.returnType, h.params, h.length⟩⟩

theorem Declaration.SignatureKnown.mono {f : Declaration} {q q' : Pools}
    (h : f.SignatureKnown q) (hgrows : q.Grows q') : f.SignatureKnown q' where
  name := by
    obtain ⟨text, htext⟩ := h.name
    exact ⟨text, hgrows.names _ _ htext⟩
  returnType := hgrows.contains h.returnType
  params p hp := ⟨hgrows.hasParam (h.params p hp).1, hgrows.contains (h.params p hp).2⟩
  length := h.length

namespace Companion

open Forwarding

variable {strategy : Strategy} {errorClass : ClassId} {host : Host} {id : CallableId}
  {origin : FunctionSymbol} {f : Declaration} {c : Companion} {q q' : Pools}

/-- The companion `id` of `f`, made where the pools were `q` and became `q'`. -/
structure IsMade (strategy : Strategy) (errorClass : ClassId) (host : Host) (id : CallableId)
    (origin : FunctionSymbol) (f : Declaration) (q : Pools) (c : Companion) (q' : Pools) :
    Prop where
  grows : q.Grows q'
  origin : c.origin = origin
  minted : q.symbols.MintsFunction q'.symbols c.symbol
  symbol : c.declaration.symbol = c.symbol
  length : f.params.length ≤ Body.maxListLength
  params : c.declaration.params = copiesFrom strategy.provenance q.symbols.params f.params
  returnType : ∃ t, q'.types.get? f.returnType = some t ∧
    q'.types.get? c.declaration.returnType = some { t with nullability := strategy.nullability }
  status : c.declaration.status = f.status
  provenance : c.declaration.provenance = strategy.provenance
  phase : c.declaration.phase = .body
  annotations : c.declaration.annotations = []
  body : ∃ b, c.declaration.body = some b ∧
    Forwards host errorClass f c.declaration.params ⟨id.name, some c.symbol⟩ q' strategy b
  approved : (Surroundings.check ⟨host.toLookup, q'.types⟩ c.declaration f).run = .ok (.ok ())
  id : c.declaration.id = id

/-- There are more symbols than parameters that a span can count. -/
theorem IsMade.length_le_capacity (h : IsMade strategy errorClass host id origin f q c q') :
    f.params.length ≤ SymbolSupply.capacity :=
  Nat.le_trans h.length (by decide)

theorem bindLabel_eq {b : Body} {name : Name} (h : b.labels = #[⟨name, none⟩])
    (id : CallableId) (s : FunctionSymbol) :
    bindLabel id ⟨0⟩ s b = pure { b with labels := #[⟨name, some s⟩] } := by
  simp [bindLabel, Body.bindLabel, Body.label?, h]

/-- The companions that are approved are those that pass the check. -/
theorem run_approve_eq_ok_iff {d : Declaration} :
    (approve host id d f).run.run q = .ok (.ok (), q') ↔
      (Surroundings.check ⟨host.toLookup, q.types⟩ d f).run = .ok (.ok ()) ∧ q = q' := by
  have hget : (get : Generating Pools).run.run q = .ok (.ok q, q) := rfl
  rw [approve, Generating.run_bind_of_ok hget]
  dsimp only
  cases hcheck : (Surroundings.check ⟨host.toLookup, q.types⟩ d f).run with
  | error fault =>
    constructor
    · intro h
      cases h
    · rintro ⟨h, -⟩
      cases h
  | ok verdict =>
    cases verdict with
    | error reason =>
      constructor
      · intro h
        cases h
      · rintro ⟨h, -⟩
        cases h
    | ok u =>
      constructor
      · intro h
        cases h
        exact ⟨rfl, rfl⟩
      · rintro ⟨-, rfl⟩
        rfl

/-- A companion that was made is the companion that is expected. -/
theorem run_make_eq_ok
    (h : (make strategy errorClass host id origin f).run.run q = .ok (.ok c, q')) :
    IsMade strategy errorClass host id origin f q c q' := by
  obtain ⟨params, q₁, hparams, h⟩ := Generating.run_bind_eq_ok_iff.1 h
  rw [Generating.run_lift_eq_ok_iff, mintParams_run] at hparams
  cases hparams
  obtain ⟨⟨l, b⟩, q₂, hbody, h⟩ := Generating.run_bind_eq_ok_iff.1 h
  obtain ⟨hgrows₂, rfl, hforwards⟩ := run_body_eq_ok (length_copiesFrom _ _) hbody
  obtain ⟨s, q₃, hmint, h⟩ := Generating.run_bind_eq_ok_iff.1 h
  obtain ⟨hgrows₃, rfl, hcount⟩ :=
    Growing.run_mintFunction_eq_ok (Generating.run_lift_eq_ok_iff.1 hmint)
  dsimp only at h
  rw [bindLabel_eq hforwards.labels, pure_bind] at h
  obtain ⟨returnType, q₄, hreturn, h⟩ := Generating.run_bind_eq_ok_iff.1 h
  obtain ⟨hgrows₄, t, ht, hnullability⟩ :=
    Growing.run_withNullability_eq_ok (Generating.run_lift_eq_ok_iff.1 hreturn)
  obtain ⟨u, q₅, happrove, h⟩ := Generating.run_bind_eq_ok_iff.1 h
  obtain ⟨hcheck, rfl⟩ := run_approve_eq_ok_iff.1 happrove
  obtain ⟨rfl, rfl⟩ := Generating.run_pure_eq_ok_iff.1 h
  have hgrows := (grows_afterParams q f.params.length).trans hgrows₂
  refine ⟨(hgrows.trans hgrows₃).trans hgrows₄, rfl, ?_, rfl,
    length_of_run_body (length_copiesFrom _ _) hbody, rfl,
    ⟨t, hgrows₄.types _ _ ht, hnullability⟩, rfl, rfl, rfl, rfl, ⟨_, rfl, ?_⟩, hcheck, rfl⟩
  · have hnext : q₂.symbols.functions < q₃.symbols.functions := hcount ▸ Nat.lt_succ_self _
    exact ⟨_, hgrows.functions, Nat.lt_of_lt_of_le hnext hgrows₄.functions, rfl⟩
  · exact (hforwards.mono (hgrows₃.trans hgrows₄)).withLabels _

/-- The nodes of a body that forwards pass the check from the root. -/
theorem approved_of_forwards (hhost : host.Reliable) {params : List Parameter} {label : Label}
    {b : Body} (hcopies : params.length = f.params.length)
    (hknown : ∀ selfType, (∀ owner, f.owner = some owner → q.types.contains selfType = true) →
      CallKnown ⟨host.toLookup, q.types⟩ f params selfType (params.map (·.symbol)))
    (h : Forwards host errorClass f params label q strategy b) :
    b.contains b.root = true ∧
      (Surroundings.checkNode ⟨host.toLookup, q.types⟩ b (b.size + 1) (params.map (·.symbol)) none
        b.root).run = .ok (.ok ()) := by
  have hnothing : q.types.contains host.builtins.nothing = true := by
    rw [hhost.nothing]
    exact q.types.contains_of_lt_seven (by decide)
  have hnull : q.types.contains host.builtins.null = true := by
    rw [hhost.null]
    exact q.types.contains_of_lt_seven (by decide)
  cases h with
  | @orNull selfType handler hself _ _ _ =>
    refine ⟨contains_root_orNullBody hcopies, ?_⟩
    rw [size_orNullBody hcopies]
    exact orNullBody_approved hcopies
      (hknown selfType fun owner ho => TypePool.contains_iff.2 ⟨_, hself owner ho⟩) hnothing hnull
  | @orThrow selfType errorType notNull constr hself hconstr herror htype =>
    obtain ⟨k, hk, hempty⟩ := hhost.constr errorClass constr hconstr
    obtain ⟨t, -, hnotNull⟩ := htype
    refine ⟨contains_root_orThrowBody hcopies, ?_⟩
    rw [size_orThrowBody hcopies]
    exact orThrowBody_approved hcopies
      (hknown selfType fun owner ho => TypePool.contains_iff.2 ⟨_, hself owner ho⟩) hnothing hk
      hempty (TypePool.contains_iff.2 ⟨_, herror⟩) (TypePool.contains_iff.2 ⟨_, hnotNull⟩)

/-- Making the companion of a function whose return type is known, and whose parameters a span can
count, comes down to its approval. -/
theorem exists_run_make_eq_approve (id : CallableId) (origin : FunctionSymbol)
    (hlen : f.params.length ≤ Body.maxListLength)
    (hreturn : q.types.contains f.returnType = true)
    (hconstr : strategy = .throwOnNull → host.noArgConstructor errorClass ≠ none) :
    ∃ c b q', (afterParams q f.params.length).Grows q' ∧ c.declaration.body = some b ∧
      c.declaration.params = copiesFrom strategy.provenance q.symbols.params f.params ∧
      c.declaration.provenance = strategy.provenance ∧ c.declaration.symbol = c.symbol ∧
      Forwards host errorClass f c.declaration.params ⟨id.name, some c.symbol⟩ q' strategy b ∧
      (make strategy errorClass host id origin f).run.run q =
        (do approve host id c.declaration f; return c : Generating Companion).run.run q' := by
  have hcopies : (copiesFrom strategy.provenance q.symbols.params f.params).length =
      f.params.length := length_copiesFrom _ _
  have hreturn₁ := (grows_afterParams q f.params.length).contains hreturn
  obtain ⟨l, b, q₂, hbody⟩ := exists_run_body hcopies hlen hreturn₁ hconstr id.name
  obtain ⟨hgrows₂, rfl, hforwards⟩ := run_body_eq_ok hcopies hbody
  obtain ⟨s, q₃, hmint⟩ : ∃ s q₃, Growing.mintFunction.run q₂ = .ok (s, q₃) := ⟨_, _, rfl⟩
  have hgrows₃ := (Growing.run_mintFunction_eq_ok hmint).1
  obtain ⟨returnType, q₄, htype⟩ :
      ∃ type q₄, (Growing.returnType strategy f.returnType).run q₃ = .ok (type, q₄) :=
    Growing.exists_run_withNullability strategy.nullability
      ((hgrows₂.trans hgrows₃).contains hreturn₁)
  have hgrows₄ := (Growing.run_withNullability_eq_ok htype).1
  let d : Declaration :=
    ⟨s, id, copiesFrom strategy.provenance q.symbols.params f.params, returnType, f.status,
      strategy.provenance, .body, [], some { b with labels := #[⟨id.name, some s⟩] }⟩
  refine ⟨⟨s, origin, d⟩, _, q₄, (hgrows₂.trans hgrows₃).trans hgrows₄, rfl, rfl, rfl, rfl,
    (hforwards.mono (hgrows₃.trans hgrows₄)).withLabels _, ?_⟩
  rw [make, Generating.run_bind_of_ok (Generating.run_lift_eq_ok_iff.2 (mintParams_run _ q)),
    Generating.run_bind_of_ok hbody]
  dsimp only
  rw [Generating.run_bind_of_ok (Generating.run_lift_eq_ok_iff.2 hmint),
    bindLabel_eq hforwards.labels, pure_bind,
    Generating.run_bind_of_ok (Generating.run_lift_eq_ok_iff.2 htype)]

/-- The companion of a function whose signature is known is made as long as there are symbols left
for its parameters, if the class that it throws can be made from nothing. -/
theorem exists_run_make (id : CallableId) (hhost : host.Reliable)
    (hf : host.declaration origin = some f) (hknown : f.SignatureKnown q)
    (hroom : q.symbols.params + f.params.length ≤ SymbolSupply.capacity)
    (hconstr : strategy = .throwOnNull → host.noArgConstructor errorClass ≠ none) :
    ∃ c q', (make strategy errorClass host id origin f).run.run q = .ok (.ok c, q') := by
  have hsymbol : f.symbol = origin := hhost.declaration origin f hf
  obtain ⟨c, b, q', hgrows, hbody, hparams, hprovenance, hown, hforwards, hrun⟩ :=
    exists_run_make_eq_approve id origin hknown.length hknown.returnType hconstr
  have hcopies : c.declaration.params.length = f.params.length := by
    rw [hparams, length_copiesFrom]
  have hknown' := (hknown.mono (grows_afterParams q f.params.length)).mono hgrows
  -- what the parameters are and which nodes the body has is all that the check asks for
  obtain ⟨hroot, hnodes⟩ := approved_of_forwards hhost hcopies (fun selfType hself =>
    ⟨hsymbol ▸ hf, hknown'.returnType, hself, fun p hp => ⟨by
      obtain ⟨p', hp', htype⟩ := type_of_mem_copiesFrom (hparams ▸ hp)
      exact htype ▸ (hknown'.params p' hp').2, List.mem_map_of_mem hp⟩⟩) hforwards
  have hrepeats : List.Forall₂ (fun own theirs => own.Repeats theirs c.declaration.provenance)
      c.declaration.params f.params := by
    rw [hparams, hprovenance]
    exact copiesFrom_repeat hroom fun p hp => (hknown.params p hp).1
  have hcheck : (Surroundings.check ⟨host.toLookup, q'.types⟩ c.declaration f).run =
      .ok (.ok ()) :=
    Surroundings.check_approves hrepeats hbody hroot
      (by rw [hforwards.labels]; simp [hown]) hnodes
  refine ⟨c, q', hrun.trans ?_⟩
  rw [Generating.run_bind_of_ok (run_approve_eq_ok_iff.2 ⟨hcheck, rfl⟩)]
  rfl

/-- Approval leaves the pools as they are, whatever the verdict. -/
theorem pools_of_run_approve {d : Declaration} {verdict : Except GenerationError Unit}
    (h : (approve host id d f).run.run q = .ok (verdict, q')) : q' = q := by
  have hget : (get : Generating Pools).run.run q = .ok (.ok q, q) := rfl
  rw [approve, Generating.run_bind_of_ok hget] at h
  dsimp only at h
  cases hcheck : (Surroundings.check ⟨host.toLookup, q.types⟩ d f).run with
  | error fault =>
    rw [hcheck] at h
    cases h
  | ok verdict =>
    rw [hcheck] at h
    cases verdict <;> cases h <;> rfl

/-- What comes of making the companion is the companion, if the symbols of its parameters have not
run out in the end. -/
theorem exists_made_of_run {made : Except GenerationError Companion} (hhost : host.Reliable)
    (hf : host.declaration origin = some f) (hknown : f.SignatureKnown q)
    (hconstr : strategy = .throwOnNull → host.noArgConstructor errorClass ≠ none)
    (h : (make strategy errorClass host id origin f).run.run q = .ok (made, q'))
    (hroom : q'.symbols.params ≤ SymbolSupply.capacity) : ∃ c, made = .ok c := by
  obtain ⟨c, b, r, hgrows, -, -, -, -, -, hrun⟩ :=
    exists_run_make_eq_approve id origin hknown.length hknown.returnType hconstr
  have hr : q' = r := by
    rw [hrun] at h
    obtain ⟨e, happrove, -⟩ | ⟨u, q₁, happrove, hreturn⟩ := Generating.run_bind_cases h
    · exact pools_of_run_approve happrove
    · cases hreturn
      exact pools_of_run_approve happrove
  -- the parameters were minted first of all
  have hminted : q.symbols.params + f.params.length ≤ q'.symbols.params := hr ▸ hgrows.params
  obtain ⟨c, r', hmake⟩ := exists_run_make id hhost hf hknown (Nat.le_trans hminted hroom) hconstr
  rw [h] at hmake
  cases hmake
  exact ⟨c, rfl⟩

/-- There is no companion that throws what cannot be made. -/
theorem run_make_eq_error (hconstr : host.noArgConstructor errorClass = none) :
    (make .throwOnNull errorClass host id origin f).run.run q =
      .ok (.error (.missingNoArgConstructor errorClass f.id), afterParams q f.params.length) := by
  rw [make, Generating.run_bind_of_ok (Generating.run_lift_eq_ok_iff.2 (mintParams_run _ q)),
    Generating.run_bind_of_error (run_body_eq_error hconstr id.name)]

end Companion

end Companions
