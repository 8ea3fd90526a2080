import Companions.Companion.Session
import Companions.Proofs.Companion.Index
import Companions.Proofs.Companion.Making
import Companions.Proofs.Program.Reachable
set_option autoImplicit false

/-!
# Sessions that serve

A session is asked for one thing after another, while the pools grow (`Session.Serving`).  Its
generators only add to the pools, and answer a request for a companion by what their indexes say
and by nothing else.
-/

namespace Companions

/-! ## Work that only adds -/

namespace Generating

variable {α β : Type}

/-- All that the work does to the pools is to add to them, however it ends. -/
def OnlyGrows (work : Generating α) : Prop := Growing.OnlyGrows work.run

theorem OnlyGrows.pure (a : α) : OnlyGrows (pure a : Generating α) := Growing.OnlyGrows.pure _

theorem OnlyGrows.throw (e : GenerationError) : OnlyGrows (throw e : Generating α) :=
  Growing.OnlyGrows.pure _

theorem OnlyGrows.bind {x : Generating α} {f : α → Generating β} (hx : OnlyGrows x)
    (hf : ∀ a, OnlyGrows (f a)) : OnlyGrows (x >>= f) := by
  refine Growing.OnlyGrows.bind hx fun r => ?_
  cases r with
  | error e => exact Growing.OnlyGrows.pure _
  | ok a => exact hf a

theorem OnlyGrows.lift {x : Growing α} (hx : Growing.OnlyGrows x) :
    OnlyGrows (liftM x : Generating α) := by
  change Growing.OnlyGrows (ExceptT.run (ExceptT.lift x))
  rw [ExceptT.run_lift, map_eq_pure_bind]
  exact Growing.OnlyGrows.bind hx fun a => .pure _

end Generating

variable {host : Host} {strategy : Strategy} {errorClass : ClassId} {id : CallableId}
  {origin : FunctionSymbol} {f : Declaration} {p q q' : Pools}

theorem Forwarding.onlyGrows_body {params : List Parameter}
    (hcopies : params.length = f.params.length) (name : Name) :
    Generating.OnlyGrows (body strategy host errorClass f params name) := by
  cases strategy with
  | nullOnThrow =>
    refine .bind (.lift fun p b q h => ?_) fun _ => .pure _
    obtain ⟨handler, -, hhandler⟩ := run_orNull_eq_ok hcopies h
    exact (grows_receiverPools f p).trans hhandler.grows
  | throwOnNull =>
    cases hconstr : host.noArgConstructor errorClass with
    | none =>
      simp only [body, hconstr]
      exact .throw _
    | some constr =>
      simp only [body, hconstr]
      refine .bind (.lift fun p b q h => ?_) fun _ => .pure _
      obtain ⟨errorType, notNull, -, htypes⟩ := run_orThrow_eq_ok hcopies h
      exact (grows_receiverPools f p).trans htypes.grows

namespace Companion

theorem onlyGrows_bindLabel (id : CallableId) (label : LabelId) (s : FunctionSymbol) (b : Body) :
    Generating.OnlyGrows (bindLabel id label s b) := by
  unfold bindLabel
  split
  · exact .pure _
  · exact .throw _

theorem onlyGrows_approve (host : Host) (id : CallableId) (d f : Declaration) :
    Generating.OnlyGrows (approve host id d f) := by
  have hget : Generating.OnlyGrows (get : Generating Pools) := by
    intro p r q h
    cases h
    exact .refl p
  refine .bind hget fun q => .bind (.lift (Growing.OnlyGrows.liftM _)) fun verdict => ?_
  cases verdict with
  | ok u => exact .pure _
  | error reason => exact .throw _

theorem onlyGrows_make : Generating.OnlyGrows (make strategy errorClass host id origin f) := by
  intro p r q h
  rw [make, Generating.run_bind_of_ok
    (Generating.run_lift_eq_ok_iff.2 (mintParams_run f.params p))] at h
  refine (grows_afterParams p f.params.length).trans (Generating.OnlyGrows.bind
    (Forwarding.onlyGrows_body (length_copiesFrom _ _) _) (fun b => ?_) _ _ _ h)
  refine .bind (.lift .mintFunction) fun s => ?_
  refine .bind (onlyGrows_bindLabel _ _ _ _) fun b => ?_
  refine .bind (.lift (Growing.OnlyGrows.withNullability _ _)) fun type => ?_
  exact .bind (onlyGrows_approve _ _ _ _) fun _ => .pure _

end Companion

/-! ## Generators -/

namespace Generator

variable {g g' : Generator} {i : CompanionIndex} {owner : Option ClassId}

/-- The generator is one of the strategy and the error class, and if it has an index, that index
lists companions of the host's declarations only. -/
structure Sound (strategy : Strategy) (errorClass : ClassId) (host : Host) (q : Pools)
    (g : Generator) : Prop where
  built : ∀ i, g.index.built? = some i → i.Sound host strategy.suffix q
  strategy : g.strategy = strategy
  errorClass : g.errorClass = errorClass

theorem Sound.mono (h : g.Sound strategy errorClass host q) (hgrows : q.Grows q') :
    g.Sound strategy errorClass host q' :=
  ⟨fun i hi => (h.built i hi).mono hgrows, h.strategy, h.errorClass⟩

/-- The index that is answered is the one that the generator has, or else it is built and kept. -/
theorem run_getIndex_cases (h : (g.getIndex host).run p = .ok ((i, g'), q)) :
    (g.index.built? = some i ∧ g' = g ∧ q = p) ∨
      (g.index.built? = none ∧
        (CompanionIndex.build host g.strategy g.predicate).run p = .ok (i, q) ∧
        g' = { g with index := { g.index with built? := some i } }) := by
  obtain ⟨⟨j, index⟩, p₁, hget, h⟩ := Growing.run_bind_eq_ok_iff.1 h
  obtain ⟨heq, rfl⟩ := Growing.run_pure_eq_ok_iff.1 h
  cases heq
  unfold LazyIndex.get at hget
  cases hbuilt : g.index.built? with
  | some built =>
    rw [hbuilt] at hget
    obtain ⟨heq, rfl⟩ := Growing.run_pure_eq_ok_iff.1 hget
    cases heq
    exact .inl ⟨rfl, rfl, rfl⟩
  | none =>
    rw [hbuilt] at hget
    obtain ⟨built, p₂, hbuild, hget⟩ := Growing.run_bind_eq_ok_iff.1 hget
    obtain ⟨heq, rfl⟩ := Growing.run_pure_eq_ok_iff.1 hget
    cases heq
    exact .inr ⟨rfl, hbuild, rfl⟩

/-- The index that is answered is sound and is kept. -/
theorem run_getIndex_eq_ok (h : (g.getIndex host).run p = .ok ((i, g'), q))
    (hg : g.Sound strategy errorClass host p) :
    p.Grows q ∧ i.Sound host strategy.suffix q ∧ g'.Sound strategy errorClass host q ∧
      g'.index.built? = some i := by
  rcases run_getIndex_cases h with ⟨hbuilt, rfl, rfl⟩ | ⟨-, hbuild, rfl⟩
  · exact ⟨.refl q, hg.built i hbuilt, hg, hbuilt⟩
  · obtain ⟨hgrows, hsound⟩ := CompanionIndex.run_build_eq_ok hbuild
    rw [hg.strategy] at hsound
    refine ⟨hgrows, hsound, ⟨?_, hg.strategy, hg.errorClass⟩, rfl⟩
    rintro j hj
    cases hj
    exact hsound

/-- Whatever index the generator has, it stays a generator of the same companions. -/
theorem run_getIndex_keeps (h : (g.getIndex host).run p = .ok ((i, g'), q)) :
    p.Grows q ∧ g'.strategy = g.strategy ∧ g'.errorClass = g.errorClass := by
  rcases run_getIndex_cases h with ⟨-, rfl, rfl⟩ | ⟨-, hbuild, rfl⟩
  · exact ⟨.refl q, rfl, rfl⟩
  · exact ⟨(CompanionIndex.run_build_eq_ok hbuild).1, rfl, rfl⟩

theorem exists_run_getIndex (h : CompanionIndex.NamesKnown host p) (g : Generator) :
    ∃ i g' q, (g.getIndex host).run p = .ok ((i, g'), q) := by
  cases hbuilt : g.index.built? with
  | some built =>
    refine ⟨built, g, p, ?_⟩
    simp only [getIndex, LazyIndex.get, hbuilt]
    rfl
  | none =>
    obtain ⟨i, q, hbuild⟩ :=
      CompanionIndex.exists_run_build h g.index.strategy g.index.predicate
    have hget : (g.index.get host).run p = .ok ((i, { g.index with built? := some i }), q) := by
      simp only [LazyIndex.get, hbuilt]
      exact Growing.run_bind_of_ok hbuild
    exact ⟨i, _, q, Growing.run_bind_of_ok hget⟩

theorem onlyGrows_generateFrom (g : Generator) (i : CompanionIndex) (host : Host) (id : CallableId)
    (owner : Option ClassId) : Generating.OnlyGrows (g.generateFrom i host id owner) := by
  unfold generateFrom
  split
  · exact .pure _
  · split
    · split
      · exact .throw _
      · exact .bind Companion.onlyGrows_make fun _ => .pure _
    · exact .pure _

theorem onlyGrows_generateEach (g : Generator) (i : CompanionIndex) (host : Host)
    (ids : List CallableId) : Generating.OnlyGrows (g.generateEach i host ids) := by
  induction ids with
  | nil => exact .pure _
  | cons id rest ih =>
    exact .bind (onlyGrows_generateFrom _ _ _ _ _) fun _ => .bind ih fun _ => .pure _

/-- Work that follows the index leaves the generator as the index left it. -/
theorem run_generate_eq_ok {answer : Except GenerationError (Option Companion)}
    (h : (g.generate host id owner).run p = .ok ((answer, g'), q)) :
    ∃ i q₁, (g.getIndex host).run p = .ok ((i, g'), q₁) ∧
      (g'.generateFrom i host id owner).run.run q₁ = .ok (answer, q) := by
  obtain ⟨⟨i, g₁⟩, q₁, hget, h⟩ := Growing.run_bind_eq_ok_iff.1 h
  obtain ⟨r, q₂, hmade, h⟩ := Growing.run_bind_eq_ok_iff.1 h
  obtain ⟨heq, rfl⟩ := Growing.run_pure_eq_ok_iff.1 h
  cases heq
  exact ⟨i, q₁, hget, hmade⟩

theorem run_generateAll_eq_ok {answer : Except GenerationError (List Companion)}
    (h : (g.generateAll host).run p = .ok ((answer, g'), q)) :
    ∃ i q₁, (g.getIndex host).run p = .ok ((i, g'), q₁) ∧
      (g'.generateEach i host i.identities).run.run q₁ = .ok (answer, q) := by
  obtain ⟨⟨i, g₁⟩, q₁, hget, h⟩ := Growing.run_bind_eq_ok_iff.1 h
  obtain ⟨r, q₂, hmade, h⟩ := Growing.run_bind_eq_ok_iff.1 h
  obtain ⟨heq, rfl⟩ := Growing.run_pure_eq_ok_iff.1 h
  cases heq
  exact ⟨i, q₁, hget, hmade⟩

/-! ## What a generator answers -/

theorem generateFrom_of_none (h : id ∉ i.identities ∨ owner ≠ id.owner) :
    g.generateFrom i host id owner = pure none := by
  unfold generateFrom
  split
  · rfl
  · next hfound =>
    have hid : id ∈ i.identities :=
      List.mem_map_of_mem (CompanionIndex.mem_entries_of_originOf? hfound)
    rw [if_neg fun howner => h.elim (absurd hid) (absurd howner.symm)]

theorem generateFrom_of_some (h : i.originOf? id = some origin)
    (hf : host.declaration origin = some f) :
    g.generateFrom i host id id.owner =
      (return some (← Companion.make g.strategy g.errorClass host id origin f)) := by
  simp only [generateFrom, h, if_true, hf]

/-- A companion that an index leads to is made from the declaration of its origin. -/
theorem run_generateFrom_eq_some {c : Companion}
    (h : (g.generateFrom i host id owner).run.run p = .ok (.ok (some c), q)) :
    owner = id.owner ∧ i.originOf? id = some c.origin ∧ ∃ f, host.declaration c.origin = some f ∧
      Companion.IsMade g.strategy g.errorClass host id c.origin f p c q := by
  unfold generateFrom at h
  split at h
  · cases h
  · next origin hfound =>
    split at h
    · next howner =>
      split at h
      · cases h
      · next f hf =>
        obtain ⟨made, q₁, hmake, h⟩ := Generating.run_bind_eq_ok_iff.1 h
        obtain ⟨heq, rfl⟩ := Generating.run_pure_eq_ok_iff.1 h
        obtain rfl := Option.some.inj heq
        have hmade := Companion.run_make_eq_ok hmake
        rw [hmade.origin]
        exact ⟨howner.symm, hfound, f, hf, hmade⟩
    · cases h

/-- A companion that is generated is made from the declaration of its origin. -/
theorem run_generate_eq_some {c : Companion}
    (h : (g.generate host id owner).run p = .ok ((.ok (some c), g'), q)) :
    ∃ f q₁, p.Grows q₁ ∧ host.declaration c.origin = some f ∧
      Companion.IsMade g.strategy g.errorClass host id c.origin f q₁ c q := by
  obtain ⟨i, q₁, hget, hfrom⟩ := run_generate_eq_ok h
  obtain ⟨hgrows, hstrategy, herror⟩ := run_getIndex_keeps hget
  obtain ⟨-, -, f, hf, hmade⟩ := run_generateFrom_eq_some hfrom
  rw [hstrategy, herror] at hmade
  exact ⟨f, q₁, hgrows, hf, hmade⟩

/-- What a generator answers from its index for an identity that the index lists, where the
signatures of the host's declarations are known: something at all events, a companion as long as
there are symbols for its parameters, unless the class to throw cannot be made from nothing. -/
theorem run_generateFrom_of_mem {answer : Except GenerationError (Option Companion)}
    (hhost : host.Reliable) (hknown : ∀ s d, host.declaration s = some d → d.SignatureKnown q)
    (hg : g.Sound strategy errorClass host q) (hi : i.Sound host strategy.suffix q)
    (hid : id ∈ i.identities)
    (h : (g.generateFrom i host id id.owner).run.run q = .ok (answer, q')) :
    answer ≠ .ok none ∧
      (q'.symbols.params ≤ SymbolSupply.capacity →
        (strategy = .throwOnNull → host.noArgConstructor errorClass ≠ none) →
        ∃ c, answer = .ok (some c)) ∧
      (strategy = .throwOnNull → host.noArgConstructor errorClass = none →
        ∃ origin f, i.originOf? id = some origin ∧ host.declaration origin = some f ∧
          answer = .error (.missingNoArgConstructor errorClass f.id)) := by
  obtain ⟨origin, horigin⟩ : ∃ origin, i.originOf? id = some origin := by
    cases hfound : i.originOf? id with
    | none => exact absurd hid (CompanionIndex.originOf?_eq_none_iff.1 hfound)
    | some origin => exact ⟨origin, rfl⟩
  obtain ⟨f, -, hf, -⟩ := hi _ (CompanionIndex.mem_entries_of_originOf? horigin)
  rw [generateFrom_of_some horigin hf, hg.strategy, hg.errorClass] at h
  refine ⟨?_, fun hroom hconstr => ?_, ?_⟩
  · rintro rfl
    obtain ⟨c, q₁, -, hreturn⟩ := Generating.run_bind_eq_ok_iff.1 h
    cases hreturn
  · obtain ⟨e, hmake, -⟩ | ⟨c, q₁, -, hreturn⟩ := Generating.run_bind_cases h
    · obtain ⟨c, hc⟩ := Companion.exists_made_of_run hhost hf (hknown origin f hf) hconstr hmake hroom
      cases hc
    · cases hreturn
      exact ⟨c, rfl⟩
  · rintro rfl hnone
    rw [Generating.run_bind_of_error (Companion.run_make_eq_error hnone)] at h
    cases h
    exact ⟨origin, f, horigin, hf, rfl⟩

end Generator

/-! ## Sessions -/

namespace Session

/-- What a session can be asked for. -/
inductive Request
  | index (strategy : Strategy)
  | topLevel
  | namesIn (c : ClassId)
  | collisions
  | generate (id : CallableId) (owner : Option ClassId)
  | generateAll
  deriving DecidableEq, Repr

/-- What the session has become once the request is answered. -/
def serve (s : Session) (host : Host) : Request → Growing Session
  | .index strategy => do return (← s.index host strategy).2
  | .topLevel => do return (← s.topLevel host).2
  | .namesIn c => do return (← s.namesIn host c).2
  | .collisions => do return (← s.collisions host).2
  | .generate id owner => do return (← s.generate host id owner).2
  | .generateAll => do return (← s.generateAll host).2

/-- A session of the configuration that has served requests, over pools that have grown from `q₀`
and may have grown between the requests. -/
inductive Serving (config : Config) (host : Host) (q₀ : Pools) : Session → Pools → Prop
  | new {q q' : Pools} {s : Session} (hgrows : q₀.Grows q)
      (h : (Session.new config).run q = .ok (s, q')) : Serving config host q₀ s q'
  | grow {q q' : Pools} {s : Session} (before : Serving config host q₀ s q) (h : q.Grows q') :
      Serving config host q₀ s q'
  | serve {q q' : Pools} {s s' : Session} (before : Serving config host q₀ s q) (r : Request)
      (h : (s.serve host r).run q = .ok (s', q')) : Serving config host q₀ s' q'

/-- Both generators are sound. -/
structure Sound (errorClass : ClassId) (host : Host) (q : Pools) (s : Session) : Prop where
  orNull : s.orNull.Sound .nullOnThrow errorClass host q
  orThrow : s.orThrow.Sound .throwOnNull errorClass host q

variable {s s' : Session} {config : Config}

theorem Sound.mono (h : s.Sound errorClass host q) (hgrows : q.Grows q') :
    s.Sound errorClass host q' :=
  ⟨h.orNull.mono hgrows, h.orThrow.mono hgrows⟩

theorem Sound.generator (h : s.Sound errorClass host q) (strategy : Strategy) :
    (s.generator strategy).Sound strategy errorClass host q := by
  cases strategy with
  | nullOnThrow => exact h.orNull
  | throwOnNull => exact h.orThrow

/-- A new session has no index yet. -/
theorem sound_new (host : Host) (h : (Session.new config).run p = .ok (s, q)) :
    p.Grows q ∧ s.Sound s.orThrow.errorClass host q := by
  obtain ⟨e, p₁, hclass, h⟩ := Growing.run_bind_eq_ok_iff.1 h
  obtain ⟨orNull, p₂, hnull, h⟩ := Growing.run_bind_eq_ok_iff.1 h
  obtain ⟨orThrow, p₃, hthrow, h⟩ := Growing.run_bind_eq_ok_iff.1 h
  obtain ⟨rfl, rfl⟩ := Growing.run_pure_eq_ok_iff.1 h
  have hgrows₁ := Growing.OnlyGrows.classId config.errorClass _ _ _ hclass
  cases hnull
  cases hthrow
  refine ⟨(hgrows₁.trans (Growing.grows_internMarkers _ _)).trans
    (Growing.grows_internMarkers _ _), ⟨?_, rfl, rfl⟩, ⟨?_, rfl, rfl⟩⟩
  · rintro i hi
    cases hi
  · rintro i hi
    cases hi

end Session

end Companions
