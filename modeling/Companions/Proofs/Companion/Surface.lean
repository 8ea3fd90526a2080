import Companions.Proofs.Companion.Answers
import Companions.Proofs.Companion.Partition
import Companions.Proofs.Companion.Totality
set_option autoImplicit false

/-!
# The surface of a session

A session lists companions so that names can be resolved, and makes them when they are asked for.
Both are read from the same two indexes, which are built at most once in a conversation
(`Session.Follows`).  So what is listed is what is made, whatever is asked for in which order
(`Session.ExactSurface`).
-/

namespace Companions

/-! ## Identities -/

namespace CallableId

/-- The identity is that of a top-level callable or that of a member of a class. -/
def Built (id : CallableId) : Prop :=
  (∃ package name, id = topLevel package name) ∨ ∃ owner name, id = member owner name

/-- A member lives in the package of its class. -/
theorem built_iff {id : CallableId} :
    id.Built ↔ ∀ c, id.owner = some c → id.package = c.package := by
  obtain ⟨package, owner, name⟩ := id
  constructor
  · rintro (⟨_, _, heq⟩ | ⟨_, _, heq⟩) c hc
    · cases heq
      cases hc
    · cases heq
      cases hc
      rfl
  · intro h
    cases owner with
    | none => exact .inl ⟨package, name, rfl⟩
    | some c =>
      have hpackage : package = c.package := h c rfl
      exact .inr ⟨c, name, by rw [hpackage, member]⟩

instance (id : CallableId) : Decidable id.Built :=
  match id with
  | ⟨_, none, _⟩ => .isTrue (built_iff.2 fun _ h => by cases h)
  | ⟨package, some c, _⟩ =>
    decidable_of_iff (package = c.package)
      ⟨fun h => built_iff.2 fun _ hc => by cases hc; exact h, fun h => built_iff.1 h c rfl⟩

theorem Built.withName {id : CallableId} (h : id.Built) (name : Name) : (id.withName name).Built :=
  built_iff.2 fun c hc => built_iff.1 h c hc

/-- Members of one class have their names to tell them apart. -/
theorem Built.eq_of_name {id id' : CallableId} (h : id.Built) (h' : id'.Built) {c : ClassId}
    (hc : id.owner = some c) (hc' : id'.owner = some c) (hname : id.name = id'.name) :
    id = id' := by
  have hpackage : id.package = id'.package :=
    (built_iff.1 h c hc).trans (built_iff.1 h' c hc').symm
  obtain ⟨package, owner, name⟩ := id
  obtain ⟨package', owner', name'⟩ := id'
  cases hc
  cases hc'
  cases hname
  cases hpackage
  rfl

end CallableId

/-! ## Indexes that are kept -/

variable {host : Host} {strategy : Strategy} {p q q' : Pools} {i j : CompanionIndex}
  {id : CallableId} {owner : Option ClassId}

/-- What the index lists and what it reports goes back to declarations of the host, and nothing is
both listed and reported. -/
structure CompanionIndex.Proper (host : Host) (strategy : Strategy) (q : Pools)
    (i : CompanionIndex) : Prop where
  listed : ∀ id ∈ i.identities, ∃ s, Derives host strategy.suffix q id s
  reported : ∀ c ∈ i.collisions, ∃ s, Derives host strategy.suffix q c.identity s
  apart : ∀ c ∈ i.collisions, c.identity ∉ i.identities

namespace CompanionIndex

theorem Proper.mono (h : i.Proper host strategy q) (hgrows : q.Grows q') :
    i.Proper host strategy q' where
  listed id hid := (h.listed id hid).imp fun _ hs => hs.mono hgrows
  reported c hc := (h.reported c hc).imp fun _ hs => hs.mono hgrows
  apart := h.apart

theorem mem_topLevel : id ∈ i.topLevel ↔ id ∈ i.identities ∧ id.owner = none := by
  rw [topLevel, List.mem_filter, CallableId.isTopLevel, Option.isNone_iff_eq_none]

theorem mem_namesIn {c : ClassId} {n : Name} :
    n ∈ i.namesIn c ↔ ∃ id ∈ i.identities, id.owner = some c ∧ id.name = n := by
  simp only [namesIn, List.mem_map, List.mem_filter, decide_eq_true_eq, and_assoc]

/-- Nothing is wrong with an index that says nothing. -/
theorem proper_default (host : Host) (strategy : Strategy) (q : Pools) :
    (default : CompanionIndex).Proper host strategy q := by
  refine ⟨?_, ?_, ?_⟩ <;> intro _ h <;> cases h

/-- An index that is built is proper. -/
theorem proper_of_build {predicate : Predicate}
    (h : (build host strategy predicate).run p = .ok (i, q)) : i.Proper host strategy q := by
  obtain ⟨derived, q₁, hderive, h⟩ := Growing.run_bind_eq_ok_iff.1 h
  obtain ⟨rfl, rfl⟩ := Growing.run_pure_eq_ok_iff.1 h
  obtain ⟨-, hgroups⟩ := deriveAll_keeps (I := Derived.Groups host strategy.suffix)
    (fun _ _ _ _ hgrows h => h.mono hgrows) (fun _ _ _ _ hs h => h.skip hs)
    (fun _ _ _ _ _ hs h => h.insert hs) [] hderive (.nil host strategy.suffix p)
  refine ⟨fun id hid => ?_, fun c hc => ?_, fun c hc hid => ?_⟩
  · obtain ⟨s, hd⟩ := mem_identities_ofDerived.1 hid
    exact ⟨s, hgroups.sound _ hd s (List.mem_singleton_self s)⟩
  · obtain ⟨-, hd, -⟩ := mem_collisions_ofDerived.1 hc
    obtain ⟨s, hs⟩ := List.exists_mem_of_ne_nil _ (hgroups.nonempty _ hd)
    exact ⟨s, hgroups.sound _ hd s hs⟩
  · -- there is one group for the identity
    obtain ⟨-, hd, hlength⟩ := mem_collisions_ofDerived.1 hc
    obtain ⟨s, hd'⟩ := mem_identities_ofDerived.1 hid
    have hsources : c.sources = [s] := congrArg Derived.sources
      (List.inj_on_of_nodup_map hgroups.distinct hd hd' rfl)
    rw [hsources, List.length_singleton] at hlength
    omega

end CompanionIndex

namespace Generator

variable {g g' : Generator}

/-- If the generator has an index, it is `i`. -/
def Settles (g : Generator) (i : CompanionIndex) : Prop := ∀ j, g.index.built? = some j → j = i

/-- The generator is one of the strategy, and its index is proper. -/
structure Proper (host : Host) (strategy : Strategy) (q : Pools) (g : Generator) : Prop where
  built : ∀ i, g.index.built? = some i → i.Proper host strategy q
  strategy : g.strategy = strategy

theorem Proper.mono (h : g.Proper host strategy q) (hgrows : q.Grows q') :
    g.Proper host strategy q' :=
  ⟨fun i hi => (h.built i hi).mono hgrows, h.strategy⟩

theorem Proper.getIndex (hg : g.Proper host strategy p)
    (h : (g.getIndex host).run p = .ok ((i, g'), q)) : g'.Proper host strategy q := by
  rcases run_getIndex_cases h with ⟨-, rfl, rfl⟩ | ⟨-, hbuild, rfl⟩
  · exact hg
  · have hproper := CompanionIndex.proper_of_build hbuild
    rw [hg.strategy] at hproper
    refine ⟨fun j hj => ?_, hg.strategy⟩
    cases hj
    exact hproper

/-- The index that is answered is the one that the generator has, if it has one, and it is kept. -/
theorem run_getIndex_settles (h : (g.getIndex host).run p = .ok ((i, g'), q)) :
    g.Settles i ∧ g'.index.built? = some i := by
  rcases run_getIndex_cases h with ⟨hbuilt, rfl, rfl⟩ | ⟨hnone, -, rfl⟩
  · refine ⟨fun j hj => ?_, hbuilt⟩
    rw [hbuilt] at hj
    exact (Option.some.inj hj).symm
  · refine ⟨fun j hj => ?_, rfl⟩
    rw [hnone] at hj
    cases hj

/-- Nothing is made exactly of what the index does not list and of what lives elsewhere. -/
theorem run_generateFrom_eq_none_iff {made : Except GenerationError (Option Companion)}
    (h : (g.generateFrom i host id owner).run.run p = .ok (made, q)) :
    made = .ok none ↔ id ∉ i.identities ∨ owner ≠ id.owner := by
  constructor
  · rintro rfl
    refine or_iff_not_imp_left.2 fun hid howner => ?_
    obtain ⟨origin, horigin⟩ :=
      Option.ne_none_iff_exists'.1 (mt CompanionIndex.originOf?_eq_none_iff.1 hid)
    simp only [generateFrom, horigin, howner, if_true] at h
    split at h
    · cases h
    · obtain ⟨c, q₁, -, h⟩ := Generating.run_bind_eq_ok_iff.1 h
      obtain ⟨heq, -⟩ := Generating.run_pure_eq_ok_iff.1 h
      cases heq
  · intro hnone
    rw [generateFrom_of_none hnone] at h
    cases h
    rfl

/-- What a generator answers follows its index, which it keeps. -/
theorem run_generate_follows {made : Except GenerationError (Option Companion)}
    (h : (g.generate host id owner).run p = .ok ((made, g'), q)) :
    ∃ i, g.Settles i ∧ g'.index.built? = some i ∧
      (made = .ok none ↔ id ∉ i.identities ∨ owner ≠ id.owner) ∧
      ∀ c, made = .ok (some c) →
        c.declaration.id = id ∧ c.declaration.provenance = g.strategy.provenance := by
  obtain ⟨i, q₁, hget, hfrom⟩ := run_generate_eq_ok h
  obtain ⟨hsettles, hbuilt⟩ := run_getIndex_settles hget
  refine ⟨i, hsettles, hbuilt, run_generateFrom_eq_none_iff hfrom, ?_⟩
  rintro c rfl
  obtain ⟨-, -, f, -, hmade⟩ := run_generateFrom_eq_some hfrom
  rw [(run_getIndex_keeps hget).2.1] at hmade
  exact ⟨hmade.id, hmade.provenance⟩

end Generator

/-! ## Sessions that keep their indexes -/

theorem Strategy.forall_iff {P : Strategy → Prop} :
    (∀ strategy, P strategy) ↔ P .nullOnThrow ∧ P .throwOnNull :=
  ⟨fun h => ⟨h _, h _⟩, fun h strategy => by cases strategy; exacts [h.1, h.2]⟩

theorem Strategy.exists_iff {P : Strategy → Prop} :
    (∃ strategy, P strategy) ↔ P .nullOnThrow ∨ P .throwOnNull :=
  ⟨fun ⟨strategy, h⟩ => by cases strategy; exacts [.inl h, .inr h],
    fun h => h.elim (⟨_, ·⟩) (⟨_, ·⟩)⟩

namespace Session

variable {s s' : Session} {indexes : Strategy → CompanionIndex} {request : Request} {a : Answer}

/-- If the session has indexes, they are these. -/
def Settles (s : Session) (indexes : Strategy → CompanionIndex) : Prop :=
  ∀ strategy, (s.generator strategy).Settles (indexes strategy)

/-- Both generators are proper. -/
def Proper (host : Host) (q : Pools) (s : Session) : Prop :=
  ∀ strategy, (s.generator strategy).Proper host strategy q

theorem lasts_proper (host : Host) : Lasts host (Generator.Proper host) where
  mono _ _ _ _ hgrows hg := hg.mono hgrows
  getIndex _ _ _ _ _ _ hg h := hg.getIndex h

/-- What the session has for indexes, it had for indexes if it had any. -/
theorem Settles.of_setGenerator {g : Generator} {i : CompanionIndex}
    (h : (s.setGenerator strategy g).Settles indexes) (hbuilt : g.index.built? = some i)
    (hsettles : (s.generator strategy).Settles i) :
    s.Settles indexes ∧ i = indexes strategy := by
  have heq : i = indexes strategy := by
    have hg := h strategy
    rw [generator_setGenerator, if_pos rfl] at hg
    exact hg i hbuilt
  refine ⟨fun other => ?_, heq⟩
  by_cases hother : strategy = other
  · exact hother ▸ heq ▸ hsettles
  · have hg := h other
    rwa [generator_setGenerator, if_neg hother] at hg

/-- The answer says what the indexes say. -/
def Follows (indexes : Strategy → CompanionIndex) : Request → Answer → Prop
  | .index strategy, .index listed => listed = indexes strategy
  | .topLevel, .topLevel ids =>
    ids = ((indexes .nullOnThrow).topLevel ++ (indexes .throwOnNull).topLevel).eraseDups
  | .namesIn c, .namesIn names =>
    names = ((indexes .nullOnThrow).namesIn c ++ (indexes .throwOnNull).namesIn c).eraseDups
  | .collisions, .collisions found =>
    found = (indexes .nullOnThrow).collisions ++ (indexes .throwOnNull).collisions
  | .generate id owner, .generate made =>
    (made = .ok none ↔ (∀ strategy, id ∉ (indexes strategy).identities) ∨ owner ≠ id.owner) ∧
      ∀ c, made = .ok (some c) → c.declaration.id = id ∧
        ∃ strategy, c.declaration.provenance = strategy.provenance ∧
          id ∈ (indexes strategy).identities
  | .generateAll, .generateAll _ => True
  | _, _ => False

/-- Something is made exactly of what lives there and is in an index. -/
theorem Follows.made_iff {made : Except GenerationError (Option Companion)}
    (h : Follows indexes (.generate id owner) (.generate made)) :
    made ≠ .ok none ↔ owner = id.owner ∧ ∃ strategy, id ∈ (indexes strategy).identities := by
  rw [Ne, h.1, not_or, not_forall, not_not, and_comm]
  simp only [not_not]

/-- What is listed as top-level is in an index. -/
theorem Follows.mem_topLevel_iff {ids : List CallableId}
    (h : Follows indexes .topLevel (.topLevel ids)) :
    id ∈ ids ↔ (∃ strategy, id ∈ (indexes strategy).identities) ∧ id.owner = none := by
  have h : ids = _ := h
  rw [h, List.mem_eraseDups, List.mem_append, CompanionIndex.mem_topLevel,
    CompanionIndex.mem_topLevel, Strategy.exists_iff, or_and_right]

theorem run_index_settles (h : (s.index host strategy).run p = .ok ((i, s'), q))
    (hsettled : s'.Settles indexes) : s.Settles indexes ∧ i = indexes strategy := by
  obtain ⟨g, hget, rfl⟩ := run_index_eq_ok h
  obtain ⟨hsettles, hbuilt⟩ := Generator.run_getIndex_settles hget
  exact hsettled.of_setGenerator hbuilt hsettles

theorem run_indexes_settles {both : CompanionIndex × CompanionIndex}
    (h : (s.indexes host).run p = .ok ((both, s'), q)) (hsettled : s'.Settles indexes) :
    s.Settles indexes ∧ both = (indexes .nullOnThrow, indexes .throwOnNull) := by
  obtain ⟨s₁, p₁, hfirst, hsecond⟩ := run_indexes_eq_ok h
  obtain ⟨hsettled₁, hthrow⟩ := run_index_settles hsecond hsettled
  obtain ⟨hsettled₀, hnull⟩ := run_index_settles hfirst hsettled₁
  exact ⟨hsettled₀, Prod.ext hnull hthrow⟩

theorem run_generateBy_settles {made : Except GenerationError (Option Companion)}
    (hs : s.Proper host p)
    (h : (s.generateBy host strategy id owner).run p = .ok ((made, s'), q))
    (hsettled : s'.Settles indexes) : s.Settles indexes ∧
      (made = .ok none ↔ id ∉ (indexes strategy).identities ∨ owner ≠ id.owner) ∧
      ∀ c, made = .ok (some c) →
        c.declaration.id = id ∧ c.declaration.provenance = strategy.provenance := by
  obtain ⟨g, hmade, rfl⟩ := run_generateBy_eq_ok h
  obtain ⟨i, hsettles, hbuilt, hnone, hsome⟩ := Generator.run_generate_follows hmade
  obtain ⟨hsettled₀, rfl⟩ := hsettled.of_setGenerator hbuilt hsettles
  rw [(hs strategy).strategy] at hsome
  exact ⟨hsettled₀, hnone, hsome⟩

theorem run_generate_follows {made : Except GenerationError (Option Companion)}
    (hs : s.Proper host p) (h : (s.generate host id owner).run p = .ok ((made, s'), q))
    (hsettled : s'.Settles indexes) :
    s.Settles indexes ∧ Follows indexes (.generate id owner) (.generate made) := by
  rcases run_generate_cases h with ⟨hsome, hfirst⟩ | ⟨s₁, p₁, hfirst, hsecond⟩
  · -- what the first strategy answers is the answer
    obtain ⟨hsettled₀, hnone, hmade⟩ := run_generateBy_settles hs hfirst hsettled
    have hlisted := mt hnone.2 hsome
    refine ⟨hsettled₀, ?_, fun c hc => ?_⟩
    · rw [Strategy.forall_iff]
      tauto
    · obtain ⟨hid, hprovenance⟩ := hmade c hc
      exact ⟨hid, .nullOnThrow, hprovenance, by tauto⟩
  · -- the second strategy is asked
    have hs₁ : s₁.Proper host p₁ := Keeps.generateBy (lasts_proper host) hs hfirst
    obtain ⟨hsettled₁, hnone, hmade⟩ := run_generateBy_settles hs₁ hsecond hsettled
    obtain ⟨hsettled₀, hfirst, -⟩ := run_generateBy_settles hs hfirst hsettled₁
    refine ⟨hsettled₀, hnone.trans ?_, fun c hc => ?_⟩
    · rw [Strategy.forall_iff]
      have hfirst := hfirst.1 rfl
      tauto
    · obtain ⟨hid, hprovenance⟩ := hmade c hc
      refine ⟨hid, .throwOnNull, hprovenance, ?_⟩
      by_contra hmem
      have hnothing := hnone.2 (.inl hmem)
      rw [hc] at hnothing
      cases hnothing

/-- All companions of one strategy are made from the index of the session. -/
theorem run_generateAll_of_generator {g : Generator}
    {made : Except GenerationError (List Companion)}
    (h : ((s.generator strategy).generateAll host).run p = .ok ((made, g), q))
    (hsettled : (s.setGenerator strategy g).Settles indexes) : s.Settles indexes := by
  obtain ⟨i, q₁, hget, -⟩ := Generator.run_generateAll_eq_ok h
  obtain ⟨hsettles, hbuilt⟩ := Generator.run_getIndex_settles hget
  exact (hsettled.of_setGenerator hbuilt hsettles).1

theorem run_generateAll_settles {made : Except GenerationError (List Companion)}
    (h : (s.generateAll host).run p = .ok ((made, s'), q)) (hsettled : s'.Settles indexes) :
    s.Settles indexes := by
  rcases run_generateAll_cases h with
    ⟨e, g, hfirst, -, rfl⟩ | ⟨first, g, p₁, second, g', hfirst, hsecond, -, rfl⟩
  · exact run_generateAll_of_generator hfirst hsettled
  · exact run_generateAll_of_generator hfirst (run_generateAll_of_generator hsecond hsettled)

/-- An answer follows the indexes that the session has from then on. -/
theorem run_answer_follows (hs : s.Proper host p)
    (h : (s.answer host request).run p = .ok ((a, s'), q)) (hsettled : s'.Settles indexes) :
    s.Settles indexes ∧ Follows indexes request a := by
  cases answered_of_run h with
  | index hindex => exact run_index_settles hindex hsettled
  | topLevel hindexes =>
    obtain ⟨hsettled₀, rfl⟩ := run_indexes_settles hindexes hsettled
    exact ⟨hsettled₀, rfl⟩
  | namesIn hindexes =>
    obtain ⟨hsettled₀, rfl⟩ := run_indexes_settles hindexes hsettled
    exact ⟨hsettled₀, rfl⟩
  | collisions hindexes =>
    obtain ⟨hsettled₀, rfl⟩ := run_indexes_settles hindexes hsettled
    exact ⟨hsettled₀, rfl⟩
  | generate hmade => exact run_generate_follows hs hmade hsettled
  | generateAll hmade => exact ⟨run_generateAll_settles hmade hsettled, trivial⟩

/-- All answers of a conversation follow the indexes that the session has at its end. -/
theorem run_converse_follows {requests : List Request} {answered : List (Request × Answer)}
    (hs : s.Proper host p)
    (h : (s.converse host requests).run p = .ok ((answered, s'), q))
    (hsettled : s'.Settles indexes) :
    s.Settles indexes ∧ ∀ r a, (r, a) ∈ answered → Follows indexes r a := by
  induction requests generalizing s p answered with
  | nil =>
    obtain ⟨heq, rfl⟩ := Growing.run_pure_eq_ok_iff.1 h
    cases heq
    exact ⟨hsettled, fun r a hmem => by cases hmem⟩
  | cons request rest ih =>
    obtain ⟨⟨a, s₁⟩, p₁, hanswer, h⟩ := Growing.run_bind_eq_ok_iff.1 h
    obtain ⟨⟨others, s₂⟩, p₂, hrest, h⟩ := Growing.run_bind_eq_ok_iff.1 h
    obtain ⟨heq, rfl⟩ := Growing.run_pure_eq_ok_iff.1 h
    cases heq
    have hs₁ : s₁.Proper host p₁ := Keeps.answer (lasts_proper host) hs hanswer
    obtain ⟨hsettled₁, hrest⟩ := ih hs₁ hrest
    obtain ⟨hsettled₀, hfollows⟩ := run_answer_follows hs hanswer hsettled₁
    refine ⟨hsettled₀, fun r a hmem => ?_⟩
    rcases List.mem_cons.1 hmem with heq | hmem
    · cases heq
      exact hfollows
    · exact hrest r a hmem

/-- A new session has a generator of each strategy, without an index. -/
theorem run_new_eq_ok {config : Config} (h : (Session.new config).run p = .ok (s, q)) :
    ∃ errorClass orNull orThrow,
      s = ⟨.new .nullOnThrow orNull errorClass, .new .throwOnNull orThrow errorClass⟩ := by
  obtain ⟨errorClass, p₁, -, h⟩ := Growing.run_bind_eq_ok_iff.1 h
  obtain ⟨orNull, p₂, -, h⟩ := Growing.run_bind_eq_ok_iff.1 h
  obtain ⟨orThrow, p₃, -, h⟩ := Growing.run_bind_eq_ok_iff.1 h
  obtain ⟨rfl, -⟩ := Growing.run_pure_eq_ok_iff.1 h
  exact ⟨errorClass, orNull, orThrow, rfl⟩

/-- Whatever a session has been asked before, it is proper. -/
theorem Serving.proper {config : Config} {q₀ : Pools} (h : Serving config host q₀ s q) :
    s.Proper host q := by
  induction h with
  | new hgrows h =>
    obtain ⟨errorClass, orNull, orThrow, rfl⟩ := run_new_eq_ok h
    intro strategy
    cases strategy with
    | nullOnThrow => exact ⟨fun i hi => (by cases hi), rfl⟩
    | throwOnNull => exact ⟨fun i hi => (by cases hi), rfl⟩
  | grow _ hgrows ih => exact fun strategy => (ih strategy).mono hgrows
  | serve _ r h ih => exact Keeps.serve (lasts_proper host) ih h

/-- A proper session has proper indexes. -/
theorem Proper.exists_settles (h : s.Proper host q) :
    ∃ indexes, s.Settles indexes ∧ ∀ strategy, (indexes strategy).Proper host strategy q := by
  -- an index that was never built may be taken to be empty
  refine ⟨fun strategy => ((s.generator strategy).index.built?).getD default,
    fun strategy i hi => ?_, fun strategy => ?_⟩
  · simp only [hi, Option.getD_some]
  · cases hi : (s.generator strategy).index.built? with
    | none =>
      simp only [hi, Option.getD_none]
      exact CompanionIndex.proper_default _ _ _
    | some i =>
      simp only [hi, Option.getD_some]
      exact (h strategy).built i hi

/-! ## What is listed is what is made -/

/-- The answers of a conversation fit together. -/
structure ExactSurface (answered : List (Request × Answer)) : Prop where
  /-- A top-level companion is made exactly if it is listed. -/
  topLevel : ∀ id owner made ids, id.Built → id.owner = none →
    (.generate id owner, .generate made) ∈ answered → (.topLevel, .topLevel ids) ∈ answered →
      (made ≠ .ok none ↔ owner = id.owner ∧ id ∈ ids)
  /-- A companion in a class is made exactly if its name is listed for the class. -/
  member : ∀ id owner c made names, id.Built → id.owner = some c →
    (.generate id owner, .generate made) ∈ answered → (.namesIn c, .namesIn names) ∈ answered →
      (made ≠ .ok none ↔ owner = id.owner ∧ id.name ∈ names)
  topLevel_nodup : ∀ ids, (.topLevel, .topLevel ids) ∈ answered → ids.Nodup
  namesIn_nodup : ∀ c names, (.namesIn c, .namesIn names) ∈ answered → names.Nodup
  disjoint : ∀ i j id, (.index .nullOnThrow, .index i) ∈ answered →
    (.index .throwOnNull, .index j) ∈ answered → ¬ (id ∈ i.identities ∧ id ∈ j.identities)
  /-- What is made is what was asked for, and comes from the strategy that has it in its index. -/
  made : ∀ id owner c, (.generate id owner, .generate (.ok (some c))) ∈ answered →
    c.declaration.id = id ∧ ∃ strategy, c.declaration.provenance = .generated strategy ∧
      ∀ other i, (.index other, .index i) ∈ answered → (id ∈ i.identities ↔ other = strategy)
  /-- What collides is neither listed nor made. -/
  collisions : ∀ found c, (.collisions, .collisions found) ∈ answered → c ∈ found →
    (∀ ids, (.topLevel, .topLevel ids) ∈ answered → c.identity ∉ ids) ∧
    (∀ k names, (.namesIn k, .namesIn names) ∈ answered → c.identity.owner = some k →
      c.identity.name ∉ names) ∧
    ∀ owner made, (.generate c.identity owner, .generate made) ∈ answered → made = .ok none

section Exact

variable {answered : List (Request × Answer)}
  (hbuilt : ∀ s d, host.declaration s = some d → d.id.Built)
  (hproper : ∀ strategy, (indexes strategy).Proper host strategy q)

include hproper

/-- No identity is in the indexes of both strategies. -/
theorem strategy_eq_of_listed {other : Strategy} (h : id ∈ (indexes strategy).identities)
    (h' : id ∈ (indexes other).identities) : strategy = other := by
  obtain ⟨s, hs⟩ := (hproper strategy).listed id h
  obtain ⟨t, ht⟩ := (hproper other).listed id h'
  exact hs.strategy_eq ht

/-- What collides for one strategy is listed for none. -/
theorem not_listed_of_collides {c : Collision} (h : c ∈ (indexes strategy).collisions)
    (other : Strategy) : c.identity ∉ (indexes other).identities := by
  intro hlisted
  obtain ⟨s, hs⟩ := (hproper strategy).reported c h
  obtain ⟨t, ht⟩ := (hproper other).listed c.identity hlisted
  cases hs.strategy_eq ht
  exact (hproper strategy).apart c h hlisted

include hbuilt

/-- The name of a member is listed for its class exactly if the member is in an index. -/
theorem Follows.mem_namesIn_iff {c : ClassId} {names : List Name}
    (h : Follows indexes (.namesIn c) (.namesIn names)) (hid : id.Built)
    (hc : id.owner = some c) :
    id.name ∈ names ↔ ∃ strategy, id ∈ (indexes strategy).identities := by
  have hone : ∀ strategy, id.name ∈ (indexes strategy).namesIn c ↔
      id ∈ (indexes strategy).identities := by
    intro strategy
    rw [CompanionIndex.mem_namesIn]
    constructor
    · rintro ⟨id', hid', hc', hname⟩
      obtain ⟨s, d, text, hd, -, -, heq⟩ := (hproper strategy).listed id' hid'
      have hbuilt' : id'.Built := heq ▸ (hbuilt s d hd).withName _
      exact hid.eq_of_name hbuilt' hc hc' hname.symm ▸ hid'
    · exact fun h => ⟨id, h, hc, rfl⟩
  have h : names = _ := h
  rw [h, List.mem_eraseDups, List.mem_append, hone, hone, Strategy.exists_iff]

/-- What collides lives where declarations of the host live. -/
theorem built_of_collides {c : Collision} (h : c ∈ (indexes strategy).collisions) :
    c.identity.Built := by
  obtain ⟨s, d, text, hd, -, -, heq⟩ := (hproper strategy).reported c h
  exact heq ▸ (hbuilt s d hd).withName _

/-- Answers that follow one pair of indexes fit together. -/
theorem exactSurface_of_follows
    (hfollows : ∀ r a, (r, a) ∈ answered → Follows indexes r a) : ExactSurface answered := by
  refine ⟨fun id owner made ids _ howner hmade htop => ?_,
    fun id owner c made names hid hc hmade hnames => ?_, fun ids htop => ?_,
    fun c names hnames => ?_, fun i j id hi hj hmem => ?_, fun id owner c hmade => ?_,
    fun found c hfound hc => ?_⟩
  · rw [(hfollows _ _ hmade).made_iff, (hfollows _ _ htop).mem_topLevel_iff,
      and_iff_left howner]
  · rw [(hfollows _ _ hmade).made_iff,
      (hfollows _ _ hnames).mem_namesIn_iff hbuilt hproper hid hc]
  · have htop : ids = _ := hfollows _ _ htop
    exact htop ▸ nodup_eraseDups _
  · have hnames : names = _ := hfollows _ _ hnames
    exact hnames ▸ nodup_eraseDups _
  · obtain rfl : i = _ := hfollows _ _ hi
    obtain rfl : j = _ := hfollows _ _ hj
    cases strategy_eq_of_listed hproper hmem.1 hmem.2
  · obtain ⟨-, hsome⟩ := hfollows _ _ hmade
    obtain ⟨hid, strategy, hprovenance, hmem⟩ := hsome c rfl
    refine ⟨hid, strategy, hprovenance, fun other i hi => ?_⟩
    obtain rfl : i = _ := hfollows _ _ hi
    refine ⟨fun h => strategy_eq_of_listed hproper h hmem, ?_⟩
    rintro rfl
    exact hmem
  · have hfound : found = _ := hfollows _ _ hfound
    rw [hfound, List.mem_append] at hc
    obtain ⟨strategy, hc⟩ : ∃ strategy, c ∈ (indexes strategy).collisions :=
      Strategy.exists_iff.2 hc
    have hnot : ¬ ∃ other, c.identity ∈ (indexes other).identities :=
      fun h => h.elim (not_listed_of_collides hproper hc)
    refine ⟨fun ids htop hmem => ?_, fun k names hnames hk hmem => ?_, fun owner made hmade => ?_⟩
    · exact hnot ((hfollows _ _ htop).mem_topLevel_iff.1 hmem).1
    · have hid := built_of_collides hbuilt hproper hc
      exact hnot (((hfollows _ _ hnames).mem_namesIn_iff hbuilt hproper hid hk).1 hmem)
    · by_contra hne
      exact hnot ((hfollows _ _ hmade).made_iff.1 hne).2

end Exact

/-- Whatever a session has been asked before and is asked now, it answers, and what it lists is what
it makes. -/
theorem converse_exact {p : Program} (hp : p.Reachable)
    (hknown : ∀ d ∈ p.declarations, d.HeaderKnown p.pools)
    (hbuilt : ∀ d ∈ p.declarations, d.id.Built) {registry : Registry} {config : Config}
    (hs : Serving config (p.host registry) p.pools s q) (requests : List Request) :
    ∃ answered s' q', (s.converse (p.host registry) requests).run q = .ok ((answered, s'), q') ∧
      answered.map (·.1) = requests ∧ ExactSurface answered := by
  have hready : (p.host registry).Ready q := by
    refine Host.Ready.mono ⟨TypePool.contains_iff.2 ⟨_, hp.sound.throwable⟩, fun s f hf => ?_⟩
      hs.sound.1
    exact hknown f (Program.mem_of_declaration? hf)
  obtain ⟨answered, s', q', hrun, hrequests⟩ := exists_run_converse hready s requests
  have hs' : s'.Proper (p.host registry) q' := Keeps.converse (lasts_proper _) hs.proper hrun
  obtain ⟨indexes, hsettled, hproper⟩ := hs'.exists_settles
  refine ⟨answered, s', q', hrun, hrequests, exactSurface_of_follows (fun s d hd => ?_) hproper
    (run_converse_follows hs.proper hrun hsettled).2⟩
  exact hbuilt d (Program.mem_of_declaration? hd)

end Session

/-! ## The sample -/

namespace Sample

/-- A new session is asked what there is, and then for a companion. -/
def asksTwice : Growing (List (Session.Request × Session.Answer) × Session) := do
  let s ← Session.new .standard
  s.converse (program.host registry) [.topLevel, .generate loadOrNull none]

/-- Whether the companion is made. -/
def getsCompanion : Bool :=
  match asksTwice.run program.pools with
  | .ok (([(.topLevel, .topLevel _), (.generate id owner, .generate (.ok (some _)))], _), _) =>
    decide (id = loadOrNull ∧ owner = none)
  | _ => false

theorem getsCompanion_program : getsCompanion = true := by decide +kernel

end Sample

open Sample in
/-- The companion is made, and therefore it was listed before. -/
theorem Session.converse_exact_load :
    program.Reachable ∧ (∀ d ∈ program.declarations, d.HeaderKnown program.pools) ∧
      (∀ d ∈ program.declarations, d.id.Built) ∧
      ∃ s q, Serving .standard (program.host registry) program.pools s q ∧
        ∃ ids made s' q', (s.converse (program.host registry)
            [.topLevel, .generate loadOrNull none]).run q =
              .ok (([(.topLevel, .topLevel ids), (.generate loadOrNull none, .generate made)], s'),
                q') ∧
          made ≠ .ok none ∧ loadOrNull ∈ ids := by
  have hknown : ∀ d ∈ program.declarations, d.HeaderKnown program.pools :=
    fun d hd => (known d hd).headerKnown
  have hbuilt : ∀ d ∈ program.declarations, d.id.Built := by decide +kernel
  have hgets := getsCompanion_program
  unfold getsCompanion at hgets
  split at hgets
  · next ids id owner c s' q' hasks =>
    obtain ⟨rfl, rfl⟩ := of_decide_eq_true hgets
    obtain ⟨s, q, hnew, hconverse⟩ := Growing.run_bind_eq_ok_iff.1 hasks
    have hs : Serving .standard (program.host registry) program.pools s q := .new (.refl _) hnew
    obtain ⟨answered, s₁, q₁, hrun, -, hexact⟩ :=
      converse_exact program_reachable hknown hbuilt hs [.topLevel, .generate loadOrNull none]
    rw [hconverse] at hrun
    cases hrun
    have hlisted := hexact.topLevel loadOrNull none (.ok (some c)) ids (.inl ⟨_, _, rfl⟩) rfl
      (by simp) (by simp)
    have hmade : (.ok (some c) : Except GenerationError (Option Companion)) ≠ .ok none := by
      intro heq
      cases heq
    exact ⟨program_reachable, hknown, hbuilt, s, q, hs, ids, _, s', q', hconverse, hmade,
      (hlisted.1 hmade).2⟩
  · cases hgets

end Companions
