import Companions.Proofs.Companion.Answers
import Companions.Proofs.Companion.Conversation
set_option autoImplicit false

/-!
# What a session finds

The predicates of a configuration are made twice: to be registered with a host, and to be asked
about by a session.  A host answers for a predicate only if the very same was registered.  It was,
because a text that has a name keeps it, and a predicate is made of the names of its texts
(`Predicate.AsksFor`).  So a session finds exactly the functions that are marked as the
configuration says, and finds nothing over a host with which its predicates are not registered
(`Session.finds_marked`).
-/

namespace Companions

/-- A list without repeats has none to be removed. -/
theorem eraseDups_of_nodup {α : Type} [BEq α] [LawfulBEq α] {l : List α} (h : l.Nodup) :
    l.eraseDups = l := by
  induction l with
  | nil => rfl
  | cons a rest ih =>
    obtain ⟨hfirst, hrest⟩ := List.nodup_cons.1 h
    have hkept : rest.filter (fun b => !b == a) = rest := by
      refine List.filter_eq_self.2 fun b hb => ?_
      have hne : b ≠ a := fun heq => hfirst (heq ▸ hb)
      simp [hne]
    rw [List.eraseDups_cons, hkept, ih hrest]

/-- The functions that carry an annotation with one of the paths, in the order of declaration. -/
def Program.marked (p : Program) (names : NameTable) (paths : List String) : List FunctionSymbol :=
  (p.declarations.filter fun d =>
    d.annotations.any fun a => paths.any fun path => names.text? a.path = some path).map (·.symbol)

/-! ## Predicates of texts -/

/-- The marker has the path. -/
def Marker.Reads (names : NameTable) (m : Marker) (path : String) : Prop :=
  names.text? m.path = some path

theorem Marker.reads_leftUnique (names : NameTable) :
    Relator.LeftUnique (Marker.Reads names) :=
  fun _ _ _ h h' => congrArg Marker.mk (NameTable.text?_inj h h')

/-- Markers that have the paths one after another are all that have one of them. -/
theorem Marker.mem_iff_of_reads {names : NameTable} {markers : List Marker} {paths : List String}
    (h : List.Forall₂ (Marker.Reads names) markers paths) (a : Marker) :
    a ∈ markers ↔ ∃ path ∈ paths, a.Reads names path := by
  induction h with
  | nil => simp
  | @cons m path markers paths hm _ ih =>
    have hfirst : a = m ↔ a.Reads names path :=
      ⟨fun heq => heq ▸ hm, fun ha => reads_leftUnique names ha hm⟩
    rw [List.mem_cons, hfirst, ih]
    simp

namespace Predicate

/-- The predicate asks for the markers with these paths, one after another. -/
def AsksFor (names : NameTable) (paths : List String) (predicate : Predicate) : Prop :=
  ∃ markers, predicate = ofMarkers markers ∧ List.Forall₂ (Marker.Reads names) markers paths

theorem holdsAny_eq_any (ps : List Predicate) (annotations : List Marker) :
    holdsAny ps annotations = ps.any (·.holds annotations) := by
  induction ps with
  | nil => rfl
  | cons p rest ih => rw [holdsAny, ih, List.any_cons]

/-- However many markers there are, the predicate holds where one of them is. -/
theorem holds_ofMarkers {markers annotations : List Marker} :
    (ofMarkers markers).holds annotations = true ↔ ∃ a ∈ annotations, a ∈ markers := by
  have hany : (anyOf (markers.map has)).holds annotations = true ↔
      ∃ a ∈ annotations, a ∈ markers := by
    simp [holds, holdsAny_eq_any, and_comm]
  unfold ofMarkers
  split
  · simp [holds]
  · exact hany

variable {names names' : NameTable} {paths : List String} {predicate other : Predicate}

theorem AsksFor.mono (h : predicate.AsksFor names paths)
    (hgrows : ∀ n text, names.text? n = some text → names'.text? n = some text) :
    predicate.AsksFor names' paths := by
  obtain ⟨markers, hmarkers, hpaths⟩ := h
  exact ⟨markers, hmarkers, hpaths.imp fun _ _ => hgrows _ _⟩

/-- There is one predicate that asks for the paths, whenever it is made. -/
theorem AsksFor.unique (h : predicate.AsksFor names paths) (h' : other.AsksFor names paths) :
    predicate = other := by
  obtain ⟨markers, rfl, hpaths⟩ := h
  obtain ⟨markers', rfl, hpaths'⟩ := h'
  rw [List.left_unique_forall₂' (Marker.reads_leftUnique names) hpaths hpaths']

/-- The predicate holds exactly where an annotation has one of the paths. -/
theorem AsksFor.holds_eq (h : predicate.AsksFor names paths) (annotations : List Marker) :
    predicate.holds annotations =
      annotations.any fun a => paths.any fun path => names.text? a.path = some path := by
  obtain ⟨markers, rfl, hpaths⟩ := h
  rw [Bool.eq_iff_iff, holds_ofMarkers]
  simp only [Marker.mem_iff_of_reads hpaths, Marker.Reads, List.any_eq_true, decide_eq_true_eq]

/-- Markers that are read from paths have the paths. -/
theorem reads_internMarkers (q : Pools) (paths : List String) :
    List.Forall₂ (Marker.Reads (internMarkers q.names paths).2) (internMarkers q.names paths).1
      paths := by
  induction paths generalizing q with
  | nil => exact .nil
  | cons path rest ih =>
    let q₁ : Pools := { q with names := (q.names.intern path).2 }
    have hfirst : (⟨(q.names.intern path).1⟩ : Marker).Reads q₁.names path :=
      NameTable.text?_intern q.names path
    exact .cons ((Growing.grows_internMarkers q₁ rest).names _ _ hfirst) (ih q₁)

/-- The predicate of a strategy asks for the paths that the configuration has for it. -/
theorem asksFor_predicate (config : Config) (strategy : Strategy) (q : Pools) :
    (config.predicate strategy q.names).1.AsksFor (config.predicate strategy q.names).2
      (config.markers strategy) :=
  ⟨_, rfl, reads_internMarkers q _⟩

end Predicate

variable {config : Config} {strategy : Strategy} {q q' : Pools} {predicate : Predicate}

theorem Growing.run_predicate_eq_ok
    (h : (Growing.predicate config strategy).run q = .ok (predicate, q')) :
    q.Grows q' ∧ predicate.AsksFor q'.names (config.markers strategy) := by
  cases h
  exact ⟨grows_internMarkers q _, Predicate.asksFor_predicate config strategy q⟩

/-! ## Registering -/

namespace Registry

theorem contains_register_of_contains {r : Registry} (h : r.contains predicate = true)
    (other : Predicate) : (r.register other).contains predicate = true := by
  unfold register
  split
  · exact h
  · exact List.contains_iff_mem.2 (List.mem_append_left _ (List.contains_iff_mem.1 h))

/-- Registering comes to an end, with a predicate registered for each strategy that asks for its
paths. -/
theorem exists_run_registerAll (r : Registry) (config : Config) (q : Pools) :
    ∃ r' q', (r.registerAll config).run q = .ok (r', q') ∧ q.Grows q' ∧
      ∀ strategy, ∃ predicate, r'.contains predicate = true ∧
        predicate.AsksFor q'.names (config.markers strategy) := by
  obtain ⟨orNull, q₁, hnull⟩ :
      ∃ m q₁, (Growing.predicate config .nullOnThrow).run q = .ok (m, q₁) := ⟨_, _, rfl⟩
  obtain ⟨orThrow, q₂, hthrow⟩ :
      ∃ m q₂, (Growing.predicate config .throwOnNull).run q₁ = .ok (m, q₂) := ⟨_, _, rfl⟩
  obtain ⟨hgrows₁, hasks₁⟩ := Growing.run_predicate_eq_ok hnull
  obtain ⟨hgrows₂, hasks₂⟩ := Growing.run_predicate_eq_ok hthrow
  refine ⟨(r.register orNull).register orThrow, q₂, ?_, hgrows₁.trans hgrows₂, fun strategy => ?_⟩
  · rw [registerAll, Growing.run_bind_of_ok hnull, Growing.run_bind_of_ok hthrow]
    rfl
  · cases strategy with
    | nullOnThrow =>
      exact ⟨orNull, contains_register_of_contains (r.contains_register orNull) _,
        hasks₁.mono hgrows₂.names⟩
    | throwOnNull => exact ⟨orThrow, (r.register orNull).contains_register orThrow, hasks₂⟩

end Registry

/-! ## Indexes -/

variable {host : Host} {i : CompanionIndex}

namespace CompanionIndex

/-- An index has what the host answered. -/
theorem matched_of_build (h : (build host strategy predicate).run q = .ok (i, q')) :
    i.matched = (host.matching predicate).eraseDups := by
  obtain ⟨derived, q₁, -, h⟩ := Growing.run_bind_eq_ok_iff.1 h
  obtain ⟨rfl, -⟩ := Growing.run_pure_eq_ok_iff.1 h
  rfl

/-- Where the host answers nothing, the index is empty, and building it adds nothing. -/
theorem run_build_of_nothing (h : host.matching predicate = []) (strategy : Strategy) (q : Pools) :
    (build host strategy predicate).run q = .ok (default, q) := by
  rw [build, h]
  rfl

end CompanionIndex

namespace Generator

variable {g g' : Generator}

/-- The index was built over the host. -/
def Built (host : Host) (g : Generator) (i : CompanionIndex) : Prop :=
  ∃ q q', (CompanionIndex.build host g.strategy g.predicate).run q = .ok (i, q')

/-- The generator asks for what the configuration marks for the strategy, and if it has an index,
that was built over the host. -/
structure Seeks (config : Config) (host : Host) (strategy : Strategy) (q : Pools) (g : Generator) :
    Prop where
  asks : g.predicate.AsksFor q.names (config.markers strategy)
  built : ∀ i, g.index.built? = some i → g.Built host i

theorem Seeks.getIndex (hg : g.Seeks config host strategy q)
    (h : (g.getIndex host).run q = .ok ((i, g'), q')) :
    g.Built host i ∧ g'.Seeks config host strategy q' := by
  have hgrows := (run_getIndex_keeps h).1
  rcases run_getIndex_cases h with ⟨hbuilt, rfl, rfl⟩ | ⟨-, hbuild, rfl⟩
  · exact ⟨hg.built i hbuilt, hg⟩
  · refine ⟨⟨q, q', hbuild⟩, hg.asks.mono hgrows.names, fun j hj => ?_⟩
    cases hj
    exact ⟨q, q', hbuild⟩

/-- The host answers nothing to the generator, and has answered nothing. -/
structure Idle (host : Host) (g : Generator) : Prop where
  nothing : host.matching g.predicate = []
  built : ∀ i, g.index.built? = some i → i = default

theorem Idle.run_getIndex (hg : g.Idle host) (q : Pools) :
    ∃ g', (g.getIndex host).run q = .ok ((default, g'), q) ∧ g'.Idle host := by
  cases hbuilt : g.index.built? with
  | some i =>
    obtain rfl := hg.built i hbuilt
    refine ⟨g, ?_, hg⟩
    simp only [getIndex, LazyIndex.get, hbuilt]
    rfl
  | none =>
    have hbuild := CompanionIndex.run_build_of_nothing hg.nothing g.index.strategy q
    have hget : (g.index.get host).run q =
        .ok ((default, { g.index with built? := some default }), q) := by
      simp only [LazyIndex.get, hbuilt]
      exact Growing.run_bind_of_ok hbuild
    refine ⟨_, Growing.run_bind_of_ok hget, hg.nothing, fun i hi => ?_⟩
    exact (Option.some.inj hi).symm

end Generator

namespace Session

open Registry

variable {s s' : Session} {q₀ : Pools}

theorem lasts_seeks (config : Config) (host : Host) : Lasts host (Generator.Seeks config host) where
  mono _ _ _ _ hgrows hg := ⟨hg.asks.mono hgrows.names, hg.built⟩
  getIndex _ _ _ _ _ _ hg h := (hg.getIndex h).2

/-- A new session asks for what the configuration marks. -/
theorem seeks_new (host : Host) (h : (Session.new config).run q = .ok (s, q')) :
    Keeps (Generator.Seeks config host) q' s := by
  obtain ⟨errorClass, q₁, -, h⟩ := Growing.run_bind_eq_ok_iff.1 h
  obtain ⟨orNull, q₂, hnull, h⟩ := Growing.run_bind_eq_ok_iff.1 h
  obtain ⟨orThrow, q₃, hthrow, h⟩ := Growing.run_bind_eq_ok_iff.1 h
  obtain ⟨rfl, rfl⟩ := Growing.run_pure_eq_ok_iff.1 h
  obtain ⟨-, hasks₁⟩ := Growing.run_predicate_eq_ok hnull
  obtain ⟨hgrows, hasks₂⟩ := Growing.run_predicate_eq_ok hthrow
  intro strategy
  cases strategy with
  | nullOnThrow => exact ⟨hasks₁.mono hgrows.names, nofun⟩
  | throwOnNull => exact ⟨hasks₂, nofun⟩

/-- Whatever a session has been asked before, it asks the host for what the configuration marks. -/
theorem Serving.seeks (h : Serving config host q₀ s q) :
    Keeps (Generator.Seeks config host) q s := by
  induction h with
  | new _ h => exact seeks_new host h
  | grow _ hgrows ih =>
    exact fun strategy => (lasts_seeks config host).mono _ _ _ _ hgrows (ih strategy)
  | serve _ r h ih => exact ih.serve (lasts_seeks config host) h

/-- An index of a session has what the host answers to its predicate. -/
theorem Serving.matched_eq (hs : Serving config host q₀ s q)
    (h : (s.index host strategy).run q = .ok ((i, s'), q')) :
    i.matched = (host.matching (s.generator strategy).predicate).eraseDups := by
  obtain ⟨g, hget, -⟩ := run_index_eq_ok h
  obtain ⟨⟨q₁, q₂, hbuild⟩, -⟩ := (hs.seeks strategy).getIndex hget
  exact CompanionIndex.matched_of_build hbuild

/-! ## Sessions that find nothing -/

/-- The answer where there is nothing. -/
def Request.nothing : Request → Answer
  | .index _ => .index default
  | .topLevel => .topLevel []
  | .namesIn _ => .namesIn []
  | .collisions => .collisions []
  | .generate _ _ => .generate (.ok none)
  | .generateAll => .generateAll (.ok [])

/-- Both generators are idle. -/
def Idle (host : Host) (s : Session) : Prop := ∀ strategy, (s.generator strategy).Idle host

theorem Idle.setGenerator (hs : s.Idle host) (strategy : Strategy) {g : Generator}
    (hg : g.Idle host) : (s.setGenerator strategy g).Idle host := by
  intro other
  rw [generator_setGenerator]
  split
  · exact hg
  · exact hs other

theorem Idle.run_index (hs : s.Idle host) (strategy : Strategy) (q : Pools) :
    ∃ s', (s.index host strategy).run q = .ok ((default, s'), q) ∧ s'.Idle host := by
  obtain ⟨g, hget, hg⟩ := (hs strategy).run_getIndex q
  exact ⟨_, Growing.run_bind_of_ok hget, hs.setGenerator strategy hg⟩

theorem Idle.run_indexes (hs : s.Idle host) (q : Pools) :
    ∃ s', (s.indexes host).run q = .ok (((default, default), s'), q) ∧ s'.Idle host := by
  obtain ⟨s₁, hfirst, hs₁⟩ := hs.run_index .nullOnThrow q
  obtain ⟨s₂, hsecond, hs₂⟩ := hs₁.run_index .throwOnNull q
  refine ⟨s₂, ?_, hs₂⟩
  rw [indexes, Growing.run_bind_of_ok hfirst, Growing.run_bind_of_ok hsecond]
  rfl

theorem Idle.run_generateBy (hs : s.Idle host) (strategy : Strategy) (id : CallableId)
    (owner : Option ClassId) (q : Pools) :
    ∃ s', (s.generateBy host strategy id owner).run q = .ok ((.ok none, s'), q) ∧
      s'.Idle host := by
  obtain ⟨g, hget, hg⟩ := (hs strategy).run_getIndex q
  have hmade : ((s.generator strategy).generate host id owner).run q = .ok ((.ok none, g), q) := by
    rw [Generator.generate, Growing.run_bind_of_ok hget]
    rfl
  exact ⟨_, Growing.run_bind_of_ok hmade, hs.setGenerator strategy hg⟩

theorem Idle.run_generateAll (hs : s.Idle host) (q : Pools) :
    ∃ s', (s.generateAll host).run q = .ok ((.ok [], s'), q) ∧ s'.Idle host := by
  have hall : ∀ strategy, ∃ g,
      ((s.generator strategy).generateAll host).run q = .ok ((.ok [], g), q) ∧ g.Idle host := by
    intro strategy
    obtain ⟨g, hget, hg⟩ := (hs strategy).run_getIndex q
    refine ⟨g, ?_, hg⟩
    rw [Generator.generateAll, Growing.run_bind_of_ok hget]
    rfl
  obtain ⟨g, hfirst, hg⟩ := hall .nullOnThrow
  obtain ⟨g', hsecond, hg'⟩ := hall .throwOnNull
  refine ⟨_, (Growing.run_bind_of_ok hfirst).trans (Growing.run_bind_of_ok hsecond), ?_⟩
  exact (hs.setGenerator .nullOnThrow hg).setGenerator .throwOnNull hg'

/-- A session that finds nothing answers that there is nothing, and it finds nothing afterwards. -/
theorem Idle.run_answer (hs : s.Idle host) (request : Request) (q : Pools) :
    ∃ s', (s.answer host request).run q = .ok ((request.nothing, s'), q) ∧ s'.Idle host := by
  obtain ⟨s', hindexes, hs'⟩ := hs.run_indexes q
  cases request with
  | index strategy =>
    obtain ⟨s', h, hs'⟩ := hs.run_index strategy q
    exact ⟨s', Growing.run_bind_of_ok h, hs'⟩
  | topLevel =>
    have hlist : (s.topLevel host).run q = .ok (([], s'), q) := Growing.run_bind_of_ok hindexes
    exact ⟨s', Growing.run_bind_of_ok hlist, hs'⟩
  | namesIn c =>
    have hlist : (s.namesIn host c).run q = .ok (([], s'), q) := Growing.run_bind_of_ok hindexes
    exact ⟨s', Growing.run_bind_of_ok hlist, hs'⟩
  | collisions =>
    have hlist : (s.collisions host).run q = .ok (([], s'), q) := Growing.run_bind_of_ok hindexes
    exact ⟨s', Growing.run_bind_of_ok hlist, hs'⟩
  | generate id owner =>
    obtain ⟨s₁, hfirst, hs₁⟩ := hs.run_generateBy .nullOnThrow id owner q
    obtain ⟨s₂, hsecond, hs₂⟩ := hs₁.run_generateBy .throwOnNull id owner q
    have hmade : (s.generate host id owner).run q = .ok ((.ok none, s₂), q) :=
      (Growing.run_bind_of_ok hfirst).trans hsecond
    exact ⟨s₂, Growing.run_bind_of_ok hmade, hs₂⟩
  | generateAll =>
    obtain ⟨s', h, hs'⟩ := hs.run_generateAll q
    exact ⟨s', Growing.run_bind_of_ok h, hs'⟩

theorem Idle.run_converse (hs : s.Idle host) (requests : List Request) (q : Pools) :
    ∃ s', (s.converse host requests).run q =
      .ok ((requests.map fun r => (r, r.nothing), s'), q) := by
  induction requests generalizing s with
  | nil => exact ⟨s, rfl⟩
  | cons r rest ih =>
    obtain ⟨s₁, hanswer, hs₁⟩ := hs.run_answer r q
    obtain ⟨s₂, hrest⟩ := ih hs₁
    refine ⟨s₂, ?_⟩
    rw [converse, Growing.run_bind_of_ok hanswer, Growing.run_bind_of_ok hrest]
    rfl

/-! ## What a program answers -/

section Program

variable {p : Program} {registry : Registry}

/-- A program answers a registered predicate that asks for paths with the functions that carry one
of them. -/
theorem matching_of_contains (h : registry.contains predicate = true) {paths : List String}
    (hasks : predicate.AsksFor q.names paths) :
    (p.host registry).matching predicate = p.marked q.names paths := by
  have hmatching : (p.host registry).matching predicate = p.matching predicate := if_pos h
  rw [hmatching, Program.matching, Program.marked]
  simp only [hasks.holds_eq]

/-- No function of a program that comes up is marked twice. -/
theorem nodup_marked (hp : p.Reachable) (names : NameTable) (paths : List String) :
    (p.marked names paths).Nodup :=
  hp.nodup_symbols.sublist (List.filter_sublist.map _)

/-- Over a program with which the predicates of the configuration are registered, an index of a
session has the functions that are marked. -/
theorem matched_of_registered (hp : p.Reachable)
    (hregistered : ∀ strategy, ∃ predicate, registry.contains predicate = true ∧
      predicate.AsksFor q₀.names (config.markers strategy))
    (hs : Serving config (p.host registry) q₀ s q)
    (h : (s.index (p.host registry) strategy).run q = .ok ((i, s'), q')) :
    i.matched = p.marked q.names (config.markers strategy) := by
  obtain ⟨predicate, hcontains, hasks⟩ := hregistered strategy
  have hsame : (s.generator strategy).predicate = predicate :=
    (hs.seeks strategy).asks.unique (hasks.mono hs.sound.1.names)
  rw [hs.matched_eq h, hsame, matching_of_contains hcontains (hasks.mono hs.sound.1.names)]
  exact eraseDups_of_nodup (nodup_marked hp _ _)

/-- Over a program with which the predicates of the configuration are not registered, a session
finds nothing. -/
theorem idle_of_unregistered (hs : Serving config (p.host registry) q₀ s q)
    (hnone : ∀ strategy, registry.contains (config.predicate strategy q.names).1 = false) :
    s.Idle (p.host registry) := by
  intro strategy
  have hgrows : q.Grows { q with names := (config.predicate strategy q.names).2 } :=
    Growing.grows_internMarkers q _
  have hsame : (s.generator strategy).predicate = (config.predicate strategy q.names).1 :=
    ((hs.seeks strategy).asks.mono hgrows.names).unique
      (Predicate.asksFor_predicate config strategy q)
  have hnothing : (p.host registry).matching (s.generator strategy).predicate = [] := by
    rw [hsame]
    exact if_neg (by simp [hnone strategy])
  refine ⟨hnothing, fun i hi => ?_⟩
  obtain ⟨q₁, q₂, hbuild⟩ := (hs.seeks strategy).built i hi
  rw [CompanionIndex.run_build_of_nothing hnothing] at hbuild
  cases hbuild
  rfl

end Program

/-- Discovery matches the configuration.  Once the predicates of a configuration are registered with
a program, whatever else is, the indexes of a session of the configuration have exactly the
functions with an annotation whose path is one of the strategy's, in the order of declaration and
once each; and there are such indexes if the functions have names.  Over a program with which
neither of the predicates is registered, a session answers whatever it is asked that there is
nothing. -/
theorem finds_marked {p : Program} (hp : p.Reachable) (config : Config) :
    (∀ (r : Registry) (q₁ : Pools), p.pools.Grows q₁ → ∃ r' q₂,
      (r.registerAll config).run q₁ = .ok (r', q₂) ∧
      ∀ registry : Registry, (∀ predicate, r'.contains predicate = true →
        registry.contains predicate = true) →
      ∀ s q, Serving config (p.host registry) q₂ s q → ∀ strategy,
        (∀ i s' q', (s.index (p.host registry) strategy).run q = .ok ((i, s'), q') →
          i.matched = p.marked q.names (config.markers strategy) ∧ i.matched.Nodup) ∧
        (CompanionIndex.NamesKnown (p.host registry) p.pools →
          ∃ i s' q', (s.index (p.host registry) strategy).run q = .ok ((i, s'), q'))) ∧
    ∀ (registry : Registry) (q₀ : Pools) (s : Session) (q : Pools),
      Serving config (p.host registry) q₀ s q →
      (∀ strategy, registry.contains (config.predicate strategy q.names).1 = false) →
      ∀ requests, ∃ s', (s.converse (p.host registry) requests).run q =
        .ok ((requests.map fun r => (r, r.nothing), s'), q) := by
  refine ⟨fun r q₁ hq₁ => ?_, fun registry q₀ s q hs hnone requests => ?_⟩
  · obtain ⟨r', q₂, hrun, hgrows, hregistered⟩ := r.exists_run_registerAll config q₁
    refine ⟨r', q₂, hrun, fun registry hkept s q hs strategy => ?_⟩
    refine ⟨fun i s' q' h => ?_, fun hnames => ?_⟩
    · have hregistered : ∀ strategy, ∃ predicate, registry.contains predicate = true ∧
          predicate.AsksFor q₂.names (config.markers strategy) :=
        fun strategy => (hregistered strategy).imp fun _ h => ⟨hkept _ h.1, h.2⟩
      have hmatched := matched_of_registered hp hregistered hs h
      exact ⟨hmatched, hmatched ▸ nodup_marked hp _ _⟩
    · have hknown := hnames.mono ((hq₁.trans hgrows).trans hs.sound.1)
      obtain ⟨i, g, q', hget⟩ := Generator.exists_run_getIndex hknown (s.generator strategy)
      exact ⟨i, _, q', Growing.run_bind_of_ok hget⟩
  · exact (idle_of_unregistered hs hnone).run_converse requests q

end Session

open Sample in
/-- The function with the first marker is found for the strategy of the marker. -/
theorem Session.finds_marked_load :
    program.Reachable ∧ ∃ r' q₂ s q i s' q',
      (Registry.empty.registerAll .standard).run program.pools = .ok (r', q₂) ∧
      (Session.new .standard).run q₂ = .ok (s, q) ∧
      (s.index (program.host r') .nullOnThrow).run q = .ok ((i, s'), q') ∧
      i.matched = program.marked q.names (Config.standard.markers .nullOnThrow) := by
  obtain ⟨hfinds, -⟩ := finds_marked program_reachable .standard
  obtain ⟨r', q₂, hrun, hmatched⟩ := hfinds .empty program.pools (.refl _)
  obtain ⟨s, q, hnew⟩ : ∃ s q, (Session.new .standard).run q₂ = .ok (s, q) := ⟨_, _, rfl⟩
  have hnames : CompanionIndex.NamesKnown (program.host r') program.pools := by
    intro symbol d hd
    exact (known d (Program.mem_of_declaration? hd)).name
  obtain ⟨hmarked, hindex⟩ := hmatched r' (fun _ h => h) s q (.new (.refl _) hnew) .nullOnThrow
  obtain ⟨i, s', q', h⟩ := hindex hnames
  exact ⟨program_reachable, r', q₂, s, q, i, s', q', hrun, hnew, h, (hmarked i s' q' h).1⟩

open Sample in
example : program.marked program.pools.names (Config.standard.markers .nullOnThrow) = [⟨0⟩] := by
  decide +kernel

end Companions
