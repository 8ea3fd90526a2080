import Companions.Proofs.Companion.Serving
set_option autoImplicit false

/-!
# Conversations

A session is asked for one thing after another and answers each time (`Session.answer`,
`Session.converse`).  Whoever the session belongs to and whatever it has become, answering only adds
to the pools, and the companions that it hands out were made for the answer
(`Session.madeBetween_of_answer`): their symbols are new.

What lasts of a generator while its index is got, a session keeps whatever it is asked
(`Session.Keeps.answer`).  So the indexes of a session that serves list companions of the host's
declarations only (`Session.Serving.sound`).
-/

namespace Companions

/-- The companion was made of a declaration of the host, when the pools had grown from `q` and
before they were `q'`. -/
def Companion.MadeBetween (host : Host) (q : Pools) (c : Companion) (q' : Pools) : Prop :=
  ∃ strategy errorClass id f q₁ q₂, q.Grows q₁ ∧ host.declaration c.origin = some f ∧
    c.IsMade strategy errorClass host id c.origin f q₁ q₂ ∧ q₂.Grows q'

variable {host : Host} {c : Companion} {p q q' r : Pools} {id : CallableId}
  {owner : Option ClassId} {strategy : Strategy}

namespace Companion.MadeBetween

theorem mono (h : c.MadeBetween host q q') (hbefore : p.Grows q) (hafter : q'.Grows r) :
    c.MadeBetween host p r := by
  obtain ⟨strategy, errorClass, id, f, q₁, q₂, hgrows, hf, hmade, hgrows'⟩ := h
  exact ⟨strategy, errorClass, id, f, q₁, q₂, hbefore.trans hgrows, hf, hmade,
    hgrows'.trans hafter⟩

/-- The symbol was minted for the companion. -/
theorem minted (h : c.MadeBetween host q q') :
    q.symbols.MintsFunction q'.symbols c.declaration.symbol := by
  obtain ⟨_, _, _, _, q₁, _, hgrows, -, hmade, hgrows'⟩ := h
  rw [hmade.symbol]
  exact hmade.minted.mono hgrows.functions hgrows'.functions

end Companion.MadeBetween

namespace Generator

variable {g g' : Generator}

theorem onlyGrows_getIndex (g : Generator) (host : Host) :
    Growing.OnlyGrows (g.getIndex host) :=
  fun _ _ _ h => (run_getIndex_keeps h).1

theorem onlyGrows_generate (g : Generator) (host : Host) (id : CallableId)
    (owner : Option ClassId) : Growing.OnlyGrows (g.generate host id owner) :=
  .bind (onlyGrows_getIndex g host) fun _ =>
    .bind (onlyGrows_generateFrom _ _ _ _ _) fun _ => .pure _

theorem onlyGrows_generateAll (g : Generator) (host : Host) :
    Growing.OnlyGrows (g.generateAll host) :=
  .bind (onlyGrows_getIndex g host) fun _ =>
    .bind (onlyGrows_generateEach _ _ _ _) fun _ => .pure _

/-- The companion that a generator answers was made for the answer. -/
theorem madeBetween_of_generate
    (h : (g.generate host id owner).run q = .ok ((.ok (some c), g'), q')) :
    c.MadeBetween host q q' := by
  obtain ⟨f, q₁, hgrows, hf, hmade⟩ := run_generate_eq_some h
  exact ⟨_, _, id, f, q₁, q', hgrows, hf, hmade, .refl q'⟩

/-- So were all of the companions that are answered together. -/
theorem madeBetween_of_generateEach {i : CompanionIndex} {ids : List CallableId}
    {made : List Companion}
    (h : (g.generateEach i host ids).run.run q = .ok (.ok made, q')) :
    ∀ c ∈ made, c.MadeBetween host q q' := by
  induction ids generalizing made q with
  | nil =>
    obtain ⟨rfl, -⟩ := Generating.run_pure_eq_ok_iff.1 h
    simp
  | cons id rest ih =>
    rw [generateEach] at h
    obtain ⟨first, q₁, hfirst, h⟩ := Generating.run_bind_eq_ok_iff.1 h
    obtain ⟨others, q₂, hothers, h⟩ := Generating.run_bind_eq_ok_iff.1 h
    obtain ⟨rfl, rfl⟩ := Generating.run_pure_eq_ok_iff.1 h
    have hgrows₁ := onlyGrows_generateFrom _ _ _ _ _ _ _ _ hfirst
    have hgrows₂ := onlyGrows_generateEach _ _ _ _ _ _ _ hothers
    intro c hc
    rcases List.mem_append.1 hc with hc | hc
    · cases Option.mem_toList.1 hc
      obtain ⟨-, -, f, hf, hmade⟩ := run_generateFrom_eq_some hfirst
      exact ⟨_, _, id, f, q, q₁, .refl q, hf, hmade, hgrows₂⟩
    · exact (ih hothers c hc).mono hgrows₁ (.refl _)

theorem madeBetween_of_generateAll {made : List Companion}
    (h : (g.generateAll host).run q = .ok ((.ok made, g'), q')) :
    ∀ c ∈ made, c.MadeBetween host q q' := by
  obtain ⟨i, q₁, hget, hmade⟩ := run_generateAll_eq_ok h
  exact fun c hc => (madeBetween_of_generateEach hmade c hc).mono (run_getIndex_keeps hget).1
    (.refl _)

end Generator

namespace Session

/-! ## Answers -/

/-- What a session answers. -/
inductive Answer
  | index (listed : CompanionIndex)
  | topLevel (ids : List CallableId)
  | namesIn (names : List Name)
  | collisions (found : List Collision)
  | generate (made : Except GenerationError (Option Companion))
  | generateAll (made : Except GenerationError (List Companion))
  deriving Repr

/-- The companions that are handed out. -/
def Answer.companions : Answer → List Companion
  | .generate (.ok made) => made.toList
  | .generateAll (.ok made) => made
  | _ => []

/-- The answer to a request, and what the session has become. -/
def answer (s : Session) (host : Host) : Request → Growing (Answer × Session)
  | .index strategy => do
    let (listed, s) ← s.index host strategy
    return (.index listed, s)
  | .topLevel => do
    let (ids, s) ← s.topLevel host
    return (.topLevel ids, s)
  | .namesIn c => do
    let (names, s) ← s.namesIn host c
    return (.namesIn names, s)
  | .collisions => do
    let (found, s) ← s.collisions host
    return (.collisions found, s)
  | .generate id owner => do
    let (made, s) ← s.generate host id owner
    return (.generate made, s)
  | .generateAll => do
    let (made, s) ← s.generateAll host
    return (.generateAll made, s)

/-- Requests that are made one after another, each with its answer. -/
def converse (s : Session) (host : Host) :
    List Request → Growing (List (Request × Answer) × Session)
  | [] => return ([], s)
  | r :: rest => do
    let (a, s) ← s.answer host r
    let (answered, s) ← s.converse host rest
    return ((r, a) :: answered, s)

variable {s s' : Session} {request : Request} {a : Answer}

/-- Serving a request is answering it and dropping the answer. -/
theorem serve_eq_map_answer (s : Session) (host : Host) (request : Request) :
    s.serve host request = (·.2) <$> s.answer host request := by
  cases request <;> simp only [serve, answer, map_eq_pure_bind, bind_assoc, pure_bind]

/-- A request that was served was answered. -/
theorem exists_answer_of_serve (h : (s.serve host request).run q = .ok (s', q')) :
    ∃ a, (s.answer host request).run q = .ok ((a, s'), q') := by
  rw [serve_eq_map_answer, map_eq_pure_bind] at h
  obtain ⟨⟨a, s₁⟩, q₁, hanswer, h⟩ := Growing.run_bind_eq_ok_iff.1 h
  obtain ⟨rfl, rfl⟩ := Growing.run_pure_eq_ok_iff.1 h
  exact ⟨a, hanswer⟩

/-- What was asked of the session, what it answered and what it has become, by the kind of request.
Lists are read off both indexes. -/
inductive Answered (s : Session) (host : Host) (q : Pools) (s' : Session) (q' : Pools) :
    Request → Answer → Prop
  | index {strategy : Strategy} {i : CompanionIndex}
      (h : (s.index host strategy).run q = .ok ((i, s'), q')) :
      Answered s host q s' q' (.index strategy) (.index i)
  | topLevel {both : CompanionIndex × CompanionIndex}
      (h : (s.indexes host).run q = .ok ((both, s'), q')) :
      Answered s host q s' q' .topLevel (.topLevel (both.1.topLevel ++ both.2.topLevel).eraseDups)
  | namesIn {c : ClassId} {both : CompanionIndex × CompanionIndex}
      (h : (s.indexes host).run q = .ok ((both, s'), q')) :
      Answered s host q s' q' (.namesIn c)
        (.namesIn (both.1.namesIn c ++ both.2.namesIn c).eraseDups)
  | collisions {both : CompanionIndex × CompanionIndex}
      (h : (s.indexes host).run q = .ok ((both, s'), q')) :
      Answered s host q s' q' .collisions (.collisions (both.1.collisions ++ both.2.collisions))
  | generate {id : CallableId} {owner : Option ClassId}
      {made : Except GenerationError (Option Companion)}
      (h : (s.generate host id owner).run q = .ok ((made, s'), q')) :
      Answered s host q s' q' (.generate id owner) (.generate made)
  | generateAll {made : Except GenerationError (List Companion)}
      (h : (s.generateAll host).run q = .ok ((made, s'), q')) :
      Answered s host q s' q' .generateAll (.generateAll made)

/-- An answer is what the session answers to that kind of request. -/
theorem answered_of_run (h : (s.answer host request).run q = .ok ((a, s'), q')) :
    Answered s host q s' q' request a := by
  cases request with
  | index strategy =>
    obtain ⟨⟨i, s₁⟩, q₁, hindex, h⟩ := Growing.run_bind_eq_ok_iff.1 h
    cases h
    exact .index hindex
  | topLevel =>
    obtain ⟨⟨ids, s₁⟩, q₁, hlist, h⟩ := Growing.run_bind_eq_ok_iff.1 h
    cases h
    obtain ⟨⟨both, s₂⟩, q₂, hindexes, hlist⟩ := Growing.run_bind_eq_ok_iff.1 hlist
    cases hlist
    exact .topLevel hindexes
  | namesIn c =>
    obtain ⟨⟨names, s₁⟩, q₁, hlist, h⟩ := Growing.run_bind_eq_ok_iff.1 h
    cases h
    obtain ⟨⟨both, s₂⟩, q₂, hindexes, hlist⟩ := Growing.run_bind_eq_ok_iff.1 hlist
    cases hlist
    exact .namesIn hindexes
  | collisions =>
    obtain ⟨⟨found, s₁⟩, q₁, hlist, h⟩ := Growing.run_bind_eq_ok_iff.1 h
    cases h
    obtain ⟨⟨both, s₂⟩, q₂, hindexes, hlist⟩ := Growing.run_bind_eq_ok_iff.1 hlist
    cases hlist
    exact .collisions hindexes
  | generate id owner =>
    obtain ⟨⟨made, s₁⟩, q₁, hmade, h⟩ := Growing.run_bind_eq_ok_iff.1 h
    cases h
    exact .generate hmade
  | generateAll =>
    obtain ⟨⟨made, s₁⟩, q₁, hmade, h⟩ := Growing.run_bind_eq_ok_iff.1 h
    cases h
    exact .generateAll hmade

/-! ## What the operations come down to -/

theorem run_index_eq_ok {i : CompanionIndex}
    (h : (s.index host strategy).run q = .ok ((i, s'), q')) :
    ∃ g, ((s.generator strategy).getIndex host).run q = .ok ((i, g), q') ∧
      s' = s.setGenerator strategy g := by
  obtain ⟨⟨j, g⟩, q₁, hget, h⟩ := Growing.run_bind_eq_ok_iff.1 h
  obtain ⟨heq, rfl⟩ := Growing.run_pure_eq_ok_iff.1 h
  cases heq
  exact ⟨g, hget, rfl⟩

theorem run_indexes_eq_ok {both : CompanionIndex × CompanionIndex}
    (h : (s.indexes host).run q = .ok ((both, s'), q')) :
    ∃ s₁ q₁, (s.index host .nullOnThrow).run q = .ok ((both.1, s₁), q₁) ∧
      (s₁.index host .throwOnNull).run q₁ = .ok ((both.2, s'), q') := by
  obtain ⟨⟨i, s₁⟩, q₁, hfirst, h⟩ := Growing.run_bind_eq_ok_iff.1 h
  obtain ⟨⟨j, s₂⟩, q₂, hsecond, h⟩ := Growing.run_bind_eq_ok_iff.1 h
  obtain ⟨heq, rfl⟩ := Growing.run_pure_eq_ok_iff.1 h
  cases heq
  exact ⟨s₁, q₁, hfirst, hsecond⟩

theorem run_generateBy_eq_ok {made : Except GenerationError (Option Companion)}
    (h : (s.generateBy host strategy id owner).run q = .ok ((made, s'), q')) :
    ∃ g, ((s.generator strategy).generate host id owner).run q = .ok ((made, g), q') ∧
      s' = s.setGenerator strategy g := by
  obtain ⟨⟨r, g⟩, q₁, hmade, h⟩ := Growing.run_bind_eq_ok_iff.1 h
  obtain ⟨heq, rfl⟩ := Growing.run_pure_eq_ok_iff.1 h
  cases heq
  exact ⟨g, hmade, rfl⟩

/-- The second strategy is asked exactly if the first has nothing. -/
theorem run_generate_cases {made : Except GenerationError (Option Companion)}
    (h : (s.generate host id owner).run q = .ok ((made, s'), q')) :
    (made ≠ .ok none ∧
      (s.generateBy host .nullOnThrow id owner).run q = .ok ((made, s'), q')) ∨
    ∃ s₁ q₁, (s.generateBy host .nullOnThrow id owner).run q = .ok ((.ok none, s₁), q₁) ∧
      (s₁.generateBy host .throwOnNull id owner).run q₁ = .ok ((made, s'), q') := by
  obtain ⟨⟨first, s₁⟩, q₁, hfirst, h⟩ := Growing.run_bind_eq_ok_iff.1 h
  match first, hfirst, h with
  | .error e, hfirst, h =>
    cases h
    exact .inl ⟨nofun, hfirst⟩
  | .ok (some c), hfirst, h =>
    cases h
    exact .inl ⟨nofun, hfirst⟩
  | .ok none, hfirst, h => exact .inr ⟨s₁, q₁, hfirst, h⟩

/-- The second strategy is asked unless the first has failed. -/
theorem run_generateAll_cases {made : Except GenerationError (List Companion)}
    (h : (s.generateAll host).run q = .ok ((made, s'), q')) :
    (∃ e g, ((s.generator .nullOnThrow).generateAll host).run q = .ok ((.error e, g), q') ∧
      made = .error e ∧ s' = s.setGenerator .nullOnThrow g) ∨
    ∃ first g q₁ second g',
      ((s.generator .nullOnThrow).generateAll host).run q = .ok ((.ok first, g), q₁) ∧
      (((s.setGenerator .nullOnThrow g).generator .throwOnNull).generateAll host).run q₁ =
        .ok ((second, g'), q') ∧
      made = second.map (first ++ ·) ∧
      s' = (s.setGenerator .nullOnThrow g).setGenerator .throwOnNull g' := by
  obtain ⟨⟨first, g⟩, q₁, hfirst, h⟩ := Growing.run_bind_eq_ok_iff.1 h
  cases first with
  | error e =>
    cases h
    exact .inl ⟨e, g, hfirst, rfl, rfl⟩
  | ok first =>
    obtain ⟨⟨second, g'⟩, q₂, hsecond, h⟩ := Growing.run_bind_eq_ok_iff.1 h
    obtain ⟨heq, rfl⟩ := Growing.run_pure_eq_ok_iff.1 h
    cases heq
    exact .inr ⟨first, g, q₁, second, g', hfirst, hsecond, rfl, rfl⟩

/-! ## What answering does to the pools -/

theorem onlyGrows_index (s : Session) (host : Host) (strategy : Strategy) :
    Growing.OnlyGrows (s.index host strategy) :=
  .bind (Generator.onlyGrows_getIndex _ host) fun _ => .pure _

theorem onlyGrows_indexes (s : Session) (host : Host) : Growing.OnlyGrows (s.indexes host) :=
  .bind (onlyGrows_index _ _ _) fun _ => .bind (onlyGrows_index _ _ _) fun _ => .pure _

theorem onlyGrows_generateBy (s : Session) (host : Host) (strategy : Strategy) (id : CallableId)
    (owner : Option ClassId) : Growing.OnlyGrows (s.generateBy host strategy id owner) :=
  .bind (Generator.onlyGrows_generate _ _ _ _) fun _ => .pure _

theorem onlyGrows_generate (s : Session) (host : Host) (id : CallableId) (owner : Option ClassId) :
    Growing.OnlyGrows (s.generate host id owner) := by
  refine .bind (onlyGrows_generateBy _ _ _ _ _) fun made => ?_
  obtain ⟨made, s'⟩ := made
  dsimp only
  split
  · exact onlyGrows_generateBy _ _ _ _ _
  · exact .pure _

theorem onlyGrows_generateAll (s : Session) (host : Host) :
    Growing.OnlyGrows (s.generateAll host) := by
  refine .bind (Generator.onlyGrows_generateAll _ _) fun made => ?_
  obtain ⟨made, g⟩ := made
  dsimp only
  split
  · exact .pure _
  · exact .bind (Generator.onlyGrows_generateAll _ _) fun _ => .pure _

/-- Answering a request only adds to the pools. -/
theorem onlyGrows_answer (s : Session) (host : Host) (request : Request) :
    Growing.OnlyGrows (s.answer host request) := by
  cases request with
  | index strategy => exact .bind (onlyGrows_index _ _ _) fun _ => .pure _
  | topLevel => exact .bind (.bind (onlyGrows_indexes _ _) fun _ => .pure _) fun _ => .pure _
  | namesIn c => exact .bind (.bind (onlyGrows_indexes _ _) fun _ => .pure _) fun _ => .pure _
  | collisions => exact .bind (.bind (onlyGrows_indexes _ _) fun _ => .pure _) fun _ => .pure _
  | generate id owner => exact .bind (onlyGrows_generate _ _ _ _) fun _ => .pure _
  | generateAll => exact .bind (onlyGrows_generateAll _ _) fun _ => .pure _

/-! ## What generators keep -/

section Keeps

variable {P : Strategy → Pools → Generator → Prop}

/-- What lasts of a generator while the pools grow and the index is got. -/
structure Lasts (host : Host) (P : Strategy → Pools → Generator → Prop) : Prop where
  mono : ∀ strategy q q' g, q.Grows q' → P strategy q g → P strategy q' g
  getIndex : ∀ strategy q q' g i g', P strategy q g → (g.getIndex host).run q = .ok ((i, g'), q') →
    P strategy q' g'

/-- It holds of both generators. -/
def Keeps (P : Strategy → Pools → Generator → Prop) (q : Pools) (s : Session) : Prop :=
  ∀ strategy, P strategy q (s.generator strategy)

@[simp] theorem generator_setGenerator (s : Session) (strategy other : Strategy) (g : Generator) :
    (s.setGenerator strategy g).generator other =
      if strategy = other then g else s.generator other := by
  cases strategy <;> cases other <;> rfl

variable (hP : Lasts host P)

include hP

theorem Keeps.setGenerator {g : Generator} (hs : Keeps P q s) (hgrows : q.Grows q')
    (hg : P strategy q' g) : Keeps P q' (s.setGenerator strategy g) := by
  intro other
  rw [generator_setGenerator]
  split
  · next heq => exact heq ▸ hg
  · exact hP.mono _ _ _ _ hgrows (hs other)

theorem Keeps.index {i : CompanionIndex} (hs : Keeps P q s)
    (h : (s.index host strategy).run q = .ok ((i, s'), q')) : Keeps P q' s' := by
  obtain ⟨g, hget, rfl⟩ := run_index_eq_ok h
  exact hs.setGenerator hP (Generator.run_getIndex_keeps hget).1
    (hP.getIndex _ _ _ _ _ _ (hs _) hget)

theorem Keeps.indexes {both : CompanionIndex × CompanionIndex} (hs : Keeps P q s)
    (h : (s.indexes host).run q = .ok ((both, s'), q')) : Keeps P q' s' := by
  obtain ⟨s₁, q₁, hfirst, hsecond⟩ := run_indexes_eq_ok h
  exact (hs.index hP hfirst).index hP hsecond

theorem Keeps.generateBy {made : Except GenerationError (Option Companion)} (hs : Keeps P q s)
    (h : (s.generateBy host strategy id owner).run q = .ok ((made, s'), q')) : Keeps P q' s' := by
  obtain ⟨g, hmade, rfl⟩ := run_generateBy_eq_ok h
  obtain ⟨i, q₁, hget, hfrom⟩ := Generator.run_generate_eq_ok hmade
  have hg := hP.getIndex _ _ _ _ _ _ (hs strategy) hget
  have hgrows := Generator.onlyGrows_generateFrom _ _ _ _ _ _ _ _ hfrom
  exact hs.setGenerator hP (Generator.onlyGrows_generate _ _ _ _ _ _ _ hmade)
    (hP.mono _ _ _ _ hgrows hg)

theorem Keeps.generate {made : Except GenerationError (Option Companion)} (hs : Keeps P q s)
    (h : (s.generate host id owner).run q = .ok ((made, s'), q')) : Keeps P q' s' := by
  rcases run_generate_cases h with ⟨-, hfirst⟩ | ⟨s₁, q₁, hfirst, hsecond⟩
  · exact hs.generateBy hP hfirst
  · exact (hs.generateBy hP hfirst).generateBy hP hsecond

/-- A generator that has made all its companions takes the place of itself. -/
theorem Keeps.generateAll_of_generator {g : Generator}
    {made : Except GenerationError (List Companion)} (hs : Keeps P q s)
    (h : ((s.generator strategy).generateAll host).run q = .ok ((made, g), q')) :
    Keeps P q' (s.setGenerator strategy g) := by
  obtain ⟨i, q₁, hget, hmade⟩ := Generator.run_generateAll_eq_ok h
  have hg := hP.getIndex _ _ _ _ _ _ (hs strategy) hget
  have hgrows := Generator.onlyGrows_generateEach _ _ _ _ _ _ _ hmade
  exact hs.setGenerator hP (Generator.onlyGrows_generateAll _ _ _ _ _ h)
    (hP.mono _ _ _ _ hgrows hg)

theorem Keeps.generateAll {made : Except GenerationError (List Companion)} (hs : Keeps P q s)
    (h : (s.generateAll host).run q = .ok ((made, s'), q')) : Keeps P q' s' := by
  rcases run_generateAll_cases h with
    ⟨e, g, hfirst, -, rfl⟩ | ⟨first, g, q₁, second, g', hfirst, hsecond, -, rfl⟩
  · exact hs.generateAll_of_generator hP hfirst
  · exact (hs.generateAll_of_generator hP hfirst).generateAll_of_generator hP hsecond

/-- What lasts of its generators, a session keeps whatever it is asked. -/
theorem Keeps.answer (hs : Keeps P q s) (h : (s.answer host request).run q = .ok ((a, s'), q')) :
    Keeps P q' s' := by
  cases answered_of_run h with
  | index hindex => exact hs.index hP hindex
  | topLevel hindexes => exact hs.indexes hP hindexes
  | namesIn hindexes => exact hs.indexes hP hindexes
  | collisions hindexes => exact hs.indexes hP hindexes
  | generate hmade => exact hs.generate hP hmade
  | generateAll hmade => exact hs.generateAll hP hmade

theorem Keeps.serve (hs : Keeps P q s) (h : (s.serve host request).run q = .ok (s', q')) :
    Keeps P q' s' := by
  obtain ⟨a, hanswer⟩ := exists_answer_of_serve h
  exact hs.answer hP hanswer

theorem Keeps.converse {requests : List Request} {answered : List (Request × Answer)}
    (hs : Keeps P q s) (h : (s.converse host requests).run q = .ok ((answered, s'), q')) :
    Keeps P q' s' := by
  induction requests generalizing s q answered with
  | nil =>
    obtain ⟨heq, rfl⟩ := Growing.run_pure_eq_ok_iff.1 h
    cases heq
    exact hs
  | cons request rest ih =>
    obtain ⟨⟨a, s₁⟩, q₁, hanswer, h⟩ := Growing.run_bind_eq_ok_iff.1 h
    obtain ⟨⟨others, s₂⟩, q₂, hrest, h⟩ := Growing.run_bind_eq_ok_iff.1 h
    obtain ⟨heq, rfl⟩ := Growing.run_pure_eq_ok_iff.1 h
    cases heq
    exact ih (hs.answer hP hanswer) hrest

end Keeps

/-! ## Sessions stay sound -/

theorem lasts_sound (host : Host) (errorClass : ClassId) :
    Lasts host fun strategy q g => g.Sound strategy errorClass host q where
  mono _ _ _ _ hgrows hg := hg.mono hgrows
  getIndex _ _ _ _ _ _ hg h := (Generator.run_getIndex_eq_ok h hg).2.2.1

theorem sound_iff_keeps {errorClass : ClassId} : s.Sound errorClass host q ↔
    Keeps (fun strategy q g => g.Sound strategy errorClass host q) q s :=
  ⟨Sound.generator, fun h => ⟨h .nullOnThrow, h .throwOnNull⟩⟩

/-- Whatever a session has been asked, it is sound. -/
theorem Serving.sound {config : Config} {q₀ : Pools} (h : Serving config host q₀ s q) :
    q₀.Grows q ∧ s.Sound s.orThrow.errorClass host q := by
  induction h with
  | new hgrows h =>
    obtain ⟨hgrows', hs⟩ := sound_new host h
    exact ⟨hgrows.trans hgrows', hs⟩
  | grow _ hgrows ih => exact ⟨ih.1.trans hgrows, ih.2.mono hgrows⟩
  | serve _ r h ih =>
    have hs := sound_iff_keeps.2 ((sound_iff_keeps.1 ih.2).serve (lasts_sound _ _) h)
    obtain ⟨a, hanswer⟩ := exists_answer_of_serve h
    exact ⟨ih.1.trans (onlyGrows_answer _ _ _ _ _ _ hanswer), hs.orThrow.errorClass ▸ hs⟩

/-! ## What is handed out -/

theorem madeBetween_of_generateBy
    (h : (s.generateBy host strategy id owner).run q = .ok ((.ok (some c), s'), q')) :
    c.MadeBetween host q q' := by
  obtain ⟨g, hmade, rfl⟩ := run_generateBy_eq_ok h
  exact Generator.madeBetween_of_generate hmade

theorem madeBetween_of_generate
    (h : (s.generate host id owner).run q = .ok ((.ok (some c), s'), q')) :
    c.MadeBetween host q q' := by
  rcases run_generate_cases h with ⟨-, hfirst⟩ | ⟨s₁, q₁, hfirst, hsecond⟩
  · exact madeBetween_of_generateBy hfirst
  · exact (madeBetween_of_generateBy hsecond).mono (onlyGrows_generateBy _ _ _ _ _ _ _ _ hfirst)
      (.refl _)

theorem madeBetween_of_generateAll {made : List Companion}
    (h : (s.generateAll host).run q = .ok ((.ok made, s'), q')) :
    ∀ c ∈ made, c.MadeBetween host q q' := by
  rcases run_generateAll_cases h with
    ⟨e, g, -, heq, -⟩ | ⟨first, g, q₁, second, g', hfirst, hsecond, heq, -⟩
  · cases heq
  · have hgrows₁ := Generator.onlyGrows_generateAll _ _ _ _ _ hfirst
    have hgrows₂ := Generator.onlyGrows_generateAll _ _ _ _ _ hsecond
    rcases second with e | second
    · cases heq
    · cases heq
      intro c hc
      rcases List.mem_append.1 hc with hc | hc
      · exact (Generator.madeBetween_of_generateAll hfirst c hc).mono (.refl q) hgrows₂
      · exact (Generator.madeBetween_of_generateAll hsecond c hc).mono hgrows₁ (.refl _)

/-- The companions of an answer were made for it. -/
theorem madeBetween_of_answer (h : (s.answer host request).run q = .ok ((a, s'), q')) :
    ∀ c ∈ a.companions, c.MadeBetween host q q' := by
  cases answered_of_run h with
  | @generate _ _ made hmade =>
    intro c hc
    rcases made with e | made
    · cases hc
    · cases Option.mem_toList.1 hc
      exact madeBetween_of_generate hmade
  | @generateAll made hmade =>
    rcases made with e | made
    · intro c hc
      cases hc
    · exact madeBetween_of_generateAll hmade
  | _ =>
    intro c hc
    cases hc

end Session

end Companions
