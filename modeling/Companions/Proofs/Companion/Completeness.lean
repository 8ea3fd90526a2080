import Companions.Proofs.Companion.Order
import Companions.Proofs.Companion.Surface
set_option autoImplicit false

/-!
# All companions or none

A session that is asked for all companions makes those of the one strategy and then those of the
other, each in the order of its index, and stops at the first that cannot be made.  Nothing that is
indexed is left out: the session answers with all companions exactly if each of them can be had
alone, and they read the same either way (`Session.generateAll_complete`).  This is so as long as
there are symbols left for parameters (`Session.Affords`).
-/

namespace Companions

/-! ## Items in turn -/

/-- What `R` gives for the items, one after another, up to the first error. -/
inductive InTurn {α β ε : Type} (R : α → Except ε β → Prop) : List α → Except ε (List β) → Prop
  | nil : InTurn R [] (.ok [])
  | cons {a : α} {b : β} {rest : List α} {made : Except ε (List β)} (first : R a (.ok b))
      (others : InTurn R rest made) : InTurn R (a :: rest) (made.map (b :: ·))
  | stop {a : α} {e : ε} {rest : List α} (first : R a (.error e)) :
      InTurn R (a :: rest) (.error e)

namespace InTurn

variable {α β ε : Type} {R S : α → Except ε β → Prop} {as as' : List α}
  {made : Except ε (List β)} {bs : List β} {e : ε}

theorem imp (h : InTurn R as made) (hRS : ∀ a ∈ as, ∀ m, R a m → S a m) : InTurn S as made := by
  induction h with
  | nil => exact .nil
  | cons hfirst _ ih =>
    exact .cons (hRS _ List.mem_cons_self _ hfirst)
      (ih fun a ha => hRS a (List.mem_cons_of_mem _ ha))
  | stop hfirst => exact .stop (hRS _ List.mem_cons_self _ hfirst)

/-- More items follow where all went well so far. -/
theorem append (h : InTurn R as (.ok bs)) (h' : InTurn R as' made) :
    InTurn R (as ++ as') (made.map (bs ++ ·)) := by
  generalize hall : (.ok bs : Except ε (List β)) = all at h
  induction h generalizing bs with
  | nil =>
    cases hall
    cases made <;> exact h'
  | @cons a b rest others hfirst _ ih =>
    cases others with
    | error e => cases hall
    | ok cs =>
      cases hall
      have hrest := InTurn.cons hfirst (ih rfl)
      cases made <;> exact hrest
  | stop hfirst => cases hall

/-- If all went well, there is something for every item. -/
theorem forall₂ (h : InTurn R as (.ok bs)) : List.Forall₂ (fun a b => R a (.ok b)) as bs := by
  generalize hall : (.ok bs : Except ε (List β)) = all at h
  induction h generalizing bs with
  | nil =>
    cases hall
    exact .nil
  | @cons a b rest others hfirst _ ih =>
    cases others with
    | error e => cases hall
    | ok cs =>
      cases hall
      exact .cons hfirst (ih rfl)
  | stop hfirst => cases hall

/-- An error is that of the first item that has one. -/
theorem exists_first (h : InTurn R as (.error e)) :
    ∃ before a after, as = before ++ a :: after ∧ (∀ a ∈ before, ∃ b, R a (.ok b)) ∧
      R a (.error e) := by
  generalize hall : (.error e : Except ε (List β)) = all at h
  induction h with
  | nil => cases hall
  | @cons a b rest others hfirst _ ih =>
    cases others with
    | ok cs => cases hall
    | error e' =>
      cases hall
      obtain ⟨before, a', after, rfl, hbefore, herror⟩ := ih rfl
      exact ⟨a :: before, a', after, rfl, List.forall_mem_cons.2 ⟨⟨b, hfirst⟩, hbefore⟩, herror⟩
  | @stop a e' rest hfirst =>
    cases hall
    exact ⟨[], a, rest, rfl, nofun, hfirst⟩

end InTurn

theorem exists_of_mem_of_forall₂ {α β : Type} {R : α → β → Prop} {as : List α} {bs : List β}
    (h : List.Forall₂ R as bs) {a : α} (ha : a ∈ as) : ∃ b ∈ bs, R a b := by
  induction h with
  | nil => cases ha
  | cons hab _ ih =>
    rcases List.mem_cons.1 ha with rfl | ha
    · exact ⟨_, List.mem_cons_self, hab⟩
    · obtain ⟨b, hb, hr⟩ := ih ha
      exact ⟨b, List.mem_cons_of_mem _ hb, hr⟩

/-! ## Names that are alike in turn -/

variable {p q₀ q q₁ q₂ q' r r' : Pools}

theorem Name.Alike.trans {n n' n'' : Name} (h : n.Alike q q' n') (h' : n'.Alike q' r n'') :
    n.Alike q r n'' := by
  obtain ⟨text, hn, hn'⟩ := h
  obtain ⟨text', hn₁, hn''⟩ := h'
  obtain rfl : text = text' := Option.some.inj (hn'.symm.trans hn₁)
  exact ⟨text, hn, hn''⟩

theorem ClassId.Alike.trans {c c' c'' : ClassId} (h : c.Alike q q' c') (h' : c'.Alike q' r c'') :
    c.Alike q r c'' :=
  ⟨h.package.trans h'.package, h.name.trans h'.name⟩

theorem optionRel_trans {α β γ : Type} {R : α → β → Prop} {S : β → γ → Prop} {T : α → γ → Prop}
    (hRST : ∀ a b c, R a b → S b c → T a c) {o : Option α} {o' : Option β} {o'' : Option γ}
    (h : Option.Rel R o o') (h' : Option.Rel S o' o'') : Option.Rel T o o'' := by
  cases h with
  | some hab =>
    cases h' with
    | some hbc => exact .some (hRST _ _ _ hab hbc)
  | none =>
    cases h'
    exact .none

theorem CallableId.Alike.trans {id id' id'' : CallableId} (h : id.Alike q q' id')
    (h' : id'.Alike q' r id'') : id.Alike q r id'' where
  package := h.package.trans h'.package
  owner := optionRel_trans (fun _ _ _ hc hc' => hc.trans hc') h.owner h'.owner
  name := h.name.trans h'.name

/-! ## Generators -/

variable {host : Host} {strategy : Strategy} {errorClass : ClassId} {id : CallableId}
  {i j : CompanionIndex}

namespace Generator

variable {g g' : Generator}

theorem getIndex_run_of_built (h : g.index.built? = some i) (host : Host) (q : Pools) :
    (g.getIndex host).run q = .ok ((i, g), q) := by
  simp only [getIndex, LazyIndex.get, h]
  rfl

/-- What the generator answers for a companion under its own owner, at some moment while the pools
grow from `q` to `q'`. -/
def AnswersBetween (g : Generator) (i : CompanionIndex) (host : Host) (q q' : Pools)
    (id : CallableId) (made : Except GenerationError Companion) : Prop :=
  ∃ q₁ q₂, q.Grows q₁ ∧
    (g.generateFrom i host id id.owner).run.run q₁ = .ok (made.map some, q₂) ∧ q₂.Grows q'

theorem AnswersBetween.mono {made : Except GenerationError Companion}
    (h : g.AnswersBetween i host q q' id made) (hbefore : p.Grows q) (hafter : q'.Grows r) :
    g.AnswersBetween i host p r id made := by
  obtain ⟨q₁, q₂, hgrows, hrun, hgrows'⟩ := h
  exact ⟨q₁, q₂, hbefore.trans hgrows, hrun, hgrows'.trans hafter⟩

/-- The identities of the index are answered in turn. -/
theorem run_generateEach_inTurn {ids : List CallableId} (hids : ∀ id ∈ ids, id ∈ i.identities)
    {made : Except GenerationError (List Companion)}
    (h : (g.generateEach i host ids).run.run q = .ok (made, q')) :
    InTurn (g.AnswersBetween i host q q') ids made := by
  induction ids generalizing q made with
  | nil =>
    cases h
    exact .nil
  | cons id rest ih =>
    rw [generateEach] at h
    have hlisted : id ∈ i.identities := hids id List.mem_cons_self
    rcases Generating.run_bind_cases h with ⟨e, hfirst, rfl⟩ | ⟨first, q₁, hfirst, h⟩
    · exact .stop ⟨q, q', .refl q, hfirst, .refl q'⟩
    · cases first with
      | none =>
        -- the index lists the identity, which is asked for under its own owner
        have hnone := (run_generateFrom_eq_none_iff hfirst).1 rfl
        exact (hnone.resolve_left (not_not.2 hlisted) rfl).elim
      | some c =>
        have hgrows := onlyGrows_generateFrom _ _ _ _ _ _ _ _ hfirst
        have hcons : ∀ others, (g.generateEach i host rest).run.run q₁ = .ok (others, q') →
            InTurn (g.AnswersBetween i host q q') (id :: rest) (others.map (c :: ·)) := by
          intro others hrest
          have hgrows' := onlyGrows_generateEach _ _ _ _ _ _ _ hrest
          have hothers := ih (fun id hid => hids id (List.mem_cons_of_mem _ hid)) hrest
          exact .cons ⟨q, q₁, .refl q, hfirst, hgrows'⟩
            (hothers.imp fun _ _ _ hm => hm.mono hgrows (.refl q'))
        rcases Generating.run_bind_cases h with ⟨e, hrest, rfl⟩ | ⟨others, q₂, hrest, h⟩
        · exact hcons _ hrest
        · cases h
          exact hcons _ hrest

theorem run_generateAll_inTurn {made : Except GenerationError (List Companion)}
    (h : (g.generateAll host).run q = .ok ((made, g'), q')) :
    ∃ i q₁, (g.getIndex host).run q = .ok ((i, g'), q₁) ∧ q₁.Grows q' ∧
      InTurn (g'.AnswersBetween i host q₁ q') i.identities made := by
  obtain ⟨i, q₁, hget, heach⟩ := run_generateAll_eq_ok h
  exact ⟨i, q₁, hget, onlyGrows_generateEach _ _ _ _ _ _ _ heach,
    run_generateEach_inTurn (fun _ hid => hid) heach⟩

/-- What is answered for an identity is a companion under that identity, of the function behind
it. -/
theorem AnswersBetween.companion {c : Companion} (h : g.AnswersBetween i host q q' id (.ok c)) :
    c.declaration.id = id ∧ i.originOf? id = some c.origin := by
  obtain ⟨q₁, q₂, -, hrun, -⟩ := h
  obtain ⟨-, horigin, f, -, hmade⟩ := run_generateFrom_eq_some hrun
  exact ⟨hmade.id, horigin⟩

end Generator

/-- An index that was built lists no identity twice. -/
theorem CompanionIndex.BuiltBetween.nodup {predicate : Predicate}
    (h : i.BuiltBetween host strategy predicate q₀ q) : i.identities.Nodup := by
  obtain ⟨q₁, q₂, -, hbuild, -⟩ := h
  exact (divides_of_build hbuild).distinct

/-- The identities that an index lists stand for the same paths ever after. -/
theorem CompanionIndex.BuiltBetween.alike_self {predicate : Predicate} (hhost : host.Legible q₀)
    (h : i.BuiltBetween host strategy predicate q₀ q) (hgrows : q.Grows r)
    (hid : id ∈ i.identities) : id.Alike q r id := by
  have halike := (h.alike (fun s d hd => (hhost.named s d hd).id) (h.mono hgrows)).identities
  exact List.forall₂_same.1 halike id hid

/-! ## Sessions -/

namespace Session

variable {s₀ s s' t : Session} {config : Config}

/-- The session has become another one by serving requests, while the pools grew. -/
inductive Becomes (host : Host) (s₀ : Session) (q₀ : Pools) : Session → Pools → Prop
  | start : Becomes host s₀ q₀ s₀ q₀
  | grow {q q' : Pools} {s : Session} (before : Becomes host s₀ q₀ s q) (h : q.Grows q') :
      Becomes host s₀ q₀ s q'
  | serve {q q' : Pools} {s s' : Session} (before : Becomes host s₀ q₀ s q) (request : Request)
      (h : (s.serve host request).run q = .ok (s', q')) : Becomes host s₀ q₀ s' q'

theorem Becomes.grows (h : Becomes host s₀ q₀ s q) : q₀.Grows q := by
  induction h with
  | start => exact .refl q₀
  | grow _ hgrows ih => exact ih.trans hgrows
  | serve _ request h ih =>
    obtain ⟨a, hanswer⟩ := exists_answer_of_serve h
    exact ih.trans (onlyGrows_answer _ _ _ _ _ _ hanswer)

/-- What lasts of its generators, the session has kept. -/
theorem Becomes.keeps {P : Strategy → Pools → Generator → Prop} (hP : Lasts host P)
    (h : Becomes host s₀ q₀ s q) (hs₀ : Keeps P q₀ s₀) : Keeps P q s := by
  induction h with
  | start => exact hs₀
  | grow _ hgrows ih => exact fun strategy => hP.mono _ _ _ _ hgrows (ih strategy)
  | serve _ request h ih => exact Keeps.serve hP ih h

theorem Becomes.continues (h : Becomes host s₀ q₀ s q) (hs₀ : s₀.Continues host q₀ q₀ s₀) :
    s.Continues host q₀ q s₀ :=
  h.keeps (lasts_continues host q₀ s₀) hs₀

theorem Becomes.serving {p : Pools} (h : Becomes host s₀ q₀ s q)
    (hs₀ : Serving config host p s₀ q₀) : Serving config host p s q := by
  induction h with
  | start => exact hs₀
  | grow _ hgrows ih => exact .grow ih hgrows
  | serve _ request h ih => exact .serve ih request h

@[simp] theorem setGenerator_generator (s : Session) (strategy : Strategy) :
    s.setGenerator strategy (s.generator strategy) = s := by
  cases strategy <;> rfl

/-- What the generator of the first strategy makes, the session answers. -/
theorem generate_run_of_orNull {made : Except GenerationError Companion}
    (hbuilt : (s.generator .nullOnThrow).index.built? = some i)
    (h : ((s.generator .nullOnThrow).generateFrom i host id id.owner).run.run q =
      .ok (made.map some, q')) :
    (s.generate host id id.owner).run q = .ok ((made.map some, s), q') := by
  have hby := generateBy_run (Generator.getIndex_run_of_built hbuilt host q) h
  rw [setGenerator_generator] at hby
  rw [generate, Growing.run_bind_of_ok hby]
  cases made <;> rfl

/-- What the generator of the second strategy makes, the session answers, as the first strategy
does not have it. -/
theorem generate_run_of_orThrow {made : Except GenerationError Companion}
    (hnull : (s.generator .nullOnThrow).index.built? = some i)
    (hthrow : (s.generator .throwOnNull).index.built? = some j) (hid : id ∉ i.identities)
    (h : ((s.generator .throwOnNull).generateFrom j host id id.owner).run.run q =
      .ok (made.map some, q')) :
    (s.generate host id id.owner).run q = .ok ((made.map some, s), q') := by
  have hnone : ((s.generator .nullOnThrow).generateFrom i host id id.owner).run.run q =
      .ok (.ok none, q) := by
    rw [Generator.generateFrom_of_none (.inl hid)]
    rfl
  have hfirst := generateBy_run (Generator.getIndex_run_of_built hnull host q) hnone
  have hsecond := generateBy_run (Generator.getIndex_run_of_built hthrow host q) h
  rw [setGenerator_generator] at hfirst hsecond
  rw [generate_run_of_second hfirst, hsecond]

/-- The request for the companion under its own owner leaves the session with symbols for
parameters. -/
def Affords (host : Host) (s : Session) (q : Pools) (id : CallableId) : Prop :=
  ∀ made s' q', (s.generate host id id.owner).run q = .ok ((made, s'), q') →
    q'.symbols.params ≤ SymbolSupply.capacity

/-- Wherever a session that goes on from `s₀` is asked for the companion under its own owner and can
afford it, it answers alike. -/
def Settled (host : Host) (s₀ : Session) (q₀ q : Pools) (id : CallableId)
    (made : Except GenerationError Companion) : Prop :=
  ∀ (t : Session) (r : Pools) (id' : CallableId), t.Continues host q₀ r s₀ → id.Alike q r id' →
    t.Affords host r id' →
      ∃ made' t' r', (t.generate host id' id'.owner).run r = .ok ((made', t'), r') ∧
        Generating.Alike q₀ (Option.Rel (Companion.ReadsAlike host q r')) (made.map some) made'

/-- What was answered once is settled. -/
theorem settled_of_generate {made : Except GenerationError Companion} (hhost : host.Legible q₀)
    (herror : s₀.ErrorNamed q₀) (hs : s.Continues host q₀ q s₀)
    (h : (s.generate host id id.owner).run q = .ok ((made.map some, s'), q'))
    (hgrows : q'.Grows r) (hroom : r.symbols.params ≤ SymbolSupply.capacity)
    (hid : id.Alike q r id) : Settled host s₀ q₀ r id made := by
  intro t p id' ht hid' haffords
  have hready := (hhost.mono (ht .nullOnThrow).grows).ready
  obtain ⟨made', t', p', hrun⟩ := exists_run_generate hready t id' id'.owner
  have hown := hid.trans hid'
  have halike := hs.alike_of_generate hhost ht herror (Nat.le_trans hgrows.params hroom)
    (haffords _ _ _ hrun) hown hown.owner h hrun
  exact ⟨made', t', p', hrun,
    halike.imp fun _ _ => optionRel_imp fun _ _ hc => hc.mono hgrows (.refl p')⟩

/-- A companion that is settled is made wherever it is asked for, and reads the same. -/
theorem Settled.exists_made {c : Companion} (h : Settled host s₀ q₀ q id (.ok c))
    (ht : t.Continues host q₀ r s₀) {id' : CallableId} (hid : id.Alike q r id')
    (haffords : t.Affords host r id') :
    ∃ c' t' r', (t.generate host id' id'.owner).run r = .ok ((.ok (some c'), t'), r') ∧
      c.ReadsAlike host q r' c' := by
  obtain ⟨made', t', r', hrun, halike⟩ := h t r id' ht hid haffords
  cases halike with
  | ok hmade =>
    cases hmade with
    | some hc => exact ⟨_, t', r', hrun, hc⟩

/-- An error that is settled comes up wherever the companion is asked for. -/
theorem Settled.exists_failed {e : GenerationError} (h : Settled host s₀ q₀ q id (.error e))
    (ht : t.Continues host q₀ r s₀) {id' : CallableId} (hid : id.Alike q r id')
    (haffords : t.Affords host r id') :
    ∃ t' r', (t.generate host id' id'.owner).run r = .ok ((.error e, t'), r') := by
  obtain ⟨made', t', r', hrun, halike⟩ := h t r id' ht hid haffords
  cases halike with
  | error => exact ⟨t', r', hrun⟩

/-- What is answered for an identity, and that it is settled. -/
structure Made (host : Host) (s₀ : Session) (q₀ q : Pools) (i j : CompanionIndex) (id : CallableId)
    (made : Except GenerationError Companion) : Prop where
  settled : Settled host s₀ q₀ q id made
  companion : ∀ c, made = .ok c →
    c.declaration.id = id ∧ (i.originOf? id).or (j.originOf? id) = some c.origin

/-- What a generator answers for an identity of its index is settled, if the session answers what
the generator does. -/
theorem made_of_answer {g : Generator} {k : CompanionIndex} {predicate : Predicate}
    {made : Except GenerationError Companion} (hhost : host.Legible q₀) (herror : s₀.ErrorNamed q₀)
    (hs : s.Continues host q₀ q s₀) (hk : k.BuiltBetween host strategy predicate q₀ q)
    (hid : id ∈ k.identities) (horigin : (i.originOf? id).or (j.originOf? id) = k.originOf? id)
    (hsession : ∀ {a b}, (g.generateFrom k host id id.owner).run.run a = .ok (made.map some, b) →
      (s.generate host id id.owner).run a = .ok ((made.map some, s), b))
    (hanswer : g.AnswersBetween k host q q' id made) (hgrows : q'.Grows r)
    (hroom : r.symbols.params ≤ SymbolSupply.capacity) : Made host s₀ q₀ r i j id made where
  settled := by
    obtain ⟨a, b, ha, hrun, hb⟩ := hanswer
    have hafter := hb.trans hgrows
    have hmade := Generator.onlyGrows_generateFrom _ _ _ _ _ _ _ _ hrun
    exact settled_of_generate hhost herror (hs.mono ha) (hsession hrun) hafter hroom
      ((hk.mono ha).alike_self hhost (hmade.trans hafter) hid)
  companion := by
    rintro c rfl
    obtain ⟨hown, hbehind⟩ := hanswer.companion
    exact ⟨hown, horigin.trans hbehind⟩

/-- The first strategy makes all that its index lists, as long as there are symbols left. -/
theorem not_inTurn_error {g : Generator} {e : GenerationError} (hhost : host.Legible q)
    (hg : g.Sound .nullOnThrow errorClass host q)
    (hi : i.Sound host (Strategy.suffix .nullOnThrow) q)
    (hroom : q'.symbols.params ≤ SymbolSupply.capacity) :
    ¬ InTurn (g.AnswersBetween i host q q') i.identities (.error e) := by
  intro hturn
  obtain ⟨before, id, after, heq, -, q₁, q₂, hgrows, hrun, hafter⟩ := hturn.exists_first
  have hid : id ∈ i.identities := heq ▸ List.mem_append_right _ List.mem_cons_self
  obtain ⟨-, hsome, -⟩ := Generator.run_generateFrom_of_mem hhost.reliable
    (fun s f hf => (hhost.known s f hf).mono hgrows) (hg.mono hgrows) (hi.mono hgrows) hid hrun
  obtain ⟨c, hc⟩ := hsome (Nat.le_trans hafter.params hroom) nofun
  cases hc

/-- Both indexes list all identities once, and all of them are answered in turn. -/
theorem Continues.run_generateAll_inTurn {made : Except GenerationError (List Companion)}
    (hhost : host.Legible q₀) (herror : s₀.ErrorNamed q₀) (hs : s.Continues host q₀ q s₀)
    (hsound : s.Sound errorClass host q)
    (h : (s.generateAll host).run q = .ok ((made, s'), q'))
    (hroom : q'.symbols.params ≤ SymbolSupply.capacity) :
    ∃ i j, (s'.indexes host).run q' = .ok (((i, j), s'), q') ∧
      (i.identities ++ j.identities).Nodup ∧
      (∀ id ∈ i.identities ++ j.identities, id.Alike q' q' id) ∧
      InTurn (Made host s₀ q₀ q' i j) (i.identities ++ j.identities) made := by
  have hlasts := lasts_continues host q₀ s₀
  have hlegible : ∀ {q}, q₀.Grows q → host.Legible q := fun hgrows => hhost.mono hgrows
  rcases run_generateAll_cases h with
    ⟨e, g, hfirst, rfl, rfl⟩ | ⟨first, g, q₁, second, g', hfirst, hsecond, rfl, rfl⟩
  · obtain ⟨i, p₁, hget, -, hturn⟩ := Generator.run_generateAll_inTurn hfirst
    obtain ⟨hgrows₁, hi, hg, -⟩ := Generator.run_getIndex_eq_ok hget hsound.orNull
    have hgrows := (hs .nullOnThrow).grows.trans hgrows₁
    exact absurd hturn (not_inTurn_error (hlegible hgrows) hg hi hroom)
  · obtain ⟨i, p₁, hget, hgrows₁, hturn⟩ := Generator.run_generateAll_inTurn hfirst
    obtain ⟨j, p₂, hget', hgrows₂, hturn'⟩ := Generator.run_generateAll_inTurn hsecond
    -- the session with the one index, and then with both
    have hbuilt := (Generator.run_getIndex_settles hget).2
    have hbuilt' := (Generator.run_getIndex_settles hget').2
    obtain ⟨hg, hi⟩ := (hs .nullOnThrow).getIndex hget
    have hs₁ : (s.setGenerator .nullOnThrow g).Continues host q₀ p₁ s₀ :=
      Keeps.setGenerator hlasts hs (Generator.run_getIndex_keeps hget).1 hg
    obtain ⟨hg', hj⟩ := ((hs₁.mono hgrows₁) .throwOnNull).getIndex hget'
    have hs₂ : ((s.setGenerator .nullOnThrow g).setGenerator .throwOnNull g').Continues host q₀ p₂
        s₀ :=
      Keeps.setGenerator hlasts (hs₁.mono hgrows₁) (Generator.run_getIndex_keeps hget').1 hg'
    have hgrows : p₁.Grows q' :=
      hgrows₁.trans ((Generator.run_getIndex_keeps hget').1.trans hgrows₂)
    have hdisjoint : ∀ id ∈ j.identities, id ∉ i.identities := by
      obtain ⟨hgrows₀, hsound₁, -⟩ := Generator.run_getIndex_eq_ok hget hsound.orNull
      obtain ⟨-, hsound₂, -⟩ := Generator.run_getIndex_eq_ok hget'
        (hsound.orThrow.mono (hgrows₀.trans hgrows₁))
      exact fun id hid' hid => (hsound₁.mono hgrows).disjoint (hsound₂.mono hgrows₂) hid hid'
    have hnull : InTurn (Made host s₀ q₀ q' i j) i.identities (.ok first) := by
      refine hturn.imp fun id hid m hanswer => ?_
      obtain ⟨origin, horigin⟩ := Option.ne_none_iff_exists'.1
        (mt CompanionIndex.originOf?_eq_none_iff.1 (not_not.2 hid))
      exact made_of_answer hhost herror hs₁ hi hid (by rw [horigin, Option.some_or])
        (generate_run_of_orNull hbuilt) hanswer
        ((Generator.run_getIndex_keeps hget').1.trans hgrows₂) hroom
    have hthrow : InTurn (Made host s₀ q₀ q' i j) j.identities second := by
      refine hturn'.imp fun id hid m hanswer => ?_
      have hnone := CompanionIndex.originOf?_eq_none_iff.2 (hdisjoint id hid)
      exact made_of_answer hhost herror hs₂ hj hid (by rw [hnone, Option.none_or])
        (generate_run_of_orThrow hbuilt hbuilt' (hdisjoint id hid)) hanswer (.refl q') hroom
    refine ⟨i, j, indexes_run (Generator.getIndex_run_of_built hbuilt host q')
      (Generator.getIndex_run_of_built hbuilt' host q'), ?_, ?_, hnull.append hthrow⟩
    · refine List.nodup_append.2 ⟨hi.nodup, hj.nodup, ?_⟩
      rintro id hid _ hid' rfl
      exact hdisjoint id hid' hid
    · intro id hid
      rcases List.mem_append.1 hid with hid | hid
      · exact (hi.mono hgrows).alike_self hhost (.refl q') hid
      · exact (hj.mono hgrows₂).alike_self hhost (.refl q') hid

/-! ## All or nothing -/

/-- What the request for all companions comes to, in the session and the pools that it leaves
behind.  The identities are those of the one index and then those of the other. -/
structure AllOrNothing (host : Host) (s₀ : Session) (q₀ : Pools) (s : Session) (q : Pools)
    (orNull orThrow : CompanionIndex) (made : Except GenerationError (List Companion)) : Prop where
  /-- No identity is listed twice. -/
  distinct : (orNull.identities ++ orThrow.identities).Nodup
  /-- All companions are made exactly if each of them can be made alone. -/
  ok_iff : (∀ id ∈ orNull.identities ++ orThrow.identities, s.Affords host q id) →
    ((∃ cs, made = .ok cs) ↔ ∀ id ∈ orNull.identities ++ orThrow.identities,
      ∃ c s' q', (s.generate host id id.owner).run q = .ok ((.ok (some c), s'), q'))
  /-- They are listed in the order of the identities, and forward to the functions behind them. -/
  listed : ∀ cs, made = .ok cs → cs.map (fun c => (c.declaration.id, some c.origin)) =
    (orNull.identities ++ orThrow.identities).map fun id =>
      (id, (orNull.originOf? id).or (orThrow.originOf? id))
  /-- Whenever the session is asked for one of them alone, that one reads the same. -/
  alike : ∀ cs, made = .ok cs → ∀ c ∈ cs, ∀ t r id', Becomes host s₀ q₀ t r →
    c.declaration.id.Alike q r id' → t.Affords host r id' →
      ∃ c' t' r', (t.generate host id' id'.owner).run r = .ok ((.ok (some c'), t'), r') ∧
        c.ReadsAlike host q r' c'
  /-- An error is the one that the first companion which cannot be made ends in. -/
  first : ∀ e, made = .error e → ∃ before id after,
    orNull.identities ++ orThrow.identities = before ++ id :: after ∧
    (∀ id ∈ before, s.Affords host q id → ∃ c s' q',
      (s.generate host id id.owner).run q = .ok ((.ok (some c), s'), q')) ∧
    (s.Affords host q id →
      ∃ s' q', (s.generate host id id.owner).run q = .ok ((.error e, s'), q'))

/-- What is made in turn is made all or not at all. -/
theorem allOrNothing_of_inTurn {made : Except GenerationError (List Companion)}
    (hs₀ : s₀.Continues host q₀ q₀ s₀) (hs : s.Continues host q₀ q s₀)
    (hdistinct : (i.identities ++ j.identities).Nodup)
    (hself : ∀ id ∈ i.identities ++ j.identities, id.Alike q q id)
    (hturn : InTurn (Made host s₀ q₀ q i j) (i.identities ++ j.identities) made) :
    AllOrNothing host s₀ q₀ s q i j made := by
  have hmade : ∀ id ∈ i.identities ++ j.identities, (∃ c, Made host s₀ q₀ q i j id (.ok c)) →
      s.Affords host q id →
        ∃ c s' q', (s.generate host id id.owner).run q = .ok ((.ok (some c), s'), q') := by
    rintro id hid ⟨c, hc⟩ haffords
    obtain ⟨c', s', q', hrun, -⟩ := hc.settled.exists_made hs (hself id hid) haffords
    exact ⟨c', s', q', hrun⟩
  have hfirst : ∀ e, made = .error e → ∃ before id after,
      i.identities ++ j.identities = before ++ id :: after ∧
      (∀ id ∈ before, s.Affords host q id → ∃ c s' q',
        (s.generate host id id.owner).run q = .ok ((.ok (some c), s'), q')) ∧
      (s.Affords host q id →
        ∃ s' q', (s.generate host id id.owner).run q = .ok ((.error e, s'), q')) := by
    rintro e rfl
    obtain ⟨before, id, after, heq, hbefore, herror⟩ := hturn.exists_first
    have hid : id ∈ i.identities ++ j.identities :=
      heq ▸ List.mem_append_right _ List.mem_cons_self
    exact ⟨before, id, after, heq,
      fun id' hid' => hmade id' (heq ▸ List.mem_append_left _ hid') (hbefore id' hid'),
      herror.settled.exists_failed hs (hself id hid)⟩
  refine ⟨hdistinct, fun haffords => ⟨?_, fun hall => ?_⟩, ?_, ?_, hfirst⟩
  · rintro ⟨cs, rfl⟩ id hid
    obtain ⟨c, -, hc⟩ := exists_of_mem_of_forall₂ hturn.forall₂ hid
    exact hmade id hid ⟨c, hc⟩ (haffords id hid)
  · cases made with
    | ok cs => exact ⟨cs, rfl⟩
    | error e =>
      -- the companion that failed can be made alone after all
      obtain ⟨before, id, after, heq, -, herror⟩ := hfirst e rfl
      have hid : id ∈ i.identities ++ j.identities :=
        heq ▸ List.mem_append_right _ List.mem_cons_self
      obtain ⟨s', q', hrun⟩ := herror (haffords id hid)
      obtain ⟨c, s'', q'', hrun'⟩ := hall id hid
      rw [hrun] at hrun'
      cases hrun'
  · rintro cs rfl
    rw [← List.forall₂_eq_eq_eq, List.forall₂_map_left_iff, List.forall₂_map_right_iff]
    refine hturn.forall₂.flip.imp fun c id hc => ?_
    obtain ⟨hown, horigin⟩ := hc.companion c rfl
    rw [hown, horigin]
  · rintro cs rfl c hc t r id' ht hid
    obtain ⟨id, -, hid₀⟩ := exists_of_mem_of_forall₂ hturn.forall₂.flip hc
    rw [(hid₀.companion c rfl).1] at hid
    exact hid₀.settled.exists_made (ht.continues hs₀) hid

/-- Over a program whose signatures are known and named, whatever is registered with it and whatever
a session has been asked: it answers the request for all companions, and makes all or nothing if
there are symbols left for parameters then. -/
theorem generateAll_complete {p : Program} (hp : p.Reachable)
    (hknown : ∀ d ∈ p.declarations, d.SignatureKnown p.pools ∧ d.SignatureNamed p.pools)
    (hnamed : ∀ k ∈ p.constructors, ∀ n ∈ k.type.names, p.pools.names.Knows n)
    (registry : Registry) (config : Config) (hgrows : p.pools.Grows q)
    (hnew : (Session.new config).run q = .ok (s₀, q₀))
    (hs : Becomes (p.host registry) s₀ q₀ s r) :
    ∃ made s' r', (s.generateAll (p.host registry)).run r = .ok ((made, s'), r') ∧
      (r'.symbols.params ≤ SymbolSupply.capacity → ∃ orNull orThrow,
        (s'.indexes (p.host registry)).run r' = .ok (((orNull, orThrow), s'), r') ∧
        AllOrNothing (p.host registry) s₀ q₀ s' r' orNull orThrow made) := by
  obtain ⟨s₁, q₁, hnew', hgrows₀, herror, hs₀⟩ := exists_run_new config (p.host registry) q
  rw [hnew] at hnew'
  cases hnew'
  have hhost := (hp.legible hknown hnamed registry).mono (hgrows.trans hgrows₀)
  have hcontinues := hs.continues hs₀
  have hready := (hhost.mono (hcontinues .nullOnThrow).grows).ready
  obtain ⟨made, s', r', hrun⟩ := exists_run_generateAll hready s
  have hsound := (hs.serving (.new hgrows hnew)).sound.2
  refine ⟨made, s', r', hrun, fun hroom => ?_⟩
  obtain ⟨i, j, hindexes, hdistinct, hself, hturn⟩ :=
    hcontinues.run_generateAll_inTurn hhost herror hsound hrun hroom
  have hs' := Keeps.generateAll (lasts_continues _ q₀ s₀) hcontinues hrun
  exact ⟨i, j, hindexes, allOrNothing_of_inTurn hs₀ hs' hdistinct hself hturn⟩

end Session

/-! ## The sample -/

namespace Sample

/-- A new session is asked for all companions. -/
def asksAll (p : Program) : Growing (Except GenerationError (List Companion) × Session) := do
  (← Session.new .standard).generateAll (p.host registry)

/-- Whether a new session makes both companions of the sample, and symbols are left for parameters
then. -/
def makesBoth : Bool :=
  match (asksAll program).run program.pools with
  | .ok ((.ok cs, _), q) => cs.length = 2 ∧ q.symbols.params ≤ SymbolSupply.capacity
  | _ => false

theorem makesBoth_program : makesBoth = true := by decide +kernel

end Sample

open Sample in
/-- A new session over the sample makes all companions, of which there are two. -/
theorem Session.generateAll_complete_load :
    program.Reachable ∧
      (∀ d ∈ program.declarations,
        d.SignatureKnown program.pools ∧ d.SignatureNamed program.pools) ∧
      (∀ k ∈ program.constructors, ∀ n ∈ k.type.names, program.pools.names.Knows n) ∧
      ∃ s₀ q₀ cs s' r orNull orThrow,
        (Session.new .standard).run program.pools = .ok (s₀, q₀) ∧
        (s₀.generateAll (program.host registry)).run q₀ = .ok ((.ok cs, s'), r) ∧
        cs.length = 2 ∧ r.symbols.params ≤ SymbolSupply.capacity ∧
        AllOrNothing (program.host registry) s₀ q₀ s' r orNull orThrow (.ok cs) := by
  obtain ⟨s₀, q₀, hnew⟩ : ∃ s q, (Session.new .standard).run program.pools = .ok (s, q) :=
    ⟨_, _, rfl⟩
  obtain ⟨made, s', r, hrun, hcomplete⟩ := Session.generateAll_complete
    program_reachable named classesNamed registry .standard (.refl _) hnew .start
  have hboth := makesBoth_program
  rw [makesBoth, asksAll, Growing.run_bind_of_ok hnew, hrun] at hboth
  cases made with
  | error e => cases hboth
  | ok cs =>
    obtain ⟨hlength, hroom⟩ := of_decide_eq_true hboth
    obtain ⟨orNull, orThrow, -, hall⟩ := hcomplete hroom
    exact ⟨program_reachable, named, classesNamed, s₀, q₀, cs, s', r, orNull, orThrow, hnew, hrun,
      hlength, hroom, hall⟩

namespace Sample

/-- Whether the session makes the companion, asked for it alone. -/
def makesAlone (s : Session) (q : Pools) (id : CallableId) : Bool :=
  match (s.generate (spent.host registry) id id.owner).run q with
  | .ok ((.ok (some _), _), _) => true
  | _ => false

/-- Whether a new session over the spent program fails to make all companions, and then makes each
of them alone. -/
def makesEachAlone : Bool :=
  match (asksAll spent).run spent.pools with
  | .ok ((.error _, s), q) =>
    match (s.indexes (spent.host registry)).run q with
    | .ok (((orNull, orThrow), s), q) =>
      (orNull.identities ++ orThrow.identities).all (makesAlone s q)
    | .error _ => false
  | _ => false

theorem makesEachAlone_spent : makesEachAlone = true := by decide +kernel

theorem exists_run_of_makesAlone {s : Session} {q : Pools} {id : CallableId}
    (h : makesAlone s q id = true) : ∃ c s' q',
      (s.generate (spent.host registry) id id.owner).run q = .ok ((.ok (some c), s'), q') := by
  unfold makesAlone at h
  split at h
  · next c s' q' hrun => exact ⟨c, s', q', hrun⟩
  · cases h

end Sample

open Sample in
/-- Once the counter of parameters has come round, not all companions are made at once, though each
of them can be made alone. -/
theorem Session.generateAll_spent :
    (Growing.times Growing.mintParam (SymbolSupply.capacity - 2)).run program.pools =
        .ok ((), spent.pools) ∧
      spent.Reachable ∧
      (∀ d ∈ spent.declarations, d.SignatureKnown spent.pools ∧ d.SignatureNamed spent.pools) ∧
      (∀ k ∈ spent.constructors, ∀ n ∈ k.type.names, spent.pools.names.Knows n) ∧
      ∃ s₀ q₀ e s r orNull orThrow s' r',
        (Session.new .standard).run spent.pools = .ok (s₀, q₀) ∧
        (s₀.generateAll (spent.host registry)).run q₀ = .ok ((.error e, s), r) ∧
        (s.indexes (spent.host registry)).run r = .ok (((orNull, orThrow), s'), r') ∧
        ∀ id ∈ orNull.identities ++ orThrow.identities, ∃ c t u,
          (s'.generate (spent.host registry) id id.owner).run r' = .ok ((.ok (some c), t), u) := by
  have hspent : program.pools.Grows spent.pools :=
    Growing.OnlyGrows.times .mintParam _ _ _ _ run_mintParams_program
  refine ⟨run_mintParams_program, program_reachable.grow hspent, by decide +kernel,
    by decide +kernel, ?_⟩
  have heach := makesEachAlone_spent
  unfold makesEachAlone at heach
  split at heach
  · next e s r hall =>
    obtain ⟨s₀, q₀, hnew, hrun⟩ := Growing.run_bind_eq_ok_iff.1 hall
    split at heach
    · next orNull orThrow s' r' hindexes =>
      exact ⟨s₀, q₀, e, s, r, orNull, orThrow, s', r', hnew, hrun, hindexes,
        fun id hid => exists_run_of_makesAlone (List.all_eq_true.1 heach id hid)⟩
    · cases heach
  · cases heach

end Companions
