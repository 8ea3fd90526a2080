import Companions.Proofs.Companion.Discovery
import Companions.Proofs.Companion.Surface
set_option autoImplicit false

/-!
# The order of the surface

An index lists its companions in the order in which the functions behind them are declared
(`CompanionIndex.pairwise_identities`).  A session lists the top-level companions of the second
strategy behind all of those of the first (`Session.ListsInTurn`), and so the list as a whole is in
the order of declaration exactly if no function behind a companion of the second strategy is
declared before one behind a companion of the first (`Session.topLevel_inTurn`).
-/

namespace Companions

/-! ## The order of an index -/

/-- How many functions the program declares before the function. -/
def Program.place (p : Program) (f : FunctionSymbol) : Nat :=
  (p.declarations.map (·.symbol)).idxOf f

/-- Part of a list without repeats stands in the order of the list. -/
theorem pairwise_idxOf_of_sublist {α : Type} [BEq α] [LawfulBEq α] {l part : List α}
    (hnodup : l.Nodup) (hpart : part.Sublist l) :
    part.Pairwise fun a b => l.idxOf a < l.idxOf b := by
  have hordered := pairwise_idxOf_eraseDups l
  rw [eraseDups_of_nodup hnodup] at hordered
  exact hordered.sublist hpart

/-- A program answers functions that it declares, in the order of declaration. -/
theorem Program.matching_sublist (p : Program) (registry : Registry) (predicate : Predicate) :
    ((p.host registry).matching predicate).Sublist (p.declarations.map (·.symbol)) := by
  change (if registry.contains predicate then p.matching predicate else []).Sublist _
  split
  · exact List.filter_sublist.map _
  · exact List.nil_sublist _

namespace CompanionIndex

variable {host : Host} {strategy : Strategy} {predicate : Predicate} {p : Program} {q q' : Pools}
  {i : CompanionIndex} {registry : Registry}

/-- The companions of an index over a program are for functions that the program declares, and are
listed in the order of declaration. -/
structure InOrder (p : Program) (i : CompanionIndex) : Prop where
  distinct : i.identities.Nodup
  declared : ∀ id f, i.originOf? id = some f → f ∈ p.declarations.map (·.symbol)
  ordered : i.identities.Pairwise fun x y =>
    ∀ f g, i.originOf? x = some f → i.originOf? y = some g → p.place f < p.place g

theorem inOrder_of_build (hp : p.Reachable)
    (h : (build (p.host registry) strategy predicate).run q = .ok (i, q')) : i.InOrder p := by
  have hdivides := divides_of_build h
  have hmatched : i.matched.Sublist (p.declarations.map (·.symbol)) := by
    have hsublist := p.matching_sublist registry predicate
    rw [matched_of_build h, eraseDups_of_nodup (hp.nodup_symbols.sublist hsublist)]
    exact hsublist
  refine ⟨hdivides.distinct,
    fun id f hf => hmatched.subset ((hdivides.origin_iff id f).1 hf).2.1, ?_⟩
  -- the identities are listed side by side with the functions behind them
  obtain ⟨origins, horigins, hreported⟩ := hdivides.reported
  have hordered := pairwise_idxOf_of_sublist hp.nodup_symbols (horigins.trans hmatched)
  have hbehind : (origins.map some).Pairwise fun a b =>
      ∀ f g, a = some f → b = some g → p.place f < p.place g := by
    refine List.pairwise_map.2 (hordered.imp fun hlt f g hf hg => ?_)
    cases hf
    cases hg
    exact hlt
  rw [← hreported, List.pairwise_map] at hbehind
  exact hbehind

end CompanionIndex

/-! ## The order of a session -/

namespace Session

variable {p : Program} {s s' : Session} {registry : Registry} {config : Config} {q q' : Pools}
  {indexes : Strategy → CompanionIndex} {strategy strategy' : Strategy} {id : CallableId}
  {f : FunctionSymbol}

/-- By its index for the strategy, the session has the companion for the function. -/
def Behind (s : Session) (strategy : Strategy) (id : CallableId) (f : FunctionSymbol) : Prop :=
  ∃ i, (s.generator strategy).index.built? = some i ∧ i.originOf? id = some f

/-- Of two companions in the list, whatever their strategies, the function behind the second is not
declared before the one behind the first. -/
def Ordered (s : Session) (p : Program) (ids : List CallableId) : Prop :=
  ids.Pairwise fun x y => ∀ a b f g, s.Behind a x f → s.Behind b y g → p.place f ≤ p.place g

/-- The companions are of one strategy and in the order of declaration, or the first is of the first
strategy and the second of the second. -/
def Precedes (s : Session) (p : Program) (x y : CallableId) : Prop :=
  ∀ a b f g, s.Behind a x f → s.Behind b y g →
    (a = b ∧ p.place f < p.place g) ∨ (a = .nullOnThrow ∧ b = .throwOnNull)

/-- How a session lists its top-level companions: those of each strategy in the order of
declaration, and those of the second behind those of the first. -/
structure ListsInTurn (s : Session) (p : Program) (ids : List CallableId) : Prop where
  nodup : ids.Nodup
  listed_iff : ∀ id, id ∈ ids ↔ id.owner = none ∧ ∃ a f, s.Behind a id f
  /-- A companion is for one function that the program declares, and of one strategy. -/
  behind : ∀ id a f, s.Behind a id f →
    f ∈ p.declarations.map (·.symbol) ∧ ∀ b g, s.Behind b id g → b = a ∧ g = f
  precedes : ids.Pairwise (s.Precedes p)
  /-- The list as a whole is in the order of declaration exactly if no function behind a companion
  of the second strategy is declared before one behind a companion of the first. -/
  ordered_iff : s.Ordered p ids ↔ ∀ x ∈ ids, ∀ y ∈ ids, ∀ f g,
    s.Behind .nullOnThrow x f → s.Behind .throwOnNull y g → p.place f ≤ p.place g

/-- The session has built both indexes over the program. -/
structure HasIndexes (s : Session) (p : Program) (indexes : Strategy → CompanionIndex) : Prop where
  built : ∀ a, (s.generator a).index.built? = some (indexes a)
  inOrder : ∀ a, (indexes a).InOrder p
  disjoint : ∀ a b id, id ∈ (indexes a).identities → id ∈ (indexes b).identities → a = b

namespace HasIndexes

theorem behind_iff (h : s.HasIndexes p indexes) :
    s.Behind strategy id f ↔ (indexes strategy).originOf? id = some f := by
  rw [Behind, h.built]
  simp

theorem exists_behind_iff (h : s.HasIndexes p indexes) :
    (∃ f, s.Behind strategy id f) ↔ id ∈ (indexes strategy).identities := by
  simp only [h.behind_iff, ← Option.ne_none_iff_exists', Ne,
    CompanionIndex.originOf?_eq_none_iff, not_not]

theorem strategy_eq (h : s.HasIndexes p indexes) (hid : id ∈ (indexes strategy).identities)
    (hf : s.Behind strategy' id f) : strategy' = strategy :=
  h.disjoint _ _ id (h.exists_behind_iff.1 ⟨f, hf⟩) hid

theorem strategy_eq_of_topLevel (h : s.HasIndexes p indexes)
    (hid : id ∈ (indexes strategy).topLevel) (hf : s.Behind strategy' id f) :
    strategy' = strategy :=
  h.strategy_eq (CompanionIndex.mem_topLevel.1 hid).1 hf

theorem mem_topLevel (h : s.HasIndexes p indexes) (howner : id.owner = none)
    (hf : s.Behind strategy id f) : id ∈ (indexes strategy).topLevel :=
  CompanionIndex.mem_topLevel.2 ⟨h.exists_behind_iff.1 ⟨f, hf⟩, howner⟩

/-- The companions of one strategy are in the order of declaration. -/
theorem pairwise_topLevel (h : s.HasIndexes p indexes) (strategy : Strategy) :
    (indexes strategy).topLevel.Pairwise fun x y => ∀ a b f g, s.Behind a x f → s.Behind b y g →
      a = b ∧ p.place f < p.place g := by
  refine ((h.inOrder strategy).ordered.sublist List.filter_sublist).imp_of_mem ?_
  intro x y hx hy hlt a b f g hf hg
  obtain rfl := h.strategy_eq_of_topLevel hx hf
  obtain rfl := h.strategy_eq_of_topLevel hy hg
  exact ⟨rfl, hlt f g (h.behind_iff.1 hf) (h.behind_iff.1 hg)⟩

theorem nodup_topLevels (h : s.HasIndexes p indexes) :
    ((indexes .nullOnThrow).topLevel ++ (indexes .throwOnNull).topLevel).Nodup := by
  refine List.nodup_append.2
    ⟨(h.inOrder _).distinct.filter _, (h.inOrder _).distinct.filter _, ?_⟩
  rintro id hid _ hid' rfl
  cases h.disjoint _ _ id (CompanionIndex.mem_topLevel.1 hid).1
    (CompanionIndex.mem_topLevel.1 hid').1

/-- The companions of both strategies are in the order of declaration exactly if those of one are
in order with those of the other. -/
theorem ordered_iff (h : s.HasIndexes p indexes) :
    s.Ordered p ((indexes .nullOnThrow).topLevel ++ (indexes .throwOnNull).topLevel) ↔
      ∀ x ∈ (indexes .nullOnThrow).topLevel, ∀ y ∈ (indexes .throwOnNull).topLevel, ∀ f g,
        s.Behind .nullOnThrow x f → s.Behind .throwOnNull y g → p.place f ≤ p.place g := by
  have hone : ∀ strategy, s.Ordered p (indexes strategy).topLevel := fun strategy =>
    (h.pairwise_topLevel strategy).imp fun hbefore a b f g hf hg =>
      Nat.le_of_lt (hbefore a b f g hf hg).2
  rw [Ordered, List.pairwise_append]
  constructor
  · rintro ⟨-, -, hacross⟩ x hx y hy f g hf hg
    exact hacross x hx y hy _ _ f g hf hg
  · intro hacross
    refine ⟨hone _, hone _, fun x hx y hy a b f g hf hg => ?_⟩
    obtain rfl := h.strategy_eq_of_topLevel hx hf
    obtain rfl := h.strategy_eq_of_topLevel hy hg
    exact hacross x hx y hy f g hf hg

/-- The lists of both strategies, one behind the other, are in turn. -/
theorem listsInTurn (h : s.HasIndexes p indexes) :
    s.ListsInTurn p
      ((indexes .nullOnThrow).topLevel ++ (indexes .throwOnNull).topLevel).eraseDups := by
  rw [eraseDups_of_nodup h.nodup_topLevels]
  have hlisted : ∀ id, id ∈ (indexes .nullOnThrow).topLevel ++ (indexes .throwOnNull).topLevel ↔
      id.owner = none ∧ ∃ a f, s.Behind a id f := by
    intro id
    simp only [h.exists_behind_iff, Strategy.exists_iff, List.mem_append,
      CompanionIndex.mem_topLevel]
    tauto
  refine ⟨h.nodup_topLevels, hlisted, fun id a f hf => ⟨?_, fun b g hg => ?_⟩, ?_, ?_⟩
  · exact (h.inOrder a).declared id f (h.behind_iff.1 hf)
  · obtain rfl := h.strategy_eq (h.exists_behind_iff.1 ⟨f, hf⟩) hg
    exact ⟨rfl, Option.some.inj ((h.behind_iff.1 hg).symm.trans (h.behind_iff.1 hf))⟩
  · have hone : ∀ strategy, (indexes strategy).topLevel.Pairwise (s.Precedes p) :=
      fun strategy => (h.pairwise_topLevel strategy).imp
        fun hbefore a b f g hf hg => .inl (hbefore a b f g hf hg)
    refine List.pairwise_append.2 ⟨hone _, hone _, fun x hx y hy a b f g hf hg => ?_⟩
    exact .inr ⟨h.strategy_eq_of_topLevel hx hf, h.strategy_eq_of_topLevel hy hg⟩
  · rw [h.ordered_iff]
    constructor
    · intro hacross x hx y hy f g hf hg
      exact hacross x (h.mem_topLevel ((hlisted x).1 hx).1 hf) y
        (h.mem_topLevel ((hlisted y).1 hy).1 hg) f g hf hg
    · intro hacross x hx y hy f g hf hg
      exact hacross x (List.mem_append_left _ hx) y (List.mem_append_right _ hy) f g hf hg

end HasIndexes

/-- A session that is asked for its indexes keeps them. -/
theorem run_indexes_built {both : CompanionIndex × CompanionIndex}
    (h : (s.indexes (p.host registry)).run q = .ok ((both, s'), q')) :
    (s'.generator .nullOnThrow).index.built? = some both.1 ∧
      (s'.generator .throwOnNull).index.built? = some both.2 := by
  obtain ⟨s₁, q₁, hfirst, hsecond⟩ := run_indexes_eq_ok h
  obtain ⟨g, hget, rfl⟩ := run_index_eq_ok hfirst
  obtain ⟨g', hget', rfl⟩ := run_index_eq_ok hsecond
  rw [generator_setGenerator, generator_setGenerator, generator_setGenerator]
  exact ⟨(Generator.run_getIndex_settles hget).2, (Generator.run_getIndex_settles hget').2⟩

/-- Whatever a session has been asked before, the indexes that it has are over the program. -/
theorem Serving.hasIndexes (hp : p.Reachable) (hs : Serving config (p.host registry) p.pools s q)
    (hbuilt : ∀ a, (s.generator a).index.built? = some (indexes a)) :
    s.HasIndexes p indexes where
  built := hbuilt
  inOrder a := by
    obtain ⟨q₁, q₂, hbuild⟩ := (hs.seeks a).built _ (hbuilt a)
    exact CompanionIndex.inOrder_of_build hp hbuild
  disjoint a b id ha hb :=
    strategy_eq_of_listed (fun strategy => (hs.proper strategy).built _ (hbuilt strategy)) ha hb

/-- Whatever a session has been asked before, if the functions have names, it lists its top-level
companions, in turn. -/
theorem topLevel_inTurn (hp : p.Reachable)
    (hnames : CompanionIndex.NamesKnown (p.host registry) p.pools)
    (hs : Serving config (p.host registry) p.pools s q) :
    ∃ ids s' q', (s.topLevel (p.host registry)).run q = .ok ((ids, s'), q') ∧
      s'.ListsInTurn p ids := by
  obtain ⟨both, s', q', hindexes⟩ := exists_run_indexes (hnames.mono hs.sound.1) s
  have hrun : (s.topLevel (p.host registry)).run q =
      .ok (((both.1.topLevel ++ both.2.topLevel).eraseDups, s'), q') :=
    Growing.run_bind_of_ok hindexes
  have hs' : Serving config (p.host registry) p.pools s' q' :=
    hs.serve .topLevel (Growing.run_bind_of_ok hrun)
  have hbuilt := run_indexes_built hindexes
  have hhas : s'.HasIndexes p (fun a => if a = .nullOnThrow then both.1 else both.2) :=
    hs'.hasIndexes hp (Strategy.forall_iff.2 hbuilt)
  exact ⟨_, s', q', hrun, hhas.listsInTurn⟩

end Session

/-! ## Functions declared the other way round -/

namespace Sample

/-- The sample with the function for the second strategy declared first. -/
def crossed : Program :=
  match Program.standard.grow functions with
  | .ok ((load, find), p) => (p.addDeclaration find).addDeclaration load
  | .error _ => .standard

/-- What a new session lists once its predicates are registered, and the session afterwards. -/
def listsCrossed : Growing (List CallableId × Session) := do
  let r ← Registry.empty.registerAll .standard
  (← Session.new .standard).topLevel (crossed.host r)

/-- Whether the function behind the first listed companion is declared after the one behind the
second. -/
def listsBackwards : Bool :=
  match listsCrossed.run crossed.pools with
  | .ok (([x, y], s), _) =>
    match s.orNull.index.built?, s.orThrow.index.built? with
    | some i, some j =>
      decide (i.originOf? x = some ⟨0⟩ ∧ j.originOf? y = some ⟨1⟩ ∧
        crossed.place ⟨1⟩ < crossed.place ⟨0⟩)
    | _, _ => false
  | _ => false

theorem listsBackwards_crossed : listsBackwards = true := by decide +kernel

theorem crossed_reachable : crossed.Reachable := by
  unfold crossed
  split
  · next h => exact ((Program.Reachable.standard.grow_of_onlyGrows onlyGrows_functions h).step
      (.addDeclaration _)).step (.addDeclaration _)
  · exact .standard

/-- What is listed backwards is not in the order of declaration. -/
theorem not_ordered_of_listsBackwards {ids : List CallableId} {s : Session} {q : Pools}
    (hrun : listsCrossed.run crossed.pools = .ok ((ids, s), q)) (h : listsBackwards = true) :
    ¬ s.Ordered crossed ids := by
  rw [listsBackwards, hrun] at h
  split at h
  · next x y s' q' heq =>
    cases heq
    split at h
    · next i j hi hj =>
      obtain ⟨hx, hy, hlt⟩ := of_decide_eq_true h
      intro hordered
      have hle := List.rel_of_pairwise_cons hordered (List.mem_singleton_self y)
        .nullOnThrow .throwOnNull ⟨0⟩ ⟨1⟩ ⟨i, hi, hx⟩ ⟨j, hj, hy⟩
      exact Nat.not_le_of_lt hlt hle
    · cases h
  · cases h

end Sample

open Sample in
/-- A function for the second strategy is declared first, but its companion is listed last. -/
theorem Session.not_ordered_crossed :
    crossed.Reachable ∧ ∃ r q₁ s q₂ ids s' q₃,
      (Registry.empty.registerAll .standard).run crossed.pools = .ok (r, q₁) ∧
      (Session.new .standard).run q₁ = .ok (s, q₂) ∧
      (s.topLevel (crossed.host r)).run q₂ = .ok ((ids, s'), q₃) ∧ ¬ s'.Ordered crossed ids := by
  obtain ⟨r, q₁, hregister⟩ :
      ∃ r q, (Registry.empty.registerAll .standard).run crossed.pools = .ok (r, q) := ⟨_, _, rfl⟩
  obtain ⟨s, q₂, hnew⟩ : ∃ s q, (Session.new .standard).run q₁ = .ok (s, q) := ⟨_, _, rfl⟩
  have hlists : listsCrossed.run crossed.pools = (s.topLevel (crossed.host r)).run q₂ := by
    rw [listsCrossed, Growing.run_bind_of_ok hregister, Growing.run_bind_of_ok hnew]
  have hbackwards := listsBackwards_crossed
  cases hrun : (s.topLevel (crossed.host r)).run q₂ with
  | error fault =>
    rw [listsBackwards, hlists, hrun] at hbackwards
    cases hbackwards
  | ok result =>
    obtain ⟨⟨ids, s'⟩, q₃⟩ := result
    exact ⟨crossed_reachable, r, q₁, s, q₂, ids, s', q₃, hregister, hnew, hrun,
      not_ordered_of_listsBackwards (hlists.trans hrun) hbackwards⟩

open Sample in
/-- A new session lists the companions of the sample in turn. -/
theorem Session.topLevel_inTurn_load :
    program.Reachable ∧ CompanionIndex.NamesKnown (program.host registry) program.pools ∧
      ∃ s q, Serving .standard (program.host registry) program.pools s q ∧
        ∃ ids s' q', (s.topLevel (program.host registry)).run q = .ok ((ids, s'), q') ∧
          s'.ListsInTurn program ids := by
  have hnames : CompanionIndex.NamesKnown (program.host registry) program.pools :=
    fun _ d hd => (known d (Program.mem_of_declaration? hd)).name
  obtain ⟨s, q, hnew⟩ : ∃ s q, (Session.new .standard).run program.pools = .ok (s, q) :=
    ⟨_, _, rfl⟩
  have hs : Serving .standard (program.host registry) program.pools s q := .new (.refl _) hnew
  exact ⟨program_reachable, hnames, s, q, hs, topLevel_inTurn program_reachable hnames hs⟩

end Companions
