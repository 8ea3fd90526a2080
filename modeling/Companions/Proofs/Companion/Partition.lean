import Companions.Proofs.Companion.Index
import Companions.Proofs.Program.Reachable
import Mathlib.Data.List.Induction
set_option autoImplicit false

/-!
# How an index divides the functions

The functions that the host answers are grouped by the identity that they derive, in the order in
which they are answered (`Derived.Groups`).  A group of one is a companion and a larger group is a
collision, so that every function with a declaration is behind one companion or in one collision
(`IndexView.Divides`).
-/

namespace Companions

/-! ## Lists -/

/-- What is kept of a list stands in the order of the list. -/
theorem map_filterMap_sublist {α β γ : Type} {f : α → Option β} {g : β → γ} {k : α → Option γ}
    {l : List α} (h : ∀ a b, f a = some b → k a = some (g b)) :
    ((l.filterMap f).map g).Sublist (l.filterMap k) := by
  induction l with
  | nil => exact .slnil
  | cons a rest ih =>
    rw [List.filterMap_cons, List.filterMap_cons]
    cases hf : f a with
    | none =>
      cases k a with
      | none => exact ih
      | some c => exact ih.cons c
    | some b =>
      rw [h a b hf]
      exact ih.cons_cons _

/-- A list without its later repeats has its items in the order in which they come first. -/
theorem pairwise_idxOf_eraseDups {α : Type} [BEq α] [LawfulBEq α] (l : List α) :
    l.eraseDups.Pairwise fun a b => l.idxOf a < l.idxOf b := by
  induction l using List.reverseRecOn with
  | nil => exact .nil
  | append_singleton l a ih =>
    have hold : l.eraseDups.Pairwise fun b c => (l ++ [a]).idxOf b < (l ++ [a]).idxOf c := by
      refine ih.imp_of_mem fun {b c} hb hc hlt => ?_
      rw [List.idxOf_append_of_mem (List.mem_eraseDups.1 hb),
        List.idxOf_append_of_mem (List.mem_eraseDups.1 hc)]
      exact hlt
    rw [Program.eraseDups_append_singleton]
    by_cases hmem : a ∈ l
    · rw [if_pos (List.contains_iff_mem.2 hmem)]
      exact hold
    · rw [if_neg fun h => hmem (List.contains_iff_mem.1 h)]
      refine List.pairwise_append.2 ⟨hold, List.pairwise_singleton _ a, fun b hb c hc => ?_⟩
      cases List.mem_singleton.1 hc
      have hb := List.mem_eraseDups.1 hb
      rw [List.idxOf_append_of_mem hb, List.idxOf_append, if_neg hmem]
      have hlt := List.idxOf_lt_length_of_mem hb
      omega

theorem nodup_eraseDups {α : Type} [BEq α] [LawfulBEq α] (l : List α) : l.eraseDups.Nodup :=
  (pairwise_idxOf_eraseDups l).imp fun hlt heq => by
    rw [heq] at hlt
    exact Nat.lt_irrefl _ hlt

/-! ## Derived identities -/

variable {host : Host} {suffix : String} {strategy : Strategy} {p q : Pools}
  {id id' : CallableId} {s t : FunctionSymbol} {f g : Declaration}

/-- A function derives one identity only. -/
theorem Derives.unique (h : Derives host suffix q id s) (h' : Derives host suffix q id' s) :
    id = id' := by
  obtain ⟨d, hd, hyields⟩ := derives_iff.1 h
  obtain ⟨d', hd', hyields'⟩ := derives_iff.1 h'
  cases hd.symm.trans hd'
  exact (hyields.eq_iff hyields').2 rfl

/-- Functions derive the same identity exactly if they share their own. -/
theorem Derives.eq_iff (h : Derives host suffix q id s) (h' : Derives host suffix q id' t)
    (hf : host.declaration s = some f) (hg : host.declaration t = some g) :
    id = id' ↔ f.id = g.id := by
  obtain ⟨_, hd, hyields⟩ := derives_iff.1 h
  obtain ⟨_, hd', hyields'⟩ := derives_iff.1 h'
  cases hd.symm.trans hf
  cases hd'.symm.trans hg
  exact hyields.eq_iff hyields'

/-! ## Groups -/

namespace Derived

variable {derived : List Derived} {d : Derived}

/-- An insertion adds the function to the group of the identity, or makes a group of it. -/
theorem mem_insert (h : d ∈ insert id s derived) : d ∈ derived ∨
    d = ⟨id, [s]⟩ ∨ ∃ old ∈ derived, old.identity = id ∧ d = ⟨id, old.sources ++ [s]⟩ := by
  induction derived with
  | nil => exact .inr (.inl (List.mem_singleton.1 h))
  | cons first rest ih =>
    rw [insert] at h
    split at h
    · next heq =>
      rcases List.mem_cons.1 h with rfl | h
      · exact .inr (.inr ⟨first, List.mem_cons_self, heq, by rw [← heq]⟩)
      · exact .inl (List.mem_cons_of_mem _ h)
    · rcases List.mem_cons.1 h with rfl | h
      · exact .inl List.mem_cons_self
      · rcases ih h with h | h | ⟨old, hold, heq⟩
        · exact .inl (List.mem_cons_of_mem _ h)
        · exact .inr (.inl h)
        · exact .inr (.inr ⟨old, List.mem_cons_of_mem _ hold, heq⟩)

/-- No function leaves the groups. -/
theorem exists_mem_insert_of_mem (h : d ∈ derived) (ht : t ∈ d.sources) :
    ∃ d' ∈ insert id s derived, t ∈ d'.sources := by
  induction derived with
  | nil => cases h
  | cons first rest ih =>
    rw [insert]
    rcases List.mem_cons.1 h with rfl | h
    · split
      · exact ⟨_, List.mem_cons_self, List.mem_append_left _ ht⟩
      · exact ⟨d, List.mem_cons_self, ht⟩
    · split
      · exact ⟨d, List.mem_cons_of_mem _ h, ht⟩
      · obtain ⟨d', hd', ht'⟩ := ih h
        exact ⟨d', List.mem_cons_of_mem _ hd', ht'⟩

theorem exists_mem_insert (id : CallableId) (s : FunctionSymbol) (derived : List Derived) :
    ∃ d ∈ insert id s derived, s ∈ d.sources := by
  induction derived with
  | nil => exact ⟨⟨id, [s]⟩, List.mem_singleton_self _, List.mem_singleton_self s⟩
  | cons first rest ih =>
    rw [insert]
    split
    · exact ⟨_, List.mem_cons_self, List.mem_append_right _ (List.mem_singleton_self s)⟩
    · obtain ⟨d, hd, hs⟩ := ih
      exact ⟨d, List.mem_cons_of_mem _ hd, hs⟩

/-- A new identity comes last. -/
theorem identities_insert :
    (insert id s derived).map (·.identity) =
      if id ∈ derived.map (·.identity) then derived.map (·.identity)
      else derived.map (·.identity) ++ [id] := by
  induction derived with
  | nil => rfl
  | cons first rest ih =>
    rw [insert]
    split
    · next heq => simp [heq]
    · next hne =>
      rw [List.map_cons, ih]
      split
      · next hmem => simp [hmem]
      · next hmem =>
        rw [if_neg]
        · rfl
        · rw [List.map_cons, List.mem_cons, not_or]
          exact ⟨fun heq => hne heq.symm, hmem⟩

/-- The functions that were the first to derive their identities. -/
def heads (derived : List Derived) : List FunctionSymbol := derived.filterMap (·.sources.head?)

theorem heads_insert (hnonempty : ∀ d ∈ derived, d.sources ≠ []) :
    heads (insert id s derived) = heads derived ∨
      heads (insert id s derived) = heads derived ++ [s] := by
  induction derived with
  | nil => exact .inr rfl
  | cons first rest ih =>
    obtain ⟨hfirst, hrest⟩ := List.forall_mem_cons.1 hnonempty
    obtain ⟨head, tail, hsources⟩ := List.exists_cons_of_ne_nil hfirst
    rw [insert]
    split
    · exact .inl (by simp [heads, hsources])
    · rcases ih hrest with h | h
      · exact .inl (by simpa [heads, hsources] using h)
      · exact .inr (by simpa [heads, hsources] using h)

/-- The groups of functions by what they derive. -/
structure Groups (host : Host) (suffix : String) (q : Pools) (symbols : List FunctionSymbol)
    (derived : List Derived) : Prop where
  sound : ∀ d ∈ derived, d.Sound host suffix q
  nonempty : ∀ d ∈ derived, d.sources ≠ []
  /-- Groups keep the order of the functions. -/
  ordered : ∀ d ∈ derived, d.sources.Sublist symbols
  complete : ∀ s ∈ symbols, host.declaration s ≠ none → ∃ d ∈ derived, s ∈ d.sources
  distinct : (derived.map (·.identity)).Nodup
  /-- The groups stand in the order of their first functions. -/
  heads : (heads derived).Sublist symbols

namespace Groups

variable {symbols : List FunctionSymbol}

theorem nil (host : Host) (suffix : String) (q : Pools) : Groups host suffix q [] [] := by
  refine ⟨?_, ?_, ?_, ?_, List.nodup_nil, .slnil⟩ <;> intro _ h <;> cases h

theorem mono (h : Groups host suffix p symbols derived) (hgrows : p.Grows q) :
    Groups host suffix q symbols derived :=
  { h with sound := fun d hd => (h.sound d hd).mono hgrows }

/-- A function without a declaration derives nothing. -/
theorem skip (h : Groups host suffix q symbols derived) (hs : host.declaration s = none) :
    Groups host suffix q (symbols ++ [s]) derived where
  sound := h.sound
  nonempty := h.nonempty
  ordered d hd := (h.ordered d hd).trans (List.sublist_append_left _ _)
  complete t ht hdeclared := by
    rcases List.mem_append.1 ht with ht | ht
    · exact h.complete t ht hdeclared
    · cases List.mem_singleton.1 ht
      exact absurd hs hdeclared
  distinct := h.distinct
  heads := h.heads.trans (List.sublist_append_left _ _)

theorem insert (h : Groups host suffix q symbols derived) (hs : Derives host suffix q id s) :
    Groups host suffix q (symbols ++ [s]) (insert id s derived) where
  sound := sound_insert h.sound hs
  nonempty d hd := by
    rcases mem_insert hd with hd | rfl | ⟨old, -, -, rfl⟩
    · exact h.nonempty d hd
    · exact List.cons_ne_nil _ _
    · exact List.append_ne_nil_of_right_ne_nil _ (List.cons_ne_nil _ _)
  ordered d hd := by
    rcases mem_insert hd with hd | rfl | ⟨old, hold, -, rfl⟩
    · exact (h.ordered d hd).trans (List.sublist_append_left _ _)
    · exact List.sublist_append_right _ _
    · exact (h.ordered old hold).append (.refl _)
  complete t ht hdeclared := by
    rcases List.mem_append.1 ht with ht | ht
    · obtain ⟨d, hd, htd⟩ := h.complete t ht hdeclared
      exact exists_mem_insert_of_mem hd htd
    · cases List.mem_singleton.1 ht
      exact exists_mem_insert id s derived
  distinct := by
    rw [identities_insert]
    split
    · exact h.distinct
    · next hnew => exact List.concat_eq_append ▸ h.distinct.concat hnew
  heads := by
    rcases heads_insert h.nonempty with heq | heq
    · rw [heq]
      exact h.heads.trans (List.sublist_append_left _ _)
    · rw [heq]
      exact h.heads.append (.refl _)

/-- The functions of a group are those that derive its identity. -/
theorem mem_sources_iff (h : Groups host suffix q symbols derived) (hd : d ∈ derived) :
    s ∈ d.sources ↔ s ∈ symbols ∧ Derives host suffix q d.identity s := by
  constructor
  · exact fun hs => ⟨(h.ordered d hd).subset hs, h.sound d hd s hs⟩
  · rintro ⟨hs, hderives⟩
    have hdeclared : host.declaration s ≠ none := by
      obtain ⟨f, -, hf, -⟩ := hderives
      exact hf ▸ Option.some_ne_none f
    obtain ⟨d', hd', hs'⟩ := h.complete s hs hdeclared
    have hidentity := (h.sound d' hd' s hs').unique hderives
    exact List.inj_on_of_nodup_map h.distinct hd' hd hidentity ▸ hs'

/-- There is a group for an identity that a function derives. -/
theorem exists_group (h : Groups host suffix q symbols derived) (hs : s ∈ symbols)
    (hderives : Derives host suffix q id s) : ∃ d ∈ derived, d.identity = id ∧ s ∈ d.sources := by
  have hdeclared : host.declaration s ≠ none := by
    obtain ⟨f, -, hf, -⟩ := hderives
    exact hf ▸ Option.some_ne_none f
  obtain ⟨d, hd, hsd⟩ := h.complete s hs hdeclared
  exact ⟨d, hd, (h.sound d hd s hsd).unique hderives, hsd⟩

/-- A function is in one group only. -/
theorem eq_of_mem_sources (h : Groups host suffix q symbols derived) {d' : Derived}
    (hd : d ∈ derived) (hd' : d' ∈ derived) (hs : s ∈ d.sources) (hs' : s ∈ d'.sources) : d = d' :=
  List.inj_on_of_nodup_map h.distinct hd hd' ((h.sound d hd s hs).unique (h.sound d' hd' s hs'))

/-- A function is alone in a group exactly if no other one derives the identity. -/
theorem single_iff (h : Groups host suffix q symbols derived) (hsymbols : symbols.Nodup) :
    ⟨id, [s]⟩ ∈ derived ↔
      (s ∈ symbols ∧ Derives host suffix q id s) ∧
        ∀ t, t ∈ symbols ∧ Derives host suffix q id t → t = s := by
  constructor
  · intro hd
    refine ⟨(h.mem_sources_iff hd).1 (List.mem_singleton_self s), fun t ht => ?_⟩
    exact List.mem_singleton.1 ((h.mem_sources_iff hd).2 ht)
  · rintro ⟨⟨hs, hderives⟩, honly⟩
    obtain ⟨⟨identity, sources⟩, hd, rfl, hmem⟩ := h.exists_group hs hderives
    have hnodup : sources.Nodup := (h.ordered _ hd).nodup hsymbols
    have hperm : sources.Perm [s] := by
      refine (List.perm_ext_iff_of_nodup hnodup (List.nodup_singleton s)).2 fun t => ?_
      rw [List.mem_singleton]
      refine ⟨fun ht => honly t ((h.mem_sources_iff hd).1 ht), ?_⟩
      rintro rfl
      exact hmem
    exact List.perm_singleton.1 hperm ▸ hd

/-- There are several functions in a group exactly if several derive the identity. -/
theorem several_iff (h : Groups host suffix q symbols derived) (hsymbols : symbols.Nodup) :
    (∃ sources, ⟨id, sources⟩ ∈ derived ∧ 2 ≤ sources.length) ↔
      ∃ s ∈ symbols, ∃ t ∈ symbols, s ≠ t ∧ Derives host suffix q id s ∧
        Derives host suffix q id t := by
  constructor
  · rintro ⟨sources, hd, hlength⟩
    have hnodup : sources.Nodup := (h.ordered _ hd).nodup hsymbols
    match sources, hlength with
    | s :: t :: rest, _ =>
      have hs := (h.mem_sources_iff hd).1 List.mem_cons_self
      have ht := (h.mem_sources_iff hd).1 (List.mem_cons_of_mem s List.mem_cons_self)
      refine ⟨s, hs.1, t, ht.1, ?_, hs.2, ht.2⟩
      rintro rfl
      exact (List.nodup_cons.1 hnodup).1 List.mem_cons_self
  · rintro ⟨s, hs, t, ht, hne, hderives, hderives'⟩
    obtain ⟨⟨identity, sources⟩, hd, rfl, hmem⟩ := h.exists_group hs hderives
    have hmem' : t ∈ sources := (h.mem_sources_iff hd).2 ⟨ht, hderives'⟩
    refine ⟨sources, hd, ?_⟩
    match sources with
    | [] => cases hmem
    | [_] => exact absurd ((List.mem_singleton.1 hmem).trans (List.mem_singleton.1 hmem').symm) hne
    | _ :: _ :: _ => exact Nat.le_add_left 2 _

end Groups

end Derived

/-! ## Companions and collisions -/

namespace Derived

theorem companion?_eq_some_iff {d : Derived} :
    d.companion? = some (id, s) ↔ d = ⟨id, [s]⟩ := by
  obtain ⟨identity, sources⟩ := d
  unfold companion?
  split
  · next source hsources =>
    cases hsources
    simp
  · next hsources =>
    simp only [reduceCtorEq, mk.injEq, false_iff, not_and]
    rintro - rfl
    exact hsources s rfl

theorem collision?_eq_some_iff {d : Derived} {c : Collision} :
    d.collision? strategy = some c ↔
      c.strategy = strategy ∧ d = ⟨c.identity, c.sources⟩ ∧ 2 ≤ c.sources.length := by
  obtain ⟨identity, sources⟩ := d
  unfold collision?
  split
  · next first second rest hsources =>
    cases hsources
    constructor
    · rintro ⟨⟩
      exact ⟨rfl, rfl, by simp⟩
    · rintro ⟨hstrategy, heq, -⟩
      obtain ⟨_, _, _⟩ := c
      cases heq
      cases hstrategy
      rfl
  · next hsources =>
    simp only [reduceCtorEq, mk.injEq, false_iff, not_and]
    rintro - ⟨rfl, rfl⟩ hlength
    match hcases : c.sources, hlength with
    | first :: second :: rest, _ => exact hsources first second rest hcases

end Derived

/-! ## What an index answers -/

/-- What an index answers, however it is kept. -/
structure IndexView where
  matched : List FunctionSymbol
  identities : List CallableId
  originOf? : CallableId → Option FunctionSymbol
  topLevel : List CallableId
  namesIn : ClassId → List Name
  collisions : List Collision

/-- What the index answers. -/
def CompanionIndex.view (i : CompanionIndex) : IndexView :=
  ⟨i.matched, i.identities, i.originOf?, i.topLevel, i.namesIn, i.collisions⟩

/-- How an index divides what the host answered, when the names stand in the pools `q`. -/
structure IndexView.Divides (host : Host) (strategy : Strategy) (answered : List FunctionSymbol)
    (q : Pools) (i : IndexView) : Prop where
  /-- Nothing that the host answered is left out, and nothing is added. -/
  mem_matched : ∀ s, s ∈ i.matched ↔ s ∈ answered
  /-- A function that is answered more than once counts where it comes first. -/
  ordered : i.matched.Pairwise fun s t => answered.idxOf s < answered.idxOf t
  /-- A function with a declaration is behind one companion or else in one collision. -/
  covers : ∀ s ∈ i.matched, host.declaration s ≠ none →
    ((∃! id, i.originOf? id = some s) ∧ ∀ c ∈ i.collisions, s ∉ c.sources) ∨
      ((∃! c, c ∈ i.collisions ∧ s ∈ c.sources) ∧ ∀ id, i.originOf? id ≠ some s)
  /-- The companions are the identities that one function derives. -/
  indexed_iff : ∀ id, id ∈ i.identities ↔
    ∃! s, s ∈ i.matched ∧ Derives host strategy.suffix q id s
  keys : ∀ id, i.originOf? id ≠ none ↔ id ∈ i.identities
  /-- The function behind an indexed identity is the one that derives it. -/
  origin_iff : ∀ id s, i.originOf? id = some s ↔
    id ∈ i.identities ∧ s ∈ i.matched ∧ Derives host strategy.suffix q id s
  /-- The collisions are the identities that several functions derive, each once. -/
  collides_iff : ∀ id, (∃! c, c ∈ i.collisions ∧ c.identity = id) ↔
    ∃ s ∈ i.matched, ∃ t ∈ i.matched, s ≠ t ∧ Derives host strategy.suffix q id s ∧
      Derives host strategy.suffix q id t
  /-- A collision lists the functions that derive its identity, in the order of the host. -/
  sources : ∀ c ∈ i.collisions, c.strategy = strategy ∧ c.sources.Sublist i.matched ∧
    ∀ s, s ∈ c.sources ↔ s ∈ i.matched ∧ Derives host strategy.suffix q c.identity s
  /-- Functions collide exactly if they share their own identity. -/
  collide_iff : ∀ s ∈ i.matched, ∀ t ∈ i.matched, s ≠ t → ∀ f g, host.declaration s = some f →
    host.declaration t = some g →
      ((∃ c ∈ i.collisions, s ∈ c.sources ∧ t ∈ c.sources) ↔ f.id = g.id)
  distinct : i.identities.Nodup
  collisionsDistinct : (i.collisions.map (·.identity)).Nodup
  /-- The identities are listed in the order in which their functions are. -/
  reported : ∃ origins : List FunctionSymbol, origins.Sublist i.matched ∧
    i.identities.map i.originOf? = origins.map some
  namesIn : ∀ c, i.namesIn c = (i.identities.filter (·.owner = some c)).map (·.name)
  topLevel : i.topLevel = i.identities.filter (·.owner = none)

namespace CompanionIndex

open Derived

variable {matched : List FunctionSymbol} {derived : List Derived}

theorem mem_entries_ofDerived :
    (id, s) ∈ (ofDerived strategy matched derived).entries ↔ ⟨id, [s]⟩ ∈ derived := by
  rw [ofDerived, List.mem_filterMap]
  simp only [companion?_eq_some_iff, exists_eq_right]

theorem mem_collisions_ofDerived {c : Collision} :
    c ∈ (ofDerived strategy matched derived).collisions ↔
      c.strategy = strategy ∧ ⟨c.identity, c.sources⟩ ∈ derived ∧ 2 ≤ c.sources.length := by
  rw [ofDerived, List.mem_filterMap]
  simp only [collision?_eq_some_iff]
  constructor
  · rintro ⟨d, hd, hstrategy, rfl, hlength⟩
    exact ⟨hstrategy, hd, hlength⟩
  · rintro ⟨hstrategy, hd, hlength⟩
    exact ⟨_, hd, hstrategy, rfl, hlength⟩

/-- The identities of the index are listed in the order in which they are derived. -/
theorem identities_sublist :
    (ofDerived strategy matched derived).identities.Sublist (derived.map (·.identity)) := by
  rw [← List.filterMap_eq_map (f := Derived.identity)]
  refine map_filterMap_sublist fun d entry hentry => ?_
  cases companion?_eq_some_iff.1 hentry
  rfl

/-- So are the identities of the collisions. -/
theorem collisions_sublist :
    ((ofDerived strategy matched derived).collisions.map (·.identity)).Sublist
      (derived.map (·.identity)) := by
  rw [← List.filterMap_eq_map (f := Derived.identity)]
  refine map_filterMap_sublist fun d c hc => ?_
  obtain ⟨-, rfl, -⟩ := collision?_eq_some_iff.1 hc
  rfl

/-- The functions behind the index stand in the order of those that were the first to derive
something. -/
theorem origins_sublist :
    ((ofDerived strategy matched derived).entries.map (·.2)).Sublist (heads derived) := by
  refine map_filterMap_sublist fun d entry hentry => ?_
  cases companion?_eq_some_iff.1 hentry
  rfl

/-- In an index without repeats, the function behind an identity is the one that it is listed with. -/
theorem originOf?_eq_some_iff {i : CompanionIndex} (hdistinct : i.identities.Nodup) :
    i.originOf? id = some s ↔ (id, s) ∈ i.entries := by
  refine ⟨mem_entries_of_originOf?, fun h => ?_⟩
  cases horigin : i.originOf? id with
  | none =>
    have hmem : id ∈ i.identities := List.mem_map_of_mem (f := Prod.fst) h
    exact absurd hmem (originOf?_eq_none_iff.1 horigin)
  | some t =>
    have heq := List.inj_on_of_nodup_map hdistinct (mem_entries_of_originOf? horigin) h rfl
    rw [(Prod.mk.inj heq).2]

theorem mem_identities_ofDerived :
    id ∈ (ofDerived strategy matched derived).identities ↔ ∃ s, ⟨id, [s]⟩ ∈ derived := by
  rw [identities, List.mem_map]
  constructor
  · rintro ⟨⟨_, s⟩, hentry, rfl⟩
    exact ⟨s, mem_entries_ofDerived.1 hentry⟩
  · rintro ⟨s, hd⟩
    exact ⟨(id, s), mem_entries_ofDerived.2 hd, rfl⟩

section

variable (h : Groups host strategy.suffix q matched derived)

include h

theorem nodup_identities_ofDerived : (ofDerived strategy matched derived).identities.Nodup :=
  identities_sublist.nodup h.distinct

theorem originOf?_ofDerived :
    (ofDerived strategy matched derived).originOf? id = some s ↔ ⟨id, [s]⟩ ∈ derived :=
  (originOf?_eq_some_iff (nodup_identities_ofDerived h)).trans mem_entries_ofDerived

/-- The group of a function is a companion or a collision. -/
theorem covers_ofDerived (hs : s ∈ matched) (hdeclared : host.declaration s ≠ none) :
    ((∃! id, (ofDerived strategy matched derived).originOf? id = some s) ∧
        ∀ c ∈ (ofDerived strategy matched derived).collisions, s ∉ c.sources) ∨
      ((∃! c, c ∈ (ofDerived strategy matched derived).collisions ∧ s ∈ c.sources) ∧
        ∀ id, (ofDerived strategy matched derived).originOf? id ≠ some s) := by
  obtain ⟨⟨identity, sources⟩, hd, hmem⟩ := h.complete s hs hdeclared
  -- a group is never empty: it is a companion if it has one function, and else a collision
  match hsources : sources with
  | [] => cases hmem
  | [t] =>
    cases List.mem_singleton.1 hmem
    refine .inl ⟨⟨identity, (originOf?_ofDerived h).2 hd, fun id hid => ?_⟩, fun c hc hsc => ?_⟩
    · have heq := h.eq_of_mem_sources ((originOf?_ofDerived h).1 hid) hd
        (List.mem_singleton_self s) (List.mem_singleton_self s)
      exact congrArg Derived.identity heq
    · obtain ⟨-, hd', hlength⟩ := mem_collisions_ofDerived.1 hc
      have heq := congrArg Derived.sources (h.eq_of_mem_sources hd' hd hsc hmem)
      have hone : c.sources = [s] := heq
      rw [hone, List.length_singleton] at hlength
      omega
  | first :: second :: rest =>
    refine .inr ⟨⟨⟨strategy, identity, first :: second :: rest⟩, ⟨?_, hmem⟩, ?_⟩, fun id hid => ?_⟩
    · exact mem_collisions_ofDerived.2 ⟨rfl, hd, Nat.le_add_left 2 _⟩
    · rintro ⟨_, identity', sources'⟩ ⟨hc, hsc⟩
      obtain ⟨rfl, hd', -⟩ := mem_collisions_ofDerived.1 hc
      cases h.eq_of_mem_sources hd' hd hsc hmem
      rfl
    · have heq := congrArg Derived.sources (h.eq_of_mem_sources ((originOf?_ofDerived h).1 hid) hd
        (List.mem_singleton_self s) hmem)
      cases heq

/-- The collision of an identity is its group. -/
theorem existsUnique_collision_iff :
    (∃! c, c ∈ (ofDerived strategy matched derived).collisions ∧ c.identity = id) ↔
      ∃ sources, ⟨id, sources⟩ ∈ derived ∧ 2 ≤ sources.length := by
  constructor
  · rintro ⟨c, ⟨hc, rfl⟩, -⟩
    obtain ⟨-, hd, hlength⟩ := mem_collisions_ofDerived.1 hc
    exact ⟨c.sources, hd, hlength⟩
  · rintro ⟨sources, hd, hlength⟩
    refine ⟨⟨strategy, id, sources⟩, ⟨mem_collisions_ofDerived.2 ⟨rfl, hd, hlength⟩, rfl⟩, ?_⟩
    rintro ⟨_, _, sources'⟩ ⟨hc, rfl⟩
    obtain ⟨rfl, hd', -⟩ := mem_collisions_ofDerived.1 hc
    cases List.inj_on_of_nodup_map h.distinct hd' hd rfl
    rfl

/-- Two functions are in one collision exactly if they are of one identity. -/
theorem collide_iff_ofDerived (hs : s ∈ matched) (ht : t ∈ matched) (hne : s ≠ t)
    (hf : host.declaration s = some f) (hg : host.declaration t = some g) :
    (∃ c ∈ (ofDerived strategy matched derived).collisions, s ∈ c.sources ∧ t ∈ c.sources) ↔
      f.id = g.id := by
  obtain ⟨d, hd, hsd⟩ := h.complete s hs (hf ▸ Option.some_ne_none f)
  obtain ⟨d', hd', htd'⟩ := h.complete t ht (hg ▸ Option.some_ne_none g)
  rw [← (h.sound d hd s hsd).eq_iff (h.sound d' hd' t htd') hf hg]
  constructor
  · rintro ⟨c, hc, hsc, htc⟩
    obtain ⟨-, hgroup, -⟩ := mem_collisions_ofDerived.1 hc
    rw [h.eq_of_mem_sources hd hgroup hsd hsc, h.eq_of_mem_sources hd' hgroup htd' htc]
  · intro heq
    obtain rfl := List.inj_on_of_nodup_map h.distinct hd hd' heq
    obtain ⟨identity, sources⟩ := d
    refine ⟨⟨strategy, identity, sources⟩, mem_collisions_ofDerived.2 ⟨rfl, hd, ?_⟩, hsd, htd'⟩
    match sources, hsd, htd' with
    | [u], hsd, htd' =>
      exact absurd ((List.mem_singleton.1 hsd).trans (List.mem_singleton.1 htd').symm) hne
    | _ :: _ :: _, _, _ => exact Nat.le_add_left 2 _

theorem reported_ofDerived : ∃ origins : List FunctionSymbol, origins.Sublist matched ∧
    (ofDerived strategy matched derived).identities.map
      (ofDerived strategy matched derived).originOf? = origins.map some := by
  refine ⟨(ofDerived strategy matched derived).entries.map (·.2), origins_sublist.trans h.heads, ?_⟩
  rw [identities, List.map_map, List.map_map]
  refine List.map_congr_left fun entry hentry => ?_
  exact (originOf?_eq_some_iff (nodup_identities_ofDerived h)).2 hentry

end

/-- The index of groups divides the functions. -/
theorem divides_ofDerived {answered : List FunctionSymbol}
    (h : Groups host strategy.suffix q answered.eraseDups derived) :
    (ofDerived strategy answered.eraseDups derived).view.Divides host strategy answered q := by
  have hordered := pairwise_idxOf_eraseDups answered
  have hmatched := nodup_eraseDups answered
  have hcollisions : ((ofDerived strategy answered.eraseDups derived).collisions.map
      (·.identity)).Nodup := collisions_sublist.nodup h.distinct
  refine ⟨fun s => List.mem_eraseDups, hordered, fun s => covers_ofDerived h, ?_, ?_, ?_, ?_, ?_,
    ?_, nodup_identities_ofDerived h, hcollisions, reported_ofDerived h,
    fun _ => rfl, ?_⟩
  · exact fun id => mem_identities_ofDerived.trans (exists_congr fun s => h.single_iff hmatched)
  · exact fun id => (not_congr originOf?_eq_none_iff).trans not_not
  · intro id s
    refine (originOf?_ofDerived h).trans ⟨fun hd => ?_, ?_⟩
    · exact ⟨mem_identities_ofDerived.2 ⟨s, hd⟩,
        (h.mem_sources_iff hd).1 (List.mem_singleton_self s)⟩
    · rintro ⟨hid, hs⟩
      obtain ⟨t, hd⟩ := mem_identities_ofDerived.1 hid
      cases List.mem_singleton.1 ((h.mem_sources_iff hd).2 hs)
      exact hd
  · exact fun id => (existsUnique_collision_iff h).trans (h.several_iff hmatched)
  · intro c (hc : c ∈ (ofDerived strategy answered.eraseDups derived).collisions)
    obtain ⟨hstrategy, hd, -⟩ := mem_collisions_ofDerived.1 hc
    exact ⟨hstrategy, h.ordered _ hd, fun s => h.mem_sources_iff hd⟩
  · intro s hs t ht hne f g hf hg
    exact collide_iff_ofDerived h hs ht hne hf hg
  · refine List.filter_congr fun id _ => ?_
    cases howner : id.owner <;> simp [CallableId.isTopLevel, howner]

/-- An index is built of groups. -/
theorem groups_of_build {predicate : Predicate} {i : CompanionIndex}
    (h : (build host strategy predicate).run p = .ok (i, q)) :
    ∃ derived, (deriveAll host strategy.suffix (host.matching predicate).eraseDups []).run p =
        .ok (derived, q) ∧
      Groups host strategy.suffix q (host.matching predicate).eraseDups derived ∧
      i = ofDerived strategy (host.matching predicate).eraseDups derived := by
  obtain ⟨derived, q₁, hderive, h⟩ := Growing.run_bind_eq_ok_iff.1 h
  obtain ⟨rfl, rfl⟩ := Growing.run_pure_eq_ok_iff.1 h
  obtain ⟨-, hgroups⟩ := deriveAll_keeps (I := Groups host strategy.suffix)
    (fun _ _ _ _ hgrows h => h.mono hgrows) (fun _ _ _ _ hs h => h.skip hs)
    (fun _ _ _ _ _ hs h => h.insert hs) [] hderive (.nil host strategy.suffix p)
  exact ⟨derived, hderive, hgroups, rfl⟩

/-- An index that was built divides what the host answered. -/
theorem divides_of_build {predicate : Predicate} {i : CompanionIndex}
    (h : (build host strategy predicate).run p = .ok (i, q)) :
    i.view.Divides host strategy (host.matching predicate) q := by
  obtain ⟨derived, -, hgroups, rfl⟩ := groups_of_build h
  exact divides_ofDerived hgroups

end CompanionIndex

end Companions
