import Companions.Proofs.Companion.Index
import Companions.Proofs.Source.Likeness
set_option autoImplicit false

/-!
# Indexes that are built at different times

An index is built when it is first asked for, so what has been interned before differs from one
session to another, and with it the names of the identities that are derived.  The texts do not:
indexes of one host for one strategy and one predicate list and report the same, in the same order,
whenever they are built (`CompanionIndex.BuiltBetween.alike`).
-/

namespace Companions

/-! ## Lists side by side -/

/-- Lists whose items are the same where they stand keep so without their later repeats. -/
theorem forall₂_eraseDups {α β : Type} [BEq α] [LawfulBEq α] [BEq β] [LawfulBEq β]
    {R : α → β → Prop} (hR : Relator.BiUnique R) :
    ∀ {l : List α} {l' : List β}, List.Forall₂ R l l' → List.Forall₂ R l.eraseDups l'.eraseDups
  | _, _, .nil => by simp
  | a :: l, b :: l', .cons hab h => by
    have hfilter : List.Forall₂ R (l.filter fun c => !c == a) (l'.filter fun c => !c == b) := by
      refine List.rel_filter (fun {c c'} hc => ?_) h
      simpa using not_congr (Relator.rel_eq hR hc hab)
    rw [List.eraseDups_cons, List.eraseDups_cons]
    exact .cons hab (forall₂_eraseDups hR hfilter)
  termination_by l => l.length
  decreasing_by exact Nat.lt_succ_of_le (List.length_filter_le _ _)

/-- Under keys that are the same, look-up finds the same. -/
theorem find?_eq_of_forall₂ {α β γ : Type} [DecidableEq α] [DecidableEq β] {R : α → β → Prop}
    (hR : Relator.BiUnique R) {l : List (α × γ)} {l' : List (β × γ)}
    (h : List.Forall₂ (fun e e' => R e.1 e'.1 ∧ e.2 = e'.2) l l') {k : α} {k' : β} (hk : R k k') :
    (l.find? (·.1 = k)).map (·.2) = (l'.find? (·.1 = k')).map (·.2) := by
  induction h with
  | nil => rfl
  | @cons e e' _ _ he _ ih =>
    have hiff : e.1 = k ↔ e'.1 = k' := Relator.rel_eq hR he.1 hk
    by_cases hkey : e.1 = k
    · simp [hkey, hiff.1 hkey, he.2]
    · simpa [hkey, mt hiff.2 hkey] using ih

/-! ## What functions derive -/

variable {host : Host} {strategy : Strategy} {predicate : Predicate} {suffix : String}
  {p p' q₀ q q' r r' : Pools}

/-- The identities are alike, and the sources are the same. -/
structure Derived.Alike (q q' : Pools) (d d' : Derived) : Prop where
  identity : d.identity.Alike q q' d'.identity
  sources : d.sources = d'.sources

namespace Derived

theorem Alike.mono {d d' : Derived} (h : d.Alike q q' d') (hq : q.Grows r) (hq' : q'.Grows r') :
    d.Alike r r' d' :=
  ⟨h.identity.mono hq hq', h.sources⟩

theorem forall₂_insert {id id' : CallableId} (s : FunctionSymbol) {derived derived' : List Derived}
    (hid : id.Alike q q' id') (h : List.Forall₂ (Alike q q') derived derived') :
    List.Forall₂ (Alike q q') (insert id s derived) (insert id' s derived') := by
  induction h with
  | nil => exact .cons ⟨hid, rfl⟩ .nil
  | @cons d d' _ _ hd hrest ih =>
    have hiff : d.identity = id ↔ d'.identity = id' :=
      Relator.rel_eq (CallableId.biUnique_alike q q') hd.identity hid
    rw [insert, insert]
    by_cases heq : d.identity = id
    · rw [if_pos heq, if_pos (hiff.1 heq)]
      exact .cons ⟨hd.identity, by rw [hd.sources]⟩ hrest
    · rw [if_neg heq, if_neg (mt hiff.2 heq)]
      exact .cons hd ih

end Derived

/-- The collisions are of one strategy and of the same functions, under identities that are
alike. -/
structure Collision.Alike (q q' : Pools) (c c' : Collision) : Prop where
  strategy : c.strategy = c'.strategy
  identity : c.identity.Alike q q' c'.identity
  sources : c.sources = c'.sources

theorem Collision.Alike.mono {c c' : Collision} (h : c.Alike q q' c') (hq : q.Grows r)
    (hq' : q'.Grows r') : c.Alike r r' c' :=
  ⟨h.strategy, h.identity.mono hq hq', h.sources⟩

namespace CompanionIndex

/-- The names that identities are derived from are known. -/
def IdsKnown (host : Host) (q : Pools) : Prop :=
  ∀ s d, host.declaration s = some d → ∀ n ∈ d.id.package :: d.id.names, q.names.Knows n

/-- What one function derives, it derives anywhere. -/
theorem run_derive_alike {d : Declaration} {s : FunctionSymbol} {id id' : CallableId}
    (hknown : IdsKnown host q₀) (hd : host.declaration s = some d) (hp : q₀.Grows p)
    (hp' : q₀.Grows p') (h : (Growing.derive d.id suffix).run p = .ok (id, q))
    (h' : (Growing.derive d.id suffix).run p' = .ok (id', q')) : id.Alike q q' id' := by
  obtain ⟨hgrows, text, htext, hname, hid⟩ := Growing.run_derive_eq_ok h
  obtain ⟨hgrows', text', htext', hname', hid'⟩ := Growing.run_derive_eq_ok h'
  obtain ⟨text₀, htext₀⟩ := hknown s d hd _ (List.mem_cons_of_mem _ d.id.name_mem_names)
  obtain rfl := Option.some.inj ((hp.names _ _ htext₀).symm.trans htext)
  obtain rfl := Option.some.inj ((hp'.names _ _ htext₀).symm.trans htext')
  rw [hid, hid']
  exact CallableId.alike_withName (hknown s d hd) (hp.trans hgrows) (hp'.trans hgrows')
    ⟨_, hname, hname'⟩

/-- What functions derive, they derive anywhere.  The induction is on the functions, which both
derivations go through side by side. -/
theorem run_deriveAll_alike {symbols : List FunctionSymbol}
    {derived derived' made made' : List Derived} (hknown : IdsKnown host q₀) (hp : q₀.Grows p)
    (hp' : q₀.Grows p') (h : (deriveAll host suffix symbols derived).run p = .ok (made, q))
    (h' : (deriveAll host suffix symbols derived').run p' = .ok (made', q'))
    (hderived : List.Forall₂ (Derived.Alike p p') derived derived') :
    List.Forall₂ (Derived.Alike q q') made made' := by
  induction symbols generalizing derived derived' p p' with
  | nil =>
    obtain ⟨rfl, rfl⟩ := Growing.run_pure_eq_ok_iff.1 h
    obtain ⟨rfl, rfl⟩ := Growing.run_pure_eq_ok_iff.1 h'
    exact hderived
  | cons s rest ih =>
    rw [deriveAll] at h h'
    cases hd : host.declaration s with
    | none =>
      rw [hd] at h h'
      exact ih hp hp' h h' hderived
    | some d =>
      rw [hd] at h h'
      obtain ⟨id, p₁, hderive, h⟩ := Growing.run_bind_eq_ok_iff.1 h
      obtain ⟨id', p₁', hderive', h'⟩ := Growing.run_bind_eq_ok_iff.1 h'
      have hgrows := (Growing.run_derive_eq_ok hderive).1
      have hgrows' := (Growing.run_derive_eq_ok hderive').1
      refine ih (hp.trans hgrows) (hp'.trans hgrows') h h' (Derived.forall₂_insert s ?_ ?_)
      · exact run_derive_alike hknown hd hp hp' hderive hderive'
      · exact hderived.imp fun _ _ hd => hd.mono hgrows hgrows'

/-! ## Indexes -/

/-- The indexes list the same functions under identities that are alike, and report the same. -/
structure Alike (q q' : Pools) (i j : CompanionIndex) : Prop where
  matched : i.matched = j.matched
  entries : List.Forall₂ (fun e e' : CallableId × FunctionSymbol =>
    e.1.Alike q q' e'.1 ∧ e.2 = e'.2) i.entries j.entries
  collisions : List.Forall₂ (Collision.Alike q q') i.collisions j.collisions

variable {i j : CompanionIndex}

theorem Alike.mono (h : i.Alike q q' j) (hq : q.Grows r) (hq' : q'.Grows r') : i.Alike r r' j where
  matched := h.matched
  entries := h.entries.imp fun _ _ he => ⟨he.1.mono hq hq', he.2⟩
  collisions := h.collisions.imp fun _ _ hc => hc.mono hq hq'

theorem Alike.identities (h : i.Alike q q' j) :
    List.Forall₂ (CallableId.Alike q q') i.identities j.identities :=
  List.rel_map (fun _ _ he => he.1) h.entries

theorem Alike.topLevel (h : i.Alike q q' j) :
    List.Forall₂ (CallableId.Alike q q') i.topLevel j.topLevel := by
  refine List.rel_filter (fun {id id'} hid => ?_) h.identities
  obtain ⟨_, owner, _⟩ := id
  obtain ⟨_, owner', _⟩ := id'
  cases hid.owner <;> rfl

theorem Alike.namesIn {c c' : ClassId} (h : i.Alike q q' j) (hc : c.Alike q q' c') :
    List.Forall₂ (Name.Alike q q') (i.namesIn c) (j.namesIn c') := by
  refine List.rel_map (fun _ _ hid => hid.name) (List.rel_filter (fun {id id'} hid => ?_)
    h.identities)
  have hiff : id.owner = some c ↔ id'.owner = some c' :=
    Relator.rel_eq (biUnique_optionRel (ClassId.biUnique_alike q q')) hid.owner (.some hc)
  simpa using hiff

/-- Identities that are alike are companions of the same function. -/
theorem Alike.originOf? {id id' : CallableId} (h : i.Alike q q' j) (hid : id.Alike q q' id') :
    i.originOf? id = j.originOf? id' :=
  find?_eq_of_forall₂ (CallableId.biUnique_alike q q') h.entries hid

theorem alike_ofDerived {matched : List FunctionSymbol} {derived derived' : List Derived}
    (h : List.Forall₂ (Derived.Alike q q') derived derived') :
    (ofDerived strategy matched derived).Alike q q' (ofDerived strategy matched derived') where
  matched := rfl
  entries := by
    refine List.rel_filterMap (fun {d d'} hd => ?_) h
    unfold Derived.companion?
    rw [← hd.sources]
    split
    · exact .some ⟨hd.identity, rfl⟩
    · exact .none
  collisions := by
    refine List.rel_filterMap (fun {d d'} hd => ?_) h
    unfold Derived.collision?
    rw [← hd.sources]
    split
    · exact .some ⟨rfl, hd.identity, rfl⟩
    · exact .none

/-- The index was built when the pools had grown from `q₀` and before they were `q`. -/
def BuiltBetween (host : Host) (strategy : Strategy) (predicate : Predicate) (q₀ q : Pools)
    (i : CompanionIndex) : Prop :=
  ∃ q₁ q₂, q₀.Grows q₁ ∧ (build host strategy predicate).run q₁ = .ok (i, q₂) ∧ q₂.Grows q

theorem BuiltBetween.mono (h : i.BuiltBetween host strategy predicate q₀ q) (hgrows : q.Grows r) :
    i.BuiltBetween host strategy predicate q₀ r := by
  obtain ⟨q₁, q₂, hbefore, hbuild, hafter⟩ := h
  exact ⟨q₁, q₂, hbefore, hbuild, hafter.trans hgrows⟩

theorem BuiltBetween.sound (h : i.BuiltBetween host strategy predicate q₀ q) :
    i.Sound host strategy.suffix q := by
  obtain ⟨q₁, q₂, -, hbuild, hafter⟩ := h
  exact (run_build_eq_ok hbuild).2.mono hafter

/-- Whenever an index is built, it is the same but for the numbers of its names. -/
theorem BuiltBetween.alike (hknown : IdsKnown host q₀)
    (h : i.BuiltBetween host strategy predicate q₀ q)
    (h' : j.BuiltBetween host strategy predicate q₀ q') : i.Alike q q' j := by
  obtain ⟨q₁, q₂, hbefore, hbuild, hafter⟩ := h
  obtain ⟨q₁', q₂', hbefore', hbuild', hafter'⟩ := h'
  obtain ⟨derived, p, hderive, hbuild⟩ := Growing.run_bind_eq_ok_iff.1 hbuild
  obtain ⟨derived', p', hderive', hbuild'⟩ := Growing.run_bind_eq_ok_iff.1 hbuild'
  obtain ⟨rfl, rfl⟩ := Growing.run_pure_eq_ok_iff.1 hbuild
  obtain ⟨rfl, rfl⟩ := Growing.run_pure_eq_ok_iff.1 hbuild'
  have hderived := run_deriveAll_alike hknown hbefore hbefore' hderive hderive' .nil
  exact (alike_ofDerived hderived).mono hafter hafter'

end CompanionIndex

end Companions
