import Companions.Companion.Index
import Companions.Proofs.Pools.Derivation
import Companions.Proofs.Pools.Growth
set_option autoImplicit false

/-!
# What an index lists

Every entry of an index goes back to a declaration of the host, whose name with the suffix of the
strategy is the name of the companion (`Derives`).  The pools that the names stand in only grow, so
this stays true of an index that is kept.

An index can be built as soon as the names of all declarations are known (`exists_run_build`).
-/

namespace Companions

/-! ## Derived identities -/

/-- The identity is that of the function's companion. -/
def Derives (host : Host) (suffix : String) (q : Pools) (id : CallableId)
    (origin : FunctionSymbol) : Prop :=
  ∃ d text, host.declaration origin = some d ∧ q.names.text? d.id.name = some text ∧
    q.names.text? id.name = some (suffixed text suffix) ∧ id = d.id.withName id.name

variable {host : Host} {suffix : String} {strategy : Strategy} {p q q' : Pools}
  {id id' : CallableId} {origin origin' : FunctionSymbol}

theorem Derives.mono (h : Derives host suffix q id origin) (hgrows : q.Grows q') :
    Derives host suffix q' id origin := by
  obtain ⟨d, text, hd, hname, hderived, hid⟩ := h
  exact ⟨d, text, hd, hgrows.names _ _ hname, hgrows.names _ _ hderived, hid⟩

/-- What is derived is what the identity of a declaration yields. -/
theorem derives_iff : Derives host suffix q id origin ↔
    ∃ d, host.declaration origin = some d ∧ d.id.Yields q.names suffix id := by
  constructor
  · rintro ⟨d, text, hd, hyields⟩
    exact ⟨d, hd, text, hyields⟩
  · rintro ⟨d, hd, text, hyields⟩
    exact ⟨d, text, hd, hyields⟩

/-- The name of a companion says which strategy it is of. -/
theorem Derives.strategy_eq {other : Strategy} (h : Derives host strategy.suffix q id origin)
    (h' : Derives host other.suffix q id origin') : strategy = other := by
  obtain ⟨_, -, hyields⟩ := derives_iff.1 h
  obtain ⟨_, -, hyields'⟩ := derives_iff.1 h'
  obtain ⟨text, text', htexts⟩ := hyields.suffixed_eq hyields'
  exact Strategy.eq_of_suffixed_eq htexts

namespace Growing

theorem run_derive_eq_ok (h : (derive id suffix).run p = .ok (id', q)) :
    p.Grows q ∧ ∃ text, p.names.text? id.name = some text ∧
      q.names.text? id'.name = some (suffixed text suffix) ∧ id' = id.withName id'.name := by
  cases htext : p.names.text? id.name with
  | none =>
    simp [derive, StateT.run, CallableId.derive, NameTable.text, htext, bind, Except.bind] at h
  | some text =>
    simp only [derive, StateT.run, CallableId.derive, NameTable.text, htext, orFault_some, bind,
      Except.bind, pure, Except.pure, Except.ok.injEq, Prod.mk.injEq] at h
    obtain ⟨rfl, rfl⟩ := h
    exact ⟨grows_intern p _, text, rfl, NameTable.text?_intern p.names _, rfl⟩

theorem exists_run_derive {text : String} (h : p.names.text? id.name = some text)
    (suffix : String) : ∃ id' q, (derive id suffix).run p = .ok (id', q) := by
  simp [derive, StateT.run, CallableId.derive, NameTable.text, h, bind, Except.bind, pure,
    Except.pure]

end Growing

/-! ## Building an index -/

/-- All functions that are listed as sources derive the identity. -/
def Derived.Sound (host : Host) (suffix : String) (q : Pools) (d : Derived) : Prop :=
  ∀ origin ∈ d.sources, Derives host suffix q d.identity origin

theorem Derived.Sound.mono {d : Derived} (h : d.Sound host suffix q) (hgrows : q.Grows q') :
    d.Sound host suffix q' :=
  fun origin ho => (h origin ho).mono hgrows

theorem Derived.sound_insert {derived : List Derived} (h : ∀ d ∈ derived, d.Sound host suffix q)
    (hnew : Derives host suffix q id origin) :
    ∀ d ∈ Derived.insert id origin derived, d.Sound host suffix q := by
  induction derived with
  | nil =>
    intro d hd
    obtain rfl := List.mem_singleton.1 hd
    intro o ho
    obtain rfl := List.mem_singleton.1 ho
    exact hnew
  | cons first rest ih =>
    have hfirst := h first List.mem_cons_self
    have hrest := fun d hd => h d (List.mem_cons_of_mem _ hd)
    rw [Derived.insert]
    split
    · next heq =>
      refine List.forall_mem_cons.2 ⟨?_, hrest⟩
      intro o ho
      rcases List.mem_append.1 ho with ho | ho
      · exact hfirst o ho
      · obtain rfl := List.mem_singleton.1 ho
        exact heq ▸ hnew
    · exact List.forall_mem_cons.2 ⟨hfirst, ih hrest⟩

namespace CompanionIndex

/-- Every companion of the index goes back to a declaration of the host. -/
def Sound (host : Host) (suffix : String) (q : Pools) (i : CompanionIndex) : Prop :=
  ∀ entry ∈ i.entries, Derives host suffix q entry.1 entry.2

theorem Sound.mono {i : CompanionIndex} (h : i.Sound host suffix q) (hgrows : q.Grows q') :
    i.Sound host suffix q' :=
  fun entry he => (h entry he).mono hgrows

theorem mem_entries_of_originOf? {i : CompanionIndex} (h : i.originOf? id = some origin) :
    (id, origin) ∈ i.entries := by
  obtain ⟨entry, hfind, rfl⟩ := Option.map_eq_some_iff.1 h
  have hid : entry.1 = id := by simpa using List.find?_some hfind
  exact hid ▸ List.mem_of_find?_eq_some hfind

/-- Exactly the identities of the index have an origin. -/
theorem originOf?_eq_none_iff {i : CompanionIndex} : i.originOf? id = none ↔ id ∉ i.identities := by
  simp only [originOf?, identities, Option.map_eq_none_iff, List.find?_eq_none, List.mem_map,
    decide_eq_true_eq, not_exists, not_and]

/-- No identity is in the indexes of both strategies. -/
theorem Sound.disjoint {i j : CompanionIndex} (hi : i.Sound host (Strategy.suffix .nullOnThrow) q)
    (hj : j.Sound host (Strategy.suffix .throwOnNull) q) (h : id ∈ i.identities) :
    id ∉ j.identities := by
  intro h'
  obtain ⟨entry, hentry, rfl⟩ := List.mem_map.1 h
  obtain ⟨entry', hentry', heq⟩ := List.mem_map.1 h'
  have hderives := hj entry' hentry'
  rw [heq] at hderives
  cases (hi entry hentry).strategy_eq hderives

theorem sound_ofDerived {matched : List FunctionSymbol} {derived : List Derived}
    (h : ∀ d ∈ derived, d.Sound host suffix q) :
    (ofDerived strategy matched derived).Sound host suffix q := by
  intro entry he
  obtain ⟨d, hd, hcompanion⟩ := List.mem_filterMap.1 he
  unfold Derived.companion? at hcompanion
  split at hcompanion
  · next source hsources =>
    cases hcompanion
    exact h d hd source (by simp [hsources])
  · cases hcompanion

/-- What the derivation keeps from one function to the next holds when all functions are through:
what is kept of the pools, of the functions so far and of what they have derived.  The induction is on
the functions that are left. -/
theorem deriveAll_keeps {I : Pools → List FunctionSymbol → List Derived → Prop}
    (hgrows : ∀ p q done derived, p.Grows q → I p done derived → I q done derived)
    (hskip : ∀ p done derived s, host.declaration s = none → I p done derived →
      I p (done ++ [s]) derived)
    (hinsert : ∀ p done derived s id, Derives host suffix p id s → I p done derived →
      I p (done ++ [s]) (Derived.insert id s derived))
    {symbols : List FunctionSymbol} (done : List FunctionSymbol) {derived derived' : List Derived}
    (h : (deriveAll host suffix symbols derived).run p = .ok (derived', q))
    (hinv : I p done derived) : p.Grows q ∧ I q (done ++ symbols) derived' := by
  induction symbols generalizing done derived p with
  | nil =>
    obtain ⟨rfl, rfl⟩ := Growing.run_pure_eq_ok_iff.1 h
    exact ⟨.refl p, by simpa using hinv⟩
  | cons symbol rest ih =>
    rw [deriveAll] at h
    rw [List.append_cons]
    cases hd : host.declaration symbol with
    | none =>
      rw [hd] at h
      exact ih _ h (hskip p done derived symbol hd hinv)
    | some d =>
      rw [hd] at h
      obtain ⟨id, p₁, hderive, h⟩ := Growing.run_bind_eq_ok_iff.1 h
      obtain ⟨hgrows₁, text, hname, hderived, hid⟩ := Growing.run_derive_eq_ok hderive
      have hderives : Derives host suffix p₁ id symbol :=
        ⟨d, text, hd, hgrows₁.names _ _ hname, hderived, hid⟩
      obtain ⟨hgrows₂, hend⟩ :=
        ih _ h (hinsert p₁ done derived symbol id hderives (hgrows p p₁ done derived hgrows₁ hinv))
      exact ⟨hgrows₁.trans hgrows₂, hend⟩

theorem run_deriveAll_eq_ok {symbols : List FunctionSymbol} {derived derived' : List Derived}
    (h : (deriveAll host suffix symbols derived).run p = .ok (derived', q))
    (hderived : ∀ d ∈ derived, d.Sound host suffix p) :
    p.Grows q ∧ ∀ d ∈ derived', d.Sound host suffix q := by
  refine deriveAll_keeps (I := fun p _ derived => ∀ d ∈ derived, d.Sound host suffix p)
    (fun _ _ _ _ hgrows hsound d hd => (hsound d hd).mono hgrows)
    (fun _ _ _ _ _ hsound => hsound) ?_ [] h hderived
  exact fun _ _ _ _ _ hderives hsound => Derived.sound_insert hsound hderives

/-- The host's declarations have names. -/
def NamesKnown (host : Host) (q : Pools) : Prop :=
  ∀ s d, host.declaration s = some d → ∃ text, q.names.text? d.id.name = some text

theorem NamesKnown.mono (h : NamesKnown host q) (hgrows : q.Grows q') : NamesKnown host q' := by
  intro s d hd
  obtain ⟨text, htext⟩ := h s d hd
  exact ⟨text, hgrows.names _ _ htext⟩

theorem exists_run_deriveAll (h : NamesKnown host p) (suffix : String)
    (symbols : List FunctionSymbol) (derived : List Derived) :
    ∃ derived' q, (deriveAll host suffix symbols derived).run p = .ok (derived', q) := by
  induction symbols generalizing derived p with
  | nil => exact ⟨derived, p, rfl⟩
  | cons symbol rest ih =>
    rw [deriveAll]
    cases hd : host.declaration symbol with
    | none => exact ih h derived
    | some d =>
      obtain ⟨text, htext⟩ := h symbol d hd
      obtain ⟨id, p₁, hderive⟩ := Growing.exists_run_derive htext suffix
      obtain ⟨derived', q, hrun⟩ := ih (h.mono (Growing.run_derive_eq_ok hderive).1) _
      exact ⟨derived', q, (Growing.run_bind_of_ok hderive).trans hrun⟩

/-- Building an index adds to the pools and lists companions of the host's declarations only. -/
theorem run_build_eq_ok {predicate : Predicate} {i : CompanionIndex}
    (h : (build host strategy predicate).run p = .ok (i, q)) :
    p.Grows q ∧ i.Sound host strategy.suffix q := by
  obtain ⟨derived, p₁, hderive, h⟩ := Growing.run_bind_eq_ok_iff.1 h
  obtain ⟨rfl, rfl⟩ := Growing.run_pure_eq_ok_iff.1 h
  obtain ⟨hgrows, hsound⟩ := run_deriveAll_eq_ok hderive (by simp)
  exact ⟨hgrows, sound_ofDerived hsound⟩

theorem exists_run_build (h : NamesKnown host p) (strategy : Strategy) (predicate : Predicate) :
    ∃ i q, (build host strategy predicate).run p = .ok (i, q) := by
  obtain ⟨derived, q, hrun⟩ := exists_run_deriveAll h strategy.suffix
    (host.matching predicate).eraseDups []
  exact ⟨_, q, Growing.run_bind_of_ok hrun⟩

end CompanionIndex

end Companions
