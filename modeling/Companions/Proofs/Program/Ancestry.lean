import Companions.Program
import Mathlib.Data.Finset.Card
import Mathlib.Logic.Relation
set_option autoImplicit false

/-!
# Inheriting

A class inherits from all that a chain of supertypes leads to.  The chain is followed no further
than there are declared classes, and that is far enough, whether or not it comes back to itself
(`isSubclass_iff_inherits`).
-/

namespace Companions

namespace Program

variable {p : Program} {a c : ClassId}

/-- `a` is what `c` is declared to inherit from. -/
def Extends (p : Program) (c a : ClassId) : Prop := p.supertype? c = some a

/-- `a` is reached from `c` along supertypes. -/
def Inherits (p : Program) : ClassId → ClassId → Prop := Relation.ReflTransGen p.Extends

/-- The class `k` supertypes up. -/
def up? (p : Program) : Nat → ClassId → Option ClassId
  | 0, c => some c
  | k + 1, c => (p.supertype? c).bind (p.up? k)

theorem mem_lineage_iff {n : Nat} : a ∈ p.lineage n c ↔ ∃ k < n, p.up? k c = some a := by
  induction n generalizing c with
  | zero => simp [lineage]
  | succ n ih =>
    have hrest : a ∈ ((p.supertype? c).map (p.lineage n)).getD [] ↔
        ∃ k < n, p.up? (k + 1) c = some a := by
      cases hc : p.supertype? c with
      | none => simp [up?, hc]
      | some d => simpa [up?, hc] using ih
    rw [lineage, List.mem_cons, hrest]
    constructor
    · rintro (rfl | ⟨k, hk, hup⟩)
      · exact ⟨0, Nat.succ_pos n, rfl⟩
      · exact ⟨k + 1, Nat.succ_lt_succ hk, hup⟩
    · rintro ⟨k, hk, hup⟩
      cases k with
      | zero => exact .inl (Option.some.inj hup).symm
      | succ k => exact .inr ⟨k, Nat.lt_of_succ_lt_succ hk, hup⟩

theorem inherits_iff_up? : p.Inherits c a ↔ ∃ k, p.up? k c = some a := by
  constructor
  · intro h
    induction h using Relation.ReflTransGen.head_induction_on with
    | refl => exact ⟨0, rfl⟩
    | head hstep _ ih =>
      obtain ⟨k, hk⟩ := ih
      refine ⟨k + 1, ?_⟩
      rw [up?, show p.supertype? _ = some _ from hstep]
      exact hk
  · rintro ⟨k, hk⟩
    induction k generalizing c with
    | zero => exact Option.some.inj hk ▸ .refl
    | succ k ih =>
      obtain ⟨d, hd, hk⟩ := Option.bind_eq_some_iff.1 hk
      exact .head hd (ih hk)

theorem up?_add (p : Program) (i n : Nat) (c : ClassId) :
    p.up? (i + n) c = (p.up? i c).bind (p.up? n) := by
  induction i generalizing c with
  | zero => simp [up?]
  | succ i ih =>
    rw [Nat.add_right_comm, up?, up?]
    cases p.supertype? c with
    | none => rfl
    | some d => exact ih d

/-- A class that something is above has been declared. -/
theorem mem_ids_of_up? {i : Nat} (h : p.up? (i + 1) c = some a) :
    p.up? i c ∈ (p.classes.map fun d => some d.id) := by
  rw [up?_add] at h
  obtain ⟨d, hd, h⟩ := Option.bind_eq_some_iff.1 h
  obtain ⟨e, he, -⟩ := Option.bind_eq_some_iff.1 h
  obtain ⟨k, hk, -⟩ := Option.bind_eq_some_iff.1 he
  have hid : k.id = d := by simpa using List.find?_some hk
  rw [hd]
  exact List.mem_map.2 ⟨k, List.mem_of_find?_eq_some hk, congrArg some hid⟩

/-- A chain that is longer than there are declared classes passes one of them twice. -/
theorem exists_repeat {k : Nat} (h : p.up? k c = some a) (hlt : p.classes.length < k) :
    ∃ i j, i < j ∧ j < k ∧ p.up? i c = p.up? j c := by
  have hcard : (p.classes.map fun d => some d.id).toFinset.card < (Finset.range k).card := by
    rw [Finset.card_range]
    exact Nat.lt_of_le_of_lt (List.toFinset_card_le _) (by simpa using hlt)
  have hmaps : Set.MapsTo (fun i => p.up? i c) (Finset.range k)
      ((p.classes.map fun d => some d.id).toFinset) := by
    intro i hi
    have hi : i < k := by simpa using hi
    have hup : ∃ e, p.up? (i + 1) c = some e := by
      have hsplit : p.up? (i + 1 + (k - (i + 1))) c = some a := by
        rw [Nat.add_sub_cancel' hi]
        exact h
      rw [up?_add] at hsplit
      obtain ⟨e, he, -⟩ := Option.bind_eq_some_iff.1 hsplit
      exact ⟨e, he⟩
    obtain ⟨e, he⟩ := hup
    simpa using mem_ids_of_up? he
  obtain ⟨i, hi, j, hj, hne, heq⟩ :=
    Finset.exists_ne_map_eq_of_card_lt_of_maps_to hcard hmaps
  have hi : i < k := Finset.mem_range.1 hi
  have hj : j < k := Finset.mem_range.1 hj
  rcases Nat.lt_or_gt_of_ne hne with hij | hji
  · exact ⟨i, j, hij, hj, heq⟩
  · exact ⟨j, i, hji, hi, heq.symm⟩

/-- What is above a class is found within as many steps as there are declared classes: on a longer
chain, the way between the two places of a class can be left out. -/
theorem exists_up?_le {k : Nat} (h : p.up? k c = some a) :
    ∃ j ≤ p.classes.length, p.up? j c = some a := by
  induction k using Nat.strongRecOn with
  | ind k ih =>
    rcases Nat.lt_or_ge p.classes.length k with hlt | hle
    · obtain ⟨i, j, hij, hjk, heq⟩ := exists_repeat h hlt
      refine ih (i + (k - j)) (by omega) ?_
      rw [up?_add, heq, ← up?_add, Nat.add_sub_cancel' (Nat.le_of_lt hjk)]
      exact h
    · exact ⟨k, hle, h⟩

/-- Where no class inherits from itself, no chain of supertypes is longer than there are declared
classes. -/
theorem up?_eq_none (hacyclic : ∀ c, ¬ Relation.TransGen p.Extends c c) (c : ClassId) :
    p.up? (p.classes.length + 1) c = none := by
  cases hup : p.up? (p.classes.length + 1) c with
  | none => rfl
  | some a =>
    obtain ⟨i, j, hij, hj, heq⟩ := exists_repeat hup (Nat.lt_succ_self _)
    obtain ⟨n, rfl⟩ : ∃ n, j = i + (n + 1) := ⟨j - i - 1, by omega⟩
    have hend : p.up? (i + (p.classes.length + 1 - i)) c = some a := by
      rw [Nat.add_sub_cancel' (by omega)]
      exact hup
    rw [up?_add] at hend
    obtain ⟨e, he, -⟩ := Option.bind_eq_some_iff.1 hend
    have hloop : p.up? (n + 1) e = some e := by
      rw [up?_add, he] at heq
      exact heq.symm
    obtain ⟨d, hd, hback⟩ := Option.bind_eq_some_iff.1 hloop
    exact absurd (.head' hd (inherits_iff_up?.2 ⟨n, hback⟩)) (hacyclic e)

/-- A class is a subclass of exactly what it inherits from. -/
theorem isSubclass_iff_inherits : p.isSubclass c a = true ↔ p.Inherits c a := by
  rw [isSubclass, List.contains_iff_mem, ancestry, mem_lineage_iff, inherits_iff_up?]
  constructor
  · rintro ⟨k, -, hk⟩
    exact ⟨k, hk⟩
  · rintro ⟨k, hk⟩
    obtain ⟨j, hj, hup⟩ := exists_up?_le hk
    exact ⟨j, Nat.lt_succ_of_le hj, hup⟩

end Program

end Companions
