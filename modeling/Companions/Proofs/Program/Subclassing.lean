import Companions.Proofs.Program.Ancestry
import Companions.Proofs.Program.Reachable
set_option autoImplicit false

/-!
# Subclasses

Whether a class is a subclass of another is found by going up from supertype to supertype
(`Program.Search`).  Where no chain of supertypes comes back to a class, the search comes to an end
from every class, declared or not, and what it answers orders the classes like a forest: what is
above a class is one chain (`Program.Hierarchy`).

A new class that nothing inherits from is a leaf of that forest, and only what is asked of the leaf
itself is answered anew.
-/

namespace Companions

namespace Program

variable {p q : Program} {a b c d : ClassId} {answer : Bool}

/-! ## Chains that end -/

/-- No chain of supertypes comes back to a class. -/
def Acyclic (p : Program) : Prop := ∀ c, ¬ Relation.TransGen p.Extends c c

theorem transGen_iff_up? : Relation.TransGen p.Extends c a ↔ ∃ k, p.up? (k + 1) c = some a := by
  rw [Relation.TransGen.head'_iff]
  constructor
  · rintro ⟨d, hd, hrest⟩
    obtain ⟨k, hk⟩ := inherits_iff_up?.1 hrest
    exact ⟨k, Option.bind_eq_some_iff.2 ⟨d, hd, hk⟩⟩
  · rintro ⟨k, hk⟩
    obtain ⟨d, hd, hk⟩ := Option.bind_eq_some_iff.1 hk
    exact ⟨d, hd, inherits_iff_up?.2 ⟨k, hk⟩⟩

/-- A class that a chain comes back to is met again after every round. -/
theorem up?_mul {k : Nat} (h : p.up? k c = some c) (n : Nat) : p.up? (n * k) c = some c := by
  induction n with
  | zero =>
    rw [Nat.zero_mul]
    rfl
  | succ n ih =>
    rw [Nat.succ_mul, up?_add, ih]
    exact h

/-- Only declared classes have supertypes. -/
theorem exists_class_of_extends (h : p.Extends c d) : ∃ k ∈ p.classes, k.id = c := by
  obtain ⟨k, hk, -⟩ := Option.bind_eq_some_iff.1 h
  exact ⟨k, List.mem_of_find?_eq_some hk, id_of_class? hk⟩

/-- No chain comes back to a class exactly if none that starts at a declared class is longer than
there are declared classes. -/
theorem acyclic_iff :
    p.Acyclic ↔ ∀ k ∈ p.classes, p.up? (p.classes.length + 1) k.id = none := by
  constructor
  · exact fun h k _ => up?_eq_none h k.id
  · intro h c hloop
    obtain ⟨d, hd, -⟩ := Relation.TransGen.head'_iff.1 hloop
    obtain ⟨k, hk, rfl⟩ := exists_class_of_extends hd
    obtain ⟨n, hn⟩ := transGen_iff_up?.1 hloop
    -- enough rounds are longer than the longest chain
    have hrounds := up?_mul hn (p.classes.length + 1)
    rw [Nat.mul_succ, Nat.add_comm, up?_add, h k hk] at hrounds
    cases hrounds

instance (p : Program) : Decidable p.Acyclic := decidable_of_iff _ acyclic_iff.symm

/-! ## The search -/

/-- The search for `a` from a class upwards.  It ends where it comes to `a`, and where a class has
no supertype. -/
inductive Search (p : Program) (a : ClassId) : ClassId → Bool → Prop
  | found : Search p a a true
  | missing {c : ClassId} (other : c ≠ a) (top : p.supertype? c = none) : Search p a c false
  | up {c d : ClassId} {answer : Bool} (other : c ≠ a) (step : p.Extends c d)
      (rest : Search p a d answer) : Search p a c answer

/-- A class inherits from another one that it is not exactly if its supertype does. -/
theorem inherits_iff_of_extends (hne : c ≠ a) (h : p.Extends c d) :
    p.Inherits c a ↔ p.Inherits d a := by
  constructor
  · intro hc
    rcases Relation.ReflTransGen.cases_head hc with rfl | ⟨d', hd', hrest⟩
    · exact absurd rfl hne
    · obtain rfl : d = d' := Option.some.inj (h.symm.trans hd')
      exact hrest
  · exact .head h

/-- Where the search comes to an end, it has found out whether the class is a subclass. -/
theorem Search.eq (h : p.Search a c answer) : answer = p.isSubclass c a := by
  rw [Bool.eq_iff_iff, isSubclass_iff_inherits]
  induction h with
  | found => exact iff_of_true rfl .refl
  | missing hne htop =>
    refine iff_of_false Bool.false_ne_true fun hc => ?_
    rcases Relation.ReflTransGen.cases_head hc with rfl | ⟨d, hd, -⟩
    · exact hne rfl
    · cases htop.symm.trans hd
  | up hne hstep _ ih => exact ih.trans (inherits_iff_of_extends hne hstep).symm

/-- Where a chain ends, the search along it does. -/
theorem exists_search {n : Nat} (h : p.up? n c = none) (a : ClassId) :
    ∃ answer, p.Search a c answer := by
  induction n generalizing c with
  | zero => cases h
  | succ n ih =>
    by_cases hca : c = a
    · exact ⟨true, hca ▸ .found⟩
    · cases hc : p.supertype? c with
      | none => exact ⟨false, .missing hca hc⟩
      | some d =>
        rw [up?, hc] at h
        obtain ⟨answer, hrest⟩ := ih h
        exact ⟨answer, .up hca hc hrest⟩

/-- The search comes to an end from every class, with the answer whether it is a subclass. -/
theorem search_iff (h : p.Acyclic) : p.Search a c answer ↔ answer = p.isSubclass c a := by
  constructor
  · exact Search.eq
  · rintro rfl
    obtain ⟨answer, hsearch⟩ := exists_search (up?_eq_none h c) a
    exact hsearch.eq ▸ hsearch

/-! ## The order of the classes -/

/-- Two classes that inherit from each other are the same. -/
theorem Inherits.antisymm (hacyclic : p.Acyclic) (h : p.Inherits c a) (h' : p.Inherits a c) :
    c = a := by
  rcases Relation.ReflTransGen.cases_head h with rfl | ⟨d, hd, hrest⟩
  · rfl
  · exact absurd (.head' hd (hrest.trans h')) (hacyclic c)

/-- Of two classes that a class inherits from, one inherits from the other: each class has at most
one supertype. -/
theorem Inherits.total (h : p.Inherits c a) (h' : p.Inherits c b) :
    p.Inherits a b ∨ p.Inherits b a :=
  h.total_of_right_unique (fun _ _ _ hd hd' => Option.some.inj (hd.symm.trans hd')) h'

/-! ## A new leaf -/

theorem supertype?_declareClass (p : Program) (c d : ClassId) (supertype : Option ClassId) :
    (p.declareClass c supertype).supertype? d = if c = d then supertype else p.supertype? d := by
  have hclass : (p.declareClass c supertype).class? d =
      if c = d then some (p.declared c supertype) else p.class? d :=
    class?_putClass p (p.declared c supertype) d
  rw [supertype?, hclass]
  split
  · rfl
  · rfl

theorem extends_declareClass_self {supertype : Option ClassId} :
    (p.declareClass c supertype).Extends c d ↔ supertype = some d := by
  rw [Extends, supertype?_declareClass, if_pos rfl]

theorem extends_declareClass_of_ne {supertype : Option ClassId} (hac : a ≠ c) :
    (p.declareClass c supertype).Extends a d ↔ p.Extends a d := by
  rw [Extends, supertype?_declareClass, if_neg hac.symm]
  exact Iff.rfl

/-- The search does not come by a class that nothing inherits from, so it does not matter what that
class is declared to inherit from. -/
theorem Search.declareClass (hleaf : ∀ d, ¬ p.Extends d c) (h : p.Search b a answer)
    (hac : a ≠ c) (supertype : Option ClassId) :
    (p.declareClass c supertype).Search b a answer := by
  induction h with
  | found => exact .found
  | missing hne htop =>
    refine .missing hne ?_
    rw [supertype?_declareClass, if_neg hac.symm]
    exact htop
  | @up a d _ hne hstep _ ih =>
    have hdc : d ≠ c := fun hdc => hleaf a (hdc ▸ hstep)
    exact .up hne ((extends_declareClass_of_ne hac).2 hstep) (ih hdc)

/-- Neither do chains of supertypes. -/
theorem transGen_of_declareClass (hleaf : ∀ d, ¬ p.Extends d c) {supertype : Option ClassId}
    (hac : a ≠ c) (h : Relation.TransGen (p.declareClass c supertype).Extends a b) :
    Relation.TransGen p.Extends a b ∧ b ≠ c := by
  induction h with
  | single hstep =>
    have hstep := (extends_declareClass_of_ne hac).1 hstep
    exact ⟨.single hstep, fun hbc => hleaf a (hbc ▸ hstep)⟩
  | @tail b _ _ hstep ih =>
    obtain ⟨hchain, hbc⟩ := ih
    have hstep := (extends_declareClass_of_ne hbc).1 hstep
    exact ⟨hchain.tail hstep, fun hdc => hleaf b (hdc ▸ hstep)⟩

/-- Declared to inherit from anything but itself, a class that nothing inherits from closes no
chain. -/
theorem Acyclic.declareClass (h : p.Acyclic) (hleaf : ∀ d, ¬ p.Extends d c)
    {supertype : Option ClassId} (hself : supertype ≠ some c) :
    (p.declareClass c supertype).Acyclic := by
  intro a hloop
  by_cases hac : a = c
  · subst hac
    obtain ⟨b, -, hback⟩ := Relation.TransGen.tail'_iff.1 hloop
    by_cases hba : b = a
    · exact hself (extends_declareClass_self.1 (hba ▸ hback))
    · exact hleaf b ((extends_declareClass_of_ne hba).1 hback)
  · exact h a (transGen_of_declareClass hleaf hac hloop).1

/-- The class itself inherits from what its supertype inherits from. -/
theorem isSubclass_declareClass_self (hacyclic : p.Acyclic) (hleaf : ∀ d, ¬ p.Extends d c)
    {supertype : Option ClassId} (hself : supertype ≠ some c) :
    (p.declareClass c supertype).isSubclass c b = true ↔
      c = b ∨ ∃ d, supertype = some d ∧ p.isSubclass d b = true := by
  have hsame : ∀ d, supertype = some d →
      p.isSubclass d b = (p.declareClass c supertype).isSubclass d b := by
    intro d hd
    have hdc : d ≠ c := fun hdc => hself (hdc ▸ hd)
    exact (((search_iff hacyclic).2 rfl).declareClass hleaf hdc supertype).eq
  rw [isSubclass_iff_inherits, Inherits, Relation.ReflTransGen.cases_head_iff]
  refine or_congr_right (exists_congr fun d => ?_)
  rw [extends_declareClass_self]
  refine and_congr_right fun hd => ?_
  rw [hsame d hd]
  exact isSubclass_iff_inherits.symm

/-! ## All in one -/

/-- Being a subclass, as it can be relied on. -/
structure Hierarchy (p : Program) : Prop where
  /-- From every class, the search for another comes to an end, with this answer only. -/
  search : ∀ c a answer, p.Search a c answer ↔ answer = p.isSubclass c a
  /-- A class is a subclass of what it comes to in zero or more steps along supertypes. -/
  reaches : ∀ c a, p.isSubclass c a = true ↔ p.Inherits c a
  refl : ∀ c, p.isSubclass c c = true
  trans : ∀ c a b, p.isSubclass c a = true → p.isSubclass a b = true → p.isSubclass c b = true
  antisymm : ∀ c a, p.isSubclass c a = true → p.isSubclass a c = true → c = a
  /-- What is above a class is one chain. -/
  comparable : ∀ c a b, p.isSubclass c a = true → p.isSubclass c b = true →
    p.isSubclass a b = true ∨ p.isSubclass b a = true
  /-- Declaring a class that nothing inherits from leaves alone what is asked of the others. -/
  others : ∀ c, (∀ d, ¬ p.Extends d c) → ∀ supertype a b, a ≠ c →
    (p.declareClass c supertype).isSubclass a b = p.isSubclass a b ∧
      (p.declareClass c supertype).Search b a (p.isSubclass a b)
  /-- The class itself is below its supertype, unless that is the class again. -/
  leaf : ∀ c, (∀ d, ¬ p.Extends d c) → ∀ supertype, supertype ≠ some c →
    (p.declareClass c supertype).Acyclic ∧
      ∀ b, (p.declareClass c supertype).isSubclass c b = true ↔
        c = b ∨ ∃ d, supertype = some d ∧ p.isSubclass d b = true

/-- Where no chain of supertypes comes back to a class, being a subclass is coming to a class along
supertypes: an order in which what is above a class is one chain, and which a new class that nothing
inherits from does not change but for that class. -/
theorem hierarchy_of_acyclic (h : p.Acyclic) : p.Hierarchy where
  search _ _ _ := search_iff h
  reaches _ _ := isSubclass_iff_inherits
  refl _ := isSubclass_iff_inherits.2 .refl
  trans c a b hca hab := by
    rw [isSubclass_iff_inherits] at *
    exact hca.trans hab
  antisymm c a hca hac := by
    rw [isSubclass_iff_inherits] at *
    exact hca.antisymm h hac
  comparable c a b hca hcb := by
    simp only [isSubclass_iff_inherits] at *
    exact hca.total hcb
  others c hleaf supertype a b hac := by
    have hsearch := ((search_iff (a := b) h).2 rfl).declareClass hleaf hac supertype
    exact ⟨hsearch.eq.symm, hsearch⟩
  leaf c hleaf supertype hself :=
    ⟨h.declareClass hleaf hself, fun _ => isSubclass_declareClass_self h hleaf hself⟩

/-- The classes that every program begins with are in order. -/
theorem hierarchy_of_acyclic_standard : standard.Acyclic ∧ standard.Hierarchy := by
  have h : standard.Acyclic := by decide +kernel
  exact ⟨h, hierarchy_of_acyclic h⟩

/-- A new class is below all that its supertype is below, and nothing is below it. -/
example : ((standard.declareClass ⟨.empty, .empty⟩ standard.builtins.throwableClass).isSubclass
      ⟨.empty, .empty⟩ standard.builtins.throwableClass,
    (standard.declareClass ⟨.empty, .empty⟩ standard.builtins.throwableClass).isSubclass
      standard.builtins.throwableClass ⟨.empty, .empty⟩) = (true, false) := by
  decide +kernel

end Program

end Companions
