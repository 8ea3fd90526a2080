import Companions.Proofs.Pools.Growth
import Companions.Proofs.Source.Writing
import Mathlib.Data.List.Forall2
set_option autoImplicit false

/-!
# Texts behind handles

Pools that have grown apart may give one text different names, and one type different numbers.
Handles of the one and handles of the other are alike if the same texts stand behind them.  Where
handles are alike, the one pools tell apart what the others tell apart (`biUnique_alike`), and the
same is written (`coincide_display`).

What was known before the pools grew apart is alike to itself (`alike_of_knows`).
-/

namespace Companions

/-! ## One answer -/

/-- Both have an answer, and it is the same. -/
def Coincide {α : Type} (x y : Except Fault α) : Prop := ∃ a, x = .ok a ∧ y = .ok a

namespace Coincide

variable {α β γ : Type}

theorem of_ok (a : α) : Coincide (.ok a) (.ok a) := ⟨a, rfl, rfl⟩

theorem bind {x y : Except Fault α} {f g : α → Except Fault β} (h : Coincide x y)
    (hf : ∀ a, Coincide (f a) (g a)) : Coincide (x >>= f) (y >>= g) := by
  obtain ⟨a, rfl, rfl⟩ := h
  exact hf a

/-- What comes to an answer by a last step. -/
theorem map {x y : Except Fault α} (f : α → β) (h : Coincide x y) :
    Coincide (x >>= fun a => .ok (f a)) (y >>= fun a => .ok (f a)) :=
  h.bind fun a => of_ok (f a)

theorem mapM {f : α → Except Fault γ} {g : β → Except Fault γ} {l : List α} {l' : List β}
    (h : List.Forall₂ (fun a b => Coincide (f a) (g b)) l l') :
    Coincide (l.mapM f) (l'.mapM g) := by
  induction h with
  | nil => exact of_ok []
  | cons hfirst _ ih =>
    rw [List.mapM_cons, List.mapM_cons]
    exact hfirst.bind fun _ => ih.map _

end Coincide

/-! ## Names and paths -/

variable {q₀ q q' r r' : Pools}

theorem NameTable.Knows.mono {n : Name} (h : q.names.Knows n) (hgrows : q.Grows q') :
    q'.names.Knows n := by
  obtain ⟨text, htext⟩ := h
  exact ⟨text, hgrows.names _ _ htext⟩

/-- One text stands behind both names. -/
def Name.Alike (q q' : Pools) (n n' : Name) : Prop :=
  ∃ text, q.names.text? n = some text ∧ q'.names.text? n' = some text

namespace Name

variable {n n' : Name}

theorem Alike.mono (h : n.Alike q q' n') (hq : q.Grows r) (hq' : q'.Grows r') :
    n.Alike r r' n' := by
  obtain ⟨text, htext, htext'⟩ := h
  exact ⟨text, hq.names _ _ htext, hq'.names _ _ htext'⟩

/-- A name that was known before stands for its text ever after. -/
theorem alike_of_knows (h : q₀.names.Knows n) (hq : q₀.Grows q) (hq' : q₀.Grows q') :
    n.Alike q q' n := by
  obtain ⟨text, htext⟩ := h
  exact ⟨text, hq.names _ _ htext, hq'.names _ _ htext⟩

/-- A table has one name for one text. -/
theorem biUnique_alike (q q' : Pools) : Relator.BiUnique (Alike q q') := by
  constructor
  · rintro a b n ⟨text, ha, hn⟩ ⟨text', hb, hn'⟩
    obtain rfl : text = text' := Option.some.inj (hn.symm.trans hn')
    exact NameTable.text?_inj ha hb
  · rintro n a b ⟨text, hn, ha⟩ ⟨text', hn', hb⟩
    obtain rfl : text = text' := Option.some.inj (hn.symm.trans hn')
    exact NameTable.text?_inj ha hb

theorem Alike.coincide_text (h : n.Alike q q' n') :
    Coincide (q.names.text n) (q'.names.text n') := by
  obtain ⟨text, htext, htext'⟩ := h
  exact ⟨text, orFault_eq_ok_iff.2 htext, orFault_eq_ok_iff.2 htext'⟩

end Name

/-- The same path stands behind both classes. -/
structure ClassId.Alike (q q' : Pools) (c c' : ClassId) : Prop where
  package : c.package.Alike q q' c'.package
  name : c.name.Alike q q' c'.name

namespace ClassId

variable {c c' : ClassId}

theorem Alike.mono (h : c.Alike q q' c') (hq : q.Grows r) (hq' : q'.Grows r') : c.Alike r r' c' :=
  ⟨h.package.mono hq hq', h.name.mono hq hq'⟩

theorem alike_of_knows (h : ∀ n ∈ c.names, q₀.names.Knows n) (hq : q₀.Grows q)
    (hq' : q₀.Grows q') : c.Alike q q' c :=
  ⟨Name.alike_of_knows (h _ (by simp [names])) hq hq',
    Name.alike_of_knows (h _ (by simp [names])) hq hq'⟩

theorem biUnique_alike (q q' : Pools) : Relator.BiUnique (Alike q q') := by
  obtain ⟨hleft, hright⟩ := Name.biUnique_alike q q'
  constructor
  · rintro ⟨_, _⟩ ⟨_, _⟩ c ha hb
    cases hleft ha.package hb.package
    cases hleft ha.name hb.name
    rfl
  · rintro c ⟨_, _⟩ ⟨_, _⟩ ha hb
    cases hright ha.package hb.package
    cases hright ha.name hb.name
    rfl

theorem Alike.coincide_display (h : c.Alike q q' c') :
    Coincide (c.display q.names) (c'.display q'.names) :=
  h.package.coincide_text.bind fun _ => h.name.coincide_text.map _

end ClassId

theorem optionRel_imp {α β : Type} {R S : α → β → Prop} (h : ∀ a b, R a b → S a b)
    {o : Option α} {o' : Option β} (hrel : Option.Rel R o o') : Option.Rel S o o' := by
  cases hrel with
  | some ha => exact .some (h _ _ ha)
  | none => exact .none

/-- If the relation tells apart on both sides, it does so where there may be nothing. -/
theorem biUnique_optionRel {α β : Type} {R : α → β → Prop} (h : Relator.BiUnique R) :
    Relator.BiUnique (Option.Rel R) := by
  constructor
  · rintro _ _ _ (ha | _) (hb | _)
    · exact congrArg some (h.1 ha ‹_›)
    · rfl
  · rintro _ _ _ (ha | _) (hb | _)
    · exact congrArg some (h.2 ha ‹_›)
    · rfl

/-- The same path stands behind both callables. -/
structure CallableId.Alike (q q' : Pools) (id id' : CallableId) : Prop where
  package : id.package.Alike q q' id'.package
  owner : Option.Rel (ClassId.Alike q q') id.owner id'.owner
  name : id.name.Alike q q' id'.name

namespace CallableId

variable {id id' : CallableId}

theorem Alike.mono (h : id.Alike q q' id') (hq : q.Grows r) (hq' : q'.Grows r') :
    id.Alike r r' id' where
  package := h.package.mono hq hq'
  owner := optionRel_imp (fun _ _ hc => hc.mono hq hq') h.owner
  name := h.name.mono hq hq'

/-- The package and the owner of what is known are alike to themselves, whatever the name is. -/
theorem alike_withName {n n' : Name} (h : ∀ n ∈ id.package :: id.names, q₀.names.Knows n)
    (hq : q₀.Grows q) (hq' : q₀.Grows q') (hn : n.Alike q q' n') :
    (id.withName n).Alike q q' (id.withName n') where
  package := Name.alike_of_knows (h _ List.mem_cons_self) hq hq'
  owner := by
    rw [withName_owner, withName_owner]
    cases howner : id.owner with
    | none => exact .none
    | some c =>
      refine .some (ClassId.alike_of_knows (fun n hn => h n ?_) hq hq')
      exact List.mem_cons_of_mem _ (mem_names_of_owner howner hn)
  name := hn

theorem alike_of_knows (h : ∀ n ∈ id.package :: id.names, q₀.names.Knows n) (hq : q₀.Grows q)
    (hq' : q₀.Grows q') : id.Alike q q' id :=
  alike_withName h hq hq'
    (Name.alike_of_knows (h _ (List.mem_cons_of_mem _ id.name_mem_names)) hq hq')

theorem biUnique_alike (q q' : Pools) : Relator.BiUnique (Alike q q') := by
  obtain ⟨hleft, hright⟩ := Name.biUnique_alike q q'
  obtain ⟨hleft', hright'⟩ := biUnique_optionRel (ClassId.biUnique_alike q q')
  constructor
  · rintro ⟨_, _, _⟩ ⟨_, _, _⟩ id ha hb
    cases hleft ha.package hb.package
    cases hleft' ha.owner hb.owner
    cases hleft ha.name hb.name
    rfl
  · rintro id ⟨_, _, _⟩ ⟨_, _, _⟩ ha hb
    cases hright ha.package hb.package
    cases hright' ha.owner hb.owner
    cases hright ha.name hb.name
    rfl

theorem Alike.coincide_display (h : id.Alike q q' id') :
    Coincide (id.display q.names) (id'.display q'.names) := by
  obtain ⟨package, owner, name⟩ := id
  obtain ⟨package', owner', name'⟩ := id'
  refine h.name.coincide_text.bind fun _ => ?_
  obtain ⟨hpackage, ⟨hc⟩ | _, -⟩ := h
  · exact Coincide.map _ (ClassId.Alike.coincide_display ‹_›)
  · exact hpackage.coincide_text.map _

end CallableId

/-! ## Types and parameters -/

/-- The names that a kind is written with. -/
def Kind.names : Kind → List Name
  | .object c => c.names
  | _ => []

/-- The pools hold the type, and the names that it is written with. -/
def TypeId.Named (q : Pools) (id : TypeId) : Prop :=
  ∃ t, q.types.get? id = some t ∧ ∀ n ∈ t.kind.names, q.names.Knows n

theorem TypeId.named_iff {id : TypeId} : id.Named q ↔
    ((q.types.get? id).any fun t => decide (∀ n ∈ t.kind.names, q.names.Knows n)) = true := by
  simp only [Named, Option.any_eq_true, decide_eq_true_iff]

instance (q : Pools) (id : TypeId) : Decidable (id.Named q) := decidable_of_iff' _ TypeId.named_iff

theorem TypeId.Named.mono {id : TypeId} (h : id.Named q) (hgrows : q.Grows q') : id.Named q' := by
  obtain ⟨t, ht, hnames⟩ := h
  exact ⟨t, hgrows.types _ _ ht, fun n hn => (hnames n hn).mono hgrows⟩

/-- One type is written the same, whatever its number is. -/
theorem TypePool.coincide_format {id id' : TypeId} {t : ResolvedType}
    (hnames : ∀ n ∈ t.kind.names, q₀.names.Knows n) (hq : q₀.Grows q) (hq' : q₀.Grows q')
    (h : q.types.get? id = some t) (h' : q'.types.get? id' = some t) :
    Coincide (q.types.format q.names id) (q'.types.format q'.names id') := by
  obtain ⟨kind, nullability⟩ := t
  unfold format get
  rw [h, h']
  cases kind with
  | object c => exact (ClassId.alike_of_knows hnames hq hq').coincide_display.map _
  | _ => exact .of_ok _

/-- A type that was known before is written the same ever after. -/
theorem TypeId.Named.coincide_format {id : TypeId} (h : id.Named q₀) (hq : q₀.Grows q)
    (hq' : q₀.Grows q') : Coincide (q.types.format q.names id) (q'.types.format q'.names id) := by
  obtain ⟨t, ht, hnames⟩ := h
  exact TypePool.coincide_format hnames hq hq' (hq.types _ _ ht) (hq'.types _ _ ht)

end Companions
