import Companions.Strategy
import Mathlib.Data.List.Forall2
set_option autoImplicit false

/-!
# Laws of the type pool

Whatever is asked of a pool, it answers the id of some type, which it adds if it is not there yet
(`TypePool.perform_cases`).  All laws of the pool come from that: the id of each type, and the type
of each id, once there, stay what they are, and an id that has had its nullability forced is as good
as the id itself when nullability is forced next.

The pool looks for a type among the types themselves.  A store that keeps a table of ids beside them
answers the same (`TypeStore.performEach_inStep`), and so its two parts stay inverse to each other.
That a table answers what a search does (`Indexes`) is said for items of any kind: names are kept in
the same way.
-/

namespace Companions

/-! ## A table beside a list -/

section Indexing

variable {α β : Type} [BEq α] {stored : Array α} {table : List (α × β)} {handle : Nat → β}

/-- The table finds each item where it first stands. -/
def Indexes (stored : Array α) (table : List (α × β)) (handle : Nat → β) : Prop :=
  ∀ a, table.lookup a = (stored.findIdx? (· == a)).map handle

theorem Indexes.empty : Indexes (#[] : Array α) ([] : List (α × β)) handle := fun a => by simp

/-- A new item is found at the end, and all else where it was. -/
theorem Indexes.push [LawfulBEq α] (h : Indexes stored table handle) {a : α}
    (absent : table.lookup a = none) :
    Indexes (stored.push a) ((a, handle stored.size) :: table) handle := by
  intro b
  have hnone : stored.findIdx? (· == a) = none := by
    rw [h, Option.map_eq_none_iff] at absent
    exact absent
  rw [List.lookup_cons, Array.findIdx?_push]
  by_cases hb : b = a
  · subst hb
    simp [hnone]
  · rw [beq_false_of_ne hb, beq_false_of_ne (Ne.symm hb)]
    simpa using h b

end Indexing

/-! ## Runs -/

/-- What can be asked of a pool. -/
inductive TypePool.Operation
  | intern (t : ResolvedType)
  | classType (c : ClassId)
  /-- The type of an id with its nullability forced. -/
  | force (id : TypeId) (n : Nullability)
  deriving DecidableEq, Repr, Inhabited

/-- Does one thing after the other. -/
def stepEach {S : Type} (step : S → TypePool.Operation → Except Fault (TypeId × S)) :
    S → List TypePool.Operation → Except Fault (List TypeId × S)
  | s, [] => .ok ([], s)
  | s, op :: rest => do
    let (id, s) ← step s op
    let (ids, s) ← stepEach step s rest
    return (id :: ids, s)

namespace TypePool

/-- Does what is asked.  Only forcing the nullability of an unknown type has no answer. -/
def perform (p : TypePool) : Operation → Except Fault (TypeId × TypePool)
  | .intern t => .ok (p.intern t)
  | .classType c => .ok (p.classType c)
  | .force id n => p.withNullability id n

/-- Asks one thing after the other. -/
def performEach : TypePool → List Operation → Except Fault (List TypeId × TypePool) :=
  stepEach perform

/-- The type whose id an operation answers, unless it forces the nullability of an unknown type. -/
def Operation.asked (p : TypePool) : Operation → Option ResolvedType
  | .intern t => some t
  | .classType c => some ⟨.object c, .notNull⟩
  | .force id n => (p.get? id).map fun t => { t with nullability := n }

/-- Each id stands for what it stood for. -/
def Lasts (p q : TypePool) : Prop := ∀ id t, p.get? id = some t → q.get? id = some t

variable {p q r : TypePool} {t : ResolvedType} {id x : TypeId}

/-! ## What an operation does -/

theorem intern_of_find?_eq_some (h : p.find? t = some id) : p.intern t = (id, p) := by
  unfold intern
  split
  · next found =>
    rw [h] at found
    cases found
    rfl
  · next absent =>
    rw [h] at absent
    cases absent

theorem intern_of_find?_eq_none (h : p.find? t = none) :
    p.intern t = (⟨p.size⟩, p.push t h) := by
  unfold intern
  split
  · next found =>
    rw [h] at found
    cases found
  · rfl

/-- Interning a type that has an id answers the id. -/
theorem intern_of_get? (h : p.get? id = some t) : p.intern t = (id, p) :=
  intern_of_find?_eq_some (find?_eq_some_iff.2 h)

/-- Forcing the nullability of a type is interning the type with that nullability. -/
theorem withNullability_eq_intern (h : p.get? id = some t) (n : Nullability) :
    p.withNullability id n = .ok (p.intern { t with nullability := n }) := by
  by_cases hn : t.nullability = n
  · have hsame : ({ t with nullability := n } : ResolvedType) = t := by rw [← hn]
    rw [hsame, intern_of_get? h]
    simp [withNullability, get, h, hn, bind, Except.bind, pure, Except.pure]
  · simp [withNullability, get, h, hn, bind, Except.bind, pure, Except.pure]

theorem withNullability_of_unknown (h : p.get? id = none) (n : Nullability) :
    p.withNullability id n = .error (.unknownType id) := by
  simp [withNullability, get, h, bind, Except.bind]

/-- An operation answers the id of what was asked for, or it forces the nullability of an unknown
type. -/
theorem perform_cases (p : TypePool) (op : Operation) :
    (∃ t, op.asked p = some t ∧ p.perform op = .ok (p.intern t)) ∨
      ∃ id n, op = .force id n ∧ p.contains id = false ∧
        p.perform op = .error (.unknownType id) := by
  cases op with
  | intern t => exact .inl ⟨t, rfl, rfl⟩
  | classType c => exact .inl ⟨_, rfl, rfl⟩
  | force id n =>
    cases hid : p.get? id with
    | some t => exact .inl ⟨_, by rw [Operation.asked, hid]; rfl, withNullability_eq_intern hid n⟩
    | none =>
      refine .inr ⟨id, n, rfl, ?_, withNullability_of_unknown hid n⟩
      rw [Bool.eq_false_iff, ne_eq, contains_iff, hid]
      rintro ⟨_, ⟨⟩⟩

/-- After an operation, the answer stands for what was asked for. -/
theorem perform_eq_ok {op : Operation} (h : p.perform op = .ok (x, q)) :
    p.Lasts q ∧ ∃ t, op.asked p = some t ∧ q.get? x = some t := by
  rcases perform_cases p op with ⟨t, hasked, hrun⟩ | ⟨_, _, _, _, hrun⟩
  · have hintern : p.intern t = (x, q) := Except.ok.inj (hrun.symm.trans h)
    have hdenotes := get?_intern p t
    rw [hintern] at hdenotes
    refine ⟨fun id u hid => ?_, t, hasked, hdenotes⟩
    have hkept := get?_intern_of_some hid t
    rwa [hintern] at hkept
  · rw [hrun] at h
    cases h

/-! ## What a run does -/

theorem Lasts.trans (h : p.Lasts q) (h' : q.Lasts r) : p.Lasts r :=
  fun id t hid => h' id t (h id t hid)

theorem Lasts.asked (h : p.Lasts q) {op : Operation} (hasked : op.asked p = some t) :
    op.asked q = some t := by
  cases op with
  | intern t => exact hasked
  | classType c => exact hasked
  | force id n =>
    obtain ⟨u, hu, rfl⟩ := Option.map_eq_some_iff.1 hasked
    rw [Operation.asked, h id u hu]
    rfl

/-- Each answer stands for what was asked for. -/
def Answered (p : TypePool) : List Operation → List TypeId → Prop :=
  List.Forall₂ fun op x => ∃ t, op.asked p = some t ∧ p.get? x = some t

theorem performEach_cons_of_ok {op : Operation} {made : TypeId × TypePool}
    (h : p.perform op = .ok made) (rest : List Operation) :
    p.performEach (op :: rest) = (made.2.performEach rest).map fun r => (made.1 :: r.1, r.2) := by
  rw [performEach, stepEach, h]
  rfl

theorem performEach_cons_of_error {op : Operation} {fault : Fault} (h : p.perform op = .error fault)
    (rest : List Operation) : p.performEach (op :: rest) = .error fault := by
  rw [performEach, stepEach, h]
  rfl

theorem performEach_cons_eq_ok {op : Operation} {rest : List Operation} {ids : List TypeId}
    (h : p.performEach (op :: rest) = .ok (ids, r)) :
    ∃ x q ids', p.perform op = .ok (x, q) ∧ q.performEach rest = .ok (ids', r) ∧
      ids = x :: ids' := by
  rw [performEach, stepEach] at h
  obtain ⟨⟨x, q⟩, hop, h⟩ := exists_of_bind_eq_ok h
  obtain ⟨⟨ids', r'⟩, hrest, h⟩ := exists_of_bind_eq_ok h
  cases h
  exact ⟨x, q, ids', hop, hrest, rfl⟩

/-- After a run, each answer stands for what was asked for, and all else for what it stood for. -/
theorem performEach_eq_ok {ops : List Operation} {ids : List TypeId}
    (h : p.performEach ops = .ok (ids, q)) : p.Lasts q ∧ q.Answered ops ids := by
  induction ops generalizing p ids with
  | nil =>
    cases h
    exact ⟨fun _ _ hid => hid, .nil⟩
  | cons op rest ih =>
    obtain ⟨x, r, ids, hop, hrest, rfl⟩ := performEach_cons_eq_ok h
    obtain ⟨hlasts, t, hasked, hx⟩ := perform_eq_ok hop
    obtain ⟨hlasts', hanswered⟩ := ih hrest
    have hlasts₀ := hlasts.trans hlasts'
    exact ⟨hlasts₀, .cons ⟨t, hlasts₀.asked hasked, hlasts' x t hx⟩ hanswered⟩

/-- A run comes to its end, or it comes to an unknown type whose nullability it is to force. -/
theorem performEach_cases (p : TypePool) (ops : List Operation) :
    (∃ ids q, p.performEach ops = .ok (ids, q)) ∨
      ∃ before id n after ids q, ops = before ++ .force id n :: after ∧
        p.performEach before = .ok (ids, q) ∧ q.contains id = false ∧
        p.performEach ops = .error (.unknownType id) := by
  induction ops generalizing p with
  | nil => exact .inl ⟨[], p, rfl⟩
  | cons op rest ih =>
    rcases perform_cases p op with ⟨t, -, hop⟩ | ⟨id, n, rfl, hunknown, hop⟩
    · rcases ih (p.intern t).2 with ⟨ids, q, hrest⟩ |
        ⟨before, id, n, after, ids, q, rfl, hbefore, hunknown, hrest⟩
      · refine .inl ⟨(p.intern t).1 :: ids, q, ?_⟩
        rw [performEach_cons_of_ok hop, hrest]
        rfl
      · refine .inr ⟨op :: before, id, n, after, (p.intern t).1 :: ids, q, rfl, ?_, hunknown, ?_⟩
        · rw [performEach_cons_of_ok hop, hbefore]
          rfl
        · rw [performEach_cons_of_ok hop, hrest]
          rfl
    · exact .inr ⟨[], id, n, rest, [], p, rfl, rfl, hunknown, performEach_cons_of_error hop rest⟩

end TypePool

/-! ## A table of ids beside the types -/

/-- Types in the order of their ids, and a table of the ids by type. -/
structure TypeStore where
  types : Array ResolvedType
  table : List (ResolvedType × TypeId)
  deriving DecidableEq, Repr, Inhabited

namespace TypeStore

/-- The id of a type from the table, or the next one for a type that is not in the table. -/
def intern (s : TypeStore) (t : ResolvedType) : TypeId × TypeStore :=
  match s.table.lookup t with
  | some id => (id, s)
  | none => (⟨s.types.size⟩, ⟨s.types.push t, (t, ⟨s.types.size⟩) :: s.table⟩)

/-- The fixed types, interned one behind the other. -/
def fresh : TypeStore :=
  TypePool.fresh.types.toList.foldl (fun s t => (s.intern t).2) ⟨#[], []⟩

/-- The type with the id. -/
def get (s : TypeStore) (id : TypeId) : Except Fault ResolvedType :=
  orFault s.types[id.number]? (.unknownType id)

/-- Does what is asked, with the table for the search. -/
def perform (s : TypeStore) : TypePool.Operation → Except Fault (TypeId × TypeStore)
  | .intern t => .ok (s.intern t)
  | .classType c => .ok (s.intern ⟨.object c, .notNull⟩)
  | .force id n => do
    let t ← s.get id
    return if t.nullability = n then (id, s) else s.intern { t with nullability := n }

/-- Asks one thing after the other. -/
def performEach : TypeStore → List TypePool.Operation → Except Fault (List TypeId × TypeStore) :=
  stepEach perform

/-- The table holds the ids of the types, and nothing else. -/
def Inverse (s : TypeStore) : Prop :=
  ∀ t id, s.table.lookup t = some id ↔ s.types[id.number]? = some t

/-- The table finds each type where it first stands among the types. -/
def Indexed (s : TypeStore) : Prop :=
  ∀ t, s.table.lookup t = (s.types.findIdx? (· == t)).map TypeId.mk

/-- The store holds the types of the pool, and its table finds them. -/
structure Holds (s : TypeStore) (p : TypePool) : Prop where
  types : s.types = p.types
  indexed : s.Indexed

/-- Store and pool answer the same and go on alike. -/
def InStep {A : Type} (x : Except Fault (A × TypeStore)) (y : Except Fault (A × TypePool)) : Prop :=
  (∃ fault, x = .error fault ∧ y = .error fault) ∨
    ∃ a s p, x = .ok (a, s) ∧ y = .ok (a, p) ∧ s.Holds p

variable {s : TypeStore} {p : TypePool}

/-- Whether the type is in the table or not, the table goes on finding what there is. -/
theorem Indexed.intern (h : s.Indexed) (t : ResolvedType) : (s.intern t).2.Indexed := by
  unfold TypeStore.intern
  split
  · exact h
  · next absent => exact Indexes.push h absent

theorem Indexed.foldl (h : s.Indexed) (types : List ResolvedType) :
    (types.foldl (fun s t => (s.intern t).2) s).Indexed := by
  induction types generalizing s with
  | nil => exact h
  | cons t _ ih => exact ih (h.intern t)

theorem Holds.lookup (h : s.Holds p) (t : ResolvedType) : s.table.lookup t = p.find? t := by
  rw [h.indexed, h.types]
  rfl

theorem Holds.inverse (h : s.Holds p) : s.Inverse := by
  intro t id
  rw [h.lookup, TypePool.find?_eq_some_iff, h.types]
  rfl

theorem holds_fresh : fresh.Holds .fresh where
  types := rfl
  indexed := Indexed.foldl (fun t => by simp) _

theorem intern_inStep (h : s.Holds p) (t : ResolvedType) :
    InStep (.ok (s.intern t)) (.ok (p.intern t)) := by
  have hindexed := h.indexed.intern t
  cases hfind : p.find? t with
  | some id =>
    rw [intern, h.lookup, hfind, TypePool.intern_of_find?_eq_some hfind]
    exact .inr ⟨id, s, p, rfl, rfl, h⟩
  | none =>
    rw [intern, h.lookup, hfind] at hindexed ⊢
    rw [TypePool.intern_of_find?_eq_none hfind, TypePool.size, ← h.types]
    exact .inr ⟨_, _, _, rfl, rfl, congrArg (·.push t) h.types, hindexed⟩

theorem perform_inStep (h : s.Holds p) (op : TypePool.Operation) :
    InStep (s.perform op) (p.perform op) := by
  cases op with
  | intern t => exact intern_inStep h t
  | classType c => exact intern_inStep h _
  | force id n =>
    have hget : s.get id = p.get id := by
      rw [get, TypePool.get, TypePool.get?, h.types]
    rw [perform, TypePool.perform, TypePool.withNullability, hget]
    cases p.get id with
    | error fault => exact .inl ⟨fault, rfl, rfl⟩
    | ok t =>
      simp only [bind, Except.bind, pure, Except.pure]
      split
      · exact .inr ⟨id, s, p, rfl, rfl, h⟩
      · exact intern_inStep h _

theorem InStep.bind {A B : Type} {x : Except Fault (A × TypeStore)}
    {y : Except Fault (A × TypePool)} {f : A × TypeStore → Except Fault (B × TypeStore)}
    {g : A × TypePool → Except Fault (B × TypePool)} (h : InStep x y)
    (hrest : ∀ a s p, s.Holds p → InStep (f (a, s)) (g (a, p))) : InStep (x >>= f) (y >>= g) := by
  rcases h with ⟨fault, rfl, rfl⟩ | ⟨a, s, p, rfl, rfl, hholds⟩
  · exact .inl ⟨fault, rfl, rfl⟩
  · exact hrest a s p hholds

/-- A run of the store and the same run of the pool answer the same. -/
theorem performEach_inStep (h : s.Holds p) (ops : List TypePool.Operation) :
    InStep (s.performEach ops) (p.performEach ops) := by
  induction ops generalizing s p with
  | nil => exact .inr ⟨[], s, p, rfl, rfl, h⟩
  | cons op rest ih =>
    refine (perform_inStep h op).bind fun id s' p' hholds => ?_
    refine (ih hholds).bind fun ids s'' p'' hholds' => ?_
    exact .inr ⟨id :: ids, s'', p'', rfl, rfl, hholds'⟩

end TypeStore

/-! ## The laws -/

/-- The fixed types with their ids. -/
def TypePool.fixed : List (TypeId × ResolvedType) :=
  [(.int, ⟨.int, .notNull⟩), (.boolean, ⟨.boolean, .notNull⟩), (.string, ⟨.string, .notNull⟩),
    (.unit, ⟨.unit, .notNull⟩), (.nothing, ⟨.nothing, .notNull⟩), (.any, ⟨.any, .notNull⟩),
    (.nullableNothing, ⟨.nothing, .nullable⟩)]

namespace TypePool

/-- Later on, after some operations, the pool has become the other one. -/
def Becomes (p q : TypePool) : Prop := ∃ ops ids, p.performEach ops = .ok (ids, q)

/-- What a pool can be relied on for, at once and later. -/
structure Lawful (p : TypePool) : Prop where
  /-- Looking for the id of a type and for the type of an id are inverse to each other. -/
  inverse : ∀ t id, p.find? t = some id ↔ p.get? id = some t
  /-- The ids are numbered without gaps. -/
  dense : ∀ id, (∃ t, p.get? id = some t) ↔ id.number < p.size
  /-- Ids are the same exactly if their types are. -/
  same_iff : ∀ id id' t t', p.get? id = some t → p.get? id' = some t' → (id = id' ↔ t = t')
  fixed : ∀ entry ∈ TypePool.fixed, p.get? entry.1 = some entry.2
  lasts : ∀ q, p.Becomes q → p.Lasts q
  /-- Forcing the nullability of a known type answers an id of the same kind with that nullability.
  However the pool goes on, forcing that id again comes to forcing the first one, and so it answers
  the id itself if nothing changes, and the first one if it is forced back. -/
  force : ∀ id kind own a, p.get? id = some ⟨kind, own⟩ →
    ∃ x q, p.withNullability id a = .ok (x, q) ∧ q.get? x = some ⟨kind, a⟩ ∧
      q.classOf x = p.classOf id ∧
      ∀ r, q.Becomes r → (∀ b, r.withNullability x b = r.withNullability id b) ∧
        r.withNullability x a = .ok (x, r) ∧ r.withNullability x own = .ok (id, r)
  /-- A return type made by one strategy and then by another is made by the other alone. -/
  returnType : ∀ s s' : Strategy, ∀ id, p.contains id = true →
    ∃ x q, s.returnType p id = .ok (x, q) ∧
      ∀ r, q.Becomes r → s'.returnType r x = s'.returnType r id

variable {p q r : TypePool} {id x : TypeId} {t : ResolvedType} {kind : Kind}
  {own a : Nullability}

theorem Becomes.lasts (h : p.Becomes q) : p.Lasts q := by
  obtain ⟨ops, ids, hrun⟩ := h
  exact (performEach_eq_ok hrun).1

/-- The first seven places of every pool are those of the fresh one. -/
theorem get?_fixed (p : TypePool) : ∀ entry ∈ fixed, p.get? entry.1 = some entry.2 := by
  have hplace : ∀ i < 7, p.get? ⟨i⟩ = fresh.get? ⟨i⟩ := by
    intro i hi
    have hown : p.get? ⟨i⟩ = (p.types.toList.take 7)[i]? := by
      rw [List.getElem?_take_of_lt hi, Array.getElem?_toList]
      rfl
    have hfresh : fresh.get? ⟨i⟩ = (fresh.types.toList.take 7)[i]? := by
      rw [List.getElem?_take_of_lt hi, Array.getElem?_toList]
      rfl
    rw [hown, hfresh, p.fixed_first, fresh.fixed_first]
  have hfixed : ∀ entry ∈ fixed, entry.1.number < 7 ∧ fresh.get? entry.1 = some entry.2 := by
    decide
  intro entry hentry
  obtain ⟨hlt, hmeans⟩ := hfixed entry hentry
  exact (hplace entry.1.number hlt).trans hmeans

/-- The class of a type does not depend on its nullability. -/
theorem classOf_eq_of_kind {n n' : Nullability} (h : p.get? id = some ⟨kind, n⟩)
    (h' : q.get? x = some ⟨kind, n'⟩) : q.classOf x = p.classOf id := by
  cases kind <;> simp [classOf, get, h, h', bind, Except.bind]

theorem force_of_get? (h : p.get? id = some ⟨kind, own⟩) (a : Nullability) :
    ∃ x q, p.withNullability id a = .ok (x, q) ∧ q.get? x = some ⟨kind, a⟩ ∧
      q.classOf x = p.classOf id ∧
      ∀ r, q.Becomes r → (∀ b, r.withNullability x b = r.withNullability id b) ∧
        r.withNullability x a = .ok (x, r) ∧ r.withNullability x own = .ok (id, r) := by
  obtain ⟨x, q, hrun, hlasts, hx⟩ : ∃ x q, p.withNullability id a = .ok (x, q) ∧ p.Lasts q ∧
      q.get? x = some ⟨kind, a⟩ :=
    ⟨(p.intern ⟨kind, a⟩).1, (p.intern ⟨kind, a⟩).2, withNullability_eq_intern h a,
      fun _ _ hid => get?_intern_of_some hid _, get?_intern p _⟩
  refine ⟨x, q, hrun, hx, classOf_eq_of_kind h hx, fun r hr => ?_⟩
  -- In `r` both ids still stand for types of the one kind, and each type has one id.
  have hid : r.get? id = some ⟨kind, own⟩ := hr.lasts _ _ (hlasts _ _ h)
  have hagain : ∀ b, r.withNullability x b = .ok (r.intern ⟨kind, b⟩) :=
    withNullability_eq_intern (hr.lasts _ _ hx)
  refine ⟨fun b => (hagain b).trans (withNullability_eq_intern hid b).symm, ?_, ?_⟩
  · rw [hagain, intern_of_get? (hr.lasts _ _ hx)]
  · rw [hagain, intern_of_get? hid]

theorem lawful (p : TypePool) : p.Lawful where
  inverse _ _ := find?_eq_some_iff
  dense id := by
    rw [← contains_iff, contains, decide_eq_true_eq]
  same_iff id id' t t' h h' := by
    constructor
    · rintro rfl
      exact Option.some.inj (h.symm.trans h')
    · rintro rfl
      exact get?_inj h h'
  fixed := get?_fixed p
  lasts _ h := h.lasts
  force _ _ _ a h := force_of_get? h a
  returnType s s' id h := by
    obtain ⟨⟨kind, own⟩, hid⟩ := contains_iff.1 h
    obtain ⟨x, q, hrun, -, -, hlater⟩ := force_of_get? hid s.nullability
    exact ⟨x, q, hrun, fun r hr => (hlater r hr).1 s'.nullability⟩

/-- Each operation of a run that comes to its end has been answered, and two operations have the
same answer exactly if they asked for the same. -/
structure Replies (p : TypePool) (ops : List Operation) (ids : List TypeId) : Prop where
  answered : p.Answered ops ids
  same_iff : ∀ first ∈ ops.zip ids, ∀ second ∈ ops.zip ids,
    (first.2 = second.2 ↔ first.1.asked p = second.1.asked p)

theorem Answered.replies {ops : List Operation} {ids : List TypeId} (h : p.Answered ops ids) :
    p.Replies ops ids where
  answered := h
  same_iff first hfirst second hsecond := by
    obtain ⟨t, hasked, ht⟩ := (List.forall₂_iff_zip.1 h).2 hfirst
    obtain ⟨t', hasked', ht'⟩ := (List.forall₂_iff_zip.1 h).2 hsecond
    rw [hasked, hasked', Option.some.injEq]
    exact p.lawful.same_iff _ _ _ _ ht ht'

/-- A run of operations comes to its end, unless it is to force the nullability of an unknown type.
Each answer stands for what was asked for, the pool is lawful, and a store with a table goes the
same way, where table and types are inverse to each other. -/
theorem laws_of_run (ops : List Operation) :
    (∃ ids p s, fresh.performEach ops = .ok (ids, p) ∧ p.Lawful ∧ p.Replies ops ids ∧
        TypeStore.fresh.performEach ops = .ok (ids, s) ∧ s.types = p.types ∧ s.Inverse) ∨
      ∃ before id n after ids p, ops = before ++ .force id n :: after ∧
        fresh.performEach before = .ok (ids, p) ∧ p.contains id = false ∧
        fresh.performEach ops = .error (.unknownType id) := by
  rcases performEach_cases fresh ops with ⟨ids, p, hrun⟩ | hstops
  · have hanswered := (performEach_eq_ok hrun).2
    rcases TypeStore.performEach_inStep TypeStore.holds_fresh ops with
      ⟨fault, -, hfault⟩ | ⟨ids', s, p', hstore, hpool, hholds⟩
    · rw [hrun] at hfault
      cases hfault
    · rw [hrun] at hpool
      cases hpool
      exact .inl ⟨ids, p, s, hrun, p.lawful, hanswered.replies, hstore, hholds.types,
        hholds.inverse⟩
  · exact .inr hstops

/-- Forcing an id to be nullable and back answers the id, also where another type was added in
between. -/
example : (fresh.performEach [.force .string .nullable, .classType ⟨.empty, ⟨1⟩⟩,
    .force ⟨7⟩ .notNull, .force ⟨7⟩ .nullable]).toOption.map (·.1) =
      some [⟨7⟩, ⟨8⟩, .string, ⟨7⟩] := by
  decide +kernel

end TypePool

end Companions
