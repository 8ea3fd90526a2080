import Companions.Path
set_option autoImplicit false

/-!
# The type pool

A type is a kind together with its nullability, so `String` and `String?` are two types.  Each type
is stored once and is referred to by its place in the pool; the first seven places are fixed.  The
pool only grows: what a type id stands for never changes (`get?_intern_of_some`).

Forcing the nullability of a type is a step inside the pool (`withNullability`); it keeps the kind.
-/

namespace Companions

/-- Whether a type admits null. -/
inductive Nullability
  | nullable
  | notNull
  deriving DecidableEq, Repr, Inhabited

/-- What a type is apart from its nullability. -/
inductive Kind
  | int
  | boolean
  | string
  | unit
  | nothing
  | any
  | object (type : ClassId)
  deriving DecidableEq, Repr, Inhabited

/-- A type: what it is, and whether null belongs to it. -/
structure ResolvedType where
  kind : Kind
  nullability : Nullability
  deriving DecidableEq, Repr, Inhabited

/-- Types without repeats, the seven fixed ones first. -/
structure TypePool where
  types : Array ResolvedType
  nodup : types.toList.Nodup
  fixed_first : types.toList.take 7 =
    [⟨.int, .notNull⟩, ⟨.boolean, .notNull⟩, ⟨.string, .notNull⟩, ⟨.unit, .notNull⟩,
      ⟨.nothing, .notNull⟩, ⟨.any, .notNull⟩, ⟨.nothing, .nullable⟩]

namespace TypePool

/-- The fixed types alone. -/
def fresh : TypePool where
  types := #[⟨.int, .notNull⟩, ⟨.boolean, .notNull⟩, ⟨.string, .notNull⟩, ⟨.unit, .notNull⟩,
    ⟨.nothing, .notNull⟩, ⟨.any, .notNull⟩, ⟨.nothing, .nullable⟩]
  nodup := by decide
  fixed_first := rfl

instance : Inhabited TypePool := ⟨fresh⟩

/-- The number of types. -/
def size (p : TypePool) : Nat := p.types.size

/-- The pool holds no type. -/
def isEmpty (p : TypePool) : Bool := p.size == 0

/-- The id of a type that is in the pool. -/
def find? (p : TypePool) (t : ResolvedType) : Option TypeId :=
  (p.types.findIdx? (· == t)).map TypeId.mk

/-- The type behind an id. -/
def get? (p : TypePool) (id : TypeId) : Option ResolvedType := p.types[id.number]?

/-- The type behind an id that the pool is expected to hold. -/
def get (p : TypePool) (id : TypeId) : Except Fault ResolvedType :=
  orFault (p.get? id) (.unknownType id)

/-- The id is that of a type in the pool. -/
def contains (p : TypePool) (id : TypeId) : Bool := id.number < p.size

theorem find?_eq_none_iff {p : TypePool} {t : ResolvedType} : p.find? t = none ↔ t ∉ p.types := by
  simp only [find?, Option.map_eq_none_iff, Array.findIdx?_eq_none_iff, beq_eq_false_iff_ne]
  exact ⟨fun h ht => h t ht rfl, fun h x hx e => h (e ▸ hx)⟩

theorem seven_le_size (p : TypePool) : 7 ≤ p.size := by
  have h := congrArg List.length p.fixed_first
  simp only [List.length_take, Array.length_toList] at h
  simp only [size]
  simp at h
  omega

/-- A new type goes to the end of the pool. -/
def push (p : TypePool) (t : ResolvedType) (absent : p.find? t = none) : TypePool where
  types := p.types.push t
  nodup := by
    have h := find?_eq_none_iff.1 absent
    rw [Array.toList_push, List.nodup_append]
    refine ⟨p.nodup, by simp, ?_⟩
    intro a ha b hb e
    simp only [List.mem_singleton] at hb
    exact h (by rw [← hb, ← e]; exact Array.mem_def.2 ha)
  fixed_first := by
    have h := p.seven_le_size
    rw [Array.toList_push, List.take_append_of_le_length (by simpa [size] using h)]
    exact p.fixed_first

/-- The id of `t`, which is added to the pool if it is not there yet. -/
def intern (p : TypePool) (t : ResolvedType) : TypeId × TypePool :=
  match h : p.find? t with
  | some id => (id, p)
  | none => (⟨p.size⟩, p.push t h)

/-- The type of the instances of a class. -/
def classType (p : TypePool) (c : ClassId) : TypeId × TypePool := p.intern ⟨.object c, .notNull⟩

/-- The type with its nullability forced; the id itself if it has that nullability already. -/
def withNullability (p : TypePool) (id : TypeId) (n : Nullability) :
    Except Fault (TypeId × TypePool) := do
  let t ← p.get id
  return if t.nullability = n then (id, p) else p.intern { t with nullability := n }

/-- The type is marked as nullable. -/
def isNullable (p : TypePool) (id : TypeId) : Except Fault Bool := do
  return (← p.get id).nullability = .nullable

/-- The class of a class type, nullable or not. -/
def classOf (p : TypePool) (id : TypeId) : Except Fault (Option ClassId) := do
  match (← p.get id).kind with
  | .object c => return some c
  | _ => return none

/-- Writes a type: its kind, and a question mark if it is nullable. -/
def format (p : TypePool) (names : NameTable) (id : TypeId) : Except Fault String := do
  let t ← p.get id
  let kind ←
    match t.kind with
    | .int => pure "Int"
    | .boolean => pure "Boolean"
    | .string => pure "String"
    | .unit => pure "Unit"
    | .nothing => pure "Nothing"
    | .any => pure "Any"
    | .object c => c.display names
  return match t.nullability with
    | .nullable => kind ++ "?"
    | .notNull => kind

/-! ## What interning does to the pool -/

theorem find?_eq_some_iff {p : TypePool} {t : ResolvedType} {id : TypeId} :
    p.find? t = some id ↔ p.get? id = some t := by
  simp only [find?, get?, Option.map_eq_some_iff]
  constructor
  · rintro ⟨i, hi, rfl⟩
    obtain ⟨h, e, -⟩ := Array.findIdx?_eq_some_iff_getElem.1 hi
    rw [Array.getElem?_eq_getElem h]
    exact congrArg some (by simpa using e)
  · intro hid
    obtain ⟨h, e⟩ := Array.getElem?_eq_some_iff.1 hid
    refine ⟨id.number, ?_, rfl⟩
    refine Array.findIdx?_eq_some_iff_getElem.2 ⟨h, by simpa using e, ?_⟩
    intro j hj he
    have he : p.types[j] = t := by simpa using he
    have hjs : j < p.types.size := by omega
    refine List.pairwise_iff_getElem.1 p.nodup j id.number (by simpa using hjs) (by simpa using h)
      hj ?_
    rw [Array.getElem_toList, Array.getElem_toList, he, e]

/-- Two ids of one type are the same id. -/
theorem get?_inj {p : TypePool} {a b : TypeId} {t : ResolvedType} (ha : p.get? a = some t)
    (hb : p.get? b = some t) : a = b :=
  Option.some.inj ((find?_eq_some_iff.2 ha).symm.trans (find?_eq_some_iff.2 hb))

/-- The id that interning answers stands for the interned type. -/
theorem get?_intern (p : TypePool) (t : ResolvedType) :
    (p.intern t).2.get? (p.intern t).1 = some t := by
  unfold intern
  split
  · next h => exact find?_eq_some_iff.1 h
  · simp [get?, push, size]

/-- Interning leaves the meaning of every earlier id alone. -/
theorem get?_intern_of_some {p : TypePool} {id : TypeId} {t : ResolvedType}
    (h : p.get? id = some t) (u : ResolvedType) : (p.intern u).2.get? id = some t := by
  unfold intern
  split
  · exact h
  · simp only [get?, push] at *
    obtain ⟨hlt, -⟩ := Array.getElem?_eq_some_iff.1 h
    rw [Array.getElem?_push, if_neg (by omega)]
    exact h

theorem contains_iff {p : TypePool} {id : TypeId} :
    p.contains id = true ↔ ∃ t, p.get? id = some t := by
  rw [contains, decide_eq_true_eq]
  constructor
  · exact fun h => ⟨_, Array.getElem?_eq_getElem h⟩
  · rintro ⟨t, h⟩
    exact (Array.getElem?_eq_some_iff.1 h).1

end TypePool

end Companions
