import Companions.Fault
set_option autoImplicit false

/-!
# The name table

Texts are stored once and are referred to by their place in the table, so that two names of one
table are equal exactly when their texts are (`find?_eq_some_iff`, `text?_inj`).  The table only
grows: what a name stands for never changes (`text?_intern_of_some`).
-/

namespace Companions

/-- Texts without repeats, the empty text first. -/
structure NameTable where
  texts : Array String
  nodup : texts.toList.Nodup
  empty_first : texts[0]? = some ""

namespace NameTable

/-- Only the empty text is known. -/
def fresh : NameTable where
  texts := #[""]
  nodup := by simp
  empty_first := rfl

instance : Inhabited NameTable := ⟨fresh⟩

/-- The number of texts. -/
def size (t : NameTable) : Nat := t.texts.size

/-- Nothing but the empty text has been interned. -/
def isFresh (t : NameTable) : Bool := t.size ≤ 1

/-- The name of a text that is in the table. -/
def find? (t : NameTable) (text : String) : Option Name :=
  (t.texts.findIdx? (· == text)).map Name.mk

/-- The text behind a name. -/
def text? (t : NameTable) (n : Name) : Option String := t.texts[n.number]?

/-- The text behind a name that the table is expected to hold. -/
def text (t : NameTable) (n : Name) : Except Fault String :=
  orFault (t.text? n) (.unknownName n)

theorem find?_eq_none_iff {t : NameTable} {s : String} : t.find? s = none ↔ s ∉ t.texts := by
  simp only [find?, Option.map_eq_none_iff, Array.findIdx?_eq_none_iff, beq_eq_false_iff_ne]
  exact ⟨fun h hs => h s hs rfl, fun h x hx e => h (e ▸ hx)⟩

/-- A new text goes to the end of the table. -/
def push (t : NameTable) (s : String) (absent : t.find? s = none) : NameTable where
  texts := t.texts.push s
  nodup := by
    have h := find?_eq_none_iff.1 absent
    rw [Array.toList_push, List.nodup_append]
    refine ⟨t.nodup, by simp, ?_⟩
    intro a ha b hb e
    simp only [List.mem_singleton] at hb
    exact h (by rw [← hb, ← e]; exact Array.mem_def.2 ha)
  empty_first := by
    have h := t.empty_first
    rw [Array.getElem?_push]
    split
    · next e => rw [Array.getElem?_eq_none (by omega)] at h; cases h
    · exact h

/-- The name of `s`, which is added to the table if it is not there yet. -/
def intern (t : NameTable) (s : String) : Name × NameTable :=
  match h : t.find? s with
  | some n => (n, t)
  | none => (⟨t.size⟩, t.push s h)

/-! ## What interning does to the table -/

theorem find?_eq_some_iff {t : NameTable} {s : String} {n : Name} :
    t.find? s = some n ↔ t.text? n = some s := by
  simp only [find?, text?, Option.map_eq_some_iff]
  constructor
  · rintro ⟨i, hi, rfl⟩
    obtain ⟨h, e, -⟩ := Array.findIdx?_eq_some_iff_getElem.1 hi
    rw [Array.getElem?_eq_getElem h]
    exact congrArg some (by simpa using e)
  · intro hn
    obtain ⟨h, e⟩ := Array.getElem?_eq_some_iff.1 hn
    refine ⟨n.number, ?_, rfl⟩
    refine Array.findIdx?_eq_some_iff_getElem.2 ⟨h, by simpa using e, ?_⟩
    intro j hj he
    have he : t.texts[j] = s := by simpa using he
    have hjs : j < t.texts.size := by omega
    refine List.pairwise_iff_getElem.1 t.nodup j n.number (by simpa using hjs) (by simpa using h)
      hj ?_
    rw [Array.getElem_toList, Array.getElem_toList, he, e]

/-- Two names for one text are the same name. -/
theorem text?_inj {t : NameTable} {a b : Name} {s : String} (ha : t.text? a = some s)
    (hb : t.text? b = some s) : a = b :=
  Option.some.inj ((find?_eq_some_iff.2 ha).symm.trans (find?_eq_some_iff.2 hb))

/-- The name that interning answers stands for the interned text. -/
theorem text?_intern (t : NameTable) (s : String) :
    (t.intern s).2.text? (t.intern s).1 = some s := by
  unfold intern
  split
  · next h => exact find?_eq_some_iff.1 h
  · simp [text?, push, size]

/-- Interning leaves the meaning of every earlier name alone. -/
theorem text?_intern_of_some {t : NameTable} {n : Name} {s : String} (h : t.text? n = some s)
    (r : String) : (t.intern r).2.text? n = some s := by
  unfold intern
  split
  · exact h
  · simp only [text?, push] at *
    obtain ⟨hlt, -⟩ := Array.getElem?_eq_some_iff.1 h
    rw [Array.getElem?_push, if_neg (by omega)]
    exact h

@[simp] theorem find?_empty (t : NameTable) : t.find? "" = some .empty :=
  find?_eq_some_iff.2 t.empty_first

/-! ## Room -/

/-- The largest name that fits into 32 bits. -/
def maxNumber : Nat := 4294967295

/-- Why a text gets no name. -/
inductive InternError
  /-- The table holds as many texts as there are names. -/
  | overflow (count : Nat)
  deriving DecidableEq, Repr

/-- The error as it is reported. -/
def InternError.message : InternError → String
  | .overflow count => s!"interner exceeded capacity: {count} strings, max is {maxNumber}"

/-- Interning that stops where the names of 32 bits end. -/
def internWithin (t : NameTable) (s : String) : Except InternError (Name × NameTable) :=
  if (t.find? s).isNone && maxNumber < t.size then .error (.overflow t.size)
  else .ok (t.intern s)

end NameTable

end Companions
