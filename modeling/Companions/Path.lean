import Companions.NameTable
set_option autoImplicit false

/-!
# Dotted paths

A class is written as a dotted path.  Its package is all before the last dot and its simple name all
after it; a path without a dot names a class of the root package, whose text is empty.

Reading a path interns the whole path first, then the package, then the simple name.  Writing puts
the dot back, unless the package is the root package.
-/

namespace Companions

namespace Text

/-- What stands before and after the last dot. -/
def splitLastDot : List Char → Option (List Char × List Char)
  | [] => none
  | c :: rest =>
    match splitLastDot rest with
    | some (before, after) => some (c :: before, after)
    | none => if c = '.' then some ([], rest) else none

theorem splitLastDot_eq_none_iff {s : List Char} : splitLastDot s = none ↔ '.' ∉ s := by
  induction s with
  | nil => simp [splitLastDot]
  | cons c rest ih =>
    simp only [splitLastDot]
    split
    · next b a h =>
      have : '.' ∈ rest := by
        rw [← Decidable.not_not (p := '.' ∈ rest), ← ih, h]
        simp
      simp [this]
    · next h =>
      have hr := ih.1 h
      by_cases hc : c = '.' <;> simp [hc, hr, eq_comm]

/-- The two parts and the dot between them are the whole text, and the second part has no dot. -/
theorem splitLastDot_eq_some_iff {s before after : List Char} :
    splitLastDot s = some (before, after) ↔ s = before ++ '.' :: after ∧ '.' ∉ after := by
  induction s generalizing before after with
  | nil => simp [splitLastDot]
  | cons c rest ih =>
    simp only [splitLastDot]
    split
    · next b a h =>
      obtain ⟨hr, hb⟩ := ih.1 h
      subst hr
      cases before with
      | nil =>
        simp only [Option.some.injEq, Prod.mk.injEq, reduceCtorEq, false_and, List.nil_append,
          List.cons.injEq, false_iff]
        rintro ⟨⟨-, e⟩, ha⟩
        exact ha (e ▸ by simp)
      | cons d before =>
        simp only [Option.some.injEq, Prod.mk.injEq, List.cons.injEq, List.cons_append,
          and_assoc, ← ih, h]
    · next h =>
      have hr := splitLastDot_eq_none_iff.1 h
      cases before with
      | nil =>
        by_cases hc : c = '.'
        · simp only [hc, if_true, Option.some.injEq, Prod.mk.injEq, true_and, List.nil_append,
            List.cons.injEq]
          exact ⟨fun e => ⟨e, e ▸ hr⟩, fun e => e.1⟩
        · simp [hc]
      | cons d before =>
        simp only [List.cons_append, List.cons.injEq]
        constructor
        · split <;> simp
        · rintro ⟨⟨-, e⟩, -⟩
          exact absurd (e ▸ by simp) hr

end Text

/-! ## Class paths -/

namespace ClassId

/-- Reads a dotted path. -/
def ofPath (names : NameTable) (path : String) : ClassId × NameTable :=
  let (whole, names) := names.intern path
  match Text.splitLastDot path.toList with
  | none => (⟨.empty, whole⟩, names)
  | some (package, name) =>
    let (package, names) := names.intern (String.ofList package)
    let (name, names) := names.intern (String.ofList name)
    (⟨package, name⟩, names)

/-- Writes the dotted path. -/
def display (names : NameTable) (c : ClassId) : Except Fault String := do
  let package ← names.text c.package
  let name ← names.text c.name
  return if package.isEmpty then name else package ++ "." ++ name

end ClassId

/-- Writes the dotted path of a callable: the path of its class, or else its package, then its
name. -/
def CallableId.display (names : NameTable) (id : CallableId) : Except Fault String := do
  let name ← names.text id.name
  match id.owner with
  | some owner => return (← owner.display names) ++ "." ++ name
  | none =>
    let package ← names.text id.package
    return if package.isEmpty then name else package ++ "." ++ name

/-! ## Markers -/

/-- An annotation, known by its dotted path as a whole. -/
structure Marker where
  path : Name
  deriving DecidableEq, Repr, Inhabited

namespace Marker

/-- The marker with the path, which is one text. -/
def ofPath (names : NameTable) (path : String) : Marker × NameTable :=
  let (name, names) := names.intern path
  (⟨name⟩, names)

/-- The path. -/
def display (names : NameTable) (m : Marker) : Except Fault String := names.text m.path

end Marker

end Companions
