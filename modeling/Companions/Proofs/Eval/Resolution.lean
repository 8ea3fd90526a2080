import Mathlib.Tactic.Push
import Companions.Eval.Interpreter
import Companions.Proofs.Program.Reachable
set_option autoImplicit false

/-!
# Resolution by identity

An interpreter finds a function by its symbol (`Interpreter.declaration?`) and a symbol by the
identity of the function (`Interpreter.resolve`).  A registration hides the function of the program
that has its symbol from the first, but not from the second.  As long as no function with the
identity is hidden behind one that has another identity, the two agree
(`Interpreter.resolve_iff_declares`), in whatever order the registrations are kept.
-/

namespace Companions

namespace Interpreter

/-! ## Registrations -/

/-- An interpreter of the program with which functions have been registered one after another. -/
inductive Registers (p : Program) : Interpreter → Prop
  | new : Registers p (.new p)
  | register {m : Interpreter} (before : Registers p m) (d : Declaration) :
      Registers p (m.register d)

variable {p : Program} {m : Interpreter} {id : CallableId} {s : FunctionSymbol}

theorem Registers.program (h : Registers p m) : m.program = p := by
  induction h with
  | new => rfl
  | register _ d ih => exact ih

/-- No two functions are registered under the same symbol. -/
theorem Registers.nodup_symbols (h : Registers p m) : (m.registered.map (·.symbol)).Nodup := by
  induction h with
  | new => exact List.nodup_nil
  | register _ d ih => exact Program.nodup_map_putFirst d ih

/-! ## What is declared under an identity -/

/-- The function that a call of the symbol runs has the identity. -/
def Declares (m : Interpreter) (id : CallableId) (s : FunctionSymbol) : Prop :=
  ∃ d, m.declaration? s = some d ∧ d.id = id

instance (m : Interpreter) (id : CallableId) (s : FunctionSymbol) : Decidable (m.Declares id s) :=
  decidable_of_iff ((m.declaration? s).any (·.id = id) = true)
    (by simp [Option.any_eq_true, Declares])

/-- A function of the program has the identity, but a call of its symbol runs a function that has
another one. -/
def Hides (m : Interpreter) (id : CallableId) : Prop :=
  ∃ d ∈ m.program.declarations, d.id = id ∧ ¬ m.Declares id d.symbol

instance (m : Interpreter) (id : CallableId) : Decidable (m.Hides id) :=
  inferInstanceAs (Decidable (∃ d ∈ m.program.declarations, d.id = id ∧ ¬ m.Declares id d.symbol))

/-- Some function with the identity has the symbol, be it hidden or not. -/
def Lists (m : Interpreter) (id : CallableId) (s : FunctionSymbol) : Prop :=
  ∃ d ∈ m.registered ++ m.program.declarations, d.id = id ∧ d.symbol = s

/-- What is called under a symbol is listed. -/
theorem Declares.lists (h : m.Declares id s) : m.Lists id s := by
  obtain ⟨d, hd, hid⟩ := h
  rcases Option.or_eq_some_iff.1 hd with hd | ⟨-, hd⟩
  · have hsymbol : d.symbol = s := by simpa using List.find?_some hd
    exact ⟨d, List.mem_append_left _ (List.mem_of_find?_eq_some hd), hid, hsymbol⟩
  · exact ⟨d, List.mem_append_right _ (Program.mem_of_declaration? hd), hid,
      Program.symbol_of_declaration? hd⟩

/-- What is listed is called under its symbol, or else it is hidden. -/
theorem declares_of_lists (hm : Registers p m) (h : m.Lists id s) (hhidden : ¬ m.Hides id) :
    m.Declares id s := by
  obtain ⟨d, hd, hid, rfl⟩ := h
  rcases List.mem_append.1 hd with hd | hd
  · have hfound := (Program.find?_eq_some_iff_of_nodup hm.nodup_symbols).2 ⟨hd, rfl⟩
    exact ⟨d, Option.or_eq_some_iff.2 (.inl hfound), hid⟩
  · exact not_not.1 fun hnot => hhidden ⟨d, hd, hid, hnot⟩

/-! ## Resolving -/

/-- An identity is resolved to a symbol exactly if all functions with the identity have it. -/
theorem resolve_eq_some_iff_lists :
    m.resolve id = some s ↔ m.Lists id s ∧ ∀ s', m.Lists id s' → s' = s := by
  have hmem : ∀ s', s' ∈ ((m.registered ++ m.program.declarations).filter (·.id = id)).map
      (·.symbol) ↔ m.Lists id s' := by
    intro s'
    simp only [List.mem_map, List.mem_filter, decide_eq_true_eq, Lists, and_assoc]
  unfold resolve
  simp only [← hmem]
  -- the symbols are compared with the first of them
  cases ((m.registered ++ m.program.declarations).filter (·.id = id)).map (·.symbol) with
  | nil => simp
  | cons first rest =>
    by_cases hall : rest.all (· = first) = true
    · have hrest : ∀ s' ∈ rest, s' = first := by simpa using hall
      simp only [hall, if_true, Option.some.injEq, List.forall_mem_cons]
      constructor
      · rintro rfl
        exact ⟨List.mem_cons_self, rfl, hrest⟩
      · exact fun h => h.2.1
    · simp only [hall, Bool.false_eq_true, if_false]
      refine iff_of_false nofun ?_
      rintro ⟨-, honly⟩
      have hfirst : first = s := honly first List.mem_cons_self
      refine hall (List.all_eq_true.2 fun s' hs' => decide_eq_true ?_)
      exact (honly s' (List.mem_cons_of_mem _ hs')).trans hfirst.symm

/-- An identity is resolved alike in whatever order the registrations are kept. -/
theorem resolve_perm {registered : List Declaration} (h : registered.Perm m.registered) :
    ({ m with registered } : Interpreter).resolve id = m.resolve id := by
  have hlists : ∀ s, ({ m with registered } : Interpreter).Lists id s ↔ m.Lists id s := by
    intro s
    simp only [Lists, (h.append_right m.program.declarations).mem_iff]
  refine Option.ext fun s => ?_
  rw [resolve_eq_some_iff_lists, resolve_eq_some_iff_lists]
  simp only [hlists]

/-- Whatever has been registered: unless a function with the identity is hidden behind one with
another identity, the identity is resolved to the one symbol whose function has it, and to nothing
if there is no such symbol or several.  The order of the registrations does not matter. -/
theorem resolve_iff_declares (hm : Registers p m) (hhidden : ¬ m.Hides id) :
    (∀ s, m.resolve id = some s ↔ m.Declares id s ∧ ∀ s', m.Declares id s' → s' = s) ∧
      (m.resolve id = none ↔
        (∀ s, ¬ m.Declares id s) ∨ ∃ s s', s ≠ s' ∧ m.Declares id s ∧ m.Declares id s') ∧
      ∀ registered, registered.Perm m.registered →
        ({ m with registered } : Interpreter).resolve id = m.resolve id := by
  have hlists : ∀ s, m.Lists id s ↔ m.Declares id s :=
    fun s => ⟨fun h => declares_of_lists hm h hhidden, Declares.lists⟩
  have hsome : ∀ s, m.resolve id = some s ↔
      m.Declares id s ∧ ∀ s', m.Declares id s' → s' = s := by
    intro s
    rw [resolve_eq_some_iff_lists]
    simp only [hlists]
  refine ⟨hsome, ?_, fun registered h => resolve_perm h⟩
  rw [Option.eq_none_iff_forall_ne_some]
  constructor
  · intro hnone
    by_cases hany : ∃ s, m.Declares id s
    · obtain ⟨s, hs⟩ := hany
      have hother : ¬ ∀ s', m.Declares id s' → s' = s := fun h => hnone s ((hsome s).2 ⟨hs, h⟩)
      push Not at hother
      obtain ⟨s', hs', hne⟩ := hother
      exact .inr ⟨s, s', hne.symm, hs, hs'⟩
    · exact .inl (not_exists.1 hany)
  · rintro (hnot | ⟨s, s', hne, hs, hs'⟩) t ht
    · exact hnot t ((hsome t).1 ht).1
    · have honly := ((hsome t).1 ht).2
      exact hne ((honly s hs).trans (honly s' hs').symm)

end Interpreter

/-! ## A function that is hidden -/

namespace Sample

/-- A function that takes nothing, and the same under another name. -/
def sameSymbol : Growing (Declaration × Declaration) := do
  let package ← Growing.intern "demo"
  let f ← Growing.intern "f"
  let g ← Growing.intern "g"
  let symbol ← Growing.mintFunction
  let d : Declaration :=
    ⟨symbol, .topLevel package f, [], .int, ⟨.everyone, .ofBits 0⟩, .source, .body, [], none⟩
  return (d, { d with id := .topLevel package g })

/-- The program declares the one function, and the other one takes its place. -/
def renamed : Interpreter :=
  match Program.standard.grow sameSymbol with
  | .ok ((f, g), p) => (Interpreter.new (p.addDeclaration f)).register g
  | .error _ => .new .standard

/-- The name that the program declares. -/
def hiddenId : CallableId := .topLevel ⟨11⟩ ⟨12⟩

/-- The name that is called. -/
def shownId : CallableId := .topLevel ⟨11⟩ ⟨13⟩

theorem renamed_registers : Interpreter.Registers renamed.program renamed := by
  unfold renamed
  split
  · exact .register .new _
  · exact .new

end Sample

open Sample in
/-- The identity of the hidden function is resolved to a symbol that calls another one. -/
theorem Interpreter.resolve_of_hides :
    Registers renamed.program renamed ∧ renamed.Hides hiddenId ∧
      renamed.resolve hiddenId = some ⟨0⟩ ∧ ¬ renamed.Declares hiddenId ⟨0⟩ :=
  ⟨renamed_registers, by decide +kernel, by decide +kernel, by decide +kernel⟩

open Sample in
/-- The identity that took its place is resolved to the symbol of both. -/
theorem Interpreter.resolve_iff_declares_renamed :
    Registers renamed.program renamed ∧ ¬ renamed.Hides shownId ∧
      renamed.Declares shownId ⟨0⟩ ∧ ∀ s, renamed.Declares shownId s → s = ⟨0⟩ := by
  have hhidden : ¬ renamed.Hides shownId := by decide +kernel
  obtain ⟨hsome, -⟩ := Interpreter.resolve_iff_declares renamed_registers hhidden
  have hresolved : renamed.resolve shownId = some ⟨0⟩ := by decide +kernel
  exact ⟨renamed_registers, hhidden, (hsome ⟨0⟩).1 hresolved⟩

end Companions
