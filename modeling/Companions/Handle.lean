set_option autoImplicit false

/-!
# Handles

Names, types, declarations and the nodes of a body are referred to by numbers.  A number means
something only to the table or the counter that handed it out, so each kind of handle is a type of
its own, and a handle of one kind cannot be read as a handle of another.

`describe` gives the wording of a handle inside messages.
-/

namespace Companions

/-! ## Names and types -/

/-- An interned text. -/
structure Name where
  number : Nat
  deriving DecidableEq, Repr, Inhabited

namespace Name

/-- The empty text, which every table holds first. -/
def empty : Name := ⟨0⟩

/-- The handle as it is written in reports. -/
def describe (n : Name) : String := s!"Name({n.number})"

end Name

/-- An interned type. -/
structure TypeId where
  number : Nat
  deriving DecidableEq, Repr, Inhabited

namespace TypeId

/-- The type of 64-bit numbers. -/
def int : TypeId := ⟨0⟩

/-- The type of truth values. -/
def boolean : TypeId := ⟨1⟩

/-- The type of texts. -/
def string : TypeId := ⟨2⟩

/-- The type of what is evaluated for its effect. -/
def unit : TypeId := ⟨3⟩

/-- The bottom type, which has no values. -/
def nothing : TypeId := ⟨4⟩

/-- The type that all values but null belong to. -/
def any : TypeId := ⟨5⟩

/-- The type of the null literal. -/
def nullableNothing : TypeId := ⟨6⟩

/-- The seven fixed types are called by name, every other type by number. -/
def describe (t : TypeId) : String :=
  match t.number with
  | 0 => "TypeId::INT"
  | 1 => "TypeId::BOOL"
  | 2 => "TypeId::STRING"
  | 3 => "TypeId::UNIT"
  | 4 => "TypeId::NOTHING"
  | 5 => "TypeId::ANY"
  | 6 => "TypeId::NULLABLE_NOTHING"
  | n => s!"TypeId({n})"

end TypeId

/-! ## Symbols -/

/-- A function declaration. -/
structure FunctionSymbol where
  number : Nat
  deriving DecidableEq, Repr, Inhabited

/-- The symbol as it is written in reports. -/
def FunctionSymbol.describe (s : FunctionSymbol) : String := s!"FunctionSymbol({s.number})"

/-- A value parameter of a function, a constructor or a handler. -/
structure ParamSymbol where
  number : Nat
  deriving DecidableEq, Repr, Inhabited

/-- The symbol as it is written in reports. -/
def ParamSymbol.describe (s : ParamSymbol) : String := s!"ParamSymbol({s.number})"

/-- A constructor of a class. -/
structure ConstructorSymbol where
  number : Nat
  deriving DecidableEq, Repr, Inhabited

/-- The symbol as it is written in reports. -/
def ConstructorSymbol.describe (s : ConstructorSymbol) : String :=
  s!"ConstructorSymbol({s.number})"

/-- The counters that mint symbols, one for each kind: how many symbols of the kind were minted. -/
structure SymbolSupply where
  functions : Nat
  params : Nat
  constructors : Nat
  deriving DecidableEq, Repr, Inhabited

namespace SymbolSupply

/-- How many numbers there are for symbols of a kind.  A counter is 32 bits wide. -/
def capacity : Nat := UInt32.size

/-- What a counter shows after so many symbols.  After the last number it starts over, and symbols
repeat. -/
def shown (count : Nat) : Nat := count % capacity

/-- Nothing has been minted yet. -/
def fresh : SymbolSupply := ⟨0, 0, 0⟩

/-- Mints the symbol of a function. -/
def mintFunction (s : SymbolSupply) : FunctionSymbol × SymbolSupply :=
  (⟨shown s.functions⟩, { s with functions := s.functions + 1 })

/-- Mints the symbol of a parameter. -/
def mintParam (s : SymbolSupply) : ParamSymbol × SymbolSupply :=
  (⟨shown s.params⟩, { s with params := s.params + 1 })

/-- Mints the symbol of a constructor. -/
def mintConstructor (s : SymbolSupply) : ConstructorSymbol × SymbolSupply :=
  (⟨shown s.constructors⟩, { s with constructors := s.constructors + 1 })

/-! ### What was minted -/

/-- The number was handed out by a counter that so many symbols were minted with. -/
def HandedOut (count number : Nat) : Prop := ∃ n, n < count ∧ number = shown n

/-- The symbol was handed out by this supply. -/
def HasFunction (s : SymbolSupply) (f : FunctionSymbol) : Prop := HandedOut s.functions f.number

/-- The symbol was handed out by this supply. -/
def HasParam (s : SymbolSupply) (p : ParamSymbol) : Prop := HandedOut s.params p.number

/-- The symbol was handed out by this supply. -/
def HasConstructor (s : SymbolSupply) (c : ConstructorSymbol) : Prop :=
  HandedOut s.constructors c.number

variable {count later number : Nat}

theorem capacity_pos : 0 < capacity := Nat.succ_pos 4294967295

theorem shown_lt (count : Nat) : shown count < capacity := Nat.mod_lt count capacity_pos

theorem shown_of_lt (h : count < capacity) : shown count = count := Nat.mod_eq_of_lt h

/-- Every number was handed out, or those that the counter has come to. -/
theorem handedOut_iff : HandedOut count number ↔ number < count ∧ number < capacity := by
  constructor
  · rintro ⟨n, hn, rfl⟩
    exact ⟨Nat.lt_of_le_of_lt (Nat.mod_le n capacity) hn, shown_lt n⟩
  · rintro ⟨hcount, hcapacity⟩
    exact ⟨number, hcount, (shown_of_lt hcapacity).symm⟩

instance : Decidable (HandedOut count number) := decidable_of_iff _ handedOut_iff.symm

instance (s : SymbolSupply) (f : FunctionSymbol) : Decidable (s.HasFunction f) :=
  inferInstanceAs (Decidable (HandedOut _ _))

instance (s : SymbolSupply) (p : ParamSymbol) : Decidable (s.HasParam p) :=
  inferInstanceAs (Decidable (HandedOut _ _))

instance (s : SymbolSupply) (c : ConstructorSymbol) : Decidable (s.HasConstructor c) :=
  inferInstanceAs (Decidable (HandedOut _ _))

theorem HandedOut.mono (h : HandedOut count number) (hle : count ≤ later) :
    HandedOut later number := by
  obtain ⟨n, hn, hnumber⟩ := h
  exact ⟨n, Nat.lt_of_lt_of_le hn hle, hnumber⟩

/-- After minting, the earlier numbers are handed out and the one that was shown. -/
theorem handedOut_succ_iff :
    HandedOut (count + 1) number ↔ HandedOut count number ∨ number = shown count := by
  constructor
  · rintro ⟨n, hn, rfl⟩
    rcases Nat.lt_succ_iff_lt_or_eq.1 hn with hlt | rfl
    · exact .inl ⟨n, hlt, rfl⟩
    · exact .inr rfl
  · rintro (h | rfl)
    · exact h.mono (Nat.le_succ count)
    · exact ⟨count, Nat.lt_succ_self count, rfl⟩

/-- A counter comes round no sooner than after all numbers. -/
theorem eq_of_shown_eq {m n : Nat} (h : shown m = shown n) (hmn : m < n + capacity)
    (hnm : n < m + capacity) : m = n := by
  unfold shown capacity UInt32.size at *
  omega

/-- As long as there are numbers left, the next one is new. -/
theorem not_handedOut_shown (hroom : later < capacity) (hle : count ≤ later) :
    ¬ HandedOut count (shown later) := by
  rw [handedOut_iff, shown_of_lt hroom]
  exact fun h => Nat.not_lt.2 hle h.1

/-- The symbol was minted while the supply became the later one. -/
def MintsFunction (s later : SymbolSupply) (f : FunctionSymbol) : Prop :=
  ∃ n, s.functions ≤ n ∧ n < later.functions ∧ f = ⟨shown n⟩

variable {s t : SymbolSupply} {f : FunctionSymbol}

theorem MintsFunction.mono {s' t' : SymbolSupply} (h : s.MintsFunction t f)
    (hbefore : s'.functions ≤ s.functions) (hafter : t.functions ≤ t'.functions) :
    s'.MintsFunction t' f := by
  obtain ⟨n, hn, hn', rfl⟩ := h
  exact ⟨n, Nat.le_trans hbefore hn, Nat.lt_of_lt_of_le hn' hafter, rfl⟩

/-- A symbol that is minted is none of the earlier ones, if the counter does not come round. -/
theorem MintsFunction.not_hasFunction (h : s.MintsFunction t f) (hroom : t.functions ≤ capacity) :
    ¬ s.HasFunction f := by
  obtain ⟨n, hbefore, hn, rfl⟩ := h
  exact not_handedOut_shown (Nat.lt_of_lt_of_le hn hroom) hbefore

end SymbolSupply

/-! ## Places in a body -/

/-- A node of a body. -/
structure ExprId where
  number : Nat
  deriving DecidableEq, Repr, Inhabited

/-- A place that may be left empty: no receiver, no else branch, no root yet. -/
abbrev ExprRef := Option ExprId

/-- The reference as it is written in reports, also where it is left out. -/
def ExprRef.describe : ExprRef → String
  | some e => s!"ExprId({e.number})"
  | none => "ExprId::INVALID"

/-- A return target of a body. -/
structure LabelId where
  number : Nat
  deriving DecidableEq, Repr, Inhabited

/-- The label as it is written in reports. -/
def LabelId.describe (l : LabelId) : String := s!"LabelId({l.number})"

end Companions
