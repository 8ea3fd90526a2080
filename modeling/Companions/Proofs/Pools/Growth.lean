import Companions.Pools
import Companions.Predicate
import Companions.Proofs.Pools.ClassPaths
set_option autoImplicit false

/-!
# Growth of the pools

Pools only grow.  Whatever a handle stood for once it stands for at every later moment, and a symbol
that was minted stays minted (`Pools.Grows`).

Work on the pools is read from its success: `run_bind_eq_ok_iff` takes a successful piece of work
apart, and `OnlyGrows` says that all that the work did to the pools was to add to them.
-/

namespace Companions

/-- Nothing that the pools held before has been lost or has changed. -/
structure Pools.Grows (p q : Pools) : Prop where
  names : ∀ n text, p.names.text? n = some text → q.names.text? n = some text
  types : ∀ id type, p.types.get? id = some type → q.types.get? id = some type
  functions : p.symbols.functions ≤ q.symbols.functions
  params : p.symbols.params ≤ q.symbols.params
  constructors : p.symbols.constructors ≤ q.symbols.constructors

namespace Pools.Grows

variable {p q r : Pools}

theorem refl (p : Pools) : p.Grows p :=
  ⟨fun _ _ h => h, fun _ _ h => h, Nat.le_refl _, Nat.le_refl _, Nat.le_refl _⟩

theorem trans (hpq : p.Grows q) (hqr : q.Grows r) : p.Grows r where
  names n text h := hqr.names n text (hpq.names n text h)
  types id type h := hqr.types id type (hpq.types id type h)
  functions := Nat.le_trans hpq.functions hqr.functions
  params := Nat.le_trans hpq.params hqr.params
  constructors := Nat.le_trans hpq.constructors hqr.constructors

theorem contains (h : p.Grows q) {id : TypeId} (hid : p.types.contains id = true) :
    q.types.contains id = true := by
  obtain ⟨type, htype⟩ := TypePool.contains_iff.1 hid
  exact TypePool.contains_iff.2 ⟨type, h.types id type htype⟩

theorem hasParam (h : p.Grows q) {s : ParamSymbol} (hs : p.symbols.HasParam s) :
    q.symbols.HasParam s :=
  hs.mono h.params

end Pools.Grows

/-- The fixed types are in every pool. -/
theorem TypePool.contains_of_lt_seven (p : TypePool) {id : TypeId} (h : id.number < 7) :
    p.contains id = true := by
  rw [contains, decide_eq_true_eq]
  exact Nat.lt_of_lt_of_le h p.seven_le_size

namespace Growing

variable {α β : Type} {p q r : Pools}

/-! ## Reading a success -/

theorem run_bind_of_ok {x : Growing α} {f : α → Growing β} {a : α} (h : x.run p = .ok (a, q)) :
    (x >>= f).run p = (f a).run q := by
  rw [StateT.run_bind, h]
  rfl

/-- Work in two steps succeeds exactly if both steps do. -/
theorem run_bind_eq_ok_iff {x : Growing α} {f : α → Growing β} {b : β} :
    (x >>= f).run p = .ok (b, r) ↔ ∃ a q, x.run p = .ok (a, q) ∧ (f a).run q = .ok (b, r) := by
  constructor
  · intro h
    cases hx : x.run p with
    | error fault =>
      rw [StateT.run_bind, hx] at h
      cases h
    | ok result => exact ⟨_, _, rfl, run_bind_of_ok hx ▸ h⟩
  · rintro ⟨a, q, hx, hf⟩
    rw [run_bind_of_ok hx, hf]

theorem run_pure_eq_ok_iff {a b : α} :
    (pure a : Growing α).run p = .ok (b, q) ↔ a = b ∧ p = q := by
  rw [StateT.run_pure]
  simp [pure, Except.pure]

/-- What does not depend on the pools goes on into the work. -/
@[simp] theorem liftM_ok (a : α) :
    (liftM (Except.ok a : Except Fault α) : Growing α) = pure a := rfl

theorem run_liftM_eq_ok_iff {x : Except Fault α} {a : α} :
    (liftM x : Growing α).run p = .ok (a, q) ↔ x = .ok a ∧ p = q := by
  cases x with
  | error fault =>
    constructor
    · intro h
      cases h
    · rintro ⟨h, -⟩
      cases h
  | ok b =>
    constructor
    · intro h
      cases h
      exact ⟨rfl, rfl⟩
    · rintro ⟨h, rfl⟩
      cases h
      rfl

/-! ## Work that only adds -/

/-- All that the work does to the pools is to add to them. -/
def OnlyGrows (work : Growing α) : Prop := ∀ p a q, work.run p = .ok (a, q) → p.Grows q

theorem OnlyGrows.pure (a : α) : OnlyGrows (pure a : Growing α) := by
  intro p b q h
  obtain ⟨-, rfl⟩ := run_pure_eq_ok_iff.1 h
  exact .refl p

theorem OnlyGrows.bind {x : Growing α} {f : α → Growing β} (hx : OnlyGrows x)
    (hf : ∀ a, OnlyGrows (f a)) : OnlyGrows (x >>= f) := by
  intro p b r h
  obtain ⟨a, q, hxa, hfb⟩ := run_bind_eq_ok_iff.1 h
  exact (hx p a q hxa).trans (hf a q b r hfb)

theorem OnlyGrows.liftM (x : Except Fault α) : OnlyGrows (liftM x : Growing α) := by
  intro p a q h
  obtain ⟨-, rfl⟩ := run_liftM_eq_ok_iff.1 h
  exact .refl p

/-- More texts are known, and all else is as it was. -/
theorem grows_of_names {names : NameTable}
    (h : ∀ n text, p.names.text? n = some text → names.text? n = some text) :
    p.Grows { p with names } :=
  ⟨h, fun _ _ h => h, Nat.le_refl _, Nat.le_refl _, Nat.le_refl _⟩

/-- More types are known, and all else is as it was. -/
theorem grows_of_types {types : TypePool}
    (h : ∀ id type, p.types.get? id = some type → types.get? id = some type) :
    p.Grows { p with types } :=
  ⟨fun _ _ h => h, h, Nat.le_refl _, Nat.le_refl _, Nat.le_refl _⟩

theorem grows_intern (p : Pools) (text : String) :
    p.Grows { p with names := (p.names.intern text).2 } :=
  grows_of_names fun _ _ h => NameTable.text?_intern_of_some h text

/-- Reading a path adds names only. -/
theorem grows_ofPath (p : Pools) (path : String) :
    p.Grows { p with names := (ClassId.ofPath p.names path).2 } :=
  grows_of_names fun _ _ h => ClassId.text?_ofPath_of_some h path

theorem grows_internType (p : Pools) (type : ResolvedType) :
    p.Grows { p with types := (p.types.intern type).2 } :=
  grows_of_types fun _ _ h => TypePool.get?_intern_of_some h type

/-- The name that is answered stands for the text. -/
theorem run_intern_eq_ok {text : String} {n : Name} (h : (intern text).run p = .ok (n, q)) :
    p.Grows q ∧ q.names.text? n = some text := by
  cases h
  exact ⟨grows_intern p text, NameTable.text?_intern p.names text⟩

/-- The type that is answered is the type of the class. -/
theorem run_classType_eq_ok {c : ClassId} {id : TypeId} (h : (classType c).run p = .ok (id, q)) :
    p.Grows q ∧ q.types.get? id = some ⟨.object c, .notNull⟩ := by
  cases h
  exact ⟨grows_internType p _, TypePool.get?_intern p.types _⟩

/-- The symbol that is answered is what the counter shows, which then goes on. -/
theorem run_mintParam_eq_ok {s : ParamSymbol} (h : mintParam.run p = .ok (s, q)) :
    p.Grows q ∧ s = ⟨SymbolSupply.shown p.symbols.params⟩ ∧
      q.symbols.params = p.symbols.params + 1 := by
  cases h
  exact ⟨⟨fun _ _ h => h, fun _ _ h => h, Nat.le_refl _, Nat.le_succ _, Nat.le_refl _⟩, rfl, rfl⟩

theorem run_mintFunction_eq_ok {s : FunctionSymbol} (h : mintFunction.run p = .ok (s, q)) :
    p.Grows q ∧ s = ⟨SymbolSupply.shown p.symbols.functions⟩ ∧
      q.symbols.functions = p.symbols.functions + 1 := by
  cases h
  exact ⟨⟨fun _ _ h => h, fun _ _ h => h, Nat.le_succ _, Nat.le_refl _, Nat.le_refl _⟩, rfl, rfl⟩

/-- Does a piece of work so many times. -/
def times (work : Growing α) : Nat → Growing Unit
  | 0 => return ()
  | n + 1 => do
    let _ ← work
    times work n

/-- Minting so many symbols moves the counter on, and nothing else. -/
theorem run_times_mintFunction (n : Nat) (p : Pools) :
    (times mintFunction n).run p = .ok ((), { p with
      symbols := { p.symbols with functions := p.symbols.functions + n } }) := by
  induction n generalizing p with
  | zero => rfl
  | succ n ih =>
    obtain ⟨s, hmint⟩ : ∃ s, mintFunction.run p = .ok (s, { p with
        symbols := { p.symbols with functions := p.symbols.functions + 1 } }) := ⟨_, rfl⟩
    rw [times, run_bind_of_ok hmint, ih]
    simp only [Nat.add_assoc, Nat.add_comm 1 n]

theorem run_times_mintParam (n : Nat) (p : Pools) :
    (times mintParam n).run p = .ok ((), { p with
      symbols := { p.symbols with params := p.symbols.params + n } }) := by
  induction n generalizing p with
  | zero => rfl
  | succ n ih =>
    obtain ⟨s, hmint⟩ : ∃ s, mintParam.run p = .ok (s, { p with
        symbols := { p.symbols with params := p.symbols.params + 1 } }) := ⟨_, rfl⟩
    rw [times, run_bind_of_ok hmint, ih]
    simp only [Nat.add_assoc, Nat.add_comm 1 n]

theorem run_times_mintConstructor (n : Nat) (p : Pools) :
    (times mintConstructor n).run p = .ok ((), { p with
      symbols := { p.symbols with constructors := p.symbols.constructors + n } }) := by
  induction n generalizing p with
  | zero => rfl
  | succ n ih =>
    obtain ⟨s, hmint⟩ : ∃ s, mintConstructor.run p = .ok (s, { p with
        symbols := { p.symbols with constructors := p.symbols.constructors + 1 } }) := ⟨_, rfl⟩
    rw [times, run_bind_of_ok hmint, ih]
    simp only [Nat.add_assoc, Nat.add_comm 1 n]

/-- The type that is answered has the kind of the type that was given, and the nullability that was
asked for. -/
theorem run_withNullability_eq_ok {type id : TypeId} {n : Nullability}
    (h : (withNullability type n).run p = .ok (id, q)) :
    p.Grows q ∧ ∃ t, p.types.get? type = some t ∧
      q.types.get? id = some { t with nullability := n } := by
  cases ht : p.types.get? type with
  | none =>
    simp [withNullability, StateT.run, TypePool.withNullability, TypePool.get, ht, bind,
      Except.bind] at h
  | some t =>
    by_cases hn : t.nullability = n
    · simp [withNullability, StateT.run, TypePool.withNullability, TypePool.get, ht, hn, bind,
        Except.bind, pure, Except.pure] at h
      obtain ⟨rfl, rfl⟩ := h
      refine ⟨.refl p, t, rfl, ?_⟩
      rw [ht, ← hn]
    · simp [withNullability, StateT.run, TypePool.withNullability, TypePool.get, ht, hn, bind,
        Except.bind, pure, Except.pure] at h
      obtain ⟨rfl, rfl⟩ := h
      exact ⟨grows_internType p _, t, rfl, TypePool.get?_intern p.types _⟩

/-- Forcing the nullability of a known type succeeds. -/
theorem exists_run_withNullability {type : TypeId} (n : Nullability)
    (h : p.types.contains type = true) :
    ∃ id q, (withNullability type n).run p = .ok (id, q) := by
  obtain ⟨t, ht⟩ := TypePool.contains_iff.1 h
  simp [withNullability, StateT.run, TypePool.withNullability, TypePool.get, ht, bind, Except.bind,
    pure, Except.pure]

theorem OnlyGrows.intern (text : String) : OnlyGrows (Growing.intern text) :=
  fun _ _ _ h => (run_intern_eq_ok h).1

theorem OnlyGrows.marker (path : String) : OnlyGrows (Growing.marker path) := by
  intro p a q h
  cases h
  exact grows_intern p path

theorem OnlyGrows.mintFunction : OnlyGrows Growing.mintFunction :=
  fun _ _ _ h => (run_mintFunction_eq_ok h).1

theorem OnlyGrows.mintParam : OnlyGrows Growing.mintParam :=
  fun _ _ _ h => (run_mintParam_eq_ok h).1

theorem OnlyGrows.mintConstructor : OnlyGrows Growing.mintConstructor := by
  intro p s q h
  cases h
  exact ⟨fun _ _ h => h, fun _ _ h => h, Nat.le_refl _, Nat.le_refl _, Nat.le_succ _⟩

theorem OnlyGrows.times {work : Growing α} (h : OnlyGrows work) (n : Nat) :
    OnlyGrows (Growing.times work n) := by
  induction n with
  | zero => exact .pure ()
  | succ n ih => exact .bind h fun _ => ih

theorem OnlyGrows.withNullability (type : TypeId) (n : Nullability) :
    OnlyGrows (Growing.withNullability type n) :=
  fun _ _ _ h => (run_withNullability_eq_ok h).1

theorem OnlyGrows.classId (path : String) : OnlyGrows (Growing.classId path) := by
  intro p a q h
  cases h
  exact grows_ofPath p path

/-- Reading markers adds names only. -/
theorem grows_internMarkers (p : Pools) (texts : List String) :
    p.Grows { p with names := (Predicate.internMarkers p.names texts).2 } := by
  induction texts generalizing p with
  | nil => exact .refl p
  | cons text rest ih => exact (grows_intern p text).trans (ih _)

end Growing

end Companions
