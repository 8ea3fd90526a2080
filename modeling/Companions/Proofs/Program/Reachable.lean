import Companions.Program
import Companions.Proofs.Pools.Growth
import Mathlib.Data.List.Nodup
import Mathlib.Logic.Relation
set_option autoImplicit false

/-!
# Programs that come up

A program begins with the class of everything that can be thrown and changes by declarations only.
What holds of every program that comes up this way is said once (`Program.Sound`): the types that
companions need are in its pools, and the constructors that a class lists are known.  They are
constructors of that class as long as the counter of constructors has not come round.

The declarations are whatever the caller adds; of them only this is said, that no two have the same
symbol (`Program.Reachable.nodup_symbols`).
-/

namespace Companions

namespace Program

/-! ## Looking up what was put -/

/-- Where no two items have the same key, an item is found under its own. -/
theorem find?_eq_some_iff_of_nodup {α β : Type} [DecidableEq β] {key : α → β} {l : List α}
    (h : (l.map key).Nodup) {k : β} {a : α} :
    l.find? (fun x => key x = k) = some a ↔ a ∈ l ∧ key a = k := by
  constructor
  · intro hfound
    exact ⟨List.mem_of_find?_eq_some hfound, by simpa using List.find?_some hfound⟩
  · rintro ⟨ha, rfl⟩
    cases hfound : l.find? (fun x => key x = key a) with
    | none =>
      have hnot := List.find?_eq_none.1 hfound a ha
      simp at hnot
    | some b =>
      have hkey : key b = key a := by simpa using List.find?_some hfound
      rw [List.inj_on_of_nodup_map h (List.mem_of_find?_eq_some hfound) ha hkey]

/-- Of a list into which an item was put, look-up by key finds the item under its own key and what
it found before under any other. -/
theorem find?_putFirst {α β : Type} [DecidableEq β] (key : α → β) (new : α) (l : List α) (k : β) :
    (putFirst (fun a => key a = key new) new l).find? (fun a => key a = k) =
      if key new = k then some new else l.find? (fun a => key a = k) := by
  induction l with
  | nil => by_cases hk : key new = k <;> simp [putFirst, hk]
  | cons a rest ih =>
    by_cases ha : key a = key new
    · by_cases hk : key new = k
      · simp [putFirst, ha, hk]
      · simp [putFirst, ha, hk]
    · by_cases hk : key new = k
      · have hak : key a ≠ k := hk ▸ ha
        simpa [putFirst, ha, hk, hak] using ih
      · by_cases hak : key a = k
        · have hne : k ≠ key new := fun e => hk e.symm
          simp [putFirst, hk, hak, hne]
        · simpa [putFirst, ha, hk, hak] using ih

/-- What is put in front of a table is found under its key, and all else is found as before. -/
theorem lookup_put {α β : Type} [DecidableEq α] (table : List (α × β)) (a : α) (b : β) (k : α) :
    List.lookup k ((a, b) :: table) = if a = k then some b else table.lookup k := by
  rw [List.lookup_cons]
  by_cases h : a = k
  · simp [h]
  · simp [h, beq_false_of_ne (Ne.symm h)]

/-- Putting an item twice is putting it once. -/
theorem putFirst_putFirst {α β : Type} [DecidableEq β] (key : α → β) (old new : α)
    (h : key old = key new) (l : List α) :
    putFirst (fun a => key a = key new) new (putFirst (fun a => key a = key old) old l) =
      putFirst (fun a => key a = key new) new l := by
  induction l with
  | nil => simp [putFirst, h]
  | cons a rest ih =>
    by_cases ha : key a = key new
    · simp [putFirst, ha, h]
    · rw [h] at ih
      simp [putFirst, ha, h, ih]

/-- Putting an item keeps the keys in their order; a new key comes last. -/
theorem map_putFirst {α β : Type} [DecidableEq β] (key : α → β) (new : α) (l : List α) :
    (putFirst (fun a => key a = key new) new l).map key =
      if key new ∈ l.map key then l.map key else l.map key ++ [key new] := by
  induction l with
  | nil => simp [putFirst]
  | cons a rest ih =>
    by_cases ha : key a = key new
    · simp [putFirst, ha]
    · have hput : putFirst (fun a => key a = key new) new (a :: rest) =
          a :: putFirst (fun a => key a = key new) new rest := by
        simp [putFirst, ha]
      have hmem : key new ∈ key a :: rest.map key ↔ key new ∈ rest.map key :=
        List.mem_cons.trans (or_iff_right fun h => ha h.symm)
      rw [hput, List.map_cons, List.map_cons, ih]
      split
      · next h => rw [if_pos (hmem.2 h)]
      · next h => rw [if_neg fun h' => h (hmem.1 h'), List.cons_append]

/-- Putting an item brings in nothing else. -/
theorem mem_of_mem_putFirst {α : Type} {same : α → Bool} {new a : α} {l : List α}
    (h : a ∈ putFirst same new l) : a = new ∨ a ∈ l := by
  induction l with
  | nil => exact .inl (List.mem_singleton.1 h)
  | cons b rest ih =>
    rw [putFirst] at h
    split at h
    · exact (List.mem_cons.1 h).imp_right (List.mem_cons_of_mem b)
    · rcases List.mem_cons.1 h with rfl | h
      · exact .inr List.mem_cons_self
      · exact (ih h).imp_right (List.mem_cons_of_mem b)

/-- An item behind a list is kept unless the list holds it. -/
theorem eraseDups_append_singleton {α : Type} [BEq α] [LawfulBEq α] (l : List α) (a : α) :
    (l ++ [a]).eraseDups = if l.contains a then l.eraseDups else l.eraseDups ++ [a] := by
  rw [List.eraseDups_append]
  cases ha : l.contains a with
  | true =>
    have hnone : [a].removeAll l = [] := by simp_all [List.removeAll]
    simp [hnone]
  | false =>
    have hone : [a].removeAll l = [a] := by simp_all [List.removeAll]
    simp [hone, List.eraseDups_cons]

/-- No two items get the same key by putting one under its own. -/
theorem nodup_map_putFirst {α β : Type} [DecidableEq β] {key : α → β} (new : α) {l : List α}
    (h : (l.map key).Nodup) :
    ((putFirst (fun a => key a = key new) new l).map key).Nodup := by
  rw [map_putFirst]
  split
  · exact h
  · next hnew =>
    refine List.nodup_append.2 ⟨h, List.nodup_singleton _, fun k hk k' hk' heq => hnew ?_⟩
    rw [← List.mem_singleton.1 hk', ← heq]
    exact hk

theorem class?_putClass (p : Program) (d : Class) (c : ClassId) :
    (p.putClass d).class? c = if d.id = c then some d else p.class? c :=
  find?_putFirst Class.id d p.classes c

theorem class?_declareClass (p : Program) (c : ClassId) (supertype : Option ClassId) :
    (p.declareClass c supertype).class? c = some (p.declared c supertype) :=
  (class?_putClass p (p.declared c supertype) c).trans (if_pos rfl)

theorem putClass_putClass (p : Program) {old new : Class} (h : old.id = new.id) :
    (p.putClass old).putClass new = p.putClass new :=
  congrArg (fun classes => { p with classes }) (putFirst_putFirst Class.id old new h p.classes)

/-- What becomes of a class that gets a constructor does not depend on its having been put into the
program before. -/
theorem putWithConstructor_putClass (p : Program) (d : Class) (params : List Parameter) :
    (p.putClass d).putWithConstructor d params = p.putWithConstructor d params := by
  have h : (p.putClass d).putClass
      { d with constructors := d.constructors ++ [p.pools.symbols.mintConstructor.1] } =
        p.putClass
          { d with constructors := d.constructors ++ [p.pools.symbols.mintConstructor.1] } :=
    putClass_putClass p rfl
  exact congrArg (fun r : Program => (p.pools.symbols.mintConstructor.1,
    { r.putConstructor ⟨p.pools.symbols.mintConstructor.1, d.id, params⟩ with
      pools := { r.pools with symbols := p.pools.symbols.mintConstructor.2 } })) h

theorem id_of_class? {p : Program} {c : ClassId} {d : Class} (h : p.class? c = some d) :
    d.id = c := by
  simpa using List.find?_some h

theorem symbol_of_declaration? {p : Program} {s : FunctionSymbol} {d : Declaration}
    (h : p.declaration? s = some d) : d.symbol = s := by
  simpa using List.find?_some h

theorem mem_of_declaration? {p : Program} {s : FunctionSymbol} {d : Declaration}
    (h : p.declaration? s = some d) : d ∈ p.declarations :=
  List.mem_of_find?_eq_some h

/-- A declared class lists the constructors that it had. -/
theorem constructors_declared (p : Program) (c : ClassId) (supertype : Option ClassId)
    {s : ConstructorSymbol} (h : s ∈ (p.declared c supertype).constructors) :
    ∃ d, p.class? c = some d ∧ s ∈ d.constructors := by
  cases hc : p.class? c with
  | none => simp [declared, hc] at h
  | some d => exact ⟨d, rfl, by simpa [declared, hc] using h⟩

/-- Only a declared class gets a constructor. -/
theorem addConstructor_eq_ok_iff {p : Program} {c : ClassId} {params : List Parameter}
    {a : ConstructorSymbol × Program} :
    p.addConstructor c params = .ok a ↔
      ∃ d, p.class? c = some d ∧ p.putWithConstructor d params = a := by
  unfold addConstructor
  cases hc : p.class? c with
  | none => simp [bind, Except.bind]
  | some d => simp [bind, Except.bind, pure, Except.pure]

theorem exists_of_addConstructor {p p' : Program} {c : ClassId} {params : List Parameter}
    {s : ConstructorSymbol} (h : p.addConstructor c params = .ok (s, p')) :
    ∃ d, p.class? c = some d ∧ (p.putWithConstructor d params).2 = p' := by
  obtain ⟨d, hc, hput⟩ := addConstructor_eq_ok_iff.1 h
  exact ⟨d, hc, congrArg Prod.snd hput⟩

/-! ## Steps -/

/-- One thing done to a program. -/
inductive Step (p : Program) : Program → Prop
  /-- Names, types or symbols are added. -/
  | grow {q : Pools} (h : p.pools.Grows q) : Step p { p with pools := q }
  | declareClass (c : ClassId) (supertype : Option ClassId) : Step p (p.declareClass c supertype)
  | addConstructor {c : ClassId} {params : List Parameter} {s : ConstructorSymbol} {p' : Program}
      (h : p.addConstructor c params = .ok (s, p')) : Step p p'
  | addDeclaration (d : Declaration) : Step p (p.addDeclaration d)

/-- The program comes up when declarations are made one after another. -/
inductive Reachable : Program → Prop
  | empty : Reachable .empty
  | step {p p' : Program} (before : Reachable p) (last : p.Step p') : Reachable p'

/-- What holds of every program that comes up. -/
structure Sound (p : Program) : Prop where
  nothing : p.builtins.nothing = .nothing
  null : p.builtins.null = .nullableNothing
  throwable : p.pools.types.get? p.builtins.throwable =
    some ⟨.object p.builtins.throwableClass, .notNull⟩
  /-- A constructor that a class lists is known, and makes objects of the class as long as no symbol
  of a constructor was minted twice. -/
  constructors : ∀ c d s, p.class? c = some d → s ∈ d.constructors →
    ∃ k, p.constructor? s = some k ∧
      (p.pools.symbols.constructors ≤ SymbolSupply.capacity → k.type = c)
  minted : ∀ k ∈ p.constructors, p.pools.symbols.HasConstructor k.symbol

theorem constructors_putWithConstructor (p : Program) (d : Class) (params : List Parameter) :
    (p.putWithConstructor d params).2.constructors =
      putFirst (·.symbol = (p.putWithConstructor d params).1)
        ⟨(p.putWithConstructor d params).1, d.id, params⟩ p.constructors := rfl

/-- The class gets the new constructor behind those that it has, and no other class changes. -/
theorem class?_putWithConstructor (p : Program) (d : Class) (params : List Parameter)
    (c : ClassId) :
    (p.putWithConstructor d params).2.class? c =
      if d.id = c then
        some { d with constructors := d.constructors ++ [(p.putWithConstructor d params).1] }
      else p.class? c :=
  class?_putClass p { d with constructors := d.constructors ++ [_] } c

/-- The constructor is found under its symbol, and all others are found as before. -/
theorem constructor?_putWithConstructor (p : Program) (d : Class) (params : List Parameter)
    (s : ConstructorSymbol) :
    (p.putWithConstructor d params).2.constructor? s =
      if (p.putWithConstructor d params).1 = s then
        some ⟨(p.putWithConstructor d params).1, d.id, params⟩
      else p.constructor? s :=
  find?_putFirst Constructor.symbol ⟨_, d.id, params⟩ p.constructors s

/-- As long as there are symbols left, the symbol of a new constructor is that of no other. -/
theorem Sound.symbol_ne {p : Program} (h : p.Sound)
    (hroom : p.pools.symbols.constructors < SymbolSupply.capacity) (d : Class)
    (params : List Parameter) {k : Constructor} (hk : k ∈ p.constructors) :
    k.symbol ≠ (p.putWithConstructor d params).1 := by
  intro heq
  have hminted := h.minted k hk
  rw [heq] at hminted
  exact SymbolSupply.not_handedOut_shown hroom (Nat.le_refl _) hminted

/-- Adding a constructor to a class whose constructors are its own keeps a program sound. -/
theorem Sound.putWithConstructor {p : Program} (h : p.Sound) {d : Class} {params : List Parameter}
    (hd : ∀ s ∈ d.constructors, ∃ k, p.constructor? s = some k ∧
      (p.pools.symbols.constructors ≤ SymbolSupply.capacity → k.type = d.id)) :
    (p.putWithConstructor d params).2.Sound where
  nothing := h.nothing
  null := h.null
  throwable := h.throwable
  constructors c d' s hc hs := by
    have hleft (hroom : (p.putWithConstructor d params).2.pools.symbols.constructors ≤
        SymbolSupply.capacity) : p.pools.symbols.constructors < SymbolSupply.capacity := hroom
    rw [class?_putWithConstructor] at hc
    rw [constructor?_putWithConstructor]
    split
    · next hnew =>
      refine ⟨_, rfl, fun hroom => ?_⟩
      -- the new symbol is listed by no other class
      split at hc
      · next hid => exact hid
      · obtain ⟨k, hk, -⟩ := h.constructors c d' s hc hs
        have heq : k.symbol = s := by simpa using List.find?_some hk
        exact absurd (heq.trans hnew.symm)
          (h.symbol_ne (hleft hroom) d params (List.mem_of_find?_eq_some hk))
    · next hold =>
      split at hc
      · next hid =>
        cases hc
        obtain ⟨k, hk, htype⟩ := hd s (by simpa [Ne.symm hold] using hs)
        exact ⟨k, hk, fun hroom => (htype (Nat.le_of_lt (hleft hroom))).trans hid⟩
      · obtain ⟨k, hk, htype⟩ := h.constructors c d' s hc hs
        exact ⟨k, hk, fun hroom => htype (Nat.le_of_lt (hleft hroom))⟩
  minted k hk := by
    rw [constructors_putWithConstructor] at hk
    refine SymbolSupply.handedOut_succ_iff.2 ?_
    rcases mem_of_mem_putFirst hk with rfl | hk
    · exact .inr rfl
    · exact .inl (h.minted k hk)

theorem Sound.declared {p : Program} (h : p.Sound) (c : ClassId) (supertype : Option ClassId)
    {s : ConstructorSymbol} (hs : s ∈ (p.declared c supertype).constructors) :
    ∃ k, p.constructor? s = some k ∧
      (p.pools.symbols.constructors ≤ SymbolSupply.capacity → k.type = c) := by
  obtain ⟨d, hd, hs⟩ := constructors_declared p c supertype hs
  exact h.constructors c d s hd hs

/-- What is done to a sound program leaves it sound. -/
theorem Sound.step {p p' : Program} (h : p.Sound) (hstep : p.Step p') : p'.Sound := by
  cases hstep with
  | grow hgrows =>
    refine ⟨h.nothing, h.null, hgrows.types _ _ h.throwable, fun c d s hc hs => ?_,
      fun k hk => (h.minted k hk).mono hgrows.constructors⟩
    obtain ⟨k, hk, htype⟩ := h.constructors c d s hc hs
    exact ⟨k, hk, fun hroom => htype (Nat.le_trans hgrows.constructors hroom)⟩
  | declareClass c supertype =>
    refine ⟨h.nothing, h.null, h.throwable, ?_, h.minted⟩
    intro c' d s hd hs
    rw [Program.declareClass, class?_putClass] at hd
    split at hd
    · next hid =>
      cases hd
      exact hid ▸ h.declared c supertype hs
    · exact h.constructors c' d s hd hs
  | @addConstructor c params s _ hadd =>
    obtain ⟨d, hc, rfl⟩ := exists_of_addConstructor hadd
    refine h.putWithConstructor fun s hs => ?_
    rw [id_of_class? hc]
    exact h.constructors c d s hc hs
  | addDeclaration d => exact ⟨h.nothing, h.null, h.throwable, h.constructors, h.minted⟩

theorem sound_empty : empty.Sound := by
  have hbase : Sound ⟨⟨(ClassId.ofPath .fresh throwablePath).2,
      (TypePool.fresh.classType (ClassId.ofPath .fresh throwablePath).1).2, .fresh⟩,
      ⟨.nothing, .nullableNothing,
        (TypePool.fresh.classType (ClassId.ofPath .fresh throwablePath).1).1,
        (ClassId.ofPath .fresh throwablePath).1⟩, [], [], []⟩ :=
    ⟨rfl, rfl, TypePool.get?_intern _ _, fun c d s hd => by simp [class?] at hd,
      fun k hk => by cases hk⟩
  exact hbase.putWithConstructor fun s hs => hbase.declared _ none hs

/-- Every program that comes up is sound. -/
theorem Reachable.sound {p : Program} (h : p.Reachable) : p.Sound := by
  induction h with
  | empty => exact sound_empty
  | step _ last ih => exact ih.step last

/-- No two declarations of a program that comes up have the same symbol. -/
theorem Reachable.nodup_symbols {p : Program} (h : p.Reachable) :
    (p.declarations.map (·.symbol)).Nodup := by
  induction h with
  | empty => exact List.nodup_nil
  | step _ last ih =>
    cases last with
    | grow hgrows => exact ih
    | declareClass c supertype => exact ih
    | addConstructor hadd =>
      obtain ⟨d, -, rfl⟩ := exists_of_addConstructor hadd
      exact ih
    | addDeclaration d => exact nodup_map_putFirst d ih

/-! ## Later programs -/

/-- The program becomes another when more is declared. -/
def Becomes : Program → Program → Prop := Relation.ReflTransGen Step

/-- The types that companions need stay what they are. -/
theorem Step.builtins {p p' : Program} (h : p.Step p') : p'.builtins = p.builtins := by
  cases h with
  | grow _ => rfl
  | declareClass c supertype => rfl
  | addDeclaration d => rfl
  | @addConstructor c params s _ hadd =>
    obtain ⟨d, -, rfl⟩ := exists_of_addConstructor hadd
    rfl

/-- Whatever is done to a program, its pools only grow. -/
theorem Step.grows {p p' : Program} (h : p.Step p') : p.pools.Grows p'.pools := by
  cases h with
  | grow hgrows => exact hgrows
  | declareClass c supertype => exact .refl _
  | addDeclaration d => exact .refl _
  | @addConstructor c params s _ hadd =>
    obtain ⟨d, -, rfl⟩ := exists_of_addConstructor hadd
    exact ⟨fun _ _ h => h, fun _ _ h => h, Nat.le_refl _, Nat.le_refl _, Nat.le_succ _⟩

/-- A constructor is found under its symbol afterwards, as long as the symbol is not minted again. -/
theorem Step.constructor? {p p' : Program} (h : p.Step p') (hp : p.Sound)
    (hroom : p'.pools.symbols.constructors ≤ SymbolSupply.capacity) {s : ConstructorSymbol}
    {k : Constructor} (hk : p.constructor? s = some k) : p'.constructor? s = some k := by
  cases h with
  | grow _ => exact hk
  | declareClass c supertype => exact hk
  | addDeclaration d => exact hk
  | @addConstructor c params s' _ hadd =>
    obtain ⟨d, -, rfl⟩ := exists_of_addConstructor hadd
    have heq : k.symbol = s := by simpa using List.find?_some hk
    have hne := hp.symbol_ne hroom d params (List.mem_of_find?_eq_some hk)
    rw [constructor?_putWithConstructor, if_neg (heq ▸ hne.symm)]
    exact hk

/-- A constructor that is known stays known, though it may be replaced. -/
theorem Step.exists_constructor? {p p' : Program} (h : p.Step p') {s : ConstructorSymbol}
    (hs : ∃ k, p.constructor? s = some k) : ∃ k, p'.constructor? s = some k := by
  cases h with
  | grow _ => exact hs
  | declareClass c supertype => exact hs
  | addDeclaration d => exact hs
  | @addConstructor c params s' _ hadd =>
    obtain ⟨d, -, rfl⟩ := exists_of_addConstructor hadd
    rw [constructor?_putWithConstructor]
    split
    · exact ⟨_, rfl⟩
    · exact hs

variable {p p' : Program}

theorem Becomes.grows (h : p.Becomes p') : p.pools.Grows p'.pools := by
  induction h with
  | refl => exact .refl _
  | tail _ last ih => exact ih.trans last.grows

theorem Becomes.reachable (h : p.Becomes p') (hp : p.Reachable) : p'.Reachable := by
  induction h with
  | refl => exact hp
  | tail _ last ih => exact ih.step last

theorem Becomes.builtins (h : p.Becomes p') : p'.builtins = p.builtins := by
  induction h with
  | refl => rfl
  | tail _ last ih => exact last.builtins.trans ih

theorem Becomes.constructor? (h : p.Becomes p') (hp : p.Reachable)
    (hroom : p'.pools.symbols.constructors ≤ SymbolSupply.capacity) {s : ConstructorSymbol}
    {k : Constructor} (hk : p.constructor? s = some k) : p'.constructor? s = some k := by
  induction h with
  | refl => exact hk
  | tail before last ih =>
    exact last.constructor? (Becomes.reachable before hp).sound hroom
      (ih (Nat.le_trans last.grows.constructors hroom))

theorem Becomes.exists_constructor? (h : p.Becomes p') {s : ConstructorSymbol}
    (hs : ∃ k, p.constructor? s = some k) : ∃ k, p'.constructor? s = some k := by
  induction h with
  | refl => exact hs
  | tail _ last ih => exact last.exists_constructor? ih

/-! ## The standard library -/

/-- A class that can be made from nothing is declared and then gets its constructor. -/
theorem addConstructor_declareClass (p : Program) (c : ClassId) (supertype : Option ClassId) :
    (p.declareClass c supertype).addConstructor c [] =
      .ok ((p.putWithConstructor (p.declared c supertype) []).1, p.declarePlain c supertype) := by
  rw [addConstructor, class?_declareClass, declareClass]
  exact congrArg Except.ok (putWithConstructor_putClass p (p.declared c supertype) [])

theorem Reachable.declarePlain {p : Program} (h : p.Reachable) (c : ClassId)
    (supertype : Option ClassId) : (p.declarePlain c supertype).Reachable :=
  (h.step (.declareClass c supertype)).step
    (.addConstructor (p.addConstructor_declareClass c supertype))

theorem Reachable.grow {p : Program} (h : p.Reachable) {q : Pools} (hq : p.pools.Grows q) :
    Reachable { p with pools := q } :=
  h.step (.grow hq)

/-- Work that only adds to the pools may be done at any time. -/
theorem Reachable.grow_of_onlyGrows {α : Type} {p p' : Program} {work : Growing α} {a : α}
    (h : p.Reachable) (hwork : work.OnlyGrows) (hrun : p.grow work = .ok (a, p')) :
    p'.Reachable := by
  unfold Program.grow at hrun
  cases hw : work.run p.pools with
  | error fault =>
    rw [hw] at hrun
    cases hrun
  | ok result =>
    rw [hw] at hrun
    cases hrun
    exact h.grow (hwork _ _ _ hw)

/-- The program of the standard library comes up. -/
theorem Reachable.standard : standard.Reachable := by
  have hnames := (((Growing.grows_ofPath Program.empty.pools "java.lang.Exception").trans
    (Growing.grows_ofPath _ "java.lang.RuntimeException")).trans
      (Growing.grows_ofPath _ "java.lang.IllegalStateException"))
  exact (((Reachable.empty.grow hnames).declarePlain _ _).declarePlain _ _).declarePlain _ _

end Program

end Companions
