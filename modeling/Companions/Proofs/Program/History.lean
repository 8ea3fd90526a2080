import Companions.Proofs.Eval.Steps
import Companions.Proofs.Program.Store
set_option autoImplicit false

/-!
# What a program has been told

A program is made by declarations one after another.  Here they are written down as they are made
(`Program.History`), and what is answered is read off the record: the last word on a function and on
the supertype of a class, and all that was ever said of the constructors of a class.

The record can be entered into tables (`ProgramStore.replay`).  They answer what the program does,
and that is what the record says (`ProgramStore.Agrees`).  As long as no symbol of a constructor was
minted twice, no two classes list the same constructor, and each makes its own objects
(`ProgramStore.ListsApart`); once the counter has come round, a constructor takes the place of that
of another class (`Program.exists_shared_constructor`).

Every program that comes up has such a record (`Program.Reachable.exists_history`).
-/

namespace Companions

namespace Program

/-! ## Records -/

/-- A declaration, as it was made. -/
inductive Entry
  | type (c : ClassId) (supertype : Option ClassId)
  | constr (k : Constructor)
  | function (d : Declaration)
  deriving DecidableEq, Repr

/-- The declarations, the oldest first. -/
abbrev Record := List Entry

namespace Entry

/-- What the class is declared to inherit from, if this is about the class. -/
def supertype? (c : ClassId) : Entry → Option (Option ClassId)
  | .type c' supertype => if c' = c then some supertype else none
  | _ => none

/-- The constructor that is added. -/
def constructor? : Entry → Option Constructor
  | .constr k => some k
  | _ => none

/-- The function that is added. -/
def function? : Entry → Option Declaration
  | .function d => some d
  | _ => none

end Entry

namespace Record

variable (r : Record)

/-- The supertypes that the class was declared with. -/
def supertypes (c : ClassId) : List (Option ClassId) := r.filterMap (Entry.supertype? c)

/-- All constructors that were added. -/
def constructors : List Constructor := r.filterMap Entry.constructor?

/-- The constructors that were added to the class. -/
def constructorsOf (c : ClassId) : List Constructor := r.constructors.filter (·.type = c)

/-- The constructors that were added under the symbol. -/
def constructorsUnder (s : ConstructorSymbol) : List Constructor :=
  r.constructors.filter (·.symbol = s)

/-- All functions that were added. -/
def functions : List Declaration := r.filterMap Entry.function?

/-- The functions that were added under the symbol. -/
def functionsUnder (s : FunctionSymbol) : List Declaration := r.functions.filter (·.symbol = s)

variable {r} (r' : Record)

theorem constructors_of_none {e : Entry} (he : e.constructor? = none) :
    (r ++ [e] : Record).constructors = r.constructors := by
  simp [constructors, he]

theorem supertypes_of_none {e : Entry} {c : ClassId} (he : e.supertype? c = none) :
    (r ++ [e] : Record).supertypes c = r.supertypes c := by
  simp [supertypes, he]

theorem functions_of_none {e : Entry} (he : e.function? = none) :
    (r ++ [e] : Record).functions = r.functions := by
  simp [functions, he]

theorem supertypes_append (c : ClassId) :
    (r ++ r' : Record).supertypes c = r.supertypes c ++ r'.supertypes c :=
  List.filterMap_append

/-- A constructor that is added comes behind the others. -/
theorem constructors_constr (k : Constructor) :
    (r ++ [.constr k] : Record).constructors = r.constructors ++ [k] := by
  simp [constructors, Entry.constructor?]

theorem functions_append : (r ++ r' : Record).functions = r.functions ++ r'.functions :=
  List.filterMap_append

theorem functionsUnder_append (s : FunctionSymbol) :
    (r ++ r' : Record).functionsUnder s = r.functionsUnder s ++ r'.functionsUnder s := by
  rw [functionsUnder, functions_append, List.filter_append]
  rfl

end Record

/-- The record of the first program. -/
def firstRecord : Record :=
  [.type empty.builtins.throwableClass none, .constr ⟨⟨0⟩, empty.builtins.throwableClass, []⟩]

/-- The program was made by the declarations of the record. -/
inductive History : Record → Program → Prop
  | empty : History firstRecord .empty
  /-- In between, names, types and symbols may be added to the pools. -/
  | grow {r : Record} {p : Program} {q : Pools} (before : History r p) (h : p.pools.Grows q) :
    History r { p with pools := q }
  | declareClass {r : Record} {p : Program} (before : History r p) (c : ClassId)
      (supertype : Option ClassId) :
    History (r ++ [.type c supertype]) (p.declareClass c supertype)
  | addConstructor {r : Record} {p p' : Program} {c : ClassId} {params : List Parameter}
      {s : ConstructorSymbol} (before : History r p)
      (h : p.addConstructor c params = .ok (s, p')) : History (r ++ [.constr ⟨s, c, params⟩]) p'
  | addDeclaration {r : Record} {p : Program} (before : History r p) (d : Declaration) :
    History (r ++ [.function d]) (p.addDeclaration d)

variable {r : Record} {p p' : Program}

theorem History.reachable (h : History r p) : p.Reachable := by
  induction h with
  | empty => exact .empty
  | grow _ hgrows ih => exact ih.step (.grow hgrows)
  | declareClass _ c supertype ih => exact ih.step (.declareClass c supertype)
  | addConstructor _ hadd ih => exact ih.step (.addConstructor hadd)
  | addDeclaration _ d ih => exact ih.step (.addDeclaration d)

/-- A class that is declared can get a constructor, under the next symbol. -/
theorem History.withConstructor (before : History r p) {c : ClassId} {d : Class}
    (hc : p.class? c = some d) (params : List Parameter) :
    History (r ++ [.constr ⟨(p.putWithConstructor d params).1, c, params⟩])
      (p.putWithConstructor d params).2 :=
  before.addConstructor (addConstructor_eq_ok_iff.2 ⟨d, hc, rfl⟩)

/-- Every program that comes up was made by declarations. -/
theorem Reachable.exists_history (h : p.Reachable) : ∃ r, History r p := by
  induction h with
  | empty => exact ⟨_, .empty⟩
  | step _ last ih =>
    obtain ⟨r, hr⟩ := ih
    cases last with
    | grow hgrows => exact ⟨_, hr.grow hgrows⟩
    | declareClass c supertype => exact ⟨_, hr.declareClass c supertype⟩
    | addConstructor hadd => exact ⟨_, hr.addConstructor hadd⟩
    | addDeclaration d => exact ⟨_, hr.addDeclaration d⟩

/-! ## Functions -/

/-- The functions of the program are the last ones that were added under each symbol, in the order
in which the symbols came up. -/
structure KeepsFunctions (r : Record) (p : Program) : Prop where
  last : ∀ s, p.declaration? s = (r.functionsUnder s).getLast?
  order : p.declarations.map (·.symbol) = (r.functions.map (·.symbol)).eraseDups

theorem KeepsFunctions.addDeclaration (h : p.KeepsFunctions r) (d : Declaration) :
    (p.addDeclaration d).KeepsFunctions (r ++ [.function d]) where
  last s := by
    have hput : (p.addDeclaration d).declaration? s =
        if d.symbol = s then some d else p.declaration? s :=
      find?_putFirst Declaration.symbol d p.declarations s
    rw [hput, h.last, Record.functionsUnder_append]
    by_cases hs : d.symbol = s
    · simp [Record.functionsUnder, Record.functions, Entry.function?, hs]
    · simp [Record.functionsUnder, Record.functions, Entry.function?, hs]
  order := by
    have hput : (p.addDeclaration d).declarations.map (·.symbol) =
        if d.symbol ∈ p.declarations.map (·.symbol) then p.declarations.map (·.symbol)
        else p.declarations.map (·.symbol) ++ [d.symbol] :=
      map_putFirst Declaration.symbol d p.declarations
    have hadded : (r ++ [.function d] : Record).functions.map (·.symbol) =
        r.functions.map (·.symbol) ++ [d.symbol] := by
      rw [Record.functions_append, List.map_append]
      rfl
    rw [hput, hadded, eraseDups_append_singleton, h.order]
    by_cases hmem : d.symbol ∈ r.functions.map (·.symbol)
    · rw [if_pos (List.mem_eraseDups.2 hmem), if_pos (List.contains_iff_mem.2 hmem)]
    · rw [if_neg (fun h' => hmem (List.mem_eraseDups.1 h')),
        if_neg (fun h' => hmem (List.contains_iff_mem.1 h'))]

/-! ## Classes and their constructors -/

/-- What adding a constructor does: the class has one constructor more, which is found under the
symbol that the counter shows, and nothing else changes. -/
theorem addConstructor_spec {c : ClassId} {params : List Parameter} {s : ConstructorSymbol}
    (h : p.addConstructor c params = .ok (s, p')) :
    ∃ d, p.class? c = some d ∧ s = ⟨SymbolSupply.shown p.pools.symbols.constructors⟩ ∧
      (∀ c', p'.class? c' =
        if c = c' then some { d with constructors := d.constructors ++ [s] } else p.class? c') ∧
      (∀ s', p'.constructor? s' = if s = s' then some ⟨s, c, params⟩ else p.constructor? s') ∧
      p'.pools.symbols.constructors = p.pools.symbols.constructors + 1 ∧
      p'.declarations = p.declarations := by
  obtain ⟨d, hc, hput⟩ := addConstructor_eq_ok_iff.1 h
  have hs : (p.putWithConstructor d params).1 = s := congrArg Prod.fst hput
  have hp : (p.putWithConstructor d params).2 = p' := congrArg Prod.snd hput
  refine ⟨d, hc, hs.symm, fun c' => ?_, fun s' => ?_, ?_, ?_⟩
  · rw [← hp, ← hs, class?_putWithConstructor, id_of_class? hc]
  · rw [← hp, ← hs, constructor?_putWithConstructor, id_of_class? hc]
  · rw [← hp]
    rfl
  · rw [← hp]
    rfl

/-- A class of the program has the supertype that it was last declared with and all constructors
that were ever added to it.  Of the constructors under a symbol the last one counts; as long as the
counter has not come round, there is only one. -/
structure KeepsClasses (r : Record) (p : Program) : Prop where
  class? : ∀ c, p.class? c = (r.supertypes c).getLast?.map fun supertype =>
    ⟨c, supertype, (r.constructorsOf c).map (·.symbol)⟩
  constructor? : ∀ s, p.constructor? s = (r.constructorsUnder s).getLast?
  nodup : p.pools.symbols.constructors ≤ SymbolSupply.capacity →
    (r.constructors.map (·.symbol)).Nodup
  /-- Only declared classes have constructors. -/
  declared : ∀ k ∈ r.constructors, r.supertypes k.type ≠ []

namespace KeepsClasses

/-- A constructor that is found was added under its symbol. -/
theorem mem_of_constructor? (h : p.KeepsClasses r) {s : ConstructorSymbol} {k : Constructor}
    (hk : p.constructor? s = some k) : k ∈ r.constructors ∧ k.symbol = s := by
  rw [h.constructor?] at hk
  obtain ⟨hmem, hs⟩ := List.mem_filter.1 (List.mem_of_getLast? hk)
  exact ⟨hmem, of_decide_eq_true hs⟩

/-- For every constructor that was added, one is found under its symbol. -/
theorem exists_constructor? (h : p.KeepsClasses r) {k : Constructor} (hk : k ∈ r.constructors) :
    ∃ k', p.constructor? k.symbol = some k' := by
  have hmem : k ∈ r.constructorsUnder k.symbol := List.mem_filter.2 ⟨hk, decide_eq_true rfl⟩
  rw [h.constructor?]
  exact Option.ne_none_iff_exists'.1
    (mt List.getLast?_eq_none_iff.1 (List.ne_nil_of_mem hmem))

/-- A class that was not declared has no constructors. -/
theorem constructorsOf_eq_nil (h : p.KeepsClasses r) {c : ClassId} (hc : r.supertypes c = []) :
    r.constructorsOf c = [] := by
  refine List.filter_eq_nil_iff.2 fun k hk htype => h.declared k hk ?_
  rw [of_decide_eq_true htype, hc]

section Room

variable (h : p.KeepsClasses r)
  (hroom : p.pools.symbols.constructors ≤ SymbolSupply.capacity) {c : ClassId}
  {s : ConstructorSymbol} {k : Constructor}

include h hroom

theorem constructor?_eq_some_iff :
    p.constructor? s = some k ↔ k ∈ r.constructors ∧ k.symbol = s := by
  refine ⟨h.mem_of_constructor?, ?_⟩
  rintro ⟨hk, rfl⟩
  obtain ⟨k', hk'⟩ := h.exists_constructor? hk
  obtain ⟨hmem, hs⟩ := h.mem_of_constructor? hk'
  rw [hk', List.inj_on_of_nodup_map (h.nodup hroom) hmem hk hs]

/-- A constructor is on the list of the class that it makes objects of, and on no other. -/
theorem mem_constructors_iff :
    (∃ d, p.class? c = some d ∧ s ∈ d.constructors) ↔
      ∃ k, p.constructor? s = some k ∧ k.type = c := by
  constructor
  · rintro ⟨d, hd, hs⟩
    rw [h.class? c] at hd
    obtain ⟨supertype, -, rfl⟩ := Option.map_eq_some_iff.1 hd
    obtain ⟨k, hk, rfl⟩ := List.mem_map.1 hs
    obtain ⟨hk, htype⟩ := List.mem_filter.1 hk
    exact ⟨k, (h.constructor?_eq_some_iff hroom).2 ⟨hk, rfl⟩, of_decide_eq_true htype⟩
  · rintro ⟨k, hk, rfl⟩
    obtain ⟨hmem, hs⟩ := h.mem_of_constructor? hk
    obtain ⟨supertype, hlast⟩ :=
      Option.ne_none_iff_exists'.1 (mt List.getLast?_eq_none_iff.1 (h.declared k hmem))
    refine ⟨_, (h.class? k.type).trans (by rw [hlast, Option.map_some]),
      List.mem_map.2 ⟨k, ?_, hs⟩⟩
    exact List.mem_filter.2 ⟨hmem, decide_eq_true rfl⟩

/-- A class is made from nothing by the first of its constructors that takes no parameters. -/
theorem noArgConstructor?_eq (c : ClassId) :
    p.noArgConstructor? c =
      ((r.constructorsOf c).find? (·.params.isEmpty)).map (·.symbol) := by
  rw [noArgConstructor?, h.class? c]
  cases hlast : (r.supertypes c).getLast? with
  | none => simp [h.constructorsOf_eq_nil (List.getLast?_eq_none_iff.1 hlast)]
  | some supertype =>
    simp only [Option.map_some]
    rw [List.find?_map, ← List.head?_filter, ← List.head?_filter]
    -- The program knows the constructors on the list, so it looks at their own parameters.
    refine congrArg (fun l : List Constructor => l.head?.map (·.symbol))
      (List.filter_congr fun k hk => ?_)
    have hfound := (h.constructor?_eq_some_iff hroom).2 ⟨(List.mem_filter.1 hk).1, rfl⟩
    simp [hfound]

theorem exists_of_noArgConstructor? (hs : p.noArgConstructor? c = some s) :
    ∃ k, p.constructor? s = some k ∧ k.type = c := by
  rw [h.noArgConstructor?_eq hroom] at hs
  obtain ⟨k, hfound, rfl⟩ := Option.map_eq_some_iff.1 hs
  obtain ⟨hk, htype⟩ := List.mem_filter.1 (List.mem_of_find?_eq_some hfound)
  exact ⟨k, (h.constructor?_eq_some_iff hroom).2 ⟨hk, rfl⟩, of_decide_eq_true htype⟩

end Room

/-- Declared classes can get constructors, and no others. -/
theorem exists_addConstructor_iff (h : p.KeepsClasses r) {c : ClassId} {params : List Parameter} :
    (∃ a, p.addConstructor c params = .ok a) ↔ r.supertypes c ≠ [] := by
  have hdeclared : (∃ d, p.class? c = some d) ↔ r.supertypes c ≠ [] := by
    rw [h.class? c, ← Option.isSome_iff_exists, Option.isSome_map, List.getLast?_isSome]
  rw [← hdeclared]
  constructor
  · rintro ⟨a, ha⟩
    obtain ⟨d, hd, -⟩ := addConstructor_eq_ok_iff.1 ha
    exact ⟨d, hd⟩
  · rintro ⟨d, hd⟩
    exact ⟨_, addConstructor_eq_ok_iff.2 ⟨d, hd, rfl⟩⟩

/-- Declared once more, a class has the constructors that were added to it before. -/
theorem declared_eq (h : p.KeepsClasses r) (c : ClassId) (supertype : Option ClassId) :
    p.declared c supertype = ⟨c, supertype, (r.constructorsOf c).map (·.symbol)⟩ := by
  rw [Program.declared, h.class? c]
  cases hlast : (r.supertypes c).getLast? with
  | none => simp [h.constructorsOf_eq_nil (List.getLast?_eq_none_iff.1 hlast)]
  | some _ => rfl

theorem declareClass (h : p.KeepsClasses r) (c : ClassId) (supertype : Option ClassId) :
    (p.declareClass c supertype).KeepsClasses (r ++ [.type c supertype]) := by
  have hconstructors : (r ++ [.type c supertype] : Record).constructors = r.constructors :=
    Record.constructors_of_none rfl
  have hof : ∀ c', (r ++ [.type c supertype] : Record).constructorsOf c' = r.constructorsOf c' :=
    fun c' => congrArg (List.filter _) hconstructors
  refine ⟨fun c' => ?_, fun s => ?_, fun hroom => hconstructors ▸ h.nodup hroom, fun k hk => ?_⟩
  · rw [Program.declareClass, class?_putClass, h.declared_eq, hof, h.class? c',
      Record.supertypes_append]
    by_cases hc : c = c'
    · simp [Record.supertypes, Entry.supertype?, hc]
    · simp [Record.supertypes, Entry.supertype?, hc]
  · rw [Record.constructorsUnder, hconstructors]
    exact h.constructor? s
  · rw [Record.supertypes_append]
    exact List.append_ne_nil_of_left_ne_nil (h.declared k (hconstructors ▸ hk)) _

theorem addConstructor (h : p.KeepsClasses r) (hsound : p.Sound) {c : ClassId}
    {params : List Parameter} {s : ConstructorSymbol}
    (hadd : p.addConstructor c params = .ok (s, p')) :
    p'.KeepsClasses (r ++ [.constr ⟨s, c, params⟩]) := by
  obtain ⟨d, hc, hs, hclass, hput, hcount, -⟩ := addConstructor_spec hadd
  have hsupertypes : ∀ c', (r ++ [.constr ⟨s, c, params⟩] : Record).supertypes c' =
      r.supertypes c' := fun _ => Record.supertypes_of_none rfl
  have hconstructors : (r ++ [.constr ⟨s, c, params⟩] : Record).constructors =
      r.constructors ++ [⟨s, c, params⟩] := Record.constructors_constr _
  have hknown := h.class? c
  rw [hc] at hknown
  obtain ⟨supertype, hlast, hd⟩ := Option.map_eq_some_iff.1 hknown.symm
  refine ⟨fun c' => ?_, fun s' => ?_, fun hroom => ?_, fun k hk => ?_⟩
  · rw [hclass, hsupertypes, Record.constructorsOf, hconstructors, List.filter_append]
    by_cases hc' : c = c'
    · subst hc'
      rw [if_pos rfl, hlast, ← hd]
      simp [Record.constructorsOf]
    · rw [if_neg hc', h.class? c']
      simp [Record.constructorsOf, hc']
  · rw [hput, Record.constructorsUnder, hconstructors, List.filter_append]
    by_cases hs' : s = s'
    · simp [hs']
    · simp [hs', h.constructor?, Record.constructorsUnder]
  · -- The new symbol was not minted before.
    rw [hcount] at hroom
    rw [hconstructors, List.map_append]
    refine List.nodup_append.2 ⟨h.nodup (Nat.le_of_succ_le hroom), List.nodup_singleton _,
      fun s₁ h₁ s₂ h₂ heq => ?_⟩
    obtain ⟨k, hk, rfl⟩ := List.mem_map.1 h₁
    obtain ⟨k', hk'⟩ := h.exists_constructor? hk
    have hminted := hsound.minted k' (List.mem_of_find?_eq_some hk')
    rw [SymbolSupply.HasConstructor, (h.mem_of_constructor? hk').2, heq,
      List.mem_singleton.1 h₂, hs] at hminted
    exact SymbolSupply.not_handedOut_shown hroom (Nat.le_refl _) hminted
  · rw [hsupertypes]
    rw [hconstructors] at hk
    rcases List.mem_append.1 hk with hk | hk
    · exact h.declared k hk
    · cases List.mem_singleton.1 hk
      intro hnil
      rw [hnil] at hlast
      cases hlast

/-- A function says nothing of classes. -/
theorem addDeclaration (h : p.KeepsClasses r) (d : Declaration) :
    (p.addDeclaration d).KeepsClasses (r ++ [.function d]) := by
  have hconstructors : (r ++ [.function d] : Record).constructors = r.constructors :=
    Record.constructors_of_none rfl
  have hsupertypes : ∀ c, (r ++ [.function d] : Record).supertypes c = r.supertypes c :=
    fun _ => Record.supertypes_of_none rfl
  refine ⟨fun c => ?_, fun s => ?_, fun hroom => hconstructors ▸ h.nodup hroom,
    fun k hk => hsupertypes k.type ▸ h.declared k (hconstructors ▸ hk)⟩
  · rw [hsupertypes, Record.constructorsOf, hconstructors]
    exact h.class? c
  · rw [Record.constructorsUnder, hconstructors]
    exact h.constructor? s

end KeepsClasses

/-! ## Whole histories -/

/-- A declaration of another kind says nothing of functions. -/
theorem KeepsFunctions.of_same (h : p.KeepsFunctions r) {e : Entry} (he : e.function? = none)
    (hp : p'.declarations = p.declarations) : p'.KeepsFunctions (r ++ [e]) := by
  have hsame : (r ++ [e] : Record).functions = r.functions := Record.functions_of_none he
  exact ⟨fun s => by rw [Record.functionsUnder, hsame, declaration?, hp]; exact h.last s,
    by rw [hsame, hp, h.order]⟩

theorem History.keepsFunctions (h : History r p) : p.KeepsFunctions r := by
  induction h with
  | empty => exact ⟨fun _ => rfl, rfl⟩
  | grow _ _ ih => exact ⟨ih.last, ih.order⟩
  | declareClass _ c supertype ih => exact ih.of_same rfl rfl
  | addConstructor _ hadd ih =>
    obtain ⟨_, -, -, -, -, -, hsame⟩ := addConstructor_spec hadd
    exact ih.of_same rfl hsame
  | addDeclaration _ d ih => exact ih.addDeclaration d

theorem classes_empty : empty.classes = [⟨empty.builtins.throwableClass, none, [⟨0⟩]⟩] := rfl

theorem constructors_empty :
    empty.constructors = [⟨⟨0⟩, empty.builtins.throwableClass, []⟩] := rfl

theorem keepsClasses_empty : empty.KeepsClasses firstRecord where
  class? c := by
    rw [class?, classes_empty]
    by_cases hc : empty.builtins.throwableClass = c
    · subst hc
      simp [firstRecord, Record.supertypes, Record.constructorsOf, Record.constructors,
        Entry.supertype?, Entry.constructor?, List.filterMap_cons]
    · simp [firstRecord, Record.supertypes, Entry.supertype?, hc]
  constructor? s := by
    have hfirst : Record.constructors firstRecord = empty.constructors := rfl
    rw [constructor?, Record.constructorsUnder, hfirst, constructors_empty]
    by_cases hs : (⟨0⟩ : ConstructorSymbol) = s
    · simp [hs]
    · simp [hs]
  nodup _ := List.nodup_singleton _
  declared k hk := by
    cases List.mem_singleton.1 hk
    simp [firstRecord, Record.supertypes, Entry.supertype?]

theorem History.keepsClasses (h : History r p) : p.KeepsClasses r := by
  induction h with
  | empty => exact keepsClasses_empty
  | grow _ hgrows ih =>
    exact ⟨ih.class?, ih.constructor?,
      fun hroom => ih.nodup (Nat.le_trans hgrows.constructors hroom), ih.declared⟩
  | declareClass _ c supertype ih => exact ih.declareClass c supertype
  | addConstructor before hadd ih => exact ih.addConstructor before.reachable.sound hadd
  | addDeclaration _ d ih => exact ih.addDeclaration d

end Program

/-! ## Tables that a record is entered into -/

namespace ProgramStore

open Program

/-- Enters a declaration. -/
def enter (s : ProgramStore) : Entry → Except Fault ProgramStore
  | .type c supertype => .ok (s.declareClass c supertype)
  | .constr k => s.addConstructor k
  | .function d => .ok (s.addFunction d)

/-- Enters the declarations one after another into tables that are empty at first. -/
def replay (r : Record) : Except Fault ProgramStore := r.foldlM enter empty

theorem replay_append {r : Record} {s : ProgramStore} (h : replay r = .ok s) (e : Entry) :
    replay (r ++ [e]) = s.enter e := by
  have hfirst : r.foldlM enter empty = .ok s := h
  rw [replay, List.foldlM_append, hfirst]
  exact bind_pure (s.enter e)

/-- What the tables answer is what the record says. -/
structure Agrees (s : ProgramStore) (r : Record) : Prop where
  /-- Of the functions under a symbol the last one counts. -/
  function? : ∀ f, s.function? f = (r.functionsUnder f).getLast?
  /-- Every symbol is there once, in the order of first addition, with its last function. -/
  declarations : s.declarations.map (·.symbol) = (r.functions.map (·.symbol)).eraseDups ∧
    (s.declarations.map (·.symbol)).Nodup ∧
    ∀ d ∈ s.declarations, (r.functionsUnder d.symbol).getLast? = some d
  /-- A class has its last supertype and all constructors that were added to it, in order. -/
  class? : ∀ c, s.class? c = (r.supertypes c).getLast?.map fun supertype =>
    ⟨c, supertype, (r.constructorsOf c).map (·.symbol)⟩
  /-- Of the constructors under a symbol the last one counts. -/
  constructor? : ∀ k, s.constructor? k = (r.constructorsUnder k).getLast?
  /-- Declared classes can get constructors, and no others. -/
  addConstructor : ∀ k, (∃ s', s.addConstructor k = .ok s') ↔ r.supertypes k.type ≠ []

/-- Each constructor is that of one class, and makes its objects when the program is run. -/
structure ListsApart (s : ProgramStore) (r : Record) (p : Program) : Prop where
  /-- The known constructors are those that were added. -/
  constructor? : ∀ k x, s.constructor? k = some x ↔ x ∈ r.constructors ∧ x.symbol = k
  /-- A constructor is on the list of the class that it makes objects of. -/
  listed : ∀ c k, (∃ d, s.class? c = some d ∧ k ∈ d.constructors) ↔
    ∃ x, s.constructor? k = some x ∧ x.type = c
  /-- No constructor is on the lists of two classes. -/
  unique : ∀ c c' d d' k, s.class? c = some d → s.class? c' = some d' → k ∈ d.constructors →
    k ∈ d'.constructors → c = c'
  /-- A class is made from nothing by the first of its constructors that takes no parameters. -/
  noArgConstructor? : ∀ c, s.noArgConstructor? c =
    ((r.constructorsOf c).find? (·.params.isEmpty)).map (·.symbol)
  /-- That constructor makes objects of the class, whatever is registered with the interpreter. -/
  instantiate : ∀ c k, s.noArgConstructor? c = some k → ∀ (m : Interpreter), m.program = p →
    ∀ call (b : Body) self fuel e type arguments l, b.node? e = some ⟨.new k arguments, type⟩ →
      b.readArguments arguments = .ok [] →
        (m.eval call b self (fuel + 1) e : Evaluating Value).run.run l =
          .ok (.ok (.object c), l)

variable {s : ProgramStore} {r : Record} {p : Program}

theorem Mirrors.agrees (hs : s.Mirrors p) (h : History r p) : s.Agrees r where
  function? f := (hs.function? f).trans (h.keepsFunctions.last f)
  declarations := by
    have hnodup := h.reachable.nodup_symbols
    rw [hs.declarations hnodup]
    refine ⟨h.keepsFunctions.order, hnodup, fun d hd => ?_⟩
    rw [← h.keepsFunctions.last]
    exact (find?_eq_some_iff_of_nodup hnodup).2 ⟨hd, rfl⟩
  class? c := (hs.class? c).trans (h.keepsClasses.class? c)
  constructor? k := (hs.constructor? k).trans (h.keepsClasses.constructor? k)
  addConstructor k := by
    have hfound : s.classes.lookup k.type = p.class? k.type := hs.class? k.type
    have hdeclared := h.keepsClasses.class? k.type
    rw [← List.getLast?_isSome, ← Option.isSome_map, ← hdeclared, ← hfound,
      ProgramStore.addConstructor]
    cases s.classes.lookup k.type <;> simp

/-- As long as the counter has not come round, no constructor has taken the place of another. -/
theorem Mirrors.listsApart (hs : s.Mirrors p) (h : History r p)
    (hroom : p.pools.symbols.constructors ≤ SymbolSupply.capacity) : s.ListsApart r p where
  constructor? k x := by
    rw [hs.constructor?]
    exact h.keepsClasses.constructor?_eq_some_iff hroom
  listed c k := by
    rw [hs.class?, hs.constructor?]
    exact h.keepsClasses.mem_constructors_iff hroom
  unique c c' d d' k hc hc' hk hk' := by
    rw [hs.class?] at hc hc'
    obtain ⟨x, hx, rfl⟩ := (h.keepsClasses.mem_constructors_iff hroom).1 ⟨d, hc, hk⟩
    obtain ⟨x', hx', rfl⟩ := (h.keepsClasses.mem_constructors_iff hroom).1 ⟨d', hc', hk'⟩
    exact congrArg Constructor.type (Option.some.inj (hx.symm.trans hx'))
  noArgConstructor? c := (hs.noArgConstructor? c).trans (h.keepsClasses.noArgConstructor?_eq hroom c)
  instantiate c k hk m hm call b self fuel e type arguments l hx harguments := by
    rw [hs.noArgConstructor?] at hk
    obtain ⟨x, hfound, rfl⟩ := h.keepsClasses.exists_of_noArgConstructor? hroom hk
    exact Interpreter.eval_new_run hx harguments (hm ▸ hfound)

end ProgramStore

namespace Program

variable {r : Record} {p p' : Program}

/-- The first class is declared, and then it gets its constructor. -/
theorem exists_replay_firstRecord :
    ∃ s, ProgramStore.replay firstRecord = .ok s ∧ s.Mirrors empty := by
  obtain ⟨p, hp⟩ : ∃ p : Program, p =
      ⟨{ empty.pools with symbols := .fresh }, empty.builtins, [], [], []⟩ := ⟨_, rfl⟩
  have hnone : ProgramStore.empty.Mirrors p := hp ▸ .empty _ _
  have hempty : p.declarePlain empty.builtins.throwableClass none = empty := by
    rw [hp]
    rfl
  have hsymbol : (p.putWithConstructor (p.declared empty.builtins.throwableClass none) []).1 =
      ⟨0⟩ := by
    rw [hp]
    rfl
  obtain ⟨s, hs, hmirrors⟩ := (hnone.declareClass empty.builtins.throwableClass none).addConstructor
    (p.addConstructor_declareClass empty.builtins.throwableClass none)
  rw [hsymbol] at hs
  refine ⟨s, ?_, hempty ▸ hmirrors⟩
  rw [ProgramStore.replay, firstRecord, List.foldlM_cons]
  exact (bind_pure (ProgramStore.enter _ _)).trans hs

/-- What a program was told can be entered into tables, which answer what the program does. -/
theorem History.exists_replay (h : History r p) :
    ∃ s, ProgramStore.replay r = .ok s ∧ s.Mirrors p := by
  induction h with
  | empty => exact exists_replay_firstRecord
  | grow _ _ ih =>
    obtain ⟨s, hreplay, hs⟩ := ih
    exact ⟨s, hreplay, hs.grow _⟩
  | declareClass _ c supertype ih =>
    obtain ⟨s, hreplay, hs⟩ := ih
    exact ⟨_, ProgramStore.replay_append hreplay _, hs.declareClass c supertype⟩
  | addConstructor _ hadd ih =>
    obtain ⟨s, hreplay, hs⟩ := ih
    obtain ⟨s', hs', hmirrors⟩ := hs.addConstructor hadd
    exact ⟨s', (ProgramStore.replay_append hreplay _).trans hs', hmirrors⟩
  | addDeclaration _ d ih =>
    obtain ⟨s, hreplay, hs⟩ := ih
    exact ⟨_, ProgramStore.replay_append hreplay _, hs.addFunction d⟩

/-- What a program answers, and the tables with it, can be read off the declarations that made
it. -/
theorem agrees_of_history (h : History r p) :
    ∃ s, ProgramStore.replay r = .ok s ∧ s.Mirrors p ∧ s.Agrees r ∧
      (p.pools.symbols.constructors ≤ SymbolSupply.capacity → s.ListsApart r p) := by
  obtain ⟨s, hreplay, hs⟩ := h.exists_replay
  exact ⟨s, hreplay, hs, hs.agrees h, hs.listsApart h⟩

/-- A class that is declared as the history goes on. -/
def trouble : ClassId := ⟨.empty, ⟨1⟩⟩

/-- A function that differs from another one by its return type. -/
def giving (s : FunctionSymbol) (returnType : TypeId) : Declaration :=
  { (default : Declaration) with symbol := s, returnType }

/-- A class gets a constructor with a parameter, then another supertype, then a constructor without
parameters; meanwhile the first of two functions is added once more. -/
def reopened : Record :=
  firstRecord ++ [.type trouble none] ++
    [.constr ⟨⟨1⟩, trouble, [⟨⟨0⟩, ⟨2⟩, .string, .none, .source⟩]⟩] ++
    [.function (giving ⟨1⟩ .unit)] ++ [.function (giving ⟨0⟩ .unit)] ++
    [.type trouble (some empty.builtins.throwableClass)] ++ [.constr ⟨⟨2⟩, trouble, []⟩] ++
    [.function (giving ⟨1⟩ .int)]

theorem agrees_of_history_reopened : ∃ p, History reopened p ∧
    ∃ s, ProgramStore.replay reopened = .ok s ∧ s.Mirrors p ∧ s.Agrees reopened ∧
      s.ListsApart reopened p := by
  have hopened := (History.empty.declareClass trouble none).withConstructor
    (class?_declareClass _ _ _) [⟨⟨0⟩, ⟨2⟩, .string, .none, .source⟩]
  have hadded := (hopened.addDeclaration (giving ⟨1⟩ .unit)).addDeclaration (giving ⟨0⟩ .unit)
  have hclosed := (hadded.declareClass trouble (some empty.builtins.throwableClass)).withConstructor
    (class?_declareClass _ _ _) []
  have h := hclosed.addDeclaration (giving ⟨1⟩ .int)
  obtain ⟨s, hreplay, hs, hagrees, hapart⟩ := agrees_of_history h
  exact ⟨_, h, s, hreplay, hs, hagrees, hapart (by decide)⟩

example : (reopened.functions.map (·.symbol)).eraseDups = [⟨1⟩, ⟨0⟩] ∧
    (reopened.functionsUnder ⟨1⟩).getLast? = some (giving ⟨1⟩ .int) ∧
    (reopened.constructorsOf trouble).map (·.symbol) = [⟨1⟩, ⟨2⟩] := by
  decide +kernel

/-- A class that is declared can get as many constructors as one likes.  The counter moves on by as
many, and no other class changes. -/
theorem History.exists_addConstructors (h : History r p) {c : ClassId} {d : Class}
    (hc : p.class? c = some d) (n : Nat) :
    ∃ r' p', History r' p' ∧ r'.constructors.length = r.constructors.length + n ∧
      p'.pools.symbols.constructors = p.pools.symbols.constructors + n ∧
      (∃ d', p'.class? c = some d') ∧ ∀ c', c ≠ c' → p'.class? c' = p.class? c' := by
  induction n with
  | zero => exact ⟨r, p, h, rfl, rfl, ⟨d, hc⟩, fun _ _ => rfl⟩
  | succ n ih =>
    obtain ⟨r', p', h', hlength, hcount, ⟨d', hc'⟩, hother⟩ := ih
    have hid := id_of_class? hc'
    refine ⟨_, _, h'.withConstructor hc' [], ?_, congrArg (· + 1) hcount,
      ⟨_, (class?_putWithConstructor p' d' [] c).trans (if_pos hid)⟩, fun c'' hne => ?_⟩
    · rw [Record.constructors_constr, List.length_append, hlength]
      rfl
    · exact ((class?_putWithConstructor p' d' [] c'').trans (if_neg (hid ▸ hne))).trans
        (hother c'' hne)

/-- Once all symbols were minted, the next constructor takes the place of the first one: two classes
list it, and what is made for the first class is an object of the second. -/
theorem exists_shared_constructor :
    ∃ r p, History r p ∧ p.pools.symbols.constructors = r.constructors.length ∧
      (∃ d, p.class? empty.builtins.throwableClass = some d ∧ ⟨0⟩ ∈ d.constructors) ∧
      (∃ d, p.class? trouble = some d ∧ ⟨0⟩ ∈ d.constructors) ∧
      p.constructor? ⟨0⟩ = some ⟨⟨0⟩, trouble, []⟩ ∧
      p.noArgConstructor? empty.builtins.throwableClass = some ⟨0⟩ := by
  have hne : trouble ≠ empty.builtins.throwableClass := by decide +kernel
  obtain ⟨r, p, h, hlength, hcount, ⟨d, hc⟩, hother⟩ :=
    (History.empty.declareClass trouble none).exists_addConstructors
      (class?_declareClass empty trouble none) (SymbolSupply.capacity - 1)
  have hid := id_of_class? hc
  -- The symbols begin again.
  have hsymbol : (p.putWithConstructor d []).1 = ⟨0⟩ := by
    change (⟨SymbolSupply.shown p.pools.symbols.constructors⟩ : ConstructorSymbol) = ⟨0⟩
    rw [hcount]
    rfl
  have hfirst : (p.putWithConstructor d []).2.class? empty.builtins.throwableClass =
      some ⟨empty.builtins.throwableClass, none, [⟨0⟩]⟩ := by
    have hdeclared : (empty.declareClass trouble none).class? empty.builtins.throwableClass =
        empty.class? empty.builtins.throwableClass :=
      (class?_putClass _ _ _).trans (if_neg hne)
    rw [class?_putWithConstructor, if_neg (hid ▸ hne), hother _ hne, hdeclared, class?,
      classes_empty]
    exact List.find?_cons_of_pos (decide_eq_true rfl)
  have hlast : (p.putWithConstructor d []).2.class? trouble =
      some { d with constructors := d.constructors ++ [⟨0⟩] } := by
    rw [class?_putWithConstructor, if_pos hid, hsymbol]
  have hmade : (p.putWithConstructor d []).2.constructor? ⟨0⟩ = some ⟨⟨0⟩, trouble, []⟩ := by
    rw [constructor?_putWithConstructor, hsymbol, if_pos rfl, hid]
  refine ⟨_, _, h.withConstructor hc [], ?_, ⟨_, hfirst, List.mem_singleton_self _⟩,
    ⟨_, hlast, List.mem_append_right _ (List.mem_singleton_self _)⟩, hmade, ?_⟩
  · rw [Record.constructors_constr, List.length_append, hlength]
    exact congrArg (· + 1) hcount
  · rw [noArgConstructor?, hfirst]
    simp [hmade]

end Program

end Companions
