import Companions.Proofs.Program.Reachable
set_option autoImplicit false

/-!
# A program in tables

A program lists its classes, constructors and functions.  Here they stand in tables instead, under
their ids and symbols, and the order of the functions is kept beside their table (`ProgramStore`).
What is put into a table under a key hides what was there before.

Whatever is declared, the tables answer what the lists do (`ProgramStore.Mirrors`), so the order and
the table of functions never come apart (`ProgramStore.Mirrors.declarations`).
-/

namespace Companions

/-- The tables of a program.  The newest entry under a key counts. -/
structure ProgramStore where
  classes : List (ClassId × Class)
  constructors : List (ConstructorSymbol × Constructor)
  functions : List (FunctionSymbol × Declaration)
  /-- The symbols of the functions, in the order of first addition. -/
  order : List FunctionSymbol

namespace ProgramStore

/-- Nothing is declared. -/
def empty : ProgramStore := ⟨[], [], [], []⟩

/-! ## Look-up -/

/-- The class that is declared with the id. -/
def class? (s : ProgramStore) (c : ClassId) : Option Class := s.classes.lookup c

/-- The constructor that is known under the symbol. -/
def constructor? (s : ProgramStore) (k : ConstructorSymbol) : Option Constructor :=
  s.constructors.lookup k

/-- The function that was last added under the symbol. -/
def function? (s : ProgramStore) (f : FunctionSymbol) : Option Declaration := s.functions.lookup f

/-- The functions in their order. -/
def declarations (s : ProgramStore) : List Declaration := s.order.filterMap s.function?

/-- The first constructor of the class that takes no parameters. -/
def noArgConstructor? (s : ProgramStore) (c : ClassId) : Option ConstructorSymbol :=
  match s.class? c with
  | none => none
  | some d =>
    d.constructors.find? fun k =>
      match s.constructor? k with
      | some k => k.params.isEmpty
      | none => false

/-! ## Declaring -/

/-- Changes the supertype of a class that is there, or puts the class there. -/
def declareClass (s : ProgramStore) (c : ClassId) (supertype : Option ClassId) : ProgramStore :=
  match s.classes.lookup c with
  | some d => { s with classes := (c, { d with supertype }) :: s.classes }
  | none => { s with classes := (c, ⟨c, supertype, []⟩) :: s.classes }

/-- Lists a constructor with its class, which is there, and puts it under its symbol. -/
def addConstructor (s : ProgramStore) (k : Constructor) : Except Fault ProgramStore :=
  match s.classes.lookup k.type with
  | none => .error (.undeclaredClass k.type)
  | some d => .ok { s with
      classes := (k.type, { d with constructors := d.constructors ++ [k.symbol] }) :: s.classes
      constructors := (k.symbol, k) :: s.constructors }

/-- Puts a function under its symbol.  The symbol goes to the end of the order if nothing was
there. -/
def addFunction (s : ProgramStore) (d : Declaration) : ProgramStore :=
  { s with
    functions := (d.symbol, d) :: s.functions
    order := if (s.functions.lookup d.symbol).isNone then s.order ++ [d.symbol] else s.order }

/-! ## In step with a program -/

/-- The tables answer what the program does. -/
structure Mirrors (s : ProgramStore) (p : Program) : Prop where
  class? : ∀ c, s.class? c = p.class? c
  constructor? : ∀ k, s.constructor? k = p.constructor? k
  function? : ∀ f, s.function? f = p.declaration? f
  order : s.order = p.declarations.map (·.symbol)

variable {s s' : ProgramStore} {p p' : Program}

namespace Mirrors

/-- Where nothing is declared, the tables are empty. -/
theorem empty (q : Pools) (b : Builtins) : ProgramStore.empty.Mirrors ⟨q, b, [], [], []⟩ :=
  ⟨fun _ => rfl, fun _ => rfl, fun _ => rfl, rfl⟩

/-- The pools do not stand in the tables. -/
theorem grow (h : s.Mirrors p) (q : Pools) : s.Mirrors { p with pools := q } :=
  ⟨h.class?, h.constructor?, h.function?, h.order⟩

theorem declareClass (h : s.Mirrors p) (c : ClassId) (supertype : Option ClassId) :
    (s.declareClass c supertype).Mirrors (p.declareClass c supertype) := by
  have hput : s.declareClass c supertype =
      { s with classes := (c, p.declared c supertype) :: s.classes } := by
    have hfound : s.classes.lookup c = p.class? c := h.class? c
    unfold ProgramStore.declareClass Program.declared
    rw [hfound]
    cases hc : p.class? c with
    | none => rfl
    | some d =>
      obtain rfl := Program.id_of_class? hc
      rfl
  rw [hput]
  refine ⟨fun c' => ?_, h.constructor?, h.function?, h.order⟩
  rw [Program.declareClass, Program.class?_putClass, ← h.class?]
  exact Program.lookup_put _ _ _ _

/-- Where the program gets a constructor, so do the tables. -/
theorem addConstructor (h : s.Mirrors p) {c : ClassId} {params : List Parameter}
    {k : ConstructorSymbol} (hadd : p.addConstructor c params = .ok (k, p')) :
    ∃ s', s.addConstructor ⟨k, c, params⟩ = .ok s' ∧ s'.Mirrors p' := by
  obtain ⟨d, hc, hput⟩ := Program.addConstructor_eq_ok_iff.1 hadd
  have hk : (p.putWithConstructor d params).1 = k := congrArg Prod.fst hput
  have hp : (p.putWithConstructor d params).2 = p' := congrArg Prod.snd hput
  obtain rfl := Program.id_of_class? hc
  have hfound : s.classes.lookup d.id = some d := (h.class? d.id).trans hc
  refine ⟨{ s with
    classes := (d.id, { d with constructors := d.constructors ++ [k] }) :: s.classes
    constructors := (k, ⟨k, d.id, params⟩) :: s.constructors }, ?_, ?_⟩
  · unfold ProgramStore.addConstructor
    simp only [hfound]
  · rw [← hp, ← hk]
    refine ⟨fun c' => ?_, fun k' => ?_, h.function?, h.order⟩
    · rw [Program.class?_putWithConstructor, ← h.class?]
      exact Program.lookup_put _ _ _ _
    · rw [Program.constructor?_putWithConstructor, ← h.constructor?]
      exact Program.lookup_put _ _ _ _

theorem addFunction (h : s.Mirrors p) (d : Declaration) :
    (s.addFunction d).Mirrors (p.addDeclaration d) := by
  refine ⟨h.class?, h.constructor?, fun f => ?_, ?_⟩
  · have hput : (p.addDeclaration d).declaration? f =
        if d.symbol = f then some d else p.declaration? f :=
      Program.find?_putFirst Declaration.symbol d p.declarations f
    rw [hput, ← h.function?]
    exact Program.lookup_put _ _ _ _
  · have hput : (p.addDeclaration d).declarations.map (·.symbol) =
        if d.symbol ∈ p.declarations.map (·.symbol) then p.declarations.map (·.symbol)
        else p.declarations.map (·.symbol) ++ [d.symbol] :=
      Program.map_putFirst Declaration.symbol d p.declarations
    have hnone : (s.functions.lookup d.symbol).isNone = true ↔
        d.symbol ∉ p.declarations.map (·.symbol) := by
      have hfound : s.functions.lookup d.symbol = p.declaration? d.symbol := h.function? d.symbol
      simp [hfound, Program.declaration?]
    rw [hput, ProgramStore.addFunction, h.order]
    by_cases hmem : d.symbol ∈ p.declarations.map (·.symbol)
    · rw [if_pos hmem]
      exact if_neg (mt hnone.1 (not_not.2 hmem))
    · rw [if_neg hmem]
      exact if_pos (hnone.2 hmem)

/-- The functions in the order of the tables are those of the program: for each symbol of the order
there is one in the table. -/
theorem declarations (h : s.Mirrors p) (hnodup : (p.declarations.map (·.symbol)).Nodup) :
    s.declarations = p.declarations := by
  have hfound : ∀ d ∈ p.declarations, s.function? d.symbol = some d := fun d hd => by
    rw [h.function?]
    exact (Program.find?_eq_some_iff_of_nodup hnodup).2 ⟨hd, rfl⟩
  rw [ProgramStore.declarations, h.order]
  generalize p.declarations = ds at hfound
  induction ds with
  | nil => rfl
  | cons d rest ih =>
    rw [List.map_cons, List.filterMap_cons_some (hfound d List.mem_cons_self),
      ih fun d' hd' => hfound d' (List.mem_cons_of_mem d hd')]

theorem noArgConstructor? (h : s.Mirrors p) (c : ClassId) :
    s.noArgConstructor? c = p.noArgConstructor? c := by
  unfold ProgramStore.noArgConstructor? Program.noArgConstructor?
  rw [h.class?]
  cases p.class? c with
  | none => rfl
  | some d =>
    exact congrArg (fun found : ConstructorSymbol → Option Constructor =>
      d.constructors.find? fun k =>
        match found k with
        | some k => k.params.isEmpty
        | none => false) (funext h.constructor?)

end Mirrors

end ProgramStore

end Companions
