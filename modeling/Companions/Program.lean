import Companions.Pools
set_option autoImplicit false

/-!
# Programs

All that is declared in one unit: classes, constructors and functions, each in the order of its
first declaration, with the pools that they were made from.

A class that is declared again gets a new supertype and keeps its constructors; a function that is
added again takes the place of the earlier one, and so does a constructor whose symbol was handed
out before.
-/

namespace Companions

/-- The types that companions need besides those of the functions they forward to. -/
structure Builtins where
  nothing : TypeId
  /-- The type of the null literal. -/
  null : TypeId
  /-- The type of everything that can be thrown. -/
  throwable : TypeId
  throwableClass : ClassId
  deriving DecidableEq, Repr, Inhabited

/-- The pools, the types and classes that every program has, and what is declared. -/
structure Program where
  pools : Pools
  builtins : Builtins
  classes : List Class
  constructors : List Constructor
  declarations : List Declaration

namespace Program

/-! ## Look-up -/

/-- The class with the id. -/
def class? (p : Program) (c : ClassId) : Option Class := p.classes.find? (·.id = c)

/-- The constructor with the symbol. -/
def constructor? (p : Program) (s : ConstructorSymbol) : Option Constructor :=
  p.constructors.find? (·.symbol = s)

/-- The function with the symbol. -/
def declaration? (p : Program) (s : FunctionSymbol) : Option Declaration :=
  p.declarations.find? (·.symbol = s)

/-- What can be found in the program by symbol. -/
def lookup (p : Program) : Lookup := ⟨p.declaration?, p.constructor?⟩

/-- The first constructor of the class that takes no parameters. -/
def noArgConstructor? (p : Program) (c : ClassId) : Option ConstructorSymbol :=
  match p.class? c with
  | none => none
  | some d =>
    d.constructors.find? fun s =>
      match p.constructor? s with
      | some k => k.params.isEmpty
      | none => false

/-- What a class is declared to inherit from. -/
def supertype? (p : Program) (c : ClassId) : Option ClassId := (p.class? c).bind (·.supertype)

/-- A class and what it inherits from, at most `n` classes in all. -/
def lineage (p : Program) : Nat → ClassId → List ClassId
  | 0, _ => []
  | n + 1, c => c :: ((p.supertype? c).map (p.lineage n)).getD []

/-- A class and all that it inherits from.  A chain of supertypes repeats itself after more steps
than there are declared classes, so no more are looked at. -/
def ancestry (p : Program) (c : ClassId) : List ClassId := p.lineage (p.classes.length + 1) c

/-- Whether a class is `ancestor` or inherits from it. -/
def isSubclass (p : Program) (c ancestor : ClassId) : Bool := (p.ancestry c).contains ancestor

/-! ## Declaring -/

/-- The list with `new` in the place of the first item that `same` picks, or else at its end. -/
def putFirst {α : Type} (same : α → Bool) (new : α) : List α → List α
  | [] => [new]
  | a :: rest => if same a then new :: rest else a :: putFirst same new rest

/-- The class as it is after being declared: new, or as it was with another supertype. -/
def declared (p : Program) (c : ClassId) (supertype : Option ClassId) : Class :=
  ⟨c, supertype, ((p.class? c).map (·.constructors)).getD []⟩

/-- Puts the class in the place of the one with its id. -/
def putClass (p : Program) (d : Class) : Program :=
  { p with classes := putFirst (·.id = d.id) d p.classes }

/-- Declares a class.  A class that is declared already keeps its constructors. -/
def declareClass (p : Program) (c : ClassId) (supertype : Option ClassId) : Program :=
  p.putClass (p.declared c supertype)

/-- Adds a function, or puts it in the place of the one with its symbol. -/
def addDeclaration (p : Program) (d : Declaration) : Program :=
  { p with declarations := putFirst (·.symbol = d.symbol) d p.declarations }

/-- Adds a constructor to those that are known, or puts it in the place of the one with its
symbol. -/
def putConstructor (p : Program) (k : Constructor) : Program :=
  { p with constructors := putFirst (·.symbol = k.symbol) k p.constructors }

/-- Puts the class into the program with one constructor more. -/
def putWithConstructor (p : Program) (d : Class) (params : List Parameter) :
    ConstructorSymbol × Program :=
  let (symbol, symbols) := p.pools.symbols.mintConstructor
  let p := p.putClass { d with constructors := d.constructors ++ [symbol] }
  let p := p.putConstructor ⟨symbol, d.id, params⟩
  (symbol, { p with pools := { p.pools with symbols } })

/-- Adds a constructor to a declared class. -/
def addConstructor (p : Program) (c : ClassId) (params : List Parameter) :
    Except Fault (ConstructorSymbol × Program) := do
  let d ← orFault (p.class? c) (.undeclaredClass c)
  return p.putWithConstructor d params

/-- Declares a class that can be made from nothing. -/
def declarePlain (p : Program) (c : ClassId) (supertype : Option ClassId) : Program :=
  (p.putWithConstructor (p.declared c supertype) []).2

/-- Runs work on the pools of the program. -/
def grow {α : Type} (p : Program) (work : Growing α) : Except Fault (α × Program) := do
  let (a, pools) ← work.run p.pools
  return (a, { p with pools })

/-! ## First programs -/

/-- The path of the class of everything that can be thrown. -/
def throwablePath : String := "kotlin.Throwable"

/-- Only the class of everything that can be thrown is known. -/
def empty : Program :=
  let (throwable, names) := ClassId.ofPath .fresh throwablePath
  let (type, types) := TypePool.fresh.classType throwable
  let p : Program :=
    ⟨⟨names, types, .fresh⟩, ⟨.nothing, .nullableNothing, type, throwable⟩, [], [], []⟩
  p.declarePlain throwable none

instance : Inhabited Program := ⟨empty⟩

/-- The exception classes of the standard library are known as well. -/
def standard : Program :=
  let p := empty
  let throwable := p.builtins.throwableClass
  let (exception, names) := ClassId.ofPath p.pools.names "java.lang.Exception"
  let (runtime, names) := ClassId.ofPath names "java.lang.RuntimeException"
  let (illegalState, names) := ClassId.ofPath names "java.lang.IllegalStateException"
  let p := { p with pools := { p.pools with names } }
  let p := p.declarePlain exception throwable
  let p := p.declarePlain runtime exception
  p.declarePlain illegalState runtime

end Program

end Companions
