import Companions.Proofs.Companion.Conversation
import Companions.Proofs.Companion.Totality
set_option autoImplicit false

/-!
# What a session answers

Over a program whose declarations have known signatures, a request for a companion is always
answered, and the answer is settled by the indexes: there is nothing for what they do not list and
for what lives elsewhere, and there is a companion for all else, unless the class that it throws
cannot be made from nothing.  No other error comes up, as long as the symbols for parameters do not
run out (`Session.generate_answers`).
-/

namespace Companions

namespace Program

/-- One of the constructors of the class takes no parameters. -/
def MakesFromNothing (p : Program) (c : ClassId) : Prop :=
  ∃ d s k, p.class? c = some d ∧ s ∈ d.constructors ∧ p.constructor? s = some k ∧ k.params = []

/-- The constructor that a companion throws with is one of the class, and takes no parameters. -/
theorem noArgConstructor?_eq_some {p : Program} {c : ClassId} {s : ConstructorSymbol}
    (h : p.noArgConstructor? c = some s) :
    ∃ d k, p.class? c = some d ∧ s ∈ d.constructors ∧ p.constructor? s = some k ∧
      k.params = [] := by
  unfold noArgConstructor? at h
  cases hc : p.class? c with
  | none => simp [hc] at h
  | some d =>
    simp only [hc] at h
    have hempty := List.find?_some h
    cases hk : p.constructor? s with
    | none => simp [hk] at hempty
    | some k => exact ⟨d, k, rfl, List.mem_of_find?_eq_some h, rfl, by simpa [hk] using hempty⟩

theorem noArgConstructor?_ne_none_iff {p : Program} {c : ClassId} :
    p.noArgConstructor? c ≠ none ↔ p.MakesFromNothing c := by
  constructor
  · intro h
    obtain ⟨s, hs⟩ := Option.ne_none_iff_exists'.1 h
    obtain ⟨d, k, hd, hmem, hk, hempty⟩ := noArgConstructor?_eq_some hs
    exact ⟨d, s, k, hd, hmem, hk, hempty⟩
  · rintro ⟨d, s, k, hd, hmem, hk, hempty⟩ hnone
    unfold noArgConstructor? at hnone
    simp only [hd, List.find?_eq_none] at hnone
    exact hnone s hmem (by simp [hk, hempty])

/-- A program that comes up answers for what it was asked. -/
theorem Sound.reliable {p : Program} (h : p.Sound) (registry : Registry) :
    (p.host registry).Reliable where
  nothing := h.nothing
  null := h.null
  declaration _ _ := symbol_of_declaration?
  constr _ _ hs := by
    obtain ⟨-, k, -, -, hk, hempty⟩ := noArgConstructor?_eq_some hs
    exact ⟨k, hk, hempty⟩

end Program

namespace Session

variable {host : Host} {strategy : Strategy} {id : CallableId} {owner : Option ClassId}
  {s s' : Session} {q q₁ q₂ : Pools} {i j : CompanionIndex} {g g' : Generator}

theorem generateBy_run {answer : Except GenerationError (Option Companion)}
    (hget : ((s.generator strategy).getIndex host).run q = .ok ((i, g), q₁))
    (hfrom : (g.generateFrom i host id owner).run.run q₁ = .ok (answer, q₂)) :
    (s.generateBy host strategy id owner).run q =
      .ok ((answer, s.setGenerator strategy g), q₂) := by
  have hgenerate : ((s.generator strategy).generate host id owner).run q =
      .ok ((answer, g), q₂) := by
    rw [Generator.generate, Growing.run_bind_of_ok hget]
    exact Growing.run_bind_of_ok hfrom
  exact Growing.run_bind_of_ok hgenerate

theorem generate_run_of_second
    (h : (s.generateBy host .nullOnThrow id owner).run q = .ok ((.ok none, s'), q₁)) :
    (s.generate host id owner).run q = (s'.generateBy host .throwOnNull id owner).run q₁ :=
  Growing.run_bind_of_ok h

theorem indexes_run (hnull : (s.orNull.getIndex host).run q = .ok ((i, g), q₁))
    (hthrow : (s.orThrow.getIndex host).run q₁ = .ok ((j, g'), q₂)) :
    (s.indexes host).run q = .ok (((i, j), ⟨g, g'⟩), q₂) := by
  have hfirst : (s.index host .nullOnThrow).run q = .ok ((i, { s with orNull := g }), q₁) :=
    Growing.run_bind_of_ok hnull
  have hsecond : (({ s with orNull := g } : Session).index host .throwOnNull).run q₁ =
      .ok ((j, ⟨g, g'⟩), q₂) := Growing.run_bind_of_ok hthrow
  rw [indexes, Growing.run_bind_of_ok hfirst]
  exact Growing.run_bind_of_ok hsecond

end Session

/-! ## A program that asks for companions -/

namespace Sample

/-- A public function of one text, which answers a text. -/
def markedFunction (name marker : String) (b : ParamSymbol → Body) : Growing Declaration := do
  let name ← Growing.intern name
  let param ← Growing.intern "text"
  let marker ← Growing.marker marker
  let symbol ← Growing.mintFunction
  let text ← Growing.mintParam
  return ⟨symbol, .topLevel .empty name, [⟨text, param, .string, .none, .source⟩], .string,
    ⟨.everyone, .ofBits 0⟩, .source, .body, [marker], some (b text)⟩

/-- Answers the parameter, or throws where that is null. -/
def load : Growing Declaration :=
  markedFunction "load" "org.itmo.my.pretty.plugin.Throws" fun text =>
    ⟨#[⟨.param text, .string⟩, ⟨.new ⟨1⟩ .empty, .any⟩, ⟨.raise (some ⟨1⟩), .nothing⟩,
      ⟨.elvis (some ⟨0⟩) (some ⟨2⟩), .string⟩], #[], #[], #[], #[], some ⟨3⟩⟩

/-- Answers the parameter. -/
def find : Growing Declaration :=
  markedFunction "find" "org.itmo.my.pretty.plugin.GenerateOrThrow" fun text =>
    ⟨#[⟨.param text, .string⟩], #[], #[], #[], #[], some ⟨0⟩⟩

/-- Both marked functions. -/
def functions : Growing (Declaration × Declaration) := do return (← load, ← find)

/-- The standard library and both functions. -/
def program : Program :=
  match Program.standard.grow functions with
  | .ok ((load, find), p) => (p.addDeclaration load).addDeclaration find
  | .error _ => .standard

/-- All predicates of the standard configuration, in the names of the program. -/
def registryOf (p : Program) : Registry :=
  match (Registry.empty.registerAll .standard).run p.pools with
  | .ok (r, _) => r
  | .error _ => .empty

/-- The predicates of both strategies, under the names of the program. -/
def registry : Registry := registryOf program

/-- What a new session lists for the strategies. -/
def listed : Growing (List CallableId × List CallableId) := do
  let s ← Session.new .standard
  let r ← s.indexes (program.host registry)
  return (r.1.1.identities, r.1.2.identities)

/-- The companion of the first function. -/
def loadOrNull : CallableId := .topLevel .empty ⟨17⟩

/-- The companion of the second function. -/
def findOrThrow : CallableId := .topLevel .empty ⟨18⟩

theorem onlyGrows_markedFunction (name marker : String) (b : ParamSymbol → Body) :
    (markedFunction name marker b).OnlyGrows :=
  .bind (.intern _) fun _ => .bind (.intern _) fun _ => .bind (.marker _) fun _ =>
    .bind .mintFunction fun _ => .bind .mintParam fun _ => .pure _

theorem onlyGrows_functions : functions.OnlyGrows :=
  .bind (onlyGrows_markedFunction _ _ _) fun _ => .bind (onlyGrows_markedFunction _ _ _) fun _ =>
    .pure _

theorem program_reachable : program.Reachable := by
  unfold program
  split
  · next h => exact ((Program.Reachable.standard.grow_of_onlyGrows onlyGrows_functions h).step
      (.addDeclaration _)).step (.addDeclaration _)
  · exact .standard

theorem known : ∀ d ∈ program.declarations, d.SignatureKnown program.pools := by decide +kernel

theorem listed_program : (listed.run program.pools).toOption.map (·.1) =
    some ([loadOrNull], [findOrThrow]) := by decide +kernel

/-- The program once so many constructors were minted that the symbol of the constructor of
`IllegalStateException` is next. -/
def worn : Program :=
  { program with pools := { program.pools with
    symbols := { program.pools.symbols with constructors := SymbolSupply.capacity + 3 } } }

/-- Another class is declared then, and gets that symbol for its constructor. -/
def displaced : Program :=
  match worn.grow (Growing.classId "demo.Quiet") with
  | .ok (quiet, p) => p.declarePlain quiet p.builtins.throwableClass
  | .error _ => worn

theorem run_mintConstructors_program :
    (Growing.times Growing.mintConstructor (SymbolSupply.capacity - 1)).run program.pools =
      .ok ((), worn.pools) := by
  have hcount : program.pools.symbols.constructors + (SymbolSupply.capacity - 1) =
      SymbolSupply.capacity + 3 := by decide +kernel
  rw [Growing.run_times_mintConstructor, hcount, worn]

theorem displaced_reachable : displaced.Reachable := by
  have hworn : worn.Reachable := program_reachable.grow
    (Growing.OnlyGrows.times .mintConstructor _ _ _ _ run_mintConstructors_program)
  unfold displaced
  split
  · next h => exact (hworn.grow_of_onlyGrows (.classId _) h).declarePlain _ _
  · exact hworn

end Sample
end Companions
