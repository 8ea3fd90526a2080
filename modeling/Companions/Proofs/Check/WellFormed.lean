import Companions.Companion.Check
import Companions.Proofs.Body.References
set_option autoImplicit false

/-!
# What it takes to be a companion

The check walks the nodes of a body and stops at the first thing that is wrong.  Here is what it
looks for, said without a walk: a companion's parameters mirror those of the function, all its
labels leave the companion itself, and every place that a path from the root leads to holds a sound
node (`Surroundings.IsCompanion`).
-/

namespace Companions

namespace Surroundings

/-- What is asked of a node beyond its type and its references, where `scope` is readable. -/
def FormSound (s : Surroundings) (b : Body) (scope : List ParamSymbol) : ExprForm → Prop
  | .param p => p ∈ scope
  | .call callee receiver arguments =>
    ∃ d, s.lookup.declaration callee = some d ∧ (d.owner ≠ none → receiver ≠ none) ∧
      (Body.items b.arguments arguments).map (·.param) = d.params.map (·.symbol)
  | .new constr arguments =>
    ∃ k, s.lookup.constr constr = some k ∧
      (Body.items b.arguments arguments).length = k.params.length
  | .ret target _ => ∃ l, b.label? target = some l
  | _ => True

/-- The place holds a node of a known type that is sound where `scope` is readable. -/
def NodeSound (s : Surroundings) (b : Body) (scope : List ParamSymbol) (e : ExprRef) : Prop :=
  ∃ x, b.node? e = some x ∧ s.types.contains x.type = true ∧ s.FormSound b scope x.form

end Surroundings

/-- A parameter repeats another one under a symbol of its own, with the given provenance. -/
structure Parameter.Repeats (own other : Parameter) (provenance : Provenance) : Prop where
  name : own.name = other.name
  type : own.type = other.type
  flags : own.flags = other.flags
  symbol : own.symbol ≠ other.symbol
  provenance : own.provenance = provenance

theorem Parameter.mirrors_iff {own other : Parameter} {provenance : Provenance} :
    own.mirrors other provenance = true ↔ own.Repeats other provenance := by
  simp only [mirrors, Bool.and_eq_true, decide_eq_true_eq]
  constructor
  · rintro ⟨⟨⟨⟨hname, htype⟩, hflags⟩, hsymbol⟩, hprovenance⟩
    exact ⟨hname, htype, hflags, hsymbol, hprovenance⟩
  · rintro ⟨hname, htype, hflags, hsymbol, hprovenance⟩
    exact ⟨⟨⟨⟨hname, htype⟩, hflags⟩, hsymbol⟩, hprovenance⟩

/-- The body belongs to the function and is sound along every path from its root. -/
structure Surroundings.BodySound (s : Surroundings) (d : Declaration) (b : Body) : Prop where
  /-- The root is a node of the body. -/
  root : b.contains b.root = true
  /-- Every label leaves the function. -/
  labels : ∀ l ∈ b.labels, l.target = some d.symbol
  nodes : ∀ scope e, b.Path (d.params.map (·.symbol)) b.root scope e → s.NodeSound b scope e

/-- `d` is a companion of `other`. -/
structure Surroundings.IsCompanion (s : Surroundings) (d other : Declaration) : Prop where
  /-- Position by position, the parameters repeat those of the function; there are as many. -/
  params : List.Forall₂ (fun own theirs => own.Repeats theirs d.provenance) d.params other.params
  body : ∃ b, d.body = some b ∧ s.BodySound d b

end Companions
