import Companions.Proofs.Check.Verdict
import Companions.Proofs.Companion.Forwarding
set_option autoImplicit false

/-!
# The bodies that forward pass the check

The nodes of a body that forwards are checked from its root, each by the rule for its form
(`Surroundings.checkNode_approves`).  What the rules ask for is that the function is known to the
host, that the types are in the pool, and that the copies of the parameters are in scope.
-/

namespace Companions

namespace Forwarding

variable {s : Surroundings} {b : Body} {f : Declaration} {params : List Parameter}
  {selfType : TypeId} {scope : List ParamSymbol} {fuel : Nat} {parent : ExprRef}

/-- The function that is called is known, and so are the types of the call. -/
structure CallKnown (s : Surroundings) (f : Declaration) (params : List Parameter)
    (selfType : TypeId) (scope : List ParamSymbol) : Prop where
  callee : s.lookup.declaration f.symbol = some f
  returnType : s.types.contains f.returnType = true
  selfType : ∀ owner, f.owner = some owner → s.types.contains selfType = true
  params : ∀ p ∈ params, s.types.contains p.type = true ∧ p.symbol ∈ scope

theorem reader_approved (hcall : HoldsCall b f params selfType)
    (hknown : CallKnown s f params selfType scope) {i : Nat} {p : Parameter}
    (hp : params[i]? = some p) :
    (s.checkNode b (fuel + 1) scope parent (some ⟨readersStart f + i⟩)).run = .ok (.ok ()) := by
  have hmem : p ∈ params := List.mem_of_getElem? hp
  refine Surroundings.checkNode_approves (hcall.readers i p hp) trivial (hknown.params p hmem).1
    (hknown.params p hmem).2 ?_
  simp [reader, Body.references]

theorem receiver_approved (hcall : HoldsCall b f params selfType)
    (hknown : CallKnown s f params selfType scope) {owner : ClassId}
    (howner : f.owner = some owner) :
    (s.checkNode b (fuel + 1) scope parent (some ⟨0⟩)).run = .ok (.ok ()) := by
  refine Surroundings.checkNode_approves (hcall.receiver owner howner) trivial
    (hknown.selfType owner howner) trivial ?_
  simp [Body.references]

/-- The call passes: its receiver is there for a member, and its arguments name the parameters of
the function position by position. -/
theorem call_approved (hcopies : params.length = f.params.length)
    (hcall : HoldsCall b f params selfType) (hknown : CallKnown s f params selfType scope) :
    (s.checkNode b (fuel + 2) scope parent (some ⟨callPlace f⟩)).run = .ok (.ok ()) := by
  have hitems : Body.items b.arguments ⟨0, f.params.length⟩ =
      argumentsFrom (readersStart f) f.params := Body.items_of_read hcall.readArguments
  have hfit : Body.Fits b.arguments (⟨0, f.params.length⟩ : Span .arguments) := by
    simp [Body.Fits, hcall.arguments]
  refine Surroundings.checkNode_approves hcall.call hfit hknown.returnType ?_ ?_
  · refine ⟨f, hknown.callee, ?_, ?_⟩
    · intro howner
      simpa [receiverPlace] using howner
    · rw [hitems, map_param_argumentsFrom]
  · intro r hr
    rcases List.mem_append.1 hr with hr | hr
    · cases howner : f.owner with
      | none => simp [receiverPlace, howner] at hr
      | some owner =>
        obtain rfl : r = .plain (some ⟨0⟩) := by simpa [receiverPlace, howner] using hr
        exact receiver_approved hcall hknown howner
    · rw [hitems] at hr
      obtain ⟨a, ha, rfl⟩ := List.mem_map.1 hr
      obtain ⟨i, declared, hi, rfl⟩ := mem_argumentsFrom ha
      obtain ⟨hlt, -⟩ := List.getElem?_eq_some_iff.1 hi
      exact reader_approved hcall hknown (List.getElem?_eq_getElem (hcopies ▸ hlt))

/-- A return of an expression that passes passes, if the label is there. -/
theorem ret_approved {e v : ExprRef} {type : TypeId} {l : LabelId} {label : Label}
    (hx : b.node? e = some ⟨.ret l v, type⟩) (htype : s.types.contains type = true)
    (hlabel : b.label? l = some label)
    (hv : ∀ parent, (s.checkNode b fuel scope parent v).run = .ok (.ok ())) :
    (s.checkNode b (fuel + 1) scope parent e).run = .ok (.ok ()) := by
  refine Surroundings.checkNode_approves hx trivial htype ⟨label, hlabel⟩ ?_
  intro r hr
  cases v with
  | none => simp [Body.references] at hr
  | some v =>
    obtain rfl : r = .plain (some v) := by simpa [Body.references] using hr
    exact hv e

/-- A block of one statement that passes passes. -/
theorem block_approved {e statement : ExprRef} {type : TypeId} {span : Span .expressions}
    (hx : b.node? e = some ⟨.block span, type⟩) (htype : s.types.contains type = true)
    (hfit : Body.Fits b.statements span) (hitems : Body.items b.statements span = [statement])
    (hstatement : ∀ parent, (s.checkNode b fuel scope parent statement).run = .ok (.ok ())) :
    (s.checkNode b (fuel + 1) scope parent e).run = .ok (.ok ()) := by
  refine Surroundings.checkNode_approves hx hfit htype trivial ?_
  intro r hr
  obtain rfl : r = .plain statement := by simpa [Body.references, hitems] using hr
  exact hstatement e

/-- The body of `fOrNull` passes from its root. -/
theorem orNullBody_approved {builtins : Builtins} {handler : Parameter} {label : Label}
    (hcopies : params.length = f.params.length) (hknown : CallKnown s f params selfType scope)
    (hnothing : s.types.contains builtins.nothing = true)
    (hnull : s.types.contains builtins.null = true) :
    (s.checkNode (orNullBody builtins f params selfType handler label) (fuel + 6) scope parent
      (some ⟨callPlace f + 7⟩)).run = .ok (.ok ()) := by
  have hcall : HoldsCall (orNullBody builtins f params selfType handler label) f params selfType :=
    holdsCall_of_nodes hcopies rfl rfl
  have hnode := node?_behind_call (b := orNullBody builtins f params selfType handler label)
    hcopies rfl
  have hlabel : (orNullBody builtins f params selfType handler label).label? ⟨0⟩ = some label := rfl
  -- the function is called inside the `try`, and null is returned from its handler
  have htried : ∀ parent, (s.checkNode (orNullBody builtins f params selfType handler label)
      (fuel + 4) scope parent (some ⟨callPlace f + 2⟩)).run = .ok (.ok ()) := fun _ =>
    block_approved (hnode 1) hnothing (by simp [Body.Fits, orNullBody]) rfl fun _ =>
      ret_approved (hnode 0) hnothing hlabel fun _ => call_approved hcopies hcall hknown
  have hhandling : ∀ parent, (s.checkNode (orNullBody builtins f params selfType handler label)
      (fuel + 4) (handler.symbol :: scope) parent (some ⟨callPlace f + 5⟩)).run = .ok (.ok ()) :=
    fun _ => block_approved (hnode 4) hnothing (by simp [Body.Fits, orNullBody]) rfl fun _ =>
      ret_approved (hnode 3) hnothing hlabel fun _ =>
        Surroundings.checkNode_approves (hnode 2) trivial hnull trivial (by simp [Body.references])
  refine block_approved (hnode 6) hnothing (by simp [Body.Fits, orNullBody]) rfl fun _ => ?_
  refine Surroundings.checkNode_approves (hnode 5) ?_ hnothing trivial ?_
  · simp [Body.FormFits, Body.Fits, orNullBody]
  · intro r hr
    rcases List.mem_cons.1 hr with rfl | hr
    · exact htried _
    · obtain rfl := List.mem_singleton.1 hr
      exact hhandling _

/-- The body of `fOrThrow` passes from its root, if the constructor takes no arguments. -/
theorem orThrowBody_approved {builtins : Builtins} {constr : ConstructorSymbol} {k : Constructor}
    {errorType notNull : TypeId} {label : Label} (hcopies : params.length = f.params.length)
    (hknown : CallKnown s f params selfType scope)
    (hnothing : s.types.contains builtins.nothing = true)
    (hconstr : s.lookup.constr constr = some k) (hempty : k.params = [])
    (herror : s.types.contains errorType = true) (hnotNull : s.types.contains notNull = true) :
    (s.checkNode (orThrowBody builtins constr f params selfType errorType notNull label)
      (fuel + 6) scope parent (some ⟨callPlace f + 5⟩)).run = .ok (.ok ()) := by
  have hcall : HoldsCall (orThrowBody builtins constr f params selfType errorType notNull label)
      f params selfType := holdsCall_of_nodes hcopies rfl rfl
  have hnode := node?_behind_call
    (b := orThrowBody builtins constr f params selfType errorType notNull label) hcopies rfl
  have hraise : ∀ parent, (s.checkNode
      (orThrowBody builtins constr f params selfType errorType notNull label) (fuel + 3) scope
      parent (some ⟨callPlace f + 2⟩)).run = .ok (.ok ()) := by
    intro parent
    refine Surroundings.checkNode_approves (hnode 1) trivial hnothing trivial ?_
    intro r hr
    obtain rfl := List.mem_singleton.1 hr
    refine Surroundings.checkNode_approves (hnode 0) ?_ herror ⟨k, hconstr, ?_⟩ ?_
    · simp [Body.FormFits, Body.Fits]
    · simp [hempty, Body.items]
    · simp [Body.references, Body.items]
  refine block_approved (hnode 4) hnothing (by simp [Body.Fits, orThrowBody]) rfl fun _ => ?_
  refine ret_approved (hnode 3) hnothing rfl fun _ => ?_
  refine Surroundings.checkNode_approves (hnode 2) trivial hnotNull trivial ?_
  intro r hr
  rcases List.mem_cons.1 hr with rfl | hr
  · exact call_approved hcopies hcall hknown
  · obtain rfl := List.mem_singleton.1 hr
    exact hraise _

end Forwarding

end Companions
