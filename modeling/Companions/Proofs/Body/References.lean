import Companions.Body
import Mathlib.Data.List.Nodup
import Mathlib.Data.List.Perm.Subperm
import Mathlib.Logic.Relation
set_option autoImplicit false

/-!
# What the nodes of a body refer to

The nodes of a body form a graph.  `references` lists the edges that leave a node, each with the
parameter that comes into scope along it, and `Path` says which places are reached from a place and
what is readable there.

Whatever follows the nodes of a body does so to a bounded depth.  In a body that is acyclic the
bound is never felt: no path has more nodes than the body, apart from the place without a node that
it may end in (`withinDepth_of_acyclic`).
-/

namespace Companions

namespace Body

/-! ## Spans -/

/-- The items of a span, as far as they are stored. -/
def items {α : Type} {list : ListKind} (store : Array α) (s : Span list) : List α :=
  (store.extract s.start (s.start + s.length)).toList

/-- The span lies inside what is stored. -/
def Fits {α : Type} {list : ListKind} (store : Array α) (s : Span list) : Prop :=
  s.start + s.length ≤ store.size

instance {α : Type} {list : ListKind} (store : Array α) (s : Span list) :
    Decidable (Fits store s) :=
  inferInstanceAs (Decidable (_ ≤ _))

/-- A span that lies inside the store reads as its items. -/
theorem read_of_fits {α : Type} {list : ListKind} {store : Array α} {s : Span list}
    (h : Fits store s) : read store s = .ok (items store s) :=
  if_pos h

/-- What a span reads as are its items. -/
theorem items_of_read {α : Type} {list : ListKind} {store : Array α} {s : Span list}
    {read? : List α} (h : read store s = .ok read?) : items store s = read? := by
  unfold read at h
  split at h
  · exact Except.ok.inj h
  · cases h

theorem mem_of_mem_items {α : Type} {list : ListKind} {store : Array α} {s : Span list} {a : α}
    (h : a ∈ items store s) : a ∈ store := by
  rw [items, Array.toList_extract, List.extract_eq_take_drop] at h
  exact Array.mem_toList_iff.1 (List.mem_of_mem_drop (List.mem_of_mem_take h))

/-- The spans of a node lie inside the lists that they are spans of. -/
def FormFits (b : Body) : ExprForm → Prop
  | .call _ _ arguments => Fits b.arguments arguments
  | .new _ arguments => Fits b.arguments arguments
  | .block statements => Fits b.statements statements
  | .attempt _ handlers => Fits b.handlers handlers
  | _ => True

instance (b : Body) : DecidablePred b.FormFits
  | .call _ _ arguments => inferInstanceAs (Decidable (Fits b.arguments arguments))
  | .new _ arguments => inferInstanceAs (Decidable (Fits b.arguments arguments))
  | .block statements => inferInstanceAs (Decidable (Fits b.statements statements))
  | .attempt _ handlers => inferInstanceAs (Decidable (Fits b.handlers handlers))
  | .const _ | .param _ | .self _ | .ret _ _ | .raise _ | .elvis _ _ | .branch _ _ _
  | .binary _ _ _ => inferInstanceAs (Decidable True)

/-- Every span of the body lies inside the list that it is a span of. -/
def SpansFit (b : Body) : Prop := ∀ x ∈ b.nodes, b.FormFits x.form

instance (b : Body) : Decidable b.SpansFit :=
  inferInstanceAs (Decidable (∀ x ∈ b.nodes, b.FormFits x.form))

theorem mem_nodes_of_node? {b : Body} {e : ExprRef} {x : Expr} (h : b.node? e = some x) :
    x ∈ b.nodes := by
  cases e with
  | none => simp [node?] at h
  | some e => exact Array.mem_of_getElem? h

theorem SpansFit.node {b : Body} (h : b.SpansFit) {e : ExprRef} {x : Expr}
    (hx : b.node? e = some x) : b.FormFits x.form :=
  h x (mem_nodes_of_node? hx)

/-! ## References -/

/-- An edge of the graph: the place that is referred to, and the parameter that comes into scope on
the way there. -/
structure Reference where
  binds : Option ParamSymbol
  place : ExprRef
  deriving DecidableEq, Repr, Inhabited

namespace Reference

/-- A reference that brings nothing into scope. -/
def plain (place : ExprRef) : Reference := ⟨none, place⟩

/-- A reference to a place that may be left empty.  An empty place is not referred to. -/
def optional (place : ExprRef) : List Reference := place.toList.map fun e => plain (some e)

/-- A reference from a `try` to the block of a handler. -/
def handling (h : Handler) : Reference := ⟨some h.param.symbol, h.block⟩

/-- What is readable behind the reference. -/
def scope (r : Reference) (around : List ParamSymbol) : List ParamSymbol :=
  r.binds.toList ++ around

@[simp] theorem plain_place (place : ExprRef) : (plain place).place = place := rfl

@[simp] theorem plain_scope (place : ExprRef) (around : List ParamSymbol) :
    (plain place).scope around = around := rfl

@[simp] theorem handling_place (h : Handler) : (handling h).place = h.block := rfl

@[simp] theorem handling_scope (h : Handler) (around : List ParamSymbol) :
    (handling h).scope around = h.param.symbol :: around := rfl

@[simp] theorem optional_none : optional none = [] := rfl

@[simp] theorem optional_some (e : ExprId) : optional (some e) = [plain (some e)] := rfl

end Reference

/-- What a node refers to, in reading order.  A receiver, the value of a return and the else branch
may be left out; every other place is referred to even if it is empty. -/
def references (b : Body) : ExprForm → List Reference
  | .const _ | .param _ | .self _ => []
  | .call _ receiver arguments =>
    Reference.optional receiver ++ (items b.arguments arguments).map fun a => .plain a.value
  | .new _ arguments => (items b.arguments arguments).map fun a => .plain a.value
  | .block statements => (items b.statements statements).map .plain
  | .ret _ value => Reference.optional value
  | .attempt block handlers =>
    .plain block :: (items b.handlers handlers).map .handling
  | .raise exception => [.plain exception]
  | .elvis left right => [.plain left, .plain right]
  | .branch condition yes no => .plain condition :: .plain yes :: Reference.optional no
  | .binary _ left right => [.plain left, .plain right]

/-- The handlers that a node offers exceptions to. -/
def handlersOf (b : Body) : ExprForm → List Handler
  | .attempt _ handlers => items b.handlers handlers
  | _ => []

theorem mem_handlers_of_mem_handlersOf {b : Body} {form : ExprForm} {h : Handler}
    (hh : h ∈ b.handlersOf form) : h ∈ b.handlers := by
  cases form with
  | attempt block handlers => exact mem_of_mem_items hh
  | _ => cases hh

/-- A node refers to the blocks of its handlers. -/
theorem handling_mem_references {b : Body} {form : ExprForm} {h : Handler}
    (hh : h ∈ b.handlersOf form) : .handling h ∈ b.references form := by
  cases form with
  | attempt block handlers => exact List.mem_cons_of_mem _ (List.mem_map_of_mem hh)
  | _ => cases hh

/-- The place holds a node that refers to the other place. -/
def Refers (b : Body) (e c : ExprRef) : Prop :=
  ∃ x, b.node? e = some x ∧ ∃ r ∈ b.references x.form, r.place = c

/-- A path through the references of a body, from a place where `scope` is readable to a place where
`scope'` is. -/
inductive Path (b : Body) : List ParamSymbol → ExprRef → List ParamSymbol → ExprRef → Prop
  | here (scope : List ParamSymbol) (e : ExprRef) : Path b scope e scope e
  | step {scope scope' : List ParamSymbol} {e e' : ExprRef} {x : Expr} {r : Reference}
      (node : b.node? e = some x) (edge : r ∈ b.references x.form)
      (rest : Path b (r.scope scope) r.place scope' e') : Path b scope e scope' e'

/-- A property of scopes and places holds along every path from a place exactly if it holds there
and along every path from what the place refers to. -/
theorem forall_path_iff {b : Body} {P : List ParamSymbol → ExprRef → Prop}
    {scope : List ParamSymbol} {e : ExprRef} :
    (∀ scope' e', b.Path scope e scope' e' → P scope' e') ↔
      P scope e ∧ ∀ x, b.node? e = some x → ∀ r ∈ b.references x.form,
        ∀ scope' e', b.Path (r.scope scope) r.place scope' e' → P scope' e' := by
  constructor
  · intro h
    exact ⟨h _ _ (.here scope e), fun x hx r hr scope' e' hp => h _ _ (.step hx hr hp)⟩
  · rintro ⟨h, hrest⟩ scope' e' hp
    cases hp with
    | here => exact h
    | step hx hr hp => exact hrest _ hx _ hr _ _ hp

/-- Only a handler brings its parameter into scope. -/
theorem exists_handler_of_binds {b : Body} {form : ExprForm} {r : Reference} {p : ParamSymbol}
    (hr : r ∈ b.references form) (hp : r.binds = some p) :
    ∃ h ∈ b.handlersOf form, h.param.symbol = p := by
  cases form with
  | attempt block handlers =>
    rcases List.mem_cons.1 hr with rfl | hr
    · cases hp
    · obtain ⟨h, hmem, rfl⟩ := List.mem_map.1 hr
      exact ⟨h, hmem, Option.some.inj hp⟩
  | _ => grind [references, Reference.optional, Reference.plain]

/-- What is readable behind a path was readable before it, or belongs to a handler. -/
theorem mem_scope_of_path {b : Body} {scope scope' : List ParamSymbol} {e e' : ExprRef}
    {p : ParamSymbol} (hpath : b.Path scope e scope' e') (hp : p ∈ scope') :
    p ∈ scope ∨ ∃ x ∈ b.nodes, ∃ h ∈ b.handlersOf x.form, h.param.symbol = p := by
  induction hpath with
  | here => exact .inl hp
  | step hx hr _ ih =>
    rcases ih hp with hscope | hhandler
    · rcases List.mem_append.1 hscope with hbinds | hscope
      · have hhandler := exists_handler_of_binds hr (Option.mem_toList.1 hbinds)
        exact .inr ⟨_, mem_nodes_of_node? hx, hhandler⟩
      · exact .inl hscope
    · exact .inr hhandler

/-- Some path from the root, where `params` are readable, comes to a node that offers exceptions to
the handler, where `scope` is readable. -/
def Offers (b : Body) (params scope : List ParamSymbol) (h : Handler) : Prop :=
  ∃ e x, b.Path params b.root scope e ∧ b.node? e = some x ∧ h ∈ b.handlersOf x.form

/-! ## Depth -/

/-- No node leads back to itself. -/
def Acyclic (b : Body) : Prop := ∀ e, ¬ Relation.TransGen b.Refers e e

/-- No path from the place visits more than `n` places. -/
def WithinDepth (b : Body) : Nat → ExprRef → Prop
  | 0, _ => False
  | n + 1, e => ∀ c, b.Refers e c → b.WithinDepth n c

theorem WithinDepth.mono {b : Body} {n m : Nat} {e : ExprRef} (h : b.WithinDepth n e)
    (hle : n ≤ m) : b.WithinDepth m e := by
  induction n generalizing m e with
  | zero => exact h.elim
  | succ n ih =>
    cases m with
    | zero => omega
    | succ m => exact fun c hc => ih (h c hc) (by omega)

/-- What a place refers to is less deep than the place. -/
theorem WithinDepth.reference {b : Body} {n : Nat} {e : ExprRef} {x : Expr} {r : Reference}
    (h : b.WithinDepth (n + 1) e) (hx : b.node? e = some x) (hr : r ∈ b.references x.form) :
    b.WithinDepth n r.place :=
  h _ ⟨x, hx, r, hr, rfl⟩

theorem number_lt_of_node? {b : Body} {e : ExprId} {x : Expr} (h : b.node? (some e) = some x) :
    e.number < b.size :=
  (Array.getElem?_eq_some_iff.1 h).1

/-- In an acyclic body, the nodes on the way to a place are distinct nodes of the body, so that at
most `b.size + 1` places are left to visit when none has been visited yet. -/
theorem withinDepth_of_visited {b : Body} (h : b.Acyclic) (n : Nat) (visited : List Nat)
    (e : ExprRef) (hnodup : visited.Nodup)
    (hvisited : ∀ v ∈ visited, v < b.size ∧ Relation.TransGen b.Refers (some ⟨v⟩) e)
    (hn : b.size + 1 ≤ visited.length + n) : b.WithinDepth n e := by
  induction n generalizing visited e with
  | zero =>
    have hsub : visited ⊆ List.range b.size :=
      fun v hv => List.mem_range.2 (hvisited v hv).1
    have hle := (hnodup.subperm hsub).length_le
    rw [List.length_range] at hle
    omega
  | succ n ih =>
    intro c hc
    obtain ⟨x, hx, r, hr, hrc⟩ := hc
    cases e with
    | none => simp [node?] at hx
    | some v =>
      have hstep : b.Refers (some v) c := ⟨x, hx, r, hr, hrc⟩
      have hfresh : v.number ∉ visited := fun hv => h _ (hvisited _ hv).2
      refine ih (v.number :: visited) c (List.nodup_cons.2 ⟨hfresh, hnodup⟩) ?_ ?_
      · intro w hw
        rcases List.mem_cons.1 hw with rfl | hw
        · exact ⟨number_lt_of_node? hx, .single hstep⟩
        · exact ⟨(hvisited w hw).1, (hvisited w hw).2.tail hstep⟩
      · simp only [List.length_cons]
        omega

/-- A path through an acyclic body visits each node at most once, and then perhaps a place without a
node. -/
theorem withinDepth_of_acyclic {b : Body} (h : b.Acyclic) (e : ExprRef) :
    b.WithinDepth (b.size + 1) e :=
  withinDepth_of_visited h _ [] e List.nodup_nil (by simp) (by simp)

/-- The nodes refer to earlier nodes only, as far as they refer to nodes. -/
def Descends (b : Body) : Prop :=
  ∀ i : Fin b.nodes.size, ∀ r ∈ b.references b.nodes[i].form, ∀ c ∈ r.place, c.number < i

instance (b : Body) : Decidable b.Descends :=
  inferInstanceAs (Decidable (∀ i : Fin b.nodes.size,
    ∀ r ∈ b.references b.nodes[i].form, ∀ c ∈ r.place, c.number < i))

theorem Descends.number_lt {b : Body} (h : b.Descends) {e c : ExprId}
    (hr : b.Refers (some e) (some c)) : c.number < e.number := by
  obtain ⟨x, hx, r, hmem, hplace⟩ := hr
  obtain ⟨hlt, rfl⟩ := Array.getElem?_eq_some_iff.1 hx
  exact h ⟨e.number, hlt⟩ r hmem c hplace

/-- A body whose nodes refer to earlier nodes only is acyclic. -/
theorem Descends.acyclic {b : Body} (h : b.Descends) : b.Acyclic := by
  let rank : ExprRef → Nat := fun e => (e.map fun e => e.number + 1).getD 0
  have hstep : ∀ e c, b.Refers e c → rank c < rank e := by
    intro e c hr
    cases e with
    | none =>
      obtain ⟨x, hx, -⟩ := hr
      simp [node?] at hx
    | some e =>
      cases c with
      | none => exact Nat.succ_pos _
      | some c => exact Nat.succ_lt_succ (h.number_lt hr)
  intro e he
  have hlt : rank e < rank e :=
    Relation.TransGen.trans_induction_on (motive := fun {a c} _ => rank c < rank a) he
      (fun hr => hstep _ _ hr) (fun _ _ hab hbc => Nat.lt_trans hbc hab)
  exact Nat.lt_irrefl _ hlt

end Body

end Companions
