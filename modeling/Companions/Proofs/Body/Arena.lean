import Companions.Body
import Mathlib.Data.List.Forall2
set_option autoImplicit false

/-!
# Bodies only grow

Whatever is asked of a body, all that could be read from it before is read as before: nodes, lists,
and the names and targets of labels (`Body.Grows`).  So what a body hands out goes on standing for
what it was made of (`Body.Honours`), over runs of any length (`Body.faithful_of_run`).

Two things that a body settles by its type are compared with a body that is changed in place:
nodes whose forms and types are kept in two arrays beside each other (`Body.NodeColumns`), and
labels that are written in their slots (`Body.writeTarget`).
-/

namespace Companions

namespace Body

/-! ## Runs -/

/-- What can be asked of a body. -/
inductive Operation
  | alloc (form : ExprForm) (type : TypeId)
  | pushStatements (items : List ExprRef)
  | pushArguments (items : List Argument)
  | pushHandlers (items : List Handler)
  | newLabel (name : Name)
  | bindLabel (label : LabelId) (target : FunctionSymbol)
  | setRoot (root : ExprRef)
  deriving DecidableEq, Repr

/-- What a body answers. -/
inductive Reply
  | node (id : ExprId)
  | statements (span : Span .expressions)
  | arguments (span : Span .arguments)
  | handlers (span : Span .handlers)
  | label (id : LabelId)
  | done
  | refused (reason : LabelError)
  deriving DecidableEq, Repr

/-- The list is not longer than a span can say. -/
def Operation.Fits : Operation → Prop
  | .pushStatements items => items.length ≤ maxListLength
  | .pushArguments items => items.length ≤ maxListLength
  | .pushHandlers items => items.length ≤ maxListLength
  | _ => True

instance Operation.decidableFits (op : Operation) : Decidable op.Fits :=
  match op with
  | .pushStatements _ | .pushArguments _ | .pushHandlers _ => inferInstanceAs (Decidable (_ ≤ _))
  | .alloc .. | .newLabel _ | .bindLabel .. | .setRoot _ => inferInstanceAs (Decidable True)

/-- The node that is handed out. -/
def Reply.node? : Reply → Option ExprId
  | .node id => some id
  | _ => none

/-- Does what is asked, on a body in which each node keeps its form and type together. -/
def perform (b : Body) : Operation → Except Fault (Reply × Body)
  | .alloc form type => .ok (.node (b.alloc form type).1, (b.alloc form type).2)
  | .pushStatements items => do
    let (span, b) ← b.pushStatements items
    return (.statements span, b)
  | .pushArguments items => do
    let (span, b) ← b.pushArguments items
    return (.arguments span, b)
  | .pushHandlers items => do
    let (span, b) ← b.pushHandlers items
    return (.handlers span, b)
  | .newLabel name => .ok (.label (b.newLabel name).1, (b.newLabel name).2)
  | .bindLabel l target =>
    match b.bindLabel l target with
    | .ok b => .ok (.done, b)
    | .error reason => .ok (.refused reason, b)
  | .setRoot root => .ok (.done, b.setRoot root)

/-- Asks one thing after the other. -/
def performEach : Body → List Operation → Except Fault (List Reply × Body)
  | b, [] => .ok ([], b)
  | b, op :: rest => do
    let (reply, b) ← b.perform op
    let (replies, b) ← performEach b rest
    return (reply :: replies, b)

variable {b c d : Body} {l : LabelId} {target : FunctionSymbol} {op : Operation} {reply : Reply}

/-! ## Labels -/

theorem label?_setIfInBounds (labels : Array Label) (l l' : LabelId) (slot : Label)
    (h : l.number < labels.size) :
    (labels.setIfInBounds l.number slot)[l'.number]? =
      if l' = l then some slot else labels[l'.number]? := by
  obtain ⟨n⟩ := l
  obtain ⟨n'⟩ := l'
  rw [Array.getElem?_setIfInBounds]
  by_cases hn : n = n'
  · subst hn
    simp [h]
  · have hne : n' ≠ n := fun heq => hn heq.symm
    simp [hn, hne]

/-- How binding a label ends: the label is unknown, or bound to another function, or it becomes
bound, or stays so. -/
theorem bindLabel_cases (b : Body) (l : LabelId) (target : FunctionSymbol) :
    (b.label? l = none ∧ b.bindLabel l target = .error (.unknown l)) ∨
      (∃ name other, b.label? l = some ⟨name, some other⟩ ∧ other ≠ target ∧
        b.bindLabel l target = .error (.alreadyBound l other)) ∨
      (∃ name, b.label? l = some ⟨name, none⟩ ∧ b.bindLabel l target =
        .ok { b with labels := b.labels.setIfInBounds l.number ⟨name, some target⟩ }) ∨
      ∃ name, b.label? l = some ⟨name, some target⟩ ∧ b.bindLabel l target = .ok b := by
  cases hl : b.label? l with
  | none => exact .inl ⟨rfl, by simp [bindLabel, hl]⟩
  | some slot =>
    obtain ⟨name, bound⟩ := slot
    cases bound with
    | none => exact .inr (.inr (.inl ⟨name, rfl, by simp [bindLabel, hl]⟩))
    | some other =>
      by_cases hother : other = target
      · subst hother
        exact .inr (.inr (.inr ⟨name, rfl, by simp [bindLabel, hl]⟩))
      · exact .inr (.inl ⟨name, other, rfl, hother, by simp [bindLabel, hl, hother]⟩)

/-- What binding a label does: the label was there, free or bound to that function; it keeps its
name and is bound, and nothing else changes. -/
theorem bindLabel_spec (h : b.bindLabel l target = .ok c) :
    ∃ name bound, b.label? l = some ⟨name, bound⟩ ∧ (∀ f, bound = some f → f = target) ∧
      c = { b with labels := c.labels } ∧
      ∀ l', c.label? l' = if l' = l then some ⟨name, some target⟩ else b.label? l' := by
  rcases bindLabel_cases b l target with ⟨-, hbind⟩ | ⟨_, _, -, -, hbind⟩ | ⟨name, hl, hbind⟩ |
    ⟨name, hl, hbind⟩
  · simp [hbind] at h
  · simp [hbind] at h
  · cases hbind.symm.trans h
    have hlt := (Array.getElem?_eq_some_iff.1 hl).1
    exact ⟨name, none, hl, by simp, rfl, fun l' => label?_setIfInBounds b.labels l l' _ hlt⟩
  · cases hbind.symm.trans h
    refine ⟨name, some target, hl, by simp, rfl, fun l' => ?_⟩
    by_cases hl' : l' = l
    · rw [if_pos hl', hl', hl]
    · rw [if_neg hl']

/-- Binding succeeds exactly for labels that are there and not bound to another function. -/
theorem bindLabel_ok_iff : (∃ c, b.bindLabel l target = .ok c) ↔
    ∃ name bound, b.label? l = some ⟨name, bound⟩ ∧ ∀ f, bound = some f → f = target := by
  constructor
  · rintro ⟨c, h⟩
    obtain ⟨name, bound, hl, hbound, -⟩ := bindLabel_spec h
    exact ⟨name, bound, hl, hbound⟩
  · rintro ⟨name, bound, hl, hbound⟩
    rcases bindLabel_cases b l target with ⟨hl', -⟩ | ⟨_, other, hl', hne, -⟩ | ⟨_, -, hbind⟩ |
      ⟨_, -, hbind⟩
    · simp [hl] at hl'
    · cases hl.symm.trans hl'
      exact absurd (hbound other rfl) hne
    · exact ⟨_, hbind⟩
    · exact ⟨b, hbind⟩

/-- A label that is bound can be bound to the same function again, and nothing changes. -/
theorem bindLabel_of_bound {name : Name} (h : b.label? l = some ⟨name, some target⟩) :
    b.bindLabel l target = .ok b := by
  simp [bindLabel, h]

/-! ### Written in place -/

/-- Binds a label in place: its slot is written, unless there is none or another function stands in
it. -/
def writeTarget (b : Body) (l : LabelId) (target : FunctionSymbol) :
    Except LabelError Unit × Body :=
  match b.label? l with
  | none => (.error (.unknown l), b)
  | some slot =>
    let labels := b.labels.setIfInBounds l.number ⟨slot.name, some target⟩
    match slot.target with
    | some other =>
      if other ≠ target then (.error (.alreadyBound l other), b) else (.ok (), { b with labels })
    | none => (.ok (), { b with labels })

/-- Writing what stands in a slot changes nothing. -/
theorem setIfInBounds_label? {slot : Label} (h : b.label? l = some slot) :
    b.labels.setIfInBounds l.number slot = b.labels := by
  obtain ⟨hlt, hslot⟩ := Array.getElem?_eq_some_iff.1 h
  rw [Array.setIfInBounds, dif_pos hlt, ← hslot, Array.set_getElem_self]

/-- In place, binding succeeds and fails as it does otherwise, and where it fails, the body is left
as it was. -/
theorem writeTarget_eq (b : Body) (l : LabelId) (target : FunctionSymbol) :
    b.writeTarget l target =
      match b.bindLabel l target with
      | .ok c => (.ok (), c)
      | .error reason => (.error reason, b) := by
  rcases bindLabel_cases b l target with ⟨hl, hbind⟩ | ⟨name, other, hl, hne, hbind⟩ |
    ⟨name, hl, hbind⟩ | ⟨name, hl, hbind⟩
  · simp [writeTarget, hl, hbind]
  · simp [writeTarget, hl, hbind, hne]
  · simp [writeTarget, hl, hbind]
  · simp [writeTarget, hl, hbind, setIfInBounds_label? hl]

/-! ## Nothing that stood in a body changes -/

/-- All that can be read from the first body is read from the second: its nodes, its lists, the
names of its labels, and the functions that labels are bound to. -/
structure Grows (b c : Body) : Prop where
  node? : ∀ {e x}, b.node? e = some x → c.node? e = some x
  statements : ∀ {s items}, b.readStatements s = .ok items → c.readStatements s = .ok items
  arguments : ∀ {s items}, b.readArguments s = .ok items → c.readArguments s = .ok items
  handlers : ∀ {s items}, b.readHandlers s = .ok items → c.readHandlers s = .ok items
  label? : ∀ {l name bound}, b.label? l = some ⟨name, bound⟩ →
    ∃ bound', c.label? l = some ⟨name, bound'⟩
  bound : ∀ {l name f}, b.label? l = some ⟨name, some f⟩ → c.label? l = some ⟨name, some f⟩

namespace Grows

theorem refl (b : Body) : b.Grows b :=
  ⟨id, id, id, id, fun h => ⟨_, h⟩, id⟩

theorem trans (hbc : b.Grows c) (hcd : c.Grows d) : b.Grows d where
  node? := hcd.node? ∘ hbc.node?
  statements := hcd.statements ∘ hbc.statements
  arguments := hcd.arguments ∘ hbc.arguments
  handlers := hcd.handlers ∘ hbc.handlers
  label? h := by
    obtain ⟨_, hc⟩ := hbc.label? h
    exact hcd.label? hc
  bound := hcd.bound ∘ hbc.bound

theorem alloc (b : Body) (form : ExprForm) (type : TypeId) : b.Grows (b.alloc form type).2 :=
  { refl b with node? := fun h => node?_alloc_of_some h form type }

theorem pushStatements {items : List ExprRef} {span : Span .expressions}
    (h : b.pushStatements items = .ok (span, c)) :
    b.Grows c ∧ c.readStatements span = .ok items ∧ c.nodes = b.nodes := by
  obtain ⟨⟨_, stored⟩, happend, hpair⟩ := exists_of_bind_eq_ok h
  cases hpair
  exact ⟨{ refl b with statements := read_append_of_ok happend }, read_append happend, rfl⟩

theorem pushArguments {items : List Argument} {span : Span .arguments}
    (h : b.pushArguments items = .ok (span, c)) :
    b.Grows c ∧ c.readArguments span = .ok items ∧ c.nodes = b.nodes := by
  obtain ⟨⟨_, stored⟩, happend, hpair⟩ := exists_of_bind_eq_ok h
  cases hpair
  exact ⟨{ refl b with arguments := read_append_of_ok happend }, read_append happend, rfl⟩

theorem pushHandlers {items : List Handler} {span : Span .handlers}
    (h : b.pushHandlers items = .ok (span, c)) :
    b.Grows c ∧ c.readHandlers span = .ok items ∧ c.nodes = b.nodes := by
  obtain ⟨⟨_, stored⟩, happend, hpair⟩ := exists_of_bind_eq_ok h
  cases hpair
  exact ⟨{ refl b with handlers := read_append_of_ok happend }, read_append happend, rfl⟩

theorem newLabel (b : Body) (name : Name) : b.Grows (b.newLabel name).2 := by
  have hkept : ∀ {l slot}, b.label? l = some slot → (b.newLabel name).2.label? l = some slot := by
    intro l slot h
    obtain ⟨hlt, -⟩ := Array.getElem?_eq_some_iff.1 h
    rw [Body.label?, Body.newLabel, Array.getElem?_push, if_neg (Nat.ne_of_lt hlt)]
    exact h
  exact { refl b with label? := fun h => ⟨_, hkept h⟩, bound := hkept }

/-- The label that becomes bound was free or bound to that function, so no bound label changes. -/
theorem bindLabel (h : b.bindLabel l target = .ok c) : b.Grows c := by
  obtain ⟨name, bound, hl, hbound, heq, hread⟩ := bindLabel_spec h
  have hkept : ∀ {l' slot}, b.label? l' = some slot → slot.target ≠ none ∨ l' ≠ l →
      c.label? l' = some slot := by
    intro l' slot h' hor
    by_cases hl' : l' = l
    · subst hl'
      cases hl.symm.trans h'
      obtain ⟨f, rfl⟩ := Option.ne_none_iff_exists'.1 (hor.resolve_right (not_not_intro rfl))
      rw [hread, if_pos rfl, hbound f rfl]
    · rw [hread, if_neg hl', h']
  rw [heq]
  refine { refl b with label? := fun {l' name' bound'} h' => ?_, bound := fun h' => ?_ }
  · by_cases hl' : l' = l
    · subst hl'
      cases hl.symm.trans h'
      exact ⟨some target, (hread l').trans (if_pos rfl)⟩
    · exact ⟨bound', hkept h' (.inr hl')⟩
  · exact hkept h' (.inl (by simp))

theorem setRoot (b : Body) (root : ExprRef) : b.Grows (b.setRoot root) :=
  { refl b with }

end Grows

/-! ## What is handed out -/

/-- In this body the answer stands for what was asked: a node, a list or a label reads back as it
was made, a label that was bound is bound to that function and can be bound to it again, and a label
that was refused because of another function is bound to that one. -/
def Honours (d : Body) : Operation → Reply → Prop
  | .alloc form type, .node id => d.node? (some id) = some ⟨form, type⟩
  | .pushStatements items, .statements span => d.readStatements span = .ok items
  | .pushArguments items, .arguments span => d.readArguments span = .ok items
  | .pushHandlers items, .handlers span => d.readHandlers span = .ok items
  | .newLabel name, .label id => ∃ bound, d.label? id = some ⟨name, bound⟩
  | .bindLabel l target, .done =>
    (∃ name, d.label? l = some ⟨name, some target⟩) ∧ d.bindLabel l target = .ok d
  | .bindLabel l _, .refused (.unknown l') => l' = l
  | .bindLabel l target, .refused (.alreadyBound l' other) =>
    l' = l ∧ other ≠ target ∧ ∃ name, d.label? l = some ⟨name, some other⟩
  | .setRoot _, .done => True
  | _, _ => False

theorem Honours.mono (hgrows : c.Grows d) (h : c.Honours op reply) : d.Honours op reply := by
  -- Answers of another kind than the request are out by `h`.
  cases op <;> cases reply <;> try exact h.elim
  case alloc.node => exact hgrows.node? h
  case pushStatements.statements => exact hgrows.statements h
  case pushArguments.arguments => exact hgrows.arguments h
  case pushHandlers.handlers => exact hgrows.handlers h
  case newLabel.label =>
    obtain ⟨_, hl⟩ := h
    exact hgrows.label? hl
  case bindLabel.done =>
    obtain ⟨⟨name, hl⟩, -⟩ := h
    exact ⟨⟨name, hgrows.bound hl⟩, bindLabel_of_bound (hgrows.bound hl)⟩
  case bindLabel.refused reason =>
    cases reason with
    | unknown l' => exact h
    | alreadyBound l' other =>
      obtain ⟨rfl, hne, name, hl⟩ := h
      exact ⟨rfl, hne, name, hgrows.bound hl⟩
  case setRoot.done => trivial

/-! ## One step -/

theorem exists_append {α : Type} (list : ListKind) (store : Array α) {items : List α}
    (h : items.length ≤ maxListLength) :
    ∃ span grown, append list store items = .ok (span, grown) := by
  unfold append
  split
  · exact ⟨_, _, rfl⟩
  · rw [if_neg (Nat.not_lt.2 h)]
    exact ⟨_, _, rfl⟩

theorem exists_perform (b : Body) (hfit : op.Fits) : ∃ reply c, b.perform op = .ok (reply, c) := by
  cases op with
  | alloc form type => exact ⟨_, _, rfl⟩
  | pushStatements items =>
    obtain ⟨span, grown, happend⟩ := exists_append .expressions b.statements hfit
    exact ⟨.statements span, { b with statements := grown }, by
      simp only [perform, Body.pushStatements, happend]; rfl⟩
  | pushArguments items =>
    obtain ⟨span, grown, happend⟩ := exists_append .arguments b.arguments hfit
    exact ⟨.arguments span, { b with arguments := grown }, by
      simp only [perform, Body.pushArguments, happend]; rfl⟩
  | pushHandlers items =>
    obtain ⟨span, grown, happend⟩ := exists_append .handlers b.handlers hfit
    exact ⟨.handlers span, { b with handlers := grown }, by
      simp only [perform, Body.pushHandlers, happend]; rfl⟩
  | newLabel name => exact ⟨_, _, rfl⟩
  | bindLabel l target =>
    simp only [perform]
    cases b.bindLabel l target with
    | ok c => exact ⟨_, _, rfl⟩
    | error reason => exact ⟨_, _, rfl⟩
  | setRoot root => exact ⟨_, _, rfl⟩

/-- The node that is asked for. -/
def Operation.made? : Operation → Option Expr
  | .alloc form type => some ⟨form, type⟩
  | _ => none

/-- What one step does: all that was there stays, and the answer stands for what was asked.  Only a
request for a node adds one, and it is answered with the place of that node. -/
structure Advances (b : Body) (op : Operation) (reply : Reply) (c : Body) : Prop where
  grows : b.Grows c
  honours : c.Honours op reply
  nodes : c.nodes.toList = b.nodes.toList ++ op.made?.toList
  node? : reply.node? = op.made?.map fun _ => ⟨b.size⟩

/-- A step that stores no node. -/
theorem Advances.of_nodes_eq (hgrows : b.Grows c) (honours : c.Honours op reply)
    (hnodes : c.nodes = b.nodes) (hmade : op.made? = none) (hreply : reply.node? = none) :
    b.Advances op reply c where
  grows := hgrows
  honours := honours
  nodes := by
    rw [hnodes, hmade]
    exact (List.append_nil _).symm
  node? := by
    rw [hreply, hmade]
    rfl

theorem advances_of_bindLabel (h : b.perform (.bindLabel l target) = .ok (reply, c)) :
    b.Advances (.bindLabel l target) reply c := by
  simp only [perform] at h
  cases hbind : b.bindLabel l target with
  | ok written =>
    rw [hbind] at h
    cases h
    obtain ⟨name, _, -, -, heq, hread⟩ := bindLabel_spec hbind
    have hl : c.label? l = some ⟨name, some target⟩ := (hread l).trans (if_pos rfl)
    exact .of_nodes_eq (.bindLabel hbind) ⟨⟨name, hl⟩, bindLabel_of_bound hl⟩
      (by rw [heq]) rfl rfl
  | error reason =>
    rw [hbind] at h
    cases h
    refine .of_nodes_eq (.refl b) ?_ rfl rfl rfl
    rcases bindLabel_cases b l target with ⟨-, hbind'⟩ | ⟨name, other, hl, hne, hbind'⟩ |
      ⟨_, -, hbind'⟩ | ⟨_, -, hbind'⟩ <;> cases hbind.symm.trans hbind'
    · exact rfl
    · exact ⟨rfl, hne, name, hl⟩

theorem advances_of_perform (h : b.perform op = .ok (reply, c)) : b.Advances op reply c := by
  cases op with
  | alloc form type =>
    cases h
    exact ⟨.alloc b form type, node?_alloc b form type, Array.toList_push, rfl⟩
  | pushStatements items =>
    obtain ⟨⟨span, grown⟩, hpush, hpair⟩ := exists_of_bind_eq_ok h
    cases hpair
    obtain ⟨hgrows, hread, hnodes⟩ := Grows.pushStatements hpush
    exact .of_nodes_eq hgrows hread hnodes rfl rfl
  | pushArguments items =>
    obtain ⟨⟨span, grown⟩, hpush, hpair⟩ := exists_of_bind_eq_ok h
    cases hpair
    obtain ⟨hgrows, hread, hnodes⟩ := Grows.pushArguments hpush
    exact .of_nodes_eq hgrows hread hnodes rfl rfl
  | pushHandlers items =>
    obtain ⟨⟨span, grown⟩, hpush, hpair⟩ := exists_of_bind_eq_ok h
    cases hpair
    obtain ⟨hgrows, hread, hnodes⟩ := Grows.pushHandlers hpush
    exact .of_nodes_eq hgrows hread hnodes rfl rfl
  | newLabel name =>
    cases h
    exact .of_nodes_eq (.newLabel b name) ⟨none, by simp [newLabel, label?]⟩ rfl rfl rfl
  | bindLabel l target => exact advances_of_bindLabel h
  | setRoot root =>
    cases h
    exact .of_nodes_eq (.setRoot b root) trivial rfl rfl rfl

/-! ## The nodes, and their two columns -/

theorem Advances.ids (h : b.Advances op reply c) : c.ids = b.ids ++ reply.node?.toList := by
  have hsize : c.size = b.size + op.made?.toList.length := by
    simpa [size] using congrArg List.length h.nodes
  rw [Body.ids, Body.ids, hsize, h.node?]
  cases op.made? with
  | none => simp
  | some x => simp [List.range_succ]

/-- Nodes as two arrays of one length, the forms beside the types. -/
structure NodeColumns where
  forms : Array ExprForm
  types : Array TypeId
  deriving DecidableEq, Repr

namespace NodeColumns

/-- A new node is a new entry in each column. -/
def perform (k : NodeColumns) : Operation → NodeColumns
  | .alloc form type => ⟨k.forms.push form, k.types.push type⟩
  | _ => k

/-- The node at a place, put together from the columns. -/
def node? (k : NodeColumns) (e : ExprId) : Option Expr := do
  let form ← k.forms[e.number]?
  let type ← k.types[e.number]?
  return ⟨form, type⟩

/-- The columns hold the forms and the types of the nodes of the body. -/
structure Hold (k : NodeColumns) (b : Body) : Prop where
  forms : k.forms.toList = b.nodes.toList.map Expr.form
  types : k.types.toList = b.nodes.toList.map Expr.type

variable {k : NodeColumns}

theorem Hold.perform (hk : k.Hold b) (h : b.Advances op reply c) : (k.perform op).Hold c := by
  constructor
  · rw [h.nodes, List.map_append, ← hk.forms]
    cases op <;> simp [NodeColumns.perform, Operation.made?]
  · rw [h.nodes, List.map_append, ← hk.types]
    cases op <;> simp [NodeColumns.perform, Operation.made?]

theorem Hold.node?_eq (hk : k.Hold b) (e : ExprId) : k.node? e = b.node? (some e) := by
  have hforms : k.forms = b.nodes.map Expr.form := Array.toList_inj.1 (by simp [hk.forms])
  have htypes : k.types = b.nodes.map Expr.type := Array.toList_inj.1 (by simp [hk.types])
  rw [NodeColumns.node?, hforms, htypes, Body.node?]
  cases hn : b.nodes[e.number]? with
  | none => simp [hn]
  | some x => simp [hn]

end NodeColumns

/-! ## Runs of any length -/

variable {ops : List Operation} {replies : List Reply} {k : NodeColumns}

theorem exists_performEach (b : Body) (hfit : ∀ op ∈ ops, op.Fits) :
    ∃ replies c, b.performEach ops = .ok (replies, c) := by
  induction ops generalizing b with
  | nil => exact ⟨[], b, rfl⟩
  | cons op rest ih =>
    obtain ⟨reply, c, hop⟩ := exists_perform b (hfit op List.mem_cons_self)
    obtain ⟨replies, d, hrest⟩ := ih c fun op' h => hfit op' (List.mem_cons_of_mem op h)
    refine ⟨reply :: replies, d, ?_⟩
    rw [performEach, hop]
    exact congrArg (· >>= fun run => .ok (reply :: run.1, run.2)) hrest

/-- A run is a step and a run behind it. -/
theorem performEach_cons (h : b.performEach (op :: ops) = .ok (replies, d)) :
    ∃ reply rest c, replies = reply :: rest ∧ b.Advances op reply c ∧
      c.performEach ops = .ok (rest, d) := by
  obtain ⟨⟨reply, c⟩, hop, h⟩ := exists_of_bind_eq_ok h
  obtain ⟨⟨rest, d'⟩, hrest, hpair⟩ := exists_of_bind_eq_ok h
  cases hpair
  exact ⟨reply, rest, c, rfl, advances_of_perform hop, hrest⟩

/-- Over a run, all that was there stays, every answer stands for what was asked, and the columns
keep up. -/
theorem advances_of_performEach (hk : k.Hold b) (h : b.performEach ops = .ok (replies, c)) :
    b.Grows c ∧ List.Forall₂ c.Honours ops replies ∧
      c.ids = b.ids ++ replies.filterMap Reply.node? ∧
      (ops.foldl NodeColumns.perform k).Hold c := by
  induction ops generalizing b replies k with
  | nil =>
    cases h
    exact ⟨.refl _, .nil, (List.append_nil _).symm, hk⟩
  | cons op rest ih =>
    obtain ⟨reply, replies, b', rfl, hop, hrest⟩ := performEach_cons h
    obtain ⟨hgrows, honours, hids, hcolumns⟩ := ih (hk.perform hop) hrest
    refine ⟨hop.grows.trans hgrows, .cons (hop.honours.mono hgrows) honours, ?_, hcolumns⟩
    rw [hids, hop.ids, List.append_assoc]
    cases hreply : reply.node? <;> simp [hreply]

/-- What a body is after a run, with the answers of the run. -/
structure Faithful (b : Body) (ops : List Operation) (replies : List Reply) (c : Body) : Prop where
  /-- The nodes are those that were there and those that were handed out, in order. -/
  ids : c.ids = b.ids ++ replies.filterMap Reply.node?
  /-- At every later moment, every answer stands for what was asked. -/
  honours : ∀ {later more d}, c.performEach later = .ok (more, d) →
    b.Grows d ∧ List.Forall₂ d.Honours ops replies
  /-- Forms and types, kept in two arrays, stay of one length, and make up the nodes. -/
  columns : ∀ {k : NodeColumns}, k.Hold b →
    (ops.foldl NodeColumns.perform k).forms.size = c.size ∧
      (ops.foldl NodeColumns.perform k).types.size = c.size ∧
      ∀ e, (ops.foldl NodeColumns.perform k).node? e = c.node? (some e)
  /-- Labels that are there and not bound to another function can be bound, and no others. -/
  bindLabel : ∀ l target, (∃ d, c.bindLabel l target = .ok d) ↔
    ∃ name bound, c.label? l = some ⟨name, bound⟩ ∧ ∀ f, bound = some f → f = target
  /-- In place, binding does what it does otherwise, and where it fails, the body is as it was. -/
  inPlace : ∀ l target, c.writeTarget l target =
    match c.bindLabel l target with
    | .ok d => (.ok (), d)
    | .error reason => (.error reason, c)

/-- Every run of requests whose lists are not too long comes to its end, and what it handed out
reads back ever after as it was made. -/
theorem faithful_of_run (b : Body) (ops : List Operation) (hfit : ∀ op ∈ ops, op.Fits) :
    ∃ replies c, b.performEach ops = .ok (replies, c) ∧ b.Faithful ops replies c := by
  obtain ⟨replies, c, h⟩ := exists_performEach b hfit
  refine ⟨replies, c, h, ?_⟩
  have hk : (⟨b.nodes.map Expr.form, b.nodes.map Expr.type⟩ : NodeColumns).Hold b :=
    ⟨Array.toList_map, Array.toList_map⟩
  exact {
    ids := (advances_of_performEach hk h).2.2.1
    honours := fun hlater => by
      obtain ⟨hgrows, honours, -, hkc⟩ := advances_of_performEach hk h
      obtain ⟨hgrows', -⟩ := advances_of_performEach hkc hlater
      exact ⟨hgrows.trans hgrows', honours.imp fun _ _ => .mono hgrows'⟩
    columns := fun hk => by
      obtain ⟨-, -, -, hkc⟩ := advances_of_performEach hk h
      exact ⟨by simpa [size] using congrArg List.length hkc.forms,
        by simpa [size] using congrArg List.length hkc.types, hkc.node?_eq⟩
    bindLabel := fun l target => bindLabel_ok_iff
    inPlace := writeTarget_eq c }

/-- A node in a block of its own, an empty list between two that are not, and a label that is bound
twice to one function and then refused another. -/
def crowded : List Operation :=
  [.alloc (.const .null) .nullableNothing, .newLabel ⟨1⟩, .pushStatements [some ⟨0⟩],
    .pushStatements [], .bindLabel ⟨0⟩ ⟨3⟩, .alloc (.ret ⟨0⟩ (some ⟨0⟩)) .nothing,
    .pushStatements [some ⟨1⟩, some ⟨0⟩], .bindLabel ⟨0⟩ ⟨3⟩, .bindLabel ⟨0⟩ ⟨4⟩,
    .bindLabel ⟨1⟩ ⟨3⟩, .pushArguments [⟨some ⟨0⟩, ⟨0⟩⟩], .setRoot (some ⟨1⟩)]

theorem faithful_of_run_crowded :
    (∀ op ∈ crowded, op.Fits) ∧ ∃ replies c,
      empty.performEach crowded = .ok (replies, c) ∧ empty.Faithful crowded replies c :=
  ⟨by decide, faithful_of_run empty crowded (by decide)⟩

example : (empty.performEach crowded).toOption.map Prod.fst =
    some [.node ⟨0⟩, .label ⟨0⟩, .statements ⟨0, 1⟩, .statements ⟨0, 0⟩, .done, .node ⟨1⟩,
      .statements ⟨1, 2⟩, .done, .refused (.alreadyBound ⟨0⟩ ⟨3⟩), .refused (.unknown ⟨1⟩),
      .arguments ⟨0, 1⟩, .done] := by
  decide

end Body

end Companions
