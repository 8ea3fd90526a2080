import Companions.Parameter
set_option autoImplicit false

/-!
# Bodies

A body stores the expressions of one function.  Expressions are nodes in a growing array and refer
to each other by place; the statements of a block, the arguments of a call and the handlers of a
`try` are spans of three further arrays.  Every node carries its type.

A body only grows: a node, a span or a label that was handed out reads back as it was made
(`node?_alloc`, `read_append`), also after later additions (`node?_alloc_of_some`,
`read_append_of_ok`).
-/

namespace Companions

/-! ## Expressions -/

/-- What a literal can be. -/
inductive Constant
  | null
  | int (value : Int64)
  | boolean (value : Bool)
  | string (text : Name)
  deriving DecidableEq, Repr, Inhabited

/-- The operators between two values: sum, difference and the comparisons. -/
inductive BinaryOp
  | add
  | sub
  | lt
  | le
  | gt
  | ge
  | eq
  | ne
  deriving DecidableEq, Repr, Inhabited

/-- How the operator is written. -/
def BinaryOp.text : BinaryOp → String
  | .add => "+"
  | .sub => "-"
  | .lt => "<"
  | .le => "<="
  | .gt => ">"
  | .ge => ">="
  | .eq => "=="
  | .ne => "!="

/-- A part of one of the three lists of a body. -/
structure Span (list : ListKind) where
  start : Nat
  length : Nat
  deriving DecidableEq, Repr, Inhabited

namespace Span

/-- The span of no items.  It starts at no place in particular. -/
def empty {list : ListKind} : Span list := ⟨0, 0⟩

/-- The span has no items, wherever it starts. -/
def isEmpty {list : ListKind} (s : Span list) : Bool := s.length == 0

end Span

/-- A value and the parameter of the callee that it is meant for. -/
structure Argument where
  value : ExprRef
  param : ParamSymbol
  deriving DecidableEq, Repr, Inhabited

/-- What to do about an exception: the parameter that holds it, whose type says which exceptions
are meant, and the block to run. -/
structure Handler where
  param : Parameter
  block : ExprRef
  deriving DecidableEq, Repr, Inhabited

/-- What a node does.  Other nodes are referred to by place, lists of them by span. -/
inductive ExprForm
  | const (value : Constant)
  /-- Reads a parameter. -/
  | param (symbol : ParamSymbol)
  /-- The object that a member was called on. -/
  | self (type : ClassId)
  | call (callee : FunctionSymbol) (receiver : ExprRef) (arguments : Span .arguments)
  /-- Makes an object. -/
  | new (constr : ConstructorSymbol) (arguments : Span .arguments)
  | block (statements : Span .expressions)
  /-- Leaves the function that the label is bound to. -/
  | ret (target : LabelId) (value : ExprRef)
  /-- Runs a block and offers what it throws to the handlers. -/
  | attempt (block : ExprRef) (handlers : Span .handlers)
  | raise (exception : ExprRef)
  /-- The left value, or the right one where the left one is null. -/
  | elvis (left right : ExprRef)
  | branch (condition yes no : ExprRef)
  | binary (op : BinaryOp) (left right : ExprRef)
  deriving DecidableEq, Repr, Inhabited

/-- A node: what it does, and the type of its value. -/
structure Expr where
  form : ExprForm
  type : TypeId
  deriving DecidableEq, Repr, Inhabited

/-! ## Labels -/

/-- A return target: its written name, and the function that it leaves once that is known. -/
structure Label where
  name : Name
  target : Option FunctionSymbol
  deriving DecidableEq, Repr, Inhabited

/-- Why a label is not bound. -/
inductive LabelError
  /-- The body has no such label. -/
  | unknown (label : LabelId)
  /-- The label leaves another function already. -/
  | alreadyBound (label : LabelId) (target : FunctionSymbol)
  deriving DecidableEq, Repr, Inhabited

/-- The error as it is reported. -/
def LabelError.message : LabelError → String
  | .unknown label => s!"unknown label {label.describe}"
  | .alreadyBound label target =>
    s!"label {label.describe} is already bound to {target.describe}"

/-! ## The body -/

/-- The expressions of one function, the lists that they refer to, its return targets, and the node
that a call starts with. -/
structure Body where
  nodes : Array Expr
  statements : Array ExprRef
  arguments : Array Argument
  handlers : Array Handler
  labels : Array Label
  root : ExprRef
  deriving DecidableEq, Repr

namespace Body

/-- Nothing is stored, and no root is set. -/
def empty : Body := ⟨#[], #[], #[], #[], #[], none⟩

instance : Inhabited Body := ⟨empty⟩

/-- The number of nodes. -/
def size (b : Body) : Nat := b.nodes.size

/-- The body has no nodes. -/
def isEmpty (b : Body) : Bool := b.size == 0

/-- The nodes in the order of their making. -/
def ids (b : Body) : List ExprId := (List.range b.size).map ExprId.mk

/-- The place holds a node of the body. -/
def contains (b : Body) : ExprRef → Bool
  | some e => e.number < b.size
  | none => false

/-- The node at a place. -/
def node? (b : Body) : ExprRef → Option Expr
  | some e => b.nodes[e.number]?
  | none => none

/-- The node at a place that is expected to hold one. -/
def node (b : Body) (e : ExprRef) : Except Fault Expr :=
  orFault (b.node? e) (.unknownNode e)

/-- Adds a node. -/
def alloc (b : Body) (form : ExprForm) (type : TypeId) : ExprId × Body :=
  (⟨b.size⟩, { b with nodes := b.nodes.push ⟨form, type⟩ })

/-- Says which node a call starts with, whether or not the body has it. -/
def setRoot (b : Body) (root : ExprRef) : Body := { b with root }

/-! ## Lists -/

/-- The length of the longest list. -/
def maxListLength : Nat := 65535

/-- The items of a span. -/
def read {α : Type} {list : ListKind} (store : Array α) (s : Span list) : Except Fault (List α) :=
  if s.start + s.length ≤ store.size then
    .ok (store.extract s.start (s.start + s.length)).toList
  else .error (.spanOutOfRange list s.start s.length)

/-- Adds a list behind what is stored; the empty list takes no place. -/
def append {α : Type} (list : ListKind) (store : Array α) (items : List α) :
    Except Fault (Span list × Array α) :=
  if items.isEmpty then .ok (.empty, store)
  else if maxListLength < items.length then .error (.listTooLong list items.length)
  else .ok (⟨store.size, items.length⟩, store ++ items.toArray)

/-- Stores the statements of a block. -/
def pushStatements (b : Body) (items : List ExprRef) : Except Fault (Span .expressions × Body) := do
  let (span, statements) ← append .expressions b.statements items
  return (span, { b with statements })

/-- Stores the arguments of a call. -/
def pushArguments (b : Body) (items : List Argument) : Except Fault (Span .arguments × Body) := do
  let (span, arguments) ← append .arguments b.arguments items
  return (span, { b with arguments })

/-- Stores the handlers of a `try`. -/
def pushHandlers (b : Body) (items : List Handler) : Except Fault (Span .handlers × Body) := do
  let (span, handlers) ← append .handlers b.handlers items
  return (span, { b with handlers })

/-- The statements of a block. -/
def readStatements (b : Body) (s : Span .expressions) : Except Fault (List ExprRef) :=
  read b.statements s

/-- The arguments of a call. -/
def readArguments (b : Body) (s : Span .arguments) : Except Fault (List Argument) :=
  read b.arguments s

/-- The handlers of a `try`, in the order in which they are asked. -/
def readHandlers (b : Body) (s : Span .handlers) : Except Fault (List Handler) :=
  read b.handlers s

/-! ## Labels of a body -/

/-- The label, if the body has it. -/
def label? (b : Body) (l : LabelId) : Option Label := b.labels[l.number]?

/-- Adds a label that is not bound yet. -/
def newLabel (b : Body) (name : Name) : LabelId × Body :=
  (⟨b.labels.size⟩, { b with labels := b.labels.push ⟨name, none⟩ })

/-- Binds a label to the function that it leaves.  Binding it to that function again changes
nothing. -/
def bindLabel (b : Body) (l : LabelId) (target : FunctionSymbol) : Except LabelError Body :=
  match b.label? l with
  | none => .error (.unknown l)
  | some ⟨_, some other⟩ => if other = target then .ok b else .error (.alreadyBound l other)
  | some ⟨name, none⟩ =>
    .ok { b with labels := b.labels.setIfInBounds l.number ⟨name, some target⟩ }

/-! ## What is handed out reads back -/

theorem contains_iff {b : Body} {e : ExprRef} :
    b.contains e = true ↔ ∃ x, b.node? e = some x := by
  cases e with
  | none => simp [contains, node?]
  | some e =>
    rw [contains, decide_eq_true_eq]
    constructor
    · exact fun h => ⟨_, Array.getElem?_eq_getElem h⟩
    · rintro ⟨x, h⟩
      exact (Array.getElem?_eq_some_iff.1 h).1

@[simp] theorem node?_alloc (b : Body) (form : ExprForm) (type : TypeId) :
    (b.alloc form type).2.node? (some (b.alloc form type).1) = some ⟨form, type⟩ := by
  simp [alloc, node?, size]

theorem node?_alloc_of_some {b : Body} {e : ExprRef} {x : Expr} (h : b.node? e = some x)
    (form : ExprForm) (type : TypeId) : (b.alloc form type).2.node? e = some x := by
  cases e with
  | none => simp [node?] at h
  | some e =>
    simp only [node?, alloc] at *
    obtain ⟨hlt, -⟩ := Array.getElem?_eq_some_iff.1 h
    rw [Array.getElem?_push, if_neg (by omega)]
    exact h

/-- A stored list reads back. -/
theorem read_append {α : Type} {list : ListKind} {store grown : Array α} {items : List α}
    {span : Span list} (h : append list store items = .ok (span, grown)) :
    read grown span = .ok items := by
  unfold append at h
  split at h
  · next e =>
    cases h
    simp only [List.isEmpty_iff] at e
    simp [read, Span.empty, e]
  · split at h
    · cases h
    · cases h
      simp [read]

/-- What was stored before a list was added still reads back. -/
theorem read_append_of_ok {α : Type} {list other : ListKind} {store grown : Array α}
    {items old : List α} {span : Span list} {earlier : Span other}
    (h : append list store items = .ok (span, grown)) (ho : read store earlier = .ok old) :
    read grown earlier = .ok old := by
  unfold append at h
  split at h
  · cases h
    exact ho
  · split at h
    · cases h
    · cases h
      unfold read at *
      split at ho
      · next hle =>
        rw [if_pos (by simp; omega), ← ho, Array.extract_append, Nat.sub_eq_zero_of_le hle]
        simp
      · cases ho

end Body

end Companions
