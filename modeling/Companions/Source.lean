import Companions.Program
import Companions.Text.Quoted
set_option autoImplicit false

/-!
# Source text

A declaration is written as source text: a header, then the body if there is one.  What a look-up
does not find is written as a placeholder between angle brackets, so that it shows.

Writing follows the nodes of the body from its root.  A path through the nodes that does not repeat
one has at most as many nodes as the body, and then perhaps a place without a node; no longer path
is followed.
-/

namespace Companions

/-- All that is needed to write a declaration. -/
structure Printer where
  lookup : Lookup
  types : TypePool
  names : NameTable

/-- Writes the declarations of a program. -/
def Program.printer (p : Program) : Printer := ⟨p.lookup, p.pools.types, p.pools.names⟩

namespace Printer

/-- The step by which the statements of a block are set in. -/
def indent (depth : Nat) : String := String.join (List.replicate depth "    ")

/-- A new line at that depth. -/
def newline (depth : Nat) : String := "\n" ++ indent depth

/-- The modifiers of a parameter, each followed by a space. -/
def flags (f : ParamFlags) : String :=
  (if f.vararg then "vararg " else "") ++ (if f.crossinline then "crossinline " else "") ++
    (if f.noinline then "noinline " else "")

/-- A parameter with its modifiers and type. -/
def parameter (w : Printer) (p : Parameter) : Except Fault String := do
  let name ← w.names.text p.name
  let type ← w.types.format w.names p.type
  return flags p.flags ++ name ++ ": " ++ type

/-- The declaration up to its body. -/
def header (w : Printer) (d : Declaration) : Except Fault String := do
  let name ← d.id.display w.names
  let params ← d.params.mapM w.parameter
  let type ← w.types.format w.names d.returnType
  return d.status.visibility.keyword ++ " fun " ++ name ++ "(" ++ String.intercalate ", " params ++
    "): " ++ type

/-- The first handler with the parameter, in the order of the nodes. -/
def handlerOf? (b : Body) (p : ParamSymbol) : List Expr → Except Fault (Option Handler)
  | [] => .ok none
  | x :: rest =>
    match x.form with
    | .attempt _ handlers => do
      match (← b.readHandlers handlers).find? (·.param.symbol = p) with
      | some h => return some h
      | none => handlerOf? b p rest
    | _ => handlerOf? b p rest

/-- The name of a parameter: of the declaration, or else of a handler. -/
def paramName (w : Printer) (d : Declaration) (b : Body) (p : ParamSymbol) :
    Except Fault String := do
  match d.param? p with
  | some own => w.names.text own.name
  | none =>
    match ← handlerOf? b p b.nodes.toList with
    | some h => w.names.text h.param.name
    | none => return s!"<param#{p.number}>"

/-- A literal. -/
def constant (w : Printer) : Constant → Except Fault String
  | .null => .ok "null"
  | .int n => .ok (toString n.toInt)
  | .boolean true => .ok "true"
  | .boolean false => .ok "false"
  | .string text => do return Text.quote (← w.names.text text)

/-- Writes what stands at a place, following at most `fuel` nodes along a path. -/
def expr (w : Printer) (d : Declaration) (b : Body) :
    (fuel depth : Nat) → ExprRef → Except Fault String
  | 0, _, _ => .error .endless
  | fuel + 1, depth, e =>
    match b.node? e with
    | none => .ok "<invalid>"
    | some x =>
      match x.form with
      | .const c => w.constant c
      | .param p => w.paramName d b p
      | .self c => do return "this@" ++ (← w.names.text c.name)
      | .call callee receiver arguments => do
        let receiver ←
          match receiver with
          | some r => do pure ((← w.expr d b fuel depth (some r)) ++ ".")
          | none => pure ""
        let name ←
          match w.lookup.declaration callee with
          | some f => w.names.text f.id.name
          | none => pure s!"<fn#{callee.number}>"
        let arguments ← (← b.readArguments arguments).mapM fun a => w.expr d b fuel depth a.value
        return receiver ++ name ++ "(" ++ String.intercalate ", " arguments ++ ")"
      | .new constr arguments => do
        let name ←
          match w.lookup.constr constr with
          | some k => k.type.display w.names
          | none => pure s!"<ctor#{constr.number}>"
        let arguments ← (← b.readArguments arguments).mapM fun a => w.expr d b fuel depth a.value
        return name ++ "(" ++ String.intercalate ", " arguments ++ ")"
      | .block statements => do
        let lines ← (← b.readStatements statements).mapM fun s => do
          return newline (depth + 1) ++ (← w.expr d b fuel (depth + 1) s)
        return "\x7b" ++ String.join lines ++ newline depth ++ "\x7d"
      | .ret target value => do
        let label ←
          match b.label? target with
          | some l => do pure ("@" ++ (← w.names.text l.name))
          | none => pure ""
        let value ←
          match value with
          | some v => do pure (" " ++ (← w.expr d b fuel depth (some v)))
          | none => pure ""
        return "return" ++ label ++ value
      | .attempt block handlers => do
        let block ← w.expr d b fuel depth block
        let handlers ← (← b.readHandlers handlers).mapM fun h => do
          let param ← w.parameter h.param
          return " catch (" ++ param ++ ") " ++ (← w.expr d b fuel depth h.block)
        return "try " ++ block ++ String.join handlers
      | .raise exception => do return "throw " ++ (← w.expr d b fuel depth exception)
      | .elvis left right => do
        let left ← w.expr d b fuel depth left
        let right ← w.expr d b fuel depth right
        return left ++ " ?: " ++ right
      | .branch condition yes no => do
        let condition ← w.expr d b fuel depth condition
        let yes ← w.expr d b fuel depth yes
        let no ←
          match no with
          | some n => do pure (" else " ++ (← w.expr d b fuel depth (some n)))
          | none => pure ""
        return "if (" ++ condition ++ ") " ++ yes ++ no
      | .binary op left right => do
        let left ← w.expr d b fuel depth left
        let right ← w.expr d b fuel depth right
        return left ++ " " ++ op.text ++ " " ++ right

/-- Writes a declaration. -/
def declaration (w : Printer) (d : Declaration) : Except Fault String := do
  let header ← w.header d
  match d.body with
  | none => return header
  | some b => return header ++ " " ++ (← w.expr d b (b.size + 1) 0 b.root)

end Printer

end Companions
