import Companions.Proofs.Body.References
import Companions.Proofs.Eval.Steps
set_option autoImplicit false

/-!
# Interpreters that agree

What a call comes to depends on the program and on the functions that can be reached from the one
that is called.  Two interpreters of one program that find the same functions under certain symbols
answer calls of these symbols alike, if the functions call no other symbols
(`Interpreter.Agree.call`).
-/

namespace Companions

/-- The symbols that are called in a body. -/
def Body.callees (b : Body) : List FunctionSymbol :=
  b.nodes.toList.filterMap fun x =>
    match x.form with
    | .call callee _ _ => some callee
    | _ => none

theorem Body.mem_callees {b : Body} {e receiver : ExprRef} {callee : FunctionSymbol}
    {arguments : Span .arguments} {type : TypeId}
    (h : b.node? e = some ⟨.call callee receiver arguments, type⟩) : callee ∈ b.callees :=
  List.mem_filterMap.2 ⟨_, Array.mem_toList_iff.2 (mem_nodes_of_node? h), rfl⟩

/-- The symbols that are called in a function. -/
def Declaration.callees (d : Declaration) : List FunctionSymbol := (d.body.map (·.callees)).getD []

namespace Interpreter

/-- The interpreters run the same program and find the same functions under the symbols in `S`, and
these functions call no other symbols. -/
structure Agree (S : FunctionSymbol → Prop) (m m' : Interpreter) : Prop where
  program : m.program = m'.program
  declaration : ∀ s, S s → m.declaration? s = m'.declaration? s
  closed : ∀ s d, S s → m.declaration? s = some d → ∀ callee ∈ d.callees, S callee

variable {S : FunctionSymbol → Prop} {m m' : Interpreter} {b : Body} {self : Option Value}

theorem accepts_congr (h : m.program = m'.program) (classes : List ClassId) (handler : Handler) :
    m.accepts classes handler = m'.accepts classes handler := by
  rw [accepts, accepts, h]

theorem firstAccepting_congr (h : m.program = m'.program) (classes : List ClassId)
    (handlers : List Handler) :
    m.firstAccepting classes handlers = m'.firstAccepting classes handlers := by
  induction handlers with
  | nil => rfl
  | cons handler rest ih => rw [firstAccepting, firstAccepting, accepts_congr h, ih]

theorem handlerFor_congr (h : m.program = m'.program) (exception : Value)
    (handlers : List Handler) :
    m.handlerFor exception handlers = m'.handlerFor exception handlers := by
  have hclasses : m.classesOf exception = m'.classesOf exception := by
    rw [classesOf, classesOf, h]
  rw [handlerFor, handlerFor, hclasses, firstAccepting_congr h]

theorem isThrowable_congr (h : m.program = m'.program) (v : Value) :
    m.isThrowable v = m'.isThrowable v := by
  rw [isThrowable, isThrowable, classesOf, classesOf, h]

theorem stop_congr (h : m.program = m'.program) (e : EvalError) :
    (m.stop e : Evaluating Value) = m'.stop e := by
  rw [stop, stop, h]

theorem failing_congr (h : m.program = m'.program) (e : EvalError) :
    m.failing e = m'.failing e := by
  rw [failing, failing, h]

theorem answer_congr (h : m.program = m'.program) (r : Except Unwind Value) :
    m.answer r = m'.answer r := by
  unfold answer
  rw [h]

section Calls

variable {call call' : Declaration → Option Value → List Value → Outcome}

/-- A call depends on the function that is found, and on what calling that function ends in. -/
theorem callBound_congr {callee : FunctionSymbol}
    (hfound : m.declaration? callee = m'.declaration? callee)
    (hcall : ∀ d, m.declaration? callee = some d → call d = call' d) (receiver : Option Value)
    (bound : List (ParamSymbol × Value)) :
    m.callBound call callee receiver bound = m'.callBound call' callee receiver bound := by
  rw [callBound, callBound, ← hfound]
  cases hd : m.declaration? callee with
  | none => rfl
  | some d => simp only [hcall d hd]

/-- Apart from calls, a node is evaluated from the program and from the places below it. -/
theorem evalForm_congr (h : m.program = m'.program) (go : ExprRef → Evaluating Value)
    (form : ExprForm)
    (hcall : ∀ callee receiver arguments, form = .call callee receiver arguments →
      ∀ receiver bound, m.callBound call callee receiver bound =
        m'.callBound call' callee receiver bound) :
    m.evalForm call b self go form = m'.evalForm call' b self go form := by
  cases form with
  | call callee receiver arguments =>
    simp only [evalForm, hcall callee receiver arguments rfl]
  | new constr arguments => rw [evalForm, evalForm, h]
  | attempt block handlers => simp only [evalForm, handlerFor_congr h]
  | raise exception => simp only [evalForm, isThrowable_congr h, stop_congr h]
  | branch condition yes no => simp only [evalForm, stop_congr h]
  | _ => rfl

/-- Evaluating a body whose calls agree is the same in both interpreters. -/
theorem eval_congr (h : m.program = m'.program)
    (hcall : ∀ callee ∈ b.callees, ∀ receiver bound,
      m.callBound call callee receiver bound = m'.callBound call' callee receiver bound)
    (fuel : Nat) :
    m.eval call b self fuel = m'.eval call' b self fuel := by
  induction fuel with
  | zero => rfl
  | succ fuel ih =>
    funext e
    cases hx : b.node? e with
    | none => rw [eval_of_none hx, eval_of_none hx]
    | some x =>
      obtain ⟨form, type⟩ := x
      rw [eval_of_node hx, eval_of_node hx, ih]
      refine evalForm_congr h _ form fun callee receiver arguments hform => ?_
      subst hform
      exact hcall callee (Body.mem_callees hx)

end Calls

namespace Agree

theorem budget (h : Agree S m m') (b : Body) : m.budget b = m'.budget b := by
  rw [Interpreter.budget, Interpreter.budget, h.program]

/-- Running a function that calls symbols in `S` only is the same in both interpreters. -/
theorem invoke (h : Agree S m m') (room : Nat) {d : Declaration}
    (hd : ∀ callee ∈ d.callees, S callee) :
    m.invoke room d = m'.invoke room d := by
  induction room generalizing d with
  | zero =>
    funext self arguments
    cases hbody : d.body with
    | none => rw [invoke_of_no_body hbody, invoke_of_no_body hbody, failing_congr h.program]
    | some b =>
      cases hroot : b.contains b.root with
      | false =>
        rw [invoke_of_no_root hbody hroot, invoke_of_no_root hbody hroot,
          failing_congr h.program]
      | true => rw [invoke_zero hbody hroot, invoke_zero hbody hroot]
  | succ room ih =>
    funext self arguments
    cases hbody : d.body with
    | none => rw [invoke_of_no_body hbody, invoke_of_no_body hbody, failing_congr h.program]
    | some b =>
      cases hroot : b.contains b.root with
      | false =>
        rw [invoke_of_no_root hbody hroot, invoke_of_no_root hbody hroot,
          failing_congr h.program]
      | true =>
        rw [invoke_succ hbody hroot, invoke_succ hbody hroot, h.budget,
          eval_congr h.program fun callee hmem => ?_]
        -- what is called is found in both, and calls symbols in `S` only
        have hcallee : S callee := hd callee (by rwa [Declaration.callees, hbody])
        exact callBound_congr (h.declaration callee hcallee)
          fun d' hd' => ih (h.closed callee d' hcallee hd')

/-- Calls from outside are answered alike. -/
theorem call (h : Agree S m m') {s : FunctionSymbol} (hs : S s) (self : Option Value)
    (arguments : List Value) : m.call s self arguments = m'.call s self arguments := by
  rw [Interpreter.call, Interpreter.call, ← h.declaration s hs]
  cases hd : m.declaration? s with
  | none => rfl
  | some d => simp only [h.invoke _ (h.closed s d hs hd), answer_congr h.program]

end Agree

end Interpreter

end Companions
