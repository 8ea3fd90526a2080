import Companions.Proofs.Eval.Handling
import Companions.Proofs.Eval.Linkage
import Companions.Proofs.Eval.Throwing
import Companions.Proofs.Program.Reachable
set_option autoImplicit false

/-!
# What unwinds

Three ways to unwind lead out of an expression, and each stays what it is.  What is thrown is an
object of a class that can be thrown, in whatever frame it was thrown and however often a handler
has thrown it again.  A return goes no further than to the end of the function that it is in.  An
error is never that an exception was not caught, for that is said of an exception by the outermost
call alone.  So the outermost call has to do with values, exceptions and errors, and with nothing
else (`Interpreter.Reports`), and a handler for all that can be thrown passes none of it over.
-/

namespace Companions

/-! ## Errors of a run -/

/-- Everything that unwinds inside the outermost call: there, no exception is uncaught yet. -/
def Unwind.IsInner (u : Unwind) : Prop := ∀ v, u ≠ .error (.uncaught v)

/-- The handler is for all that can be thrown: its type is the type of that or the type that is made
of it with a nullability. -/
def Handler.ForThrowable (p : Program) (h : Handler) : Prop :=
  ∃ type nullability, p.pools.types.get? p.builtins.throwable = some type ∧
    p.pools.types.get? h.param.type = some { type with nullability }

namespace Interpreter

variable {m : Interpreter} {b : Body} {d : Declaration} {self : Option Value} {room : Nat}
  {arguments : List Value} {v : Value}
  {call : Declaration → Option Value → List Value → Outcome}

/-- A node begins no unwinding that says that an exception was uncaught, if the calls do not. -/
theorem isInner_of_raises
    (hcall : ∀ s d receiver values, m.declaration? s = some d →
      Outcome.Ends (m.Tolerates True) Unwind.IsInner (call d receiver values))
    {l : Locals} {form : ExprForm} {u : Unwind} (h : m.Raises call b self l form u) :
    u.IsInner := by
  intro v hu
  cases h with
  | called found _ unwound => exact (hcall _ _ _ _ found).of_unwind unwound v hu
  | misrouted found named failed =>
    cases hu
    rcases error_of_route failed with ⟨p, hp⟩ | ⟨expected, got, hp⟩
    · cases hp
    · cases hp
  | operator failed =>
    cases hu
    rcases BinaryOp.error_of_apply failed with hop | hop
    · cases hop
    · cases hop
  | _ => cases hu

theorem isInner_of_land {r : Except Unwind Value} (h : ∀ u, r = .error u → u.IsInner) :
    ∀ u, land d b r = .error u → u.IsInner := by
  intro u hland
  rcases land_cases hland with ⟨hu, -⟩ | ⟨label, value, -, -, rfl⟩
  · exact h u hu
  · exact nofun

/-- No call inside the outermost one says that an exception was uncaught.  The induction is on the
calls that may still become active. -/
theorem invoke_isInner (m : Interpreter) (room : Nat) (d : Declaration) (self : Option Value)
    (arguments : List Value) :
    Outcome.Ends (m.Tolerates True) Unwind.IsInner (m.invoke room d self arguments) := by
  induction room generalizing d self arguments with
  | zero =>
    refine ends_of_started nofun nofun fun b hbody hroot => ?_
    rw [invoke_zero hbody hroot]
    exact .of_error nofun
  | succ room ih =>
    refine ends_of_started nofun nofun fun b hbody hroot => ?_
    have hallows : ∀ scope form, m.Allows (m.invoke room) b self True (fun _ _ => True)
        Unwind.IsInner scope form := by
      intro scope form
      refine ⟨fun l u _ hraises => ?_, fun _ => trivial, fun h _ => ?_⟩
      · exact isInner_of_raises (fun s d' receiver values _ => ih d' receiver values) hraises
      · exact ⟨fun _ _ _ => trivial, fun _ _ => trivial⟩
    have hkeeps : Evaluating.Keeps (m.Tolerates True) (fun _ => True) Unwind.IsInner
        (m.eval (m.invoke room) b self (m.budget b) b.root) :=
      eval_keeps (P := fun _ _ => True) _ [] _ (fun scope e x _ _ => hallows scope x.form)
        (fun hnot => absurd trivial hnot) fun hnot => absurd trivial hnot
    exact invoke_ends_of_keeps hbody hroot hkeeps trivial fun r => isInner_of_land

/-! ## Exceptions -/

/-- The value is an object whose class inherits from the class of all that can be thrown. -/
def IsException (m : Interpreter) (v : Value) : Prop :=
  ∃ c, v = .object c ∧ m.program.Inherits c m.program.builtins.throwableClass

theorem isThrowable_iff : m.isThrowable v = true ↔ m.IsException v := by
  rw [isThrowable, List.contains_iff_mem, mem_classesOf_iff]
  cases v with
  | object c => simp [Value.class?, IsException]
  | _ => simp [Value.class?, IsException]

/-- Whatever is thrown in a frame is an exception, if what is thrown by the calls is. -/
theorem isException_of_eval {fuel : Nat} {e : ExprRef} {l l' : Locals}
    (h : (m.eval (m.invoke room) b self fuel e).run.run l = .ok (.error (.thrown v), l')) :
    m.IsException v := by
  have hcall : ∀ s d receiver values, m.declaration? s = some d →
      m.Ends True (m.invoke room d receiver values) := fun _ _ receiver values _ =>
    invoke_ends (fun hnot => absurd trivial hnot) room (fun hnot => absurd trivial hnot) receiver
      values
  have hkeeps : Evaluating.Keeps (m.Tolerates True) (fun _ => True) m.Escapes
      (m.eval (m.invoke room) b self fuel e) :=
    eval_escapes hcall (fun hnot => absurd trivial hnot) fuel e fun hnot => absurd trivial hnot
  rcases hkeeps l trivial with ⟨fault, hfault, -⟩ | ⟨r, l'', hrun, -, hescapes⟩
  · rw [hfault] at h
    cases h
  · rw [hrun] at h
    cases h
    exact isThrowable_iff.1 (hescapes _ rfl)

/-- A handler for all that can be thrown accepts every exception. -/
theorem accepts_of_forThrowable (hp : m.program.Reachable) {h : Handler}
    (hfor : h.ForThrowable m.program) (hv : m.IsException v) :
    m.accepts (m.classesOf v) h = .ok true := by
  obtain ⟨type, nullability, hbuiltin, htype⟩ := hfor
  obtain ⟨c, rfl, hinherits⟩ := hv
  cases hbuiltin.symm.trans hp.sound.throwable
  refine (accepts_eq_true_iff (TypePool.contains_iff.2 ⟨_, htype⟩)).2 ?_
  exact ⟨_, _, c, htype, rfl, hinherits⟩

/-! ## What the outermost call answers -/

/-- What the outermost call answers to what the function that it runs ends in.  An exception is
answered once the dotted path of its class has been written.  There is no rule for a return that is
still pending, and none for an exception that is no object. -/
inductive Reports (m : Interpreter) :
    Except Unwind Value → Except Fault (Except EvalError Value) → Prop
  | value (v : Value) : Reports m (.ok v) (.ok (.ok v))
  | exception {c : ClassId} (inherits : m.program.Inherits c m.program.builtins.throwableClass) :
      Reports m (.error (.thrown (.object c)))
        ((c.display m.program.pools.names).map fun _ => .error (.uncaught (.object c)))
  | error {e : EvalError} (inner : ∀ v, e ≠ .uncaught v) :
      Reports m (.error (.error e)) (.ok (.error e))

/-- An exception that was not caught is named by its class. -/
theorem IsException.message (hv : m.IsException v) :
    ∃ c, v = .object c ∧ ∀ names, (EvalError.uncaught v).message names =
      (c.display names).map fun path => "uncaught exception: " ++ path := by
  obtain ⟨c, rfl, -⟩ := hv
  exact ⟨c, rfl, fun names => EvalError.message_uncaught c⟩

theorem reports_answer {r : Except Unwind Value} (h : m.invoke room d self arguments = .ok r) :
    m.Reports r (m.answer r) := by
  cases r with
  | ok v => exact .value v
  | error u =>
    have hleaves : m.Leaves u := leaves_of_invoke_eq_ok h u rfl
    have hinner : u.IsInner := (m.invoke_isInner room d self arguments).of_unwind h
    cases u with
    | ret label value => exact hleaves.elim
    | thrown v =>
      obtain ⟨c, rfl, hinherits⟩ := isThrowable_iff.1 hleaves
      exact m.answer_object c ▸ .exception hinherits
    | error e => exact .error fun v hv => hinner v (congrArg Unwind.error hv)

/-! ## The invariant -/

/-- What holds of all that unwinds in an interpreter. -/
structure Unwinding (m : Interpreter) : Prop where
  /-- What is thrown in a frame is an exception, whatever is bound there and however many calls may
  still become active. -/
  thrown : ∀ room b self fuel e l v l',
    (m.eval (m.invoke room) b self fuel e).run.run l = .ok (.error (.thrown v), l') →
    m.IsException v
  /-- No call ends in a return that is still pending. -/
  arrived : ∀ room d self arguments label v,
    m.invoke room d self arguments ≠ .ok (.error (.ret label v))
  /-- The outermost call answers with the value, the exception or the error. -/
  reported : ∀ s d self arguments r, m.declaration? s = some d →
    arguments.length = d.params.length → m.invoke maxCallDepth d self arguments = .ok r →
    m.call s self arguments = m.answer r ∧ m.Reports r (m.answer r)
  /-- It names an exception by the dotted path of its class. -/
  named : ∀ s self arguments v, m.call s self arguments = .ok (.error (.uncaught v)) →
    m.IsException v ∧ ∃ c, v = .object c ∧ ∀ names, (EvalError.uncaught v).message names =
      (c.display names).map fun path => "uncaught exception: " ++ path
  /-- A handler for all that can be thrown accepts every exception. -/
  caught : m.program.Reachable → ∀ h v, h.ForThrowable m.program → m.IsException v →
    m.accepts (m.classesOf v) h = .ok true

/-- Only an exception is reported as uncaught. -/
theorem isException_of_answer {r : Except Unwind Value}
    (h : m.invoke room d self arguments = .ok r)
    (hanswer : m.answer r = .ok (.error (.uncaught v))) : m.IsException v := by
  have hreports := reports_answer h
  generalize m.answer r = answered at hreports hanswer
  cases hreports with
  | value w => cases hanswer
  | @exception c inherits =>
    cases hpath : c.display m.program.pools.names with
    | error fault =>
      rw [hpath] at hanswer
      cases hanswer
    | ok path =>
      rw [hpath] at hanswer
      cases hanswer
      exact ⟨c, rfl, inherits⟩
  | error inner =>
    cases hanswer
    exact absurd rfl (inner v)

theorem isException_of_call {s : FunctionSymbol}
    (h : m.call s self arguments = .ok (.error (.uncaught v))) : m.IsException v := by
  cases hd : m.declaration? s with
  | none =>
    rw [Interpreter.call, hd] at h
    cases h
  | some d =>
    by_cases hlength : arguments.length = d.params.length
    · rw [call_eq_bind hd hlength] at h
      obtain ⟨r, hinvoke, hanswer⟩ := exists_of_bind_eq_ok h
      exact isException_of_answer hinvoke hanswer
    · rw [Interpreter.call, hd] at h
      dsimp only at h
      rw [if_neg hlength] at h
      cases h

/-- In every interpreter, exceptions are objects of classes that can be thrown and returns arrive,
however deep the calls and however often an exception is thrown again. -/
theorem unwinding (m : Interpreter) : m.Unwinding where
  thrown _ _ _ _ _ _ _ _ h := isException_of_eval h
  arrived _ _ _ _ _ _ h := leaves_of_invoke_eq_ok h _ rfl
  reported _ _ _ _ _ hd harguments h := by
    rw [call_eq_bind hd harguments, h]
    exact ⟨rfl, reports_answer h⟩
  named _ _ _ _ h := ⟨isException_of_call h, (isException_of_call h).message⟩
  caught hp _ _ hfor hv := accepts_of_forThrowable hp hfor hv

end Interpreter

namespace Sample

/-- The class of all that can be thrown also has a nullable type. -/
def catchAllType : TypeId × TypePool :=
  Program.empty.pools.types.intern ⟨.object Program.empty.builtins.throwableClass, .nullable⟩

/-- The empty program, with the type of all that can be thrown, or null. -/
def catchingAll : Program :=
  { Program.empty with pools := { Program.empty.pools with types := catchAllType.2 } }

/-- A handler for that type. -/
def catchAll : Handler := ⟨⟨⟨2⟩, .empty, catchAllType.1, .none, .source⟩, some ⟨0⟩⟩

/-- Runs a function that throws, beside that program. -/
def thrower : Interpreter := ⟨catchingAll, [throwing]⟩

/-- An object of the class of all that can be thrown. -/
def anything : Value := .object Program.empty.builtins.throwableClass

theorem catchingAll_reachable : catchingAll.Reachable :=
  .step .empty (.grow (Growing.grows_internType _ _))

theorem catchAll_forThrowable : catchAll.ForThrowable catchingAll := by
  refine ⟨⟨.object Program.empty.builtins.throwableClass, .notNull⟩, .nullable, ?_, ?_⟩
  · exact catchingAll_reachable.sound.throwable
  · exact TypePool.get?_intern _ _

end Sample

open Sample in
/-- What the function throws is accepted by a handler of the nullable type. -/
theorem Interpreter.unwinding_thrower :
    ((thrower.eval (thrower.invoke 0) throwingBody none 2 (some ⟨1⟩)).run.run .empty =
        .ok (.error (.thrown anything), .empty) ∧
      thrower.program.Reachable ∧ catchAll.ForThrowable thrower.program) ∧
    thrower.IsException anything ∧
      thrower.accepts (thrower.classesOf anything) catchAll = .ok true := by
  have hrun : (thrower.eval (thrower.invoke 0) throwingBody none 2 (some ⟨1⟩)).run.run .empty =
      .ok (.error (.thrown anything), .empty) := by
    decide +kernel
  have hexception : thrower.IsException anything :=
    (unwinding thrower).thrown 0 throwingBody none 2 (some ⟨1⟩) .empty anything .empty hrun
  refine ⟨⟨hrun, catchingAll_reachable, catchAll_forThrowable⟩, hexception, ?_⟩
  exact (unwinding thrower).caught catchingAll_reachable catchAll anything catchAll_forThrowable
    hexception

open Sample in
/-- Where no handler is around, the outermost call reports it. -/
example : thrower.call ⟨2⟩ none [.null] = .ok (.error (.uncaught anything)) ∧
    (EvalError.uncaught anything).message catchingAll.pools.names =
      .ok "uncaught exception: kotlin.Throwable" := by
  decide +kernel

end Companions
