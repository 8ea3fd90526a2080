import Companions.Proofs.Eval.Depth
import Companions.Proofs.Eval.Throwing
import Companions.Proofs.Program.Ancestry
set_option autoImplicit false

/-!
# Every call comes to an end

Functions may call each other without end, but a path through a body does not come back to itself,
a chain of supertypes neither, and only so many calls become active.  So a call from outside comes
to an answer if nothing that running reads is missing (`Interpreter.call_ends`).

That holds of the names in messages as well.  No part of an evaluation brings up other names than
those in the body, in the program and in what was given, so the given ones have to be known.  A call
on a text of an unknown name may fault (`Interpreter.call_hurling_unknown`).
-/

namespace Companions

variable {names : NameTable}

/-! ## Names that go around -/

/-- The table has the text of each name that the value is described with. -/
def Value.NamesKnown (names : NameTable) (v : Value) : Prop := ∀ n ∈ v.names, names.Knows n

instance (names : NameTable) (v : Value) : Decidable (v.NamesKnown names) :=
  inferInstanceAs (Decidable (∀ n ∈ v.names, names.Knows n))

/-- The names of the value that is on its way are known. -/
def Unwind.NamesKnown (names : NameTable) : Unwind → Prop
  | .ret _ v => v.NamesKnown names
  | .thrown v => v.NamesKnown names
  | .error _ => True

/-- The names of all that is bound are known. -/
def Locals.NamesKnown (names : NameTable) (l : Locals) : Prop :=
  ∀ p v, l.get? p = some v → v.NamesKnown names

theorem Value.Plain.namesKnown {v : Value} (h : v.Plain) : v.NamesKnown names := by
  cases v with
  | string text => exact h.elim
  | object c => exact h.elim
  | _ => exact fun n hn => absurd hn List.not_mem_nil

/-- What a node begins itself has the names of the values at hand. -/
theorem Unwind.Begun.namesKnown {u : Unwind} (h : u.Begun (·.NamesKnown names)) :
    u.NamesKnown names := by
  cases u with
  | ret label v => exact h
  | thrown v => exact h
  | error e => exact trivial

/-- The message of an error that a node begins has the names of the values at hand. -/
theorem EvalError.Begun.worded {e : EvalError} (h : e.Begun (·.NamesKnown names)) :
    e.worded names = .ok e := by
  refine worded_of_known fun n hn => ?_
  cases e with
  | uncaught exception => exact h.elim
  | missingBody function => exact h.elim
  | missingRoot function => exact h.elim
  | notThrowable value => exact h n hn
  | nonBoolCondition value => exact h n hn
  | _ => exact absurd hn List.not_mem_nil

/-- The message about an exception has names of the exception. -/
theorem Value.NamesKnown.worded_uncaught {v : Value} (h : v.NamesKnown names) :
    (EvalError.uncaught v).worded names = .ok (.uncaught v) := by
  refine EvalError.worded_of_known fun n hn => ?_
  cases v with
  | object c => exact h n hn
  | _ => exact absurd hn List.not_mem_nil

namespace Locals.NamesKnown

variable {l : Locals}

theorem bind (h : l.NamesKnown names) {v : Value} (hv : v.NamesKnown names) (p : ParamSymbol) :
    (l.bind p v).NamesKnown names := by
  intro q w hw
  by_cases hq : q = p
  · subst hq
    rw [get?_bind_self] at hw
    exact Option.some.inj hw ▸ hv
  · rw [get?_bind_of_ne l hq] at hw
    exact h q w hw

theorem unbind (h : l.NamesKnown names) (p : ParamSymbol) : (l.unbind p).NamesKnown names := by
  intro q w hw
  by_cases hq : q = p
  · subst hq
    rw [get?_unbind_self] at hw
    cases hw
  · rw [get?_unbind_of_ne l hq] at hw
    exact h q w hw

theorem foldl {pairs : List (Parameter × Value)} (hl : l.NamesKnown names)
    (h : ∀ pair ∈ pairs, pair.2.NamesKnown names) :
    (pairs.foldl (fun l (p, v) => l.bind p.symbol v) l).NamesKnown names := by
  induction pairs generalizing l with
  | nil => exact hl
  | cons first rest ih =>
    obtain ⟨hfirst, hrest⟩ := List.forall_mem_cons.1 h
    exact ih (hl.bind hfirst _) hrest

theorem ofArguments {values : List Value} (h : ∀ v ∈ values, v.NamesKnown names)
    (params : List Parameter) : (Locals.ofArguments params values).NamesKnown names :=
  foldl (fun _ _ hv => nomatch hv) fun _ hpair => h _ (List.of_mem_zip hpair).2

end Locals.NamesKnown

/-! ## Names in evaluation -/

namespace Evaluating

/-- What the evaluation ends in has names that are known, and a value that is one of `A`. -/
structure Spread {α : Type} (names : NameTable) (A : α → Prop) (r : Except Unwind α)
    (l : Locals) : Prop where
  bound : l.NamesKnown names
  value : ∀ a, r = .ok a → A a
  unwound : ∀ u, r = .error u → u.NamesKnown names

/-- Where the names of what is bound are known, no unknown name is asked for, and what the
evaluation ends in has names that are known. -/
def Spreads {α : Type} (names : NameTable) (A : α → Prop) (x : Evaluating α) : Prop :=
  ∀ l, l.NamesKnown names →
    Nameless (x.run.run l) ∧ ∀ r l', x.run.run l = .ok (r, l') → Spread names A r l'

variable {α β : Type} {A : α → Prop} {B : β → Prop} {l : Locals}

theorem Spread.of_value {a : α} (hl : l.NamesKnown names) (ha : A a) :
    Spread names A (.ok a) l :=
  ⟨hl, fun _ h => Except.ok.inj h ▸ ha, fun _ h => by cases h⟩

theorem Spread.of_unwind {u : Unwind} (hl : l.NamesKnown names) (hu : u.NamesKnown names) :
    Spread names A (.error u) l :=
  ⟨hl, fun _ h => (by cases h), fun _ h => Except.error.inj h ▸ hu⟩

namespace Spreads

/-- Evaluation that is known to end so spreads. -/
theorem of_run {x : Evaluating α}
    (h : ∀ l, l.NamesKnown names → ∃ r l', x.run.run l = .ok (r, l') ∧ Spread names A r l') :
    Spreads names A x := by
  intro l hl
  obtain ⟨r, l', hrun, hspread⟩ := h l hl
  refine ⟨hrun ▸ .of_ok _, fun r₁ l₁ hrun₁ => ?_⟩
  cases hrun.symm.trans hrun₁
  exact hspread

theorem pure {a : α} (h : A a) : Spreads names A (pure a) :=
  .of_run fun l hl => ⟨_, l, rfl, .of_value hl h⟩

theorem throw {u : Unwind} (h : u.NamesKnown names) : Spreads names A (throw u) :=
  .of_run fun l hl => ⟨_, l, rfl, .of_unwind hl h⟩

theorem bindings : Spreads names (fun l : Locals => l.NamesKnown names) get :=
  .of_run fun l hl => ⟨_, l, rfl, .of_value hl hl⟩

theorem read {z : Except Fault α} (h : Nameless z) :
    Spreads names (fun a => z = .ok a) (liftM z) := by
  cases z with
  | ok a => exact .of_run fun l hl => ⟨_, l, rfl, .of_value hl rfl⟩
  | error fault =>
    refine fun l hl => ⟨fun n hn => h n ?_, fun r l' hrun => by cases hrun⟩
    exact congrArg Except.error (Except.error.inj hn)

/-- An evaluation that goes on with what the first part has ended in. -/
theorem goOn {x : Evaluating α} {y : Evaluating β}
    {k : Except Unwind α × Locals → Except Fault (Except Unwind β × Locals)}
    (hrun : ∀ l, y.run.run l = x.run.run l >>= k) (hx : Spreads names A x)
    (hk : ∀ r l, Spread names A r l →
      Nameless (k (r, l)) ∧ ∀ r' l', k (r, l) = .ok (r', l') → Spread names B r' l') :
    Spreads names B y := by
  intro l hl
  obtain ⟨hnameless, hends⟩ := hx l hl
  rw [hrun]
  constructor
  · exact hnameless.bind fun r hr => (hk r.1 r.2 (hends r.1 r.2 hr)).1
  · intro r' l' hy
    obtain ⟨⟨r, l₁⟩, hfirst, hrest⟩ := exists_of_bind_eq_ok hy
    exact (hk r l₁ (hends r l₁ hfirst)).2 r' l' hrest

/-- The first part has ended in something that is handed on. -/
theorem handOn {r r' : Except Unwind α} {l l' : Locals} (h : Spread names A r l)
    (hgo : (.ok (r, l) : Except Fault (Except Unwind α × Locals)) = .ok (r', l')) :
    Spread names A r' l' := by
  cases hgo
  exact h

theorem bind {x : Evaluating α} {f : α → Evaluating β} (hx : Spreads names A x)
    (hf : ∀ a, A a → Spreads names B (f a)) : Spreads names B (x >>= f) := by
  refine goOn (run_bind x f) hx fun r l h => ?_
  cases r with
  | error u => exact ⟨.of_ok _, fun _ _ => handOn (.of_unwind h.bound (h.unwound u rfl))⟩
  | ok a => exact hf a (h.value a rfl) l h.bound

theorem catching {x : Evaluating Value} {f : Value → Evaluating Value}
    (hx : Spreads names (·.NamesKnown names) x)
    (hf : ∀ exception, exception.NamesKnown names →
      Spreads names (·.NamesKnown names) (f exception)) :
    Spreads names (·.NamesKnown names) (Interpreter.catching x f) := by
  refine goOn (run_catching x f) hx fun r l h => ?_
  match r, h with
  | .error (.thrown exception), h => exact hf exception (h.unwound _ rfl) l h.bound
  | .error (.ret label v), h => exact ⟨.of_ok _, fun _ _ => handOn h⟩
  | .error (.error e), h => exact ⟨.of_ok _, fun _ _ => handOn h⟩
  | .ok v, h => exact ⟨.of_ok _, fun _ _ => handOn h⟩

theorem handle {go : ExprRef → Evaluating Value} {exception : Value} {h : Handler}
    (hexception : exception.NamesKnown names)
    (hblock : Spreads names (·.NamesKnown names) (go h.block)) :
    Spreads names (·.NamesKnown names) (Interpreter.handle go exception h) := by
  intro l hl
  obtain ⟨hnameless, hends⟩ := hblock _ (hl.bind hexception h.param.symbol)
  rw [run_handle]
  refine ⟨hnameless.bind fun _ _ => .of_ok _, fun r l' hrun => ?_⟩
  obtain ⟨⟨r₁, l₁⟩, hfirst, hrest⟩ := exists_of_bind_eq_ok hrun
  obtain ⟨hl₁, hvalue, hunwound⟩ := hends r₁ l₁ hfirst
  cases hrest
  exact ⟨hl₁.unbind _, hvalue, hunwound⟩

/-- That names stay known, as a comparison of an evaluation with itself. -/
def comparison (names : NameTable) : Comparison (Except Fault) (Except Fault) where
  value v := v.NamesKnown names
  Rel A x _ := Spreads names A x
  plain _ h := h.namesKnown
  pure := .pure
  bind := .bind
  throw h := .throw h.namesKnown
  Readable z := Nameless z
  nameless h := h
  read := .read
  bindings := .bindings
  catching := .catching
  handle := .handle

end Spreads

end Evaluating

namespace Interpreter

/-- Nothing that running reads is missing. -/
structure Complete (m : Interpreter) : Prop where
  runnable : m.Runnable
  names : ∀ s d, m.declaration? s = some d → d.NamesKnown m.program.pools.names
  classes : ∀ k ∈ m.program.constructors, ∀ n ∈ k.type.names, m.program.pools.names.Knows n
  /-- No chain of supertypes comes back to a class. -/
  chains : ∀ c, ¬ Relation.TransGen m.program.Extends c c

open Evaluating

variable {m : Interpreter} {room : Nat} {d : Declaration} {self : Option Value}
  {arguments : List Value}

/-- The values that a call may end in, or is left with, have names that are known. -/
def Outspoken (names : NameTable) (r : Except Unwind Value) : Prop :=
  (∀ v, r = .ok v → v.NamesKnown names) ∧ ∀ u, r = .error u → u.NamesKnown names

theorem outspoken_error (e : EvalError) : Outspoken names (.error (.error e)) :=
  ⟨fun _ hv => (by cases hv), fun _ hu => Except.error.inj hu ▸ trivial⟩

/-- What has landed has the names of what was to land. -/
theorem Outspoken.land {r : Except Unwind Value} (h : Outspoken names r) (d : Declaration)
    (b : Body) : Outspoken names (land d b r) := by
  cases r with
  | ok v => exact h
  | error u =>
    cases u with
    | thrown exception => exact h
    | error e => exact h
    | ret label v =>
      rw [Interpreter.land]
      split
      · exact ⟨fun _ hv => Except.ok.inj hv ▸ h.2 _ rfl, fun _ hu => by cases hu⟩
      · exact outspoken_error _

/-- The call asks for no unknown name and ends in values of known names. -/
def Speaks (names : NameTable) (outcome : Outcome) : Prop :=
  Nameless outcome ∧ ∀ r, outcome = .ok r → Outspoken names r

theorem Speaks.of_ok {r : Except Unwind Value} (h : Outspoken names r) :
    Speaks names (.ok r) :=
  ⟨.of_ok r, fun _ hr => Except.ok.inj hr ▸ h⟩

/-- A function that is not started is named by its own names. -/
theorem speaks_of_no_root {e : EvalError} (he : e = .missingBody d.id ∨ e = .missingRoot d.id)
    (h : ∀ n ∈ d.id.names, m.program.pools.names.Knows n) :
    Speaks m.program.pools.names (m.failing e) := by
  have hknown : ∀ n ∈ e.names, m.program.pools.names.Knows n := by
    rcases he with rfl | rfl <;> exact h
  rw [failing_of_worded (EvalError.worded_of_known hknown)]
  exact .of_ok (outspoken_error e)

/-- At most `room` calls deep, calls that are made with values of known names speak. -/
def SpeaksWithin (m : Interpreter) (room : Nat) : Prop :=
  ∀ s d self arguments, m.declaration? s = some d →
    (∀ v, self = some v → v.NamesKnown m.program.pools.names) →
    (∀ v ∈ arguments, v.NamesKnown m.program.pools.names) →
    Speaks m.program.pools.names (m.invoke room d self arguments)

/-- In a frame, only values of known names come up. -/
theorem Complete.admits (hm : m.Complete) {s : FunctionSymbol} {b : Body}
    (hd : m.declaration? s = some d) (hbody : d.body = some b)
    (hself : ∀ v, self = some v → v.NamesKnown m.program.pools.names) :
    (Spreads.comparison m.program.pools.names).Admits m b self where
  messages e he := by
    have hworded : e.worded m.program.pools.names = .ok e := EvalError.Begun.worded he
    exact hworded ▸ .of_ok e
  constants x hx c hform := by
    have hnames := ((hm.names s d hd).body b hbody).nodes x hx
    cases c with
    | string text => exact fun n hn => hnames n (hform ▸ hn)
    | _ => exact Value.Plain.namesKnown trivial
  objects s' k hk := hm.classes k (List.mem_of_find?_eq_some hk)
  receiver := hself

/-- Calls that speak hand on to the evaluation what they end in. -/
theorem SpeaksWithin.calls (h : m.SpeaksWithin room) :
    (Spreads.comparison m.program.pools.names).Calls m (m.invoke room) (m.invoke room) := by
  intro callee d target values hd htarget hvalues l hl
  obtain ⟨hnameless, hends⟩ := h callee d target values hd htarget hvalues
  rw [run_calling]
  refine ⟨hnameless.bind fun _ _ => .of_ok _, fun r l' hrun => ?_⟩
  obtain ⟨ended, hended, hrest⟩ := exists_of_bind_eq_ok hrun
  cases hrest
  obtain ⟨hvalue, hunwound⟩ := hends r hended
  exact ⟨hl, hvalue, hunwound⟩

/-- The induction is on the calls that may become active. -/
theorem Complete.speaksWithin (hm : m.Complete) (room : Nat) : m.SpeaksWithin room := by
  induction room with
  | zero =>
    intro s d self arguments hd hself harguments
    rcases m.exists_root_or_error d with ⟨b, hbody, hroot⟩ | ⟨e, he, hinvoke⟩
    · rw [invoke_zero hbody hroot]
      exact .of_ok (outspoken_error _)
    · rw [hinvoke]
      exact speaks_of_no_root he (hm.names s d hd).id
  | succ room ih =>
    intro s d self arguments hd hself harguments
    rcases m.exists_root_or_error d with ⟨b, hbody, hroot⟩ | ⟨e, he, hinvoke⟩
    · have hspreads : Spreads m.program.pools.names (·.NamesKnown m.program.pools.names)
          (m.eval (m.invoke room) b self (m.budget b) b.root) :=
        Comparison.eval (hm.admits hd hbody hself) ih.calls _ _
      obtain ⟨hnameless, hends⟩ := hspreads _ (.ofArguments harguments d.params)
      rw [invoke_succ_bind hbody hroot]
      refine ⟨hnameless.bind fun _ _ => .of_ok _, fun r hr => ?_⟩
      obtain ⟨⟨ended, l⟩, hended, hland⟩ := exists_of_bind_eq_ok hr
      obtain ⟨-, hvalue, hunwound⟩ := hends ended l hended
      have hended : Outspoken m.program.pools.names ended := ⟨hvalue, hunwound⟩
      exact Except.ok.inj hland ▸ hended.land d b
    · rw [hinvoke]
      exact speaks_of_no_root he (hm.names s d hd).id

/-- The outermost call answers to what has names that are known. -/
theorem Outspoken.exists_answer {r : Except Unwind Value}
    (h : Outspoken m.program.pools.names r) : m.answer r = .ok (reported r) := by
  match r, h with
  | .ok v, _ => rfl
  | .error (.error e), _ => rfl
  | .error (.ret label v), _ => rfl
  | .error (.thrown exception), h =>
    have hworded := Value.NamesKnown.worded_uncaught (h.2 _ rfl)
    rw [answer, hworded]
    rfl

/-- Every call comes to an end.  Functions whose bodies do not come back to themselves, and miss
nothing, may call each other in whatever way: a call of any symbol on any values has an answer,
unless a name of these values is unknown and the message of an error asks for one that is.  And the
walks along supertypes that are taken on the way end, none of them longer than there are declared
classes. -/
theorem call_ends (m : Interpreter) (hm : m.Complete) (s : FunctionSymbol) (self : Option Value)
    (arguments : List Value) :
    ((∃ answer, m.call s self arguments = .ok answer) ∨
      (∃ v ∈ self.toList ++ arguments, ¬ v.NamesKnown m.program.pools.names) ∧
        ∃ n, m.call s self arguments = .error (.unknownName n) ∧
          ¬ m.program.pools.names.Knows n) ∧
    ∀ c, m.program.up? (m.program.classes.length + 1) c = none := by
  refine ⟨?_, Program.up?_eq_none hm.chains⟩
  cases hd : m.declaration? s with
  | none => exact .inl ⟨_, by rw [call, hd]⟩
  | some d =>
    by_cases hlength : arguments.length = d.params.length
    case neg => exact .inl ⟨_, by rw [call, hd]; exact if_neg hlength⟩
    rw [call_eq_bind hd hlength]
    by_cases hgiven : ∀ v ∈ self.toList ++ arguments, v.NamesKnown m.program.pools.names
    · obtain ⟨hself, harguments⟩ := List.forall_mem_append.1 hgiven
      obtain ⟨hnameless, hends⟩ := hm.speaksWithin maxCallDepth s d self arguments hd
        (fun v hv => hself v (Option.mem_toList.2 hv)) harguments
      rcases hm.runnable.exists_invoke_eq_ok (fun b => hm.runnable s d b hd) maxCallDepth self
        arguments with ⟨r, hr⟩ | ⟨fault, hfault, n, rfl, -⟩
      · rw [hr]
        exact .inl ⟨_, (hends r hr).exists_answer⟩
      · exact absurd hfault (hnameless n)
    · have hgiven : ∃ v ∈ self.toList ++ arguments, ¬ v.NamesKnown m.program.pools.names := by
        simpa only [not_forall, exists_prop] using hgiven
      rcases hm.runnable.exists_invoke_eq_ok (fun b => hm.runnable s d b hd) maxCallDepth self
        arguments with ⟨r, hr⟩ | ⟨fault, hfault, n, rfl, hunknown⟩
      · rw [hr]
        rcases m.answer_cases r with hanswer | ⟨_, -, n, -, hfault, hunknown⟩
        · exact .inl ⟨_, hanswer⟩
        · exact .inr ⟨hgiven, n, hfault, hunknown⟩
      · exact .inr ⟨hgiven, n, by rw [hfault]; rfl, hunknown⟩

end Interpreter

namespace Sample

/-- The bodies of the function miss nothing, and its names are known. -/
def Checked (m : Interpreter) (d : Declaration) : Prop :=
  (∀ b ∈ d.body, b.Descends ∧ b.SpansFit ∧
    (∀ x ∈ b.nodes, ∀ r ∈ b.references x.form, b.contains r.place = true) ∧
    ∀ h ∈ b.handlers, m.program.pools.types.contains h.param.type = true) ∧
  (∀ n ∈ d.id.names, m.program.pools.names.Knows n) ∧
  (∀ p ∈ d.params, m.program.pools.names.Knows p.name) ∧
  ∀ b ∈ d.body,
    (∀ x ∈ b.nodes, ∀ n ∈ x.form.names, m.program.pools.names.Knows n) ∧
    (∀ l ∈ b.labels, m.program.pools.names.Knows l.name) ∧
    ∀ h ∈ b.handlers, m.program.pools.names.Knows h.param.name

instance (m : Interpreter) (d : Declaration) : Decidable (Checked m d) := by
  unfold Checked
  infer_instance

theorem complete_of_checked {m : Interpreter}
    (hall : ∀ d ∈ m.registered ++ m.program.declarations, Checked m d)
    (hclasses : ∀ k ∈ m.program.constructors, ∀ n ∈ k.type.names, m.program.pools.names.Knows n)
    (hroots : ∀ k ∈ m.program.classes, k.supertype = none) : m.Complete where
  runnable s d b hd hbody := by
    obtain ⟨hbodies, -⟩ := hall d (Interpreter.mem_of_declaration? hd)
    obtain ⟨hdescends, hspans, hclosed, hhandlers⟩ := hbodies b hbody
    exact ⟨hdescends.acyclic, hspans, hclosed, hhandlers⟩
  names s d hd := by
    obtain ⟨-, hid, hparams, hbody⟩ := hall d (Interpreter.mem_of_declaration? hd)
    exact ⟨hid, hparams, fun b hb =>
      ⟨(hbody b hb).1, (hbody b hb).2.1, (hbody b hb).2.2⟩⟩
  classes := hclasses
  chains c h := by
    obtain ⟨a, -, hlast⟩ := Relation.TransGen.tail'_iff.1 h
    obtain ⟨k, hk, hup⟩ := Option.bind_eq_some_iff.1 hlast
    rw [hroots k (List.mem_of_find?_eq_some hk)] at hup
    cases hup

/-- The function that calls itself without end, and the others beside it, miss nothing. -/
theorem sunken_complete : sunken.Complete :=
  complete_of_checked (by decide +kernel) (by decide +kernel) (by decide +kernel)

/-- Throws what it is given. -/
def hurling : Declaration :=
  textFunction ⟨2⟩ ⟨3⟩ (some ⟨#[⟨.param ⟨3⟩, .string⟩, ⟨.raise (some ⟨0⟩), .nothing⟩], #[], #[], #[],
    #[], some ⟨1⟩⟩)

/-- Runs the function that throws what it is given. -/
def hurler : Interpreter := ⟨.empty, [hurling]⟩

theorem hurler_complete : hurler.Complete :=
  complete_of_checked (by decide +kernel) (by decide +kernel) (by decide +kernel)

end Sample

open Sample in
/-- Calling the function that calls itself without end has an answer. -/
theorem Interpreter.call_ends_sunken :
    sunken.Complete ∧ ∃ answer, sunken.call ⟨3⟩ none [.null] = .ok answer := by
  obtain ⟨hends | ⟨⟨v, hv, hunknown⟩, -⟩, -⟩ := sunken.call_ends sunken_complete ⟨3⟩ none [.null]
  · exact ⟨sunken_complete, hends⟩
  · rw [List.mem_singleton.1 hv] at hunknown
    have hplain : Value.null.Plain := trivial
    exact absurd hplain.namesKnown hunknown

open Sample in
/-- A text of an unknown name cannot be thrown, and the message that says so cannot be written. -/
theorem Interpreter.call_hurling_unknown :
    hurler.Complete ∧ hurler.declaration? ⟨2⟩ = some hurling ∧
      [Value.string ⟨999⟩].length = hurling.params.length ∧
      hurler.call ⟨2⟩ none [.string ⟨999⟩] = .error (.unknownName ⟨999⟩) := by
  exact ⟨hurler_complete, rfl, rfl, by decide +kernel⟩

end Companions
