import Companions.Proofs.Eval.Comparing
import Companions.Proofs.Eval.Steps
set_option autoImplicit false

/-!
# Bindings that are put back

A handler binds its parameter in the frame that everything else in the function is evaluated in, and
unbinds it behind its block.  That does no harm as long as the parameter was not bound already: then
the bindings are put back however the block is left, and while it is evaluated they are those of the
handlers around with those of the frame behind them.  So such a place may be evaluated with its
bindings handed down instead, the innermost first, and nothing to put back
(`Interpreter.evalLexical`); this comes to the same (`Interpreter.eval_eq_lexical`).
-/

namespace Companions

namespace Locals

variable {l : Locals} {p : ParamSymbol}

theorem unbind_of_unbound (h : l.get? p = none) : l.unbind p = l := by
  have hkept : l.bindings.filter (fun pair => pair.1 ≠ p) = l.bindings := by
    refine List.filter_eq_self.2 fun pair hpair => ?_
    have hne : p ≠ pair.1 := by simpa using List.lookup_eq_none_iff.1 h pair hpair
    exact decide_eq_true hne.symm
  exact congrArg Locals.mk hkept

theorem bindings_bind_of_unbound (h : l.get? p = none) (v : Value) :
    (l.bind p v).bindings = (p, v) :: l.bindings := by
  rw [bind, unbind_of_unbound h]

theorem unbind_bind_of_unbound (h : l.get? p = none) (v : Value) :
    (l.bind p v).unbind p = l := by
  have hunbind : (l.bind p v).unbind p = l.unbind p := by
    simp [bind, unbind]
  rw [hunbind, unbind_of_unbound h]

end Locals

/-! ## Handlers with parameters of their own -/

namespace Body

variable {b : Body} {l : Locals} {e e' : ExprRef} {x : Expr} {scope scope' : List ParamSymbol}

/-- What is readable at the outset is readable all along. -/
theorem Path.append_scope (h : b.Path scope e scope' e') (around : List ParamSymbol) :
    b.Path (scope ++ around) e (scope' ++ around) e' := by
  induction h with
  | here => exact .here _ _
  | step hx hr _ ih =>
    refine .step hx hr ?_
    rwa [Reference.scope, ← List.append_assoc]

/-- Along every path from the place, the handlers that are entered have parameters that are
different from each other and from what is bound in the frame. -/
def Apart (b : Body) (e : ExprRef) (l : Locals) : Prop :=
  ∀ entered e', b.Path [] e entered e' → entered.Nodup ∧ ∀ p ∈ entered, l.get? p = none

theorem Apart.path_of_reference (h : b.Apart e l) (hx : b.node? e = some x) {r : Reference}
    (hr : r ∈ b.references x.form) {entered : List ParamSymbol}
    (hpath : b.Path [] r.place entered e') :
    (entered ++ r.binds.toList).Nodup ∧ ∀ p ∈ entered ++ r.binds.toList, l.get? p = none := by
  have hscope : r.scope [] = r.binds.toList := List.append_nil _
  have hentered : b.Path (r.scope []) r.place (entered ++ r.binds.toList) e' := by
    rw [hscope]
    exact hpath.append_scope r.binds.toList
  exact h _ _ (.step hx hr hentered)

/-- Parameters are apart in what a node refers to. -/
theorem Apart.reference (h : b.Apart e l) (hx : b.node? e = some x) {r : Reference}
    (hr : r ∈ b.references x.form) : b.Apart r.place l := by
  intro entered e' hpath
  obtain ⟨hnodup, hunbound⟩ := h.path_of_reference hx hr hpath
  exact ⟨(List.nodup_append.1 hnodup).1,
    fun p hp => hunbound p (List.mem_append_left _ hp)⟩

/-- Inside a handler, they are apart from what the handler has bound. -/
theorem Apart.handling (h : b.Apart e l) (hx : b.node? e = some x) {handler : Handler}
    (hh : handler ∈ b.handlersOf x.form) (v : Value) :
    l.get? handler.param.symbol = none ∧
      b.Apart handler.block (l.bind handler.param.symbol v) := by
  have hr := handling_mem_references hh
  refine ⟨?_, fun entered e' hpath => ?_⟩
  · exact (h.path_of_reference hx hr (.here [] _)).2 _ (by simp [Reference.handling])
  · obtain ⟨hnodup, hunbound⟩ := h.path_of_reference hx hr hpath
    obtain ⟨hentered, -, hapart⟩ := List.nodup_append.1 hnodup
    refine ⟨hentered, fun p hp => ?_⟩
    have hne : p ≠ handler.param.symbol := hapart p hp _ (by simp [Reference.handling])
    rw [Locals.get?_bind_of_ne l hne]
    exact hunbound p (List.mem_append_left _ hp)

/-- Whether the parameters are apart, as far as paths through at most `n` places show, behind the
handlers that were entered already.  There may be no longer paths. -/
def apartWithin (b : Body) (l : Locals) : (n : Nat) → (entered : List ParamSymbol) → ExprRef → Bool
  | 0, _, _ => false
  | n + 1, entered, e =>
    decide (entered.Nodup ∧ ∀ p ∈ entered, l.get? p = none) &&
      match b.node? e with
      | none => true
      | some x =>
        (b.references x.form).all fun r => b.apartWithin l n (r.scope entered) r.place

theorem apart_of_apartWithin {n : Nat} (h : b.apartWithin l n [] e = true) : b.Apart e l := by
  have hpath : ∀ scope scope' e e', b.Path scope e scope' e' → ∀ n,
      b.apartWithin l n scope e = true → scope'.Nodup ∧ ∀ p ∈ scope', l.get? p = none := by
    intro scope scope' e e' hpath
    induction hpath with
    | here scope e =>
      intro n hn
      cases n with
      | zero => cases hn
      | succ n =>
        rw [apartWithin, Bool.and_eq_true] at hn
        exact of_decide_eq_true hn.1
    | @step scope scope' e e' x r hx hr _ ih =>
      intro n hn
      cases n with
      | zero => cases hn
      | succ n =>
        rw [apartWithin, hx, Bool.and_eq_true] at hn
        exact ih n (List.all_eq_true.1 hn.2 r hr)
  exact fun entered e' he' => hpath [] entered e e' he' n h

end Body

/-! ## Nodes that leave the bindings alone -/

/-- The node does not change the bindings itself. -/
def ExprForm.Steady : ExprForm → Prop
  | .attempt _ _ => False
  | _ => True

/-- The node neither looks at the bindings nor changes them itself. -/
def ExprForm.Detached : ExprForm → Prop
  | .param _ => False
  | .attempt _ _ => False
  | _ => True

/-- A relation between evaluations over `N` and evaluations over `N'` that is kept where they go on
in step. -/
structure Pairing (N N' : Type → Type) [Monad N] [Monad N'] [MonadLiftT (Except Fault) N]
    [MonadLiftT (Except Fault) N'] where
  Rel : {α : Type} → EvaluatingOver N α → EvaluatingOver N' α → Prop
  pure : ∀ {α : Type} (a : α), Rel (pure a) (pure a)
  throw : ∀ {α : Type} (u : Unwind), Rel (throw u : EvaluatingOver N α) (throw u)
  bind : ∀ {α β : Type} {x : EvaluatingOver N α} {y : EvaluatingOver N' α}
    {f : α → EvaluatingOver N β} {g : α → EvaluatingOver N' β},
    Rel x y → (∀ a, Rel (f a) (g a)) → Rel (x >>= f) (y >>= g)
  /-- What is read from outside the frame is the same in both. -/
  read : ∀ {α β : Type} {z : Except Fault α} {f : α → EvaluatingOver N β}
    {g : α → EvaluatingOver N' β},
    (∀ a, z = .ok a → Rel (f a) (g a)) → Rel (liftM z >>= f) (liftM z >>= g)

namespace Pairing

variable {N N' : Type → Type} [Monad N] [Monad N'] [MonadLiftT (Except Fault) N]
  [MonadLiftT (Except Fault) N'] {R : Pairing N N'} {α β : Type}

theorem map {x : EvaluatingOver N α} {y : EvaluatingOver N' α} [LawfulMonad N] [LawfulMonad N']
    (h : R.Rel x y) (f : α → β) : R.Rel (f <$> x) (f <$> y) := by
  rw [map_eq_pure_bind, map_eq_pure_bind]
  exact R.bind h fun a => R.pure (f a)

theorem mapM {items : List α} {f : α → EvaluatingOver N β} {g : α → EvaluatingOver N' β}
    [LawfulMonad N] [LawfulMonad N'] (h : ∀ a ∈ items, R.Rel (f a) (g a)) :
    R.Rel (items.mapM f) (items.mapM g) := by
  induction items with
  | nil => exact R.pure []
  | cons a rest ih =>
    rw [List.mapM_cons, List.mapM_cons]
    refine R.bind (h a List.mem_cons_self) fun r => ?_
    refine R.bind (ih fun a ha => h a (List.mem_cons_of_mem _ ha)) fun rs => ?_
    exact R.pure (r :: rs)

theorem forM {items : List α} {f : α → EvaluatingOver N Unit} {g : α → EvaluatingOver N' Unit}
    (h : ∀ a ∈ items, R.Rel (f a) (g a)) : R.Rel (items.forM f) (items.forM g) := by
  induction items with
  | nil => exact R.pure ()
  | cons a rest ih =>
    exact R.bind (h a List.mem_cons_self) fun _ => ih fun a ha => h a (List.mem_cons_of_mem _ ha)

theorem foldlM {items : List α} {f : β → α → EvaluatingOver N β} {g : β → α → EvaluatingOver N' β}
    (h : ∀ a ∈ items, ∀ c, R.Rel (f c a) (g c a)) (c : β) :
    R.Rel (items.foldlM f c) (items.foldlM g c) := by
  induction items generalizing c with
  | nil => exact R.pure c
  | cons a rest ih =>
    rw [List.foldlM_cons, List.foldlM_cons]
    exact R.bind (h a List.mem_cons_self c) fun c' =>
      ih (fun a ha => h a (List.mem_cons_of_mem _ ha)) c'

variable {m : Interpreter} {b : Body} {self : Option Value}
  {call : Declaration → Option Value → List Value → N (Except Unwind Value)}
  {call' : Declaration → Option Value → List Value → N' (Except Unwind Value)}
  {go : ExprRef → EvaluatingOver N Value} {go' : ExprRef → EvaluatingOver N' Value}

theorem stop (m : Interpreter) (e : EvalError) : R.Rel (m.stop e) (m.stop e) :=
  R.read fun _ _ => R.throw _

theorem callBound
    (hcall : ∀ d target values, R.Rel (Interpreter.calling call d target values)
      (Interpreter.calling call' d target values))
    (callee : FunctionSymbol) (receiver : Option Value) (bound : List (ParamSymbol × Value)) :
    R.Rel (m.callBound call callee receiver bound) (m.callBound call' callee receiver bound) := by
  unfold Interpreter.callBound
  cases m.declaration? callee with
  | none => exact R.throw _
  | some d =>
    dsimp only
    cases Interpreter.route d.params bound with
    | error e => exact R.throw _
    | ok values => exact hcall d receiver values

variable [LawfulMonad N] [LawfulMonad N']

theorem evalOptional {e : ExprRef} (h : ∀ c, e = some c → R.Rel (go e) (go' e)) :
    R.Rel (Interpreter.evalOptional go e) (Interpreter.evalOptional go' e) := by
  cases e with
  | none => exact R.pure none
  | some c => exact R.map (h c rfl) some

/-- A node that leaves the bindings alone is evaluated in step if all that it refers to and all that
it calls is. -/
theorem evalForm {form : ExprForm} (hform : form.Detached)
    (hcall : ∀ d target values, R.Rel (Interpreter.calling call d target values)
      (Interpreter.calling call' d target values))
    (hgo : ∀ r ∈ b.references form, R.Rel (go r.place) (go' r.place)) :
    R.Rel (m.evalForm call b self go form) (m.evalForm call' b self go' form) := by
  cases form with
  | const c => exact R.pure _
  | param p => exact hform.elim
  | attempt block handlers => exact hform.elim
  | self owner =>
    cases self with
    | some v => exact R.pure v
    | none => exact R.throw _
  | call callee receiver arguments =>
    refine R.bind (evalOptional fun c hc => ?_) fun target => ?_
    · exact hgo (.plain receiver) (by simp [Body.references, hc])
    refine R.read fun items hitems => ?_
    rw [← Body.items_of_read hitems]
    refine R.bind (R.mapM fun a ha => ?_) fun bound => R.callBound hcall callee target bound
    refine R.bind (hgo (.plain a.value) ?_) fun v => R.pure _
    exact List.mem_append_right _ (List.mem_map_of_mem ha)
  | new constr arguments =>
    refine R.read fun items hitems => ?_
    rw [← Body.items_of_read hitems]
    refine R.bind (R.forM fun a ha => ?_) fun _ => ?_
    · exact R.bind (hgo (.plain a.value) (List.mem_map_of_mem ha)) fun _ => R.pure _
    · cases m.program.constructor? constr with
      | none => exact R.throw _
      | some k => exact R.pure _
  | block statements =>
    refine R.read fun items hitems => ?_
    rw [← Body.items_of_read hitems]
    exact R.foldlM (fun s hs _ => hgo (.plain s) (List.mem_map_of_mem hs)) _
  | ret target value =>
    refine R.bind (evalOptional fun c hc => ?_) fun _ => R.throw _
    exact hgo (.plain value) (by simp [Body.references, hc])
  | raise exception =>
    refine R.bind (hgo (.plain exception) (by simp [Body.references])) fun v => ?_
    split
    · exact R.throw _
    · exact R.stop m _
  | elvis left right =>
    refine R.bind (hgo (.plain left) (by simp [Body.references])) fun v => ?_
    split
    · exact hgo (.plain right) (by simp [Body.references])
    · exact R.pure v
  | branch condition yes no =>
    refine R.bind (hgo (.plain condition) (by simp [Body.references])) fun v => ?_
    split
    · exact hgo (.plain yes) (by simp [Body.references])
    · refine R.bind (evalOptional fun c hc => ?_) fun _ => R.pure _
      exact hgo (.plain no) (by simp [Body.references, hc])
    · exact R.stop m _
  | binary op left right =>
    refine R.bind (hgo (.plain left) (by simp [Body.references])) fun v => ?_
    refine R.bind (hgo (.plain right) (by simp [Body.references])) fun w => ?_
    cases op.apply v w with
    | ok value => exact R.pure value
    | error e => exact R.throw _

end Pairing

/-! ## Bindings that are handed down -/

namespace Interpreter

variable {N : Type → Type} [Monad N]

/-- What runs beneath the frame, as an evaluation inside it. -/
def within (x : N (Except Unwind Value)) : EvaluatingOver N Value := do
  resume (← liftM x)

/-- What the evaluation ends in where these are the bindings. -/
def ending (l : Locals) (x : EvaluatingOver N Value) : N (Except Unwind Value) := do
  return (← x.run.run l).1

theorem run_within [LawfulMonad N] (x : N (Except Unwind Value)) (l : Locals) :
    (within x).run.run l = x >>= fun r => pure (r, l) :=
  Evaluating.run_calling (fun _ _ _ => x) default none [] l

/-- The handler that a `try` goes on with where its block has ended so, with the exception that it
takes. -/
def taken (m : Interpreter) (b : Body) (handlers : Span .handlers) :
    Except Unwind Value → Except Fault (Option (Handler × Value))
  | .error (.thrown exception) => do
    let found ← m.handlerFor exception (← b.readHandlers handlers)
    return found.map fun h => (h, exception)
  | _ => return none

/-- Evaluates the node at a place where these bindings are around, the innermost first.  The
bindings are handed down to what the node refers to; to the block of a handler, the binding of its
parameter is handed down before all others. -/
def evalLexical (m : Interpreter) (call : Declaration → Option Value → List Value → Outcome)
    (b : Body) (self : Option Value) :
    (fuel : Nat) → ExprRef → (around : List (ParamSymbol × Value)) → Outcome
  | 0, _, _ => .error .endless
  | fuel + 1, e, around => do
    match (← b.node e).form with
    | .attempt block handlers =>
      let result ← m.evalLexical call b self fuel block around
      match ← m.taken b handlers result with
      | none => return result
      | some (h, exception) =>
        m.evalLexical call b self fuel h.block ((h.param.symbol, exception) :: around)
    | form =>
      ending ⟨around⟩
        (m.evalForm call b self (fun c => within (m.evalLexical call b self fuel c around)) form)

variable {m : Interpreter} {call : Declaration → Option Value → List Value → Outcome} {b : Body}
  {self : Option Value} {fuel : Nat} {e : ExprRef} {x : Expr} {l : Locals}
  {around : List (ParamSymbol × Value)} {block : ExprRef} {handlers : Span .handlers}

theorem evalLexical_of_none (hx : b.node? e = none) :
    m.evalLexical call b self (fuel + 1) e around = .error (.unknownNode e) := by
  rw [evalLexical, Body.node, hx]
  rfl

theorem evalLexical_of_attempt {type : TypeId}
    (hx : b.node? e = some ⟨.attempt block handlers, type⟩) :
    m.evalLexical call b self (fuel + 1) e around = (do
      let result ← m.evalLexical call b self fuel block around
      match ← m.taken b handlers result with
      | none => return result
      | some (h, exception) =>
        m.evalLexical call b self fuel h.block ((h.param.symbol, exception) :: around)) := by
  rw [evalLexical, Body.node, hx]
  rfl

theorem evalLexical_of_form (hx : b.node? e = some x) (hform : x.form.Steady) :
    m.evalLexical call b self (fuel + 1) e around =
      ending ⟨around⟩ (m.evalForm call b self
        (fun c => within (m.evalLexical call b self fuel c around)) x.form) := by
  rw [evalLexical, Body.node, hx]
  obtain ⟨form, type⟩ := x
  cases form with
  | attempt block handlers => exact hform.elim
  | _ => rfl

/-! ## The two ways compared -/

/-- A parameter is read from the bindings, and the first of them counts. -/
theorem evalForm_param_run [LawfulMonad N] [MonadLiftT (Except Fault) N]
    {beneath : Declaration → Option Value → List Value → N (Except Unwind Value)}
    (go : ExprRef → EvaluatingOver N Value) (p : ParamSymbol) :
    (m.evalForm beneath b self go (.param p)).run.run l =
      pure (match l.get? p with
        | some v => .ok v
        | none => .error (.error (.unboundParam p)), l) := by
  rw [evalForm, Evaluating.run_bind, Evaluating.run_get, pure_bind, Evaluating.proceed]
  cases l.get? p with
  | none => rfl
  | some v => rfl

/-- A `try` goes on with the handler that takes what the block has ended in.  The parameter of the
handler is bound for its block. -/
theorem evalForm_attempt_run (go : ExprRef → Evaluating Value) :
    (m.evalForm call b self go (.attempt block handlers)).run.run l = (do
      let (result, l) ← (go block).run.run l
      match ← m.taken b handlers result with
      | none => return (result, l)
      | some (h, exception) =>
        let (result, l) ← (go h.block).run.run (l.bind h.param.symbol exception)
        return (result, l.unbind h.param.symbol)) := by
  refine (Evaluating.run_catching (go block) _ l).trans ?_
  refine congrArg _ (funext fun r => ?_)
  obtain ⟨(⟨label, v⟩ | exception | error) | v, l'⟩ := r
  · rfl
  · dsimp only [Evaluating.rescue, taken]
    cases b.readHandlers handlers with
    | error fault => rfl
    | ok items =>
      rw [Evaluating.liftM_ok, pure_bind]
      change _ = (do
        let found ← m.handlerFor exception items
        return found.map fun h => (h, exception) : Except Fault _) >>= _
      cases m.handlerFor exception items with
      | error fault => rfl
      | ok found =>
        cases found with
        | none => rfl
        | some h => exact Evaluating.run_handle go exception h l'
  · rfl
  · rfl

theorem mem_of_taken {r : Except Unwind Value} {h : Handler} {exception : Value}
    (htaken : m.taken b handlers r = .ok (some (h, exception))) :
    h ∈ b.handlersOf (.attempt block handlers) := by
  obtain (⟨label, v⟩ | thrown | error) | v := r
  · cases htaken
  · rw [taken] at htaken
    cases hread : b.readHandlers handlers with
    | error fault =>
      rw [hread] at htaken
      cases htaken
    | ok items =>
      rw [hread] at htaken
      change (m.handlerFor thrown items >>= _) = _ at htaken
      cases hfound : m.handlerFor thrown items with
      | error fault =>
        rw [hfound] at htaken
        cases htaken
      | ok found =>
        rw [hfound] at htaken
        have hsome : found.map (fun h => (h, thrown)) = some (h, exception) := Except.ok.inj htaken
        obtain ⟨h', rfl, hpair⟩ := Option.map_eq_some_iff.1 hsome
        cases hpair
        rw [Body.handlersOf, Body.items_of_read hread]
        exact mem_of_firstAccepting hfound
  · cases htaken
  · cases htaken

/-- At these bindings, both end alike and leave the bindings as they are. -/
def steady (l : Locals) : Pairing (Except Fault) (Except Fault) where
  Rel x y := x.run.run l = y.run.run l ∧ ∀ r l', x.run.run l = .ok (r, l') → l' = l
  pure a := by
    refine ⟨rfl, fun r l' h => ?_⟩
    cases h
    rfl
  throw u := by
    refine ⟨rfl, fun r l' h => ?_⟩
    cases h
    rfl
  bind := by
    intro α β x y f g hxy hfg
    obtain ⟨hsame, hkept⟩ := hxy
    rw [Evaluating.run_bind, Evaluating.run_bind, ← hsame]
    cases hx : x.run.run l with
    | error fault => exact ⟨rfl, fun r l' h => by cases h⟩
    | ok result =>
      obtain ⟨r, l₁⟩ := result
      cases hkept r l₁ hx
      cases r with
      | error u =>
        refine ⟨rfl, fun r l' h => ?_⟩
        cases h
        rfl
      | ok a => exact hfg a
  read := by
    intro α β z f g hfg
    cases z with
    | error fault => exact ⟨rfl, fun r l' h => by cases h⟩
    | ok a => exact hfg a rfl

/-- Where the bindings are handed down, a parameter is read from the innermost one of its symbol. -/
theorem evalLexical_of_param {p : ParamSymbol} {type : TypeId}
    (hx : b.node? e = some ⟨.param p, type⟩) :
    m.evalLexical call b self (fuel + 1) e around =
      .ok (match around.lookup p with
        | some v => .ok v
        | none => .error (.error (.unboundParam p))) := by
  rw [evalLexical_of_form hx trivial, ending, evalForm_param_run]
  rfl

theorem eq_of_run_eq_map {x : Evaluating Value} {outcome : Outcome}
    (h : x.run.run l = outcome.map fun r => (r, l)) (r : Except Unwind Value) (l' : Locals)
    (hrun : x.run.run l = .ok (r, l')) : l' = l := by
  rw [h] at hrun
  cases outcome with
  | error fault => cases hrun
  | ok r' =>
    cases hrun
    rfl

/-- A node that leaves the bindings alone can have them handed down if all that it refers to can. -/
theorem evalForm_eq_ending {form : ExprForm} {go : ExprRef → Evaluating Value}
    {below : ExprRef → Outcome} (hform : form.Detached)
    (hgo : ∀ r ∈ b.references form,
      (go r.place).run.run l = (below r.place).map fun r => (r, l)) :
    (m.evalForm call b self go form).run.run l =
      (ending l (m.evalForm call b self (fun c => within (below c)) form)).map fun r => (r, l) := by
  have hpaired : (steady l).Rel (m.evalForm call b self go form)
      (m.evalForm call b self (fun c => within (below c)) form) := by
    refine Pairing.evalForm hform (fun d target values => ?_) fun r hr => ?_
    · have hcall : (calling call d target values : Evaluating Value).run.run l =
          (call d target values).map fun r => (r, l) :=
        Evaluating.run_calling call d target values l
      exact ⟨rfl, eq_of_run_eq_map hcall⟩
    · refine ⟨?_, eq_of_run_eq_map (hgo r hr)⟩
      rw [hgo r hr, run_within]
      rfl
  obtain ⟨hsame, hkeeps⟩ := hpaired
  rw [ending, ← hsame]
  cases hx : (m.evalForm call b self go form).run.run l with
  | error fault => rfl
  | ok result =>
    obtain ⟨r, l'⟩ := result
    cases hkeeps r l' hx
    rfl

/-- Where the parameters of handlers are apart, evaluation comes to the same whether it binds them
in the frame or hands the bindings down.  The induction is on the nodes that a path may still
visit. -/
theorem eval_eq_lexical (h : b.Apart e l) :
    (m.eval call b self fuel e).run.run l =
      (m.evalLexical call b self fuel e l.bindings).map fun r => (r, l) := by
  induction fuel generalizing e l with
  | zero => rfl
  | succ fuel ih =>
    cases hx : b.node? e with
    | none =>
      rw [eval_of_none hx, evalLexical_of_none hx]
      rfl
    | some x =>
      obtain ⟨form, type⟩ := x
      rw [eval_of_node hx]
      cases form with
      | param p =>
        rw [evalForm_param_run, evalLexical_of_param hx]
        rfl
      | attempt block handlers =>
        have hblock : (m.eval call b self fuel block).run.run l =
            (m.evalLexical call b self fuel block l.bindings).map fun r => (r, l) :=
          ih (h.reference hx (r := .plain block) List.mem_cons_self)
        rw [evalForm_attempt_run, evalLexical_of_attempt hx, hblock]
        cases m.evalLexical call b self fuel block l.bindings with
        | error fault => rfl
        | ok result =>
          change (m.taken b handlers result >>= _) = Except.map _ (m.taken b handlers result >>= _)
          cases htaken : m.taken b handlers result with
          | error fault => rfl
          | ok found =>
            obtain _ | ⟨handler, exception⟩ := found
            · rfl
            · -- the parameter was unbound, so unbinding it puts back what was there
              obtain ⟨hunbound, hapart⟩ := h.handling hx (mem_of_taken htaken) exception
              have hhandler := ih hapart
              rw [Locals.bindings_bind_of_unbound hunbound] at hhandler
              change ((m.eval call b self fuel handler.block).run.run _ >>= _) =
                Except.map _ (m.evalLexical call b self fuel handler.block _)
              rw [hhandler]
              cases m.evalLexical call b self fuel handler.block
                  ((handler.param.symbol, exception) :: l.bindings) with
              | error fault => rfl
              | ok result =>
                have hback := Locals.unbind_bind_of_unbound hunbound exception
                exact congrArg (fun l' => Except.ok (result, l')) hback
      | _ =>
        rw [evalLexical_of_form hx trivial]
        exact evalForm_eq_ending trivial fun r hr => ih (h.reference hx hr)

end Interpreter

end Companions
