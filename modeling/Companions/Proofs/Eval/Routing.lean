import Companions.Proofs.Eval.Arguments
import Companions.Proofs.Eval.Steps
import Mathlib.Data.List.Perm.Subperm
set_option autoImplicit false

/-!
# Routing

A call is made with values that its arguments name by symbol.  The interpreter looks up a value for
each parameter and compares two numbers afterwards.  Where no two parameters share a symbol, the two
together say that the arguments name each parameter once and nothing else
(`perm_of_named_of_length`), and so routing comes to one question (`Interpreter.route_eq`).
-/

namespace Companions

/-- A list that names all items of a list without repeats, and is no longer than it, names each of
them once and nothing else. -/
theorem perm_of_named_of_length {α : Type} {wanted named : List α} (hnodup : wanted.Nodup)
    (hnamed : ∀ a ∈ wanted, a ∈ named) (hlen : named.length = wanted.length) :
    named.Perm wanted :=
  ((hnodup.subperm hnamed).perm_of_length_le (Nat.le_of_eq hlen)).symm

theorem lookup_eq_none_iff_not_mem_keys {α β : Type} [BEq α] [LawfulBEq α]
    {pairs : List (α × β)} {k : α} : pairs.lookup k = none ↔ k ∉ pairs.map (·.1) := by
  constructor
  · intro h hk
    obtain ⟨pair, hpair, rfl⟩ := List.mem_map.1 hk
    exact bne_iff_ne.1 (List.lookup_eq_none_iff.1 h pair hpair) rfl
  · intro h
    refine List.lookup_eq_none_iff.2 fun pair hpair => bne_iff_ne.2 ?_
    rintro rfl
    exact h (List.mem_map_of_mem hpair)

/-- A key of a list is looked up to a value. -/
theorem exists_lookup_of_mem_keys {α β : Type} [BEq α] [LawfulBEq α] {pairs : List (α × β)} {k : α}
    (h : k ∈ pairs.map (·.1)) : ∃ v, pairs.lookup k = some v :=
  Option.ne_none_iff_exists'.1 fun hnone => lookup_eq_none_iff_not_mem_keys.1 hnone h

/-- What is among the images of a list is the image of an item at some position. -/
theorem exists_getElem?_of_mem_map {α β : Type} {f : α → β} {as : List α} {b : β}
    (h : b ∈ as.map f) : ∃ (i : Nat) (a : α), as[i]? = some a ∧ f a = b := by
  obtain ⟨a, ha, hb⟩ := List.mem_map.1 h
  obtain ⟨i, hi⟩ := List.mem_iff_getElem?.1 ha
  exact ⟨i, a, hi, hb⟩

/-- Two lists that match position by position match at each position of the first. -/
theorem exists_getElem?_of_forall₂ {α β : Type} {R : α → β → Prop} {as : List α} {bs : List β}
    (h : List.Forall₂ R as bs) {i : Nat} {a : α} (ha : as[i]? = some a) :
    ∃ b, bs[i]? = some b ∧ R a b := by
  induction h generalizing i with
  | nil => cases ha
  | cons hfirst _ ih =>
    cases i with
    | zero =>
      cases ha
      exact ⟨_, rfl, hfirst⟩
    | succ i => exact ih ha

namespace Interpreter

/-! ## Routing in one equation -/

/-- The first parameter that is not among the named ones. -/
def firstUnnamed (params : List Parameter) (named : List ParamSymbol) : Option Parameter :=
  params.find? (·.symbol ∉ named)

/-- Why arguments that name these symbols do not reach the parameters. -/
def misrouting (params : List Parameter) (named : List ParamSymbol) : EvalError :=
  match firstUnnamed params named with
  | some p => .missingArgument p.symbol
  | none => .argumentCount params.length named.length

/-- The values that the parameters are looked up to. -/
def chosen (params : List Parameter) (bound : List (ParamSymbol × Value)) : List Value :=
  params.filterMap fun p => bound.lookup p.symbol

variable {params : List Parameter} {bound : List (ParamSymbol × Value)}

theorem firstUnnamed_eq_none_iff {named : List ParamSymbol} :
    firstUnnamed params named = none ↔ ∀ s ∈ params.map (·.symbol), s ∈ named := by
  simp [firstUnnamed]

/-- Looking up stops at the first parameter that no argument names. -/
theorem pick_eq (params : List Parameter) (bound : List (ParamSymbol × Value)) :
    pick bound params =
      match firstUnnamed params (bound.map (·.1)) with
      | some p => .error (.missingArgument p.symbol)
      | none => .ok (chosen params bound) := by
  induction params with
  | nil => rfl
  | cons p rest ih =>
    by_cases hp : p.symbol ∈ bound.map (·.1)
    · obtain ⟨v, hv⟩ := exists_lookup_of_mem_keys hp
      have hfirst : firstUnnamed (p :: rest) (bound.map (·.1)) =
          firstUnnamed rest (bound.map (·.1)) :=
        List.find?_cons_of_neg (by simpa using hp)
      rw [pick, hv, hfirst, ih]
      cases firstUnnamed rest (bound.map (·.1)) with
      | some q => rfl
      | none => simp [chosen, hv, Except.map]
    · have hfirst : firstUnnamed (p :: rest) (bound.map (·.1)) = some p :=
        List.find?_cons_of_pos (by simpa using hp)
      rw [pick, lookup_eq_none_iff_not_mem_keys.2 hp, hfirst]

/-- Where all parameters are named, each is looked up to a value. -/
theorem forall₂_chosen (hnamed : ∀ s ∈ params.map (·.symbol), s ∈ bound.map (·.1)) :
    List.Forall₂ (fun p v => bound.lookup p.symbol = some v) params (chosen params bound) := by
  induction params with
  | nil => exact .nil
  | cons p rest ih =>
    obtain ⟨v, hv⟩ := exists_lookup_of_mem_keys (hnamed p.symbol (by simp))
    have hrest := ih fun s hs => hnamed s (List.mem_cons_of_mem _ hs)
    have hchosen : chosen (p :: rest) bound = v :: chosen rest bound := by
      simp [chosen, hv]
    exact hchosen ▸ .cons hv hrest

/-- Arguments reach the parameters exactly if they name each of them once and nothing else. -/
theorem route_eq (hnodup : (params.map (·.symbol)).Nodup) :
    route params bound =
      if (bound.map (·.1)).Perm (params.map (·.symbol)) then .ok (chosen params bound)
      else .error (misrouting params (bound.map (·.1))) := by
  rw [route, pick_eq, misrouting]
  cases hfirst : firstUnnamed params (bound.map (·.1)) with
  | some p =>
    have hunnamed : p.symbol ∉ bound.map (·.1) := by
      simpa using List.find?_some hfirst
    have hmem : p.symbol ∈ params.map (·.symbol) :=
      List.mem_map_of_mem (List.mem_of_find?_eq_some hfirst)
    rw [if_neg fun hperm => hunnamed (hperm.mem_iff.2 hmem)]
    rfl
  | none =>
    have hnamed := firstUnnamed_eq_none_iff.1 hfirst
    have hlen : (chosen params bound).length = params.length :=
      (forall₂_chosen hnamed).length_eq.symm
    -- All parameters are named; what is left is whether there are more arguments than that.
    have hiff : (bound.map (·.1)).Perm (params.map (·.symbol)) ↔ bound.length = params.length := by
      constructor
      · intro hperm
        simpa using hperm.length_eq
      · intro hcount
        exact perm_of_named_of_length hnodup hnamed (by simpa using hcount)
    simp only [hiff, bind, Except.bind, hlen, List.length_map]
    split <;> rfl

/-! ## The call of a node -/

/-- Evaluates the node at a place.  If the node makes a call, then the call ends as `other` says;
what is evaluated before makes its calls as usual. -/
def evalCalling (m : Interpreter)
    (other call : Declaration → Option Value → List Value → Outcome) (b : Body)
    (self : Option Value) (fuel : Nat) (e : ExprRef) : Evaluating Value := do
  m.evalForm other b self (m.eval call b self fuel) (← b.node e).form

/-- A place holds a call.  In the frame `l` its receiver, if it has one, and then its arguments, one
behind the other, are evaluated to values, which leaves the bindings `l'`. -/
inductive Prepares (m : Interpreter) (call : Declaration → Option Value → List Value → Outcome)
    (b : Body) (self : Option Value) (fuel : Nat) (e : ExprRef) (l : Locals)
    (callee : FunctionSymbol) (target : Option Value) (arguments : List Argument)
    (values : List Value) (l' : Locals) : Prop
  | intro {receiver : ExprRef} {span : Span .arguments} {type : TypeId} {between : Locals}
      (node : b.node? e = some ⟨.call callee receiver span, type⟩)
      (listed : b.readArguments span = .ok arguments)
      (received : (evalOptional (m.eval call b self fuel) receiver).run.run l =
        .ok (.ok target, between))
      (evaluated : ((arguments.map (·.value)).mapM (m.eval call b self fuel)).run.run between =
        .ok (.ok values, l'))

/-- The node calls the function with the values and ends as that call ends, whatever that is. -/
def Invokes (m : Interpreter) (call : Declaration → Option Value → List Value → Outcome)
    (b : Body) (self : Option Value) (fuel : Nat) (e : ExprRef) (l : Locals) (d : Declaration)
    (target : Option Value) (routed : List Value) (l' : Locals) : Prop :=
  ∀ other, (m.evalCalling other call b self fuel e).run.run l =
    (other d target routed).map fun r => (r, l')

/-- The node ends in the error, whatever calls end in. -/
def Refuses (m : Interpreter) (call : Declaration → Option Value → List Value → Outcome)
    (b : Body) (self : Option Value) (fuel : Nat) (e : ExprRef) (l : Locals) (error : EvalError)
    (l' : Locals) : Prop :=
  ∀ other, (m.evalCalling other call b self fuel e).run.run l = .ok (.error (.error error), l')

/-- The values of the arguments are those that the function is called with. -/
structure Delivers (params : List Parameter) (routed : List Value) (arguments : List Argument)
    (values : List Value) : Prop where
  complete : routed.length = params.length
  /-- The value of each argument is at the position of a parameter that the argument names. -/
  sent : ∀ (j : Nat) (a : Argument) (v : Value), arguments[j]? = some a → values[j]? = some v →
    ∃ (i : Nat) (p : Parameter), params[i]? = some p ∧ a.param = p.symbol ∧ routed[i]? = some v
  /-- Exactly one argument names the parameter at a position.  The value of that argument is at the
  position, and the function finds it under the parameter. -/
  received : ∀ (i : Nat) (p : Parameter), params[i]? = some p → ∃ (j : Nat) (v : Value),
    (∀ (k : Nat) (a : Argument), arguments[k]? = some a → (a.param = p.symbol ↔ k = j)) ∧
      values[j]? = some v ∧ routed[i]? = some v ∧
      (Locals.ofArguments params routed).get? p.symbol = some v

variable {m : Interpreter} {call : Declaration → Option Value → List Value → Outcome} {b : Body}
  {self : Option Value} {fuel : Nat} {e : ExprRef} {l l' : Locals} {callee : FunctionSymbol}
  {target : Option Value} {arguments : List Argument} {values routed : List Value}
  {d : Declaration}

/-- If the call ends as calls do, the node is evaluated as usual. -/
theorem evalCalling_self : m.evalCalling call call b self fuel e = m.eval call b self (fuel + 1) e :=
  rfl

/-- Once all is evaluated, the node does what a call with the values does. -/
theorem Prepares.run (h : m.Prepares call b self fuel e l callee target arguments values l')
    (other : Declaration → Option Value → List Value → Outcome) :
    (m.evalCalling other call b self fuel e).run.run l =
      (m.callBound other callee target ((arguments.map (·.param)).zip values)).run.run l' := by
  obtain @⟨receiver, span, type, between, hnode, hlisted, hreceived, hevaluated⟩ := h
  have hform : m.evalCalling other call b self fuel e =
      m.evalForm other b self (m.eval call b self fuel) (.call callee receiver span) := by
    rw [evalCalling, Body.node, hnode]
    rfl
  rw [hform, evalForm, Evaluating.run_bind_of_ok hreceived, hlisted, Evaluating.liftM_ok, pure_bind,
    mapM_arguments, bind_assoc, Evaluating.run_bind_of_ok hevaluated, pure_bind]

/-- There is a value for each argument. -/
theorem Prepares.length_values
    (h : m.Prepares call b self fuel e l callee target arguments values l') :
    arguments.length = values.length := by
  obtain ⟨-, -, -, hevaluated⟩ := h
  have hpaired : Evaluating.Gives (List.Forall₂ (fun _ _ => True) (arguments.map (·.value)))
      ((arguments.map (·.value)).mapM (m.eval call b self fuel)) :=
    .mapM fun e _ => .any (m.eval call b self fuel e)
  simpa using (hpaired _ _ _ hevaluated).length_eq

/-- The node calls the function if the arguments reach the parameters, and ends in an error
otherwise. -/
theorem Prepares.invokes (h : m.Prepares call b self fuel e l callee target arguments values l')
    (hd : m.declaration? callee = some d) (hnodup : (d.params.map (·.symbol)).Nodup)
    (hperm : (arguments.map (·.param)).Perm (d.params.map (·.symbol))) :
    m.Invokes call b self fuel e l d target
      (chosen d.params ((arguments.map (·.param)).zip values)) l' := by
  intro other
  have hkeys : ((arguments.map (·.param)).zip values).map (·.1) = arguments.map (·.param) :=
    List.map_fst_zip (by simp [h.length_values])
  rw [h.run other]
  exact callBound_run hd ((route_eq hnodup).trans (if_pos (hkeys.symm ▸ hperm)))

theorem Prepares.refuses (h : m.Prepares call b self fuel e l callee target arguments values l')
    (hd : m.declaration? callee = some d) (hnodup : (d.params.map (·.symbol)).Nodup)
    (hperm : ¬ (arguments.map (·.param)).Perm (d.params.map (·.symbol))) :
    m.Refuses call b self fuel e l (misrouting d.params (arguments.map (·.param))) l' := by
  intro other
  have hkeys : ((arguments.map (·.param)).zip values).map (·.1) = arguments.map (·.param) :=
    List.map_fst_zip (by simp [h.length_values])
  have hroute : route d.params ((arguments.map (·.param)).zip values) =
      .error (misrouting d.params (arguments.map (·.param))) := by
    rw [route_eq hnodup, hkeys, if_neg hperm]
  rw [h.run other, callBound, hd]
  dsimp only
  rw [hroute]
  rfl

/-- A node that calls a function with some values calls it with no others. -/
theorem Invokes.unique {routed' : List Value}
    (h : m.Invokes call b self fuel e l d target routed l')
    (h' : m.Invokes call b self fuel e l d target routed' l') : routed = routed' := by
  -- A call that ends in one way with these values, and in another with all others.
  let telling : Declaration → Option Value → List Value → Outcome :=
    fun _ _ values => .ok (.ok (.boolean (values = routed)))
  have heq := (h telling).symm.trans (h' telling)
  simpa [telling, Except.map, eq_comm] using heq

/-- A node that ends in an error, whatever calls end in, makes no call. -/
theorem Refuses.not_invokes {error : EvalError} {l₁ l₂ : Locals}
    (h : m.Refuses call b self fuel e l error l₁) :
    ¬ m.Invokes call b self fuel e l d target routed l₂ := by
  intro hinvokes
  have heq := (h fun _ _ _ => .ok (.ok .unit)).symm.trans (hinvokes fun _ _ _ => .ok (.ok .unit))
  cases heq

/-- Values that the parameters are looked up to are the values of the arguments. -/
theorem delivers_chosen {params : List Parameter} (hnodup : (params.map (·.symbol)).Nodup)
    (hperm : (arguments.map (·.param)).Perm (params.map (·.symbol)))
    (hlen : arguments.length = values.length) :
    Delivers params (chosen params ((arguments.map (·.param)).zip values)) arguments values := by
  have hkeys : ((arguments.map (·.param)).zip values).map (·.1) = arguments.map (·.param) :=
    List.map_fst_zip (by simp [hlen])
  have hdistinct : (arguments.map (·.param)).Nodup := hperm.nodup_iff.2 hnodup
  -- Each argument's value is found under the symbol that the argument names.
  have hlookup : ∀ (j : Nat) (a : Argument) (v : Value), arguments[j]? = some a →
      values[j]? = some v → ((arguments.map (·.param)).zip values).lookup a.param = some v := by
    intro j a v ha hv
    refine lookup_eq_some_of_mem (hkeys.symm ▸ hdistinct) (List.mem_of_getElem? (i := j) ?_)
    simp [List.getElem?_zip_eq_some, ha, hv]
  have hchosen : List.Forall₂
      (fun p v => ((arguments.map (·.param)).zip values).lookup p.symbol = some v) params
      (chosen params ((arguments.map (·.param)).zip values)) :=
    forall₂_chosen fun s hs => hkeys.symm ▸ hperm.mem_iff.2 hs
  have hframe := Locals.get?_ofArguments hnodup hchosen.length_eq
  refine ⟨hchosen.length_eq.symm, fun j a v ha hv => ?_, fun i p hp => ?_⟩
  · obtain ⟨i, p, hp, hsymbol⟩ := exists_getElem?_of_mem_map
      (hperm.mem_iff.1 (List.mem_map_of_mem (List.mem_of_getElem? ha)))
    obtain ⟨w, hw, hfound⟩ := exists_getElem?_of_forall₂ hchosen hp
    rw [hsymbol, hlookup j a v ha hv] at hfound
    cases hfound
    exact ⟨i, p, hp, hsymbol.symm, hw⟩
  · obtain ⟨j, a, ha, hsymbol⟩ := exists_getElem?_of_mem_map
      (hperm.mem_iff.2 (List.mem_map_of_mem (List.mem_of_getElem? hp)))
    have hwithin : j < arguments.length := (List.getElem?_eq_some_iff.1 ha).1
    obtain ⟨v, hv⟩ : ∃ v, values[j]? = some v := ⟨_, List.getElem?_eq_getElem (hlen ▸ hwithin)⟩
    obtain ⟨w, hw, hfound⟩ := exists_getElem?_of_forall₂ hchosen hp
    rw [← hsymbol, hlookup j a v ha hv] at hfound
    cases hfound
    obtain ⟨w, hw', hread⟩ := exists_getElem?_of_forall₂ hframe hp
    rw [hw] at hw'
    cases hw'
    refine ⟨j, v, fun k a' ha' => ⟨fun hsame => ?_, ?_⟩, hv, hw, hread⟩
    · have hrepeat : (arguments.map (·.param))[j]? = (arguments.map (·.param))[k]? := by
        rw [List.getElem?_map, List.getElem?_map, ha, ha', Option.map_some, Option.map_some,
          hsymbol, hsame]
      exact ((List.getElem?_inj (by simpa using hwithin) hdistinct).1 hrepeat).symm
    · rintro rfl
      rw [ha] at ha'
      cases ha'
      exact hsymbol

/-- The node of a call is run once its receiver and its arguments have values and its callee is
known, with parameters of different symbols.  It calls the callee exactly if its arguments name each
parameter once and nothing else.  Then each value arrives at the parameter that its argument names,
whatever the order of the arguments, and the node ends as the call does.  Otherwise it ends in an
error: the first parameter without an argument is missing one, or the two numbers differ. -/
theorem invokes_iff_perm
    (h : m.Prepares call b self fuel e l callee target arguments values l')
    (hd : m.declaration? callee = some d) (hnodup : (d.params.map (·.symbol)).Nodup) :
    ((∃ routed, m.Invokes call b self fuel e l d target routed l') ↔
      (arguments.map (·.param)).Perm (d.params.map (·.symbol))) ∧
    (∀ routed, m.Invokes call b self fuel e l d target routed l' →
      Delivers d.params routed arguments values ∧
        (m.eval call b self (fuel + 1) e).run.run l =
          (call d target routed).map fun r => (r, l')) ∧
    (¬ (arguments.map (·.param)).Perm (d.params.map (·.symbol)) →
      m.Refuses call b self fuel e l (misrouting d.params (arguments.map (·.param))) l' ∧
        (m.eval call b self (fuel + 1) e).run.run l =
          .ok (.error (.error (misrouting d.params (arguments.map (·.param)))), l')) := by
  have hiff : (∃ routed, m.Invokes call b self fuel e l d target routed l') ↔
      (arguments.map (·.param)).Perm (d.params.map (·.symbol)) := by
    refine ⟨fun ⟨routed, hinvokes⟩ => ?_, fun hperm => ⟨_, h.invokes hd hnodup hperm⟩⟩
    by_contra hperm
    exact (h.refuses hd hnodup hperm).not_invokes hinvokes
  rw [← evalCalling_self]
  refine ⟨hiff, fun routed hinvokes => ⟨?_, hinvokes call⟩, fun hperm => ?_⟩
  · have hperm := hiff.1 ⟨routed, hinvokes⟩
    rw [hinvokes.unique (h.invokes hd hnodup hperm)]
    exact delivers_chosen hnodup hperm h.length_values
  · have hrefuses := h.refuses hd hnodup hperm
    exact ⟨hrefuses, hrefuses call⟩

end Interpreter

/-! ## Two arguments -/

namespace Sample

/-- Takes two integers. -/
def pairing : Declaration where
  symbol := ⟨1⟩
  id := .topLevel .empty .empty
  params := [⟨5⟩, ⟨6⟩].map fun s => ⟨s, .empty, .int, .none, .source⟩
  returnType := .int
  status := ⟨.everyone, .ofBits 0⟩
  provenance := .source
  phase := .body
  annotations := []
  body := none

/-- Calls the function with the integers 1 and 2 for two parameters. -/
def pairingBody (first second : ParamSymbol) : Body where
  nodes := #[⟨.const (.int 1), .int⟩, ⟨.const (.int 2), .int⟩, ⟨.call ⟨1⟩ none ⟨0, 2⟩, .int⟩]
  statements := #[]
  arguments := #[⟨some ⟨0⟩, first⟩, ⟨some ⟨1⟩, second⟩]
  handlers := #[]
  labels := #[]
  root := some ⟨2⟩

/-- Runs the function of two parameters. -/
def pairs : Interpreter := ⟨.empty, [pairing]⟩

theorem prepares_pairing (first second : ParamSymbol) :
    pairs.Prepares (pairs.invoke 0) (pairingBody first second) none 1 (some ⟨2⟩) .empty ⟨1⟩ none
      [⟨some ⟨0⟩, first⟩, ⟨some ⟨1⟩, second⟩] [.int 1, .int 2] .empty :=
  .intro rfl rfl rfl rfl

end Sample

open Sample in
/-- Arguments in the wrong order arrive where they are meant; a parameter named twice leaves another
without an argument. -/
theorem Interpreter.invokes_iff_perm_pairing :
    (pairs.Prepares (pairs.invoke 0) (pairingBody ⟨6⟩ ⟨5⟩) none 1 (some ⟨2⟩) .empty ⟨1⟩ none
        [⟨some ⟨0⟩, ⟨6⟩⟩, ⟨some ⟨1⟩, ⟨5⟩⟩] [.int 1, .int 2] .empty ∧
      pairs.declaration? ⟨1⟩ = some pairing ∧ (pairing.params.map (·.symbol)).Nodup) ∧
    (∃ routed, pairs.Invokes (pairs.invoke 0) (pairingBody ⟨6⟩ ⟨5⟩) none 1 (some ⟨2⟩) .empty pairing
        none routed .empty ∧
      Delivers pairing.params routed [⟨some ⟨0⟩, ⟨6⟩⟩, ⟨some ⟨1⟩, ⟨5⟩⟩] [.int 1, .int 2]) ∧
    pairs.Refuses (pairs.invoke 0) (pairingBody ⟨5⟩ ⟨5⟩) none 1 (some ⟨2⟩) .empty
      (.missingArgument ⟨6⟩) .empty := by
  have hdistinct : (pairing.params.map (·.symbol)).Nodup := by decide
  have hswapped := invokes_iff_perm (prepares_pairing ⟨6⟩ ⟨5⟩) (d := pairing) rfl hdistinct
  have htwice := invokes_iff_perm (prepares_pairing ⟨5⟩ ⟨5⟩) (d := pairing) rfl hdistinct
  obtain ⟨routed, hinvokes⟩ := hswapped.1.2 (by decide)
  exact ⟨⟨prepares_pairing _ _, rfl, hdistinct⟩, ⟨routed, hinvokes, (hswapped.2.1 _ hinvokes).1⟩,
    (htwice.2.2 (by decide)).1⟩

end Companions
