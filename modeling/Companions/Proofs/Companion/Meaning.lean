import Companions.Proofs.Companion.Forwarding
import Companions.Proofs.Eval.Arguments
import Companions.Proofs.Eval.Throwing
import Mathlib.Tactic.IntervalCases
set_option autoImplicit false

/-!
# What the bodies that forward come to

Evaluating the nodes of the call is calling the function with the values that the parameters hold
(`eval_callPlace`).  What the nodes behind it do depends on nothing but how the call ends (`Turns`):
`fOrNull` answers null where the call throws (`rescued`), and `fOrThrow` throws where the call
answers null (`insisted`).  A fault of the call ends the companion as well.
-/

namespace Companions

namespace Forwarding

open Interpreter

variable {m : Interpreter} {call : Declaration → Option Value → List Value → Outcome} {b : Body}
  {self : Option Value} {fuel : Nat} {l : Locals} {f : Declaration} {params : List Parameter}
  {selfType : TypeId} {values : List Value} {r : Except Unwind Value}

/-! ## The call -/

theorem eval_reader {i : Nat} {p : Parameter} {v : Value} (hcall : HoldsCall b f params selfType)
    (hp : params[i]? = some p) (hv : l.get? p.symbol = some v) :
    (m.eval call b self (fuel + 1) (some ⟨readersStart f + i⟩)).run.run l = .ok (.ok v, l) := by
  have hget : (get : Evaluating Locals).run.run l = .ok (.ok l, l) := rfl
  rw [eval_of_node (hcall.readers i p hp), reader, evalForm, Evaluating.run_bind_of_ok hget, hv]
  rfl

/-- If the places from `n` on end in the values, the arguments bind the values in order. -/
theorem forall₂_argumentsFrom {ev : ExprRef → Evaluating Value} {n : Nat}
    {declared : List Parameter} (hlen : declared.length = values.length)
    (h : ∀ i v, values[i]? = some v → (ev (some ⟨n + i⟩)).run.run l = .ok (.ok v, l)) :
    List.Forall₂ (fun a r => (do return (a.param, ← ev a.value) : Evaluating _).run.run l =
      .ok (.ok r, l)) (argumentsFrom n declared) (boundTo declared values) := by
  induction declared generalizing n values with
  | nil => exact .nil
  | cons p rest ih =>
    cases values with
    | nil => simp at hlen
    | cons v values =>
      refine .cons ?_ (ih (Nat.succ.inj hlen) fun i w hw => ?_)
      · exact Evaluating.run_bind_of_ok (h 0 v rfl)
      · have hnext := h (i + 1) w hw
        rwa [← Nat.add_assoc, Nat.add_right_comm] at hnext

/-- The receiver that the call passes on. -/
def receiverOf (f : Declaration) (self : Option Value) : Option Value := f.owner.bind fun _ => self

theorem evalOptional_receiverPlace (hcall : HoldsCall b f params selfType)
    (hself : f.owner ≠ none → self ≠ none) :
    (evalOptional (m.eval call b self (fuel + 1)) (receiverPlace f)).run.run l =
      .ok (.ok (receiverOf f self), l) := by
  cases howner : f.owner with
  | none =>
    simp only [receiverPlace, receiverOf, howner, Option.map_none, Option.bind_none, evalOptional]
    rfl
  | some owner =>
    obtain ⟨v, rfl⟩ := Option.ne_none_iff_exists'.1 (hself (by simp [howner]))
    simp only [receiverPlace, receiverOf, howner, Option.map_some, Option.bind_some, evalOptional]
    rw [eval_of_node (hcall.receiver owner howner)]
    rfl

/-- The node of the call calls the function with the values that the parameters hold, on the
receiver of the companion if the function is a member. -/
theorem eval_callPlace (hcopies : params.length = f.params.length)
    (hcall : HoldsCall b f params selfType) (hf : m.declaration? f.symbol = some f)
    (hnodup : (f.params.map (·.symbol)).Nodup)
    (hvalues : List.Forall₂ (fun p v => l.get? p.symbol = some v) params values)
    (hself : f.owner ≠ none → self ≠ none) :
    (m.eval call b self (fuel + 2) (some ⟨callPlace f⟩)).run.run l =
      (call f (receiverOf f self) values).map fun r => (r, l) := by
  have hlen : f.params.length = values.length := hcopies ▸ hvalues.length_eq
  have hreaders : ∀ i v, values[i]? = some v →
      (m.eval call b self (fuel + 1) (some ⟨readersStart f + i⟩)).run.run l = .ok (.ok v, l) := by
    intro i v hv
    obtain ⟨hlt, rfl⟩ := List.getElem?_eq_some_iff.1 hv
    have hlt' : i < params.length := hvalues.length_eq ▸ hlt
    exact eval_reader hcall (List.getElem?_eq_getElem hlt') (hvalues.get hlt' hlt)
  rw [eval_of_node hcall.call, evalForm,
    Evaluating.run_bind_of_ok (evalOptional_receiverPlace hcall hself), hcall.readArguments,
    Evaluating.liftM_ok, pure_bind,
    Evaluating.run_bind_of_ok (Evaluating.run_mapM_of_ok (forall₂_argumentsFrom hlen hreaders)),
    callBound_run hf (route_boundTo hnodup hlen)]

/-- A member cannot be called without a receiver. -/
theorem eval_callPlace_of_no_receiver (hcall : HoldsCall b f params selfType)
    (howner : f.owner ≠ none) :
    (m.eval call b none (fuel + 2) (some ⟨callPlace f⟩)).run.run l =
      .ok (.error (.error .noReceiver), l) := by
  obtain ⟨owner, howner⟩ := Option.ne_none_iff_exists'.1 howner
  have hself : (evalOptional (m.eval call b none (fuel + 1)) (receiverPlace f)).run.run l =
      .ok (.error (.error .noReceiver), l) := by
    simp only [receiverPlace, howner, Option.map_some, evalOptional]
    rw [eval_of_node (hcall.receiver owner howner)]
    rfl
  rw [eval_of_node hcall.call, evalForm, Evaluating.run_bind_of_unwind hself]

/-! ## The answer of `fOrNull` -/

/-- Null instead of an exception. -/
def rescued : Except Unwind Value → Except Unwind Value
  | .error (.thrown _) => .ok .null
  | r => r

/-- What is left without exceptions are errors. -/
theorem leaves_of_rescued (hr : ∀ u, r = .error u → m.Leaves u) :
    ∀ u, rescued r = .error u → m.Leaves u := by
  intro u hu
  cases r with
  | ok v => cases hu
  | error u' =>
    cases u' with
    | thrown exception => cases hu
    | ret target v => exact hr u hu
    | error e => exact hr u hu

variable {builtins : Builtins} {handler : Parameter} {label : Label}

/-- The body returns what the call ends in, with null instead of an exception. -/
theorem eval_orNullBody (hcopies : params.length = f.params.length)
    (hhandler : m.program.pools.types.get? handler.type =
      some ⟨.object m.program.builtins.throwableClass, .notNull⟩)
    (hresult : (m.eval call (orNullBody builtins f params selfType handler label) self (fuel + 2)
      (some ⟨callPlace f⟩)).run.run l = .ok (r, l)) (hleaves : ∀ u, r = .error u → m.Leaves u) :
    ∃ l', (m.eval call (orNullBody builtins f params selfType handler label) self (fuel + 6)
      (some ⟨callPlace f + 7⟩)).run.run l = .ok (returning ⟨0⟩ (rescued r), l') := by
  have hnode := node?_behind_call (b := orNullBody builtins f params selfType handler label)
    hcopies rfl
  have htry : (orNullBody builtins f params selfType handler label).readStatements ⟨0, 1⟩ =
      .ok [some ⟨callPlace f + 1⟩] := rfl
  have hcatch : (orNullBody builtins f params selfType handler label).readStatements ⟨1, 1⟩ =
      .ok [some ⟨callPlace f + 4⟩] := rfl
  have hwhole : (orNullBody builtins f params selfType handler label).readStatements ⟨2, 1⟩ =
      .ok [some ⟨callPlace f + 6⟩] := rfl
  have hhandlers : (orNullBody builtins f params selfType handler label).readHandlers ⟨0, 1⟩ =
      .ok [⟨handler, some ⟨callPlace f + 5⟩⟩] := rfl
  have htried : (m.eval call (orNullBody builtins f params selfType handler label) self (fuel + 4)
      (some ⟨callPlace f + 2⟩)).run.run l = .ok (returning ⟨0⟩ r, l) := by
    rw [eval_block_singleton (hnode 1) htry]
    exact eval_ret_run (hnode 0) hresult
  -- the handler returns null, whatever the bindings are
  have hhandling : ∀ l, (m.eval call (orNullBody builtins f params selfType handler label) self
      (fuel + 4) (some ⟨callPlace f + 5⟩)).run.run l = .ok (.error (.ret ⟨0⟩ .null), l) := by
    intro l
    rw [eval_block_singleton (hnode 4) hcatch]
    refine eval_ret_run (r := .ok .null) (hnode 3) ?_
    rw [eval_of_node (hnode 2)]
    rfl
  rw [eval_block_singleton (hnode 6) hwhole, eval_of_node (hnode 5), evalForm,
    Evaluating.run_bind_of_ok (Evaluating.run_outcome_of_ok htried)]
  cases r with
  | ok v => exact ⟨l, rfl⟩
  | error u =>
    cases u with
    | error e => exact ⟨l, rfl⟩
    | ret label v => exact (hleaves _ rfl).elim
    | thrown exception =>
      have hfound := handlerFor_throwable (h := ⟨handler, some ⟨callPlace f + 5⟩⟩) hhandler
        (hleaves _ rfl)
      simp only [returning, hhandlers, Evaluating.liftM_ok, pure_bind, hfound]
      exact ⟨_, handle_run (hhandling _)⟩

/-- A fault of the call is a fault of the body. -/
theorem eval_orNullBody_of_fault (hcopies : params.length = f.params.length) {fault : Fault}
    (hresult : (m.eval call (orNullBody builtins f params selfType handler label) self (fuel + 2)
      (some ⟨callPlace f⟩)).run.run l = .error fault) :
    (m.eval call (orNullBody builtins f params selfType handler label) self (fuel + 6)
      (some ⟨callPlace f + 7⟩)).run.run l = .error fault := by
  have hnode := node?_behind_call (b := orNullBody builtins f params selfType handler label)
    hcopies rfl
  have htry : (orNullBody builtins f params selfType handler label).readStatements ⟨0, 1⟩ =
      .ok [some ⟨callPlace f + 1⟩] := rfl
  have hwhole : (orNullBody builtins f params selfType handler label).readStatements ⟨2, 1⟩ =
      .ok [some ⟨callPlace f + 6⟩] := rfl
  have htried : (m.eval call (orNullBody builtins f params selfType handler label) self (fuel + 4)
      (some ⟨callPlace f + 2⟩)).run.run l = .error fault := by
    rw [eval_block_singleton (hnode 1) htry]
    exact eval_ret_run_of_fault (hnode 0) hresult
  rw [eval_block_singleton (hnode 6) hwhole, eval_of_node (hnode 5), evalForm,
    Evaluating.run_bind_of_fault (Evaluating.run_outcome_of_fault htried)]

/-! ## The answer of `fOrThrow` -/

/-- Throwing an object of the class, where that can be done. -/
def throwing (m : Interpreter) (errorClass : ClassId) : Outcome :=
  if m.isThrowable (.object errorClass) then .ok (.error (.thrown (.object errorClass)))
  else m.failing (.notThrowable (.object errorClass))

/-- An exception of the class instead of null. -/
def insisted (m : Interpreter) (errorClass : ClassId) : Except Unwind Value → Outcome
  | .ok .null => throwing m errorClass
  | r => .ok r

theorem leaves_of_throwing {errorClass : ClassId} {u : Unwind}
    (h : throwing m errorClass = .ok (.error u)) : m.Leaves u := by
  unfold throwing at h
  split at h
  · next hthrowable =>
    cases h
    exact hthrowable
  · cases eq_error_of_failing h
    exact trivial

theorem leaves_of_insisted {errorClass : ClassId} (hr : ∀ u, r = .error u → m.Leaves u) :
    ∀ u, insisted m errorClass r = .ok (.error u) → m.Leaves u := by
  intro u hu
  cases r with
  | error u' => exact hr u (Except.ok.inj hu)
  | ok v =>
    cases v with
    | null => exact leaves_of_throwing hu
    | _ => cases hu

theorem insisted_of_ne_null {errorClass : ClassId} {v : Value} (h : v ≠ .null) :
    insisted m errorClass (.ok v) = .ok (.ok v) := by
  cases v with
  | null => exact absurd rfl h
  | _ => rfl

variable {constr : ConstructorSymbol} {k : Constructor} {errorType notNull : TypeId}

/-- The body returns what the call ends in, but throws an object of the class instead of null. -/
theorem eval_orThrowBody (hcopies : params.length = f.params.length)
    (hconstr : m.program.constructor? constr = some k)
    (hresult : (m.eval call (orThrowBody builtins constr f params selfType errorType notNull label)
      self (fuel + 2) (some ⟨callPlace f⟩)).run.run l = .ok (r, l)) :
    (m.eval call (orThrowBody builtins constr f params selfType errorType notNull label) self
      (fuel + 5) (some ⟨callPlace f + 5⟩)).run.run l =
        (insisted m k.type r).map fun r' => (returning ⟨0⟩ r', l) := by
  have hnode := node?_behind_call
    (b := orThrowBody builtins constr f params selfType errorType notNull label) hcopies rfl
  have hwhole : (orThrowBody builtins constr f params selfType errorType notNull
      label).readStatements ⟨0, 1⟩ = .ok [some ⟨callPlace f + 4⟩] := rfl
  have hno : (orThrowBody builtins constr f params selfType errorType notNull
      label).readArguments ⟨0, 0⟩ = .ok [] := by
    simp [Body.readArguments, Body.read]
  have hnew : (m.eval call (orThrowBody builtins constr f params selfType errorType notNull label)
      self (fuel + 1) (some ⟨callPlace f + 1⟩)).run.run l = .ok (.ok (.object k.type), l) :=
    eval_new_run (hnode 0) hno hconstr
  have hraise : (m.eval call (orThrowBody builtins constr f params selfType errorType notNull label)
      self (fuel + 2) (some ⟨callPlace f + 2⟩)).run.run l =
        (throwing m k.type).map fun r' => (r', l) := by
    rw [eval_of_node (hnode 1), evalForm, Evaluating.run_bind_of_ok hnew, throwing]
    split
    · rfl
    · exact stop_run_eq
  have helvis : (m.eval call (orThrowBody builtins constr f params selfType errorType notNull label)
      self (fuel + 3) (some ⟨callPlace f + 3⟩)).run.run l =
        (insisted m k.type r).map fun r' => (r', l) := by
    rw [eval_of_node (hnode 2), evalForm]
    cases r with
    | error u => exact Evaluating.run_bind_of_unwind hresult
    | ok v =>
      rw [Evaluating.run_bind_of_ok hresult]
      cases v with
      | null => exact hraise
      | _ => rfl
  rw [eval_block_singleton (hnode 4) hwhole]
  cases hinsisted : insisted m k.type r with
  | error fault =>
    rw [hinsisted] at helvis
    exact eval_ret_run_of_fault (hnode 3) helvis
  | ok r' =>
    rw [hinsisted] at helvis
    exact eval_ret_run (hnode 3) helvis

/-- A fault of the call is a fault of the body. -/
theorem eval_orThrowBody_of_fault (hcopies : params.length = f.params.length) {fault : Fault}
    (hresult : (m.eval call (orThrowBody builtins constr f params selfType errorType notNull label)
      self (fuel + 2) (some ⟨callPlace f⟩)).run.run l = .error fault) :
    (m.eval call (orThrowBody builtins constr f params selfType errorType notNull label) self
      (fuel + 5) (some ⟨callPlace f + 5⟩)).run.run l = .error fault := by
  have hnode := node?_behind_call
    (b := orThrowBody builtins constr f params selfType errorType notNull label) hcopies rfl
  have hwhole : (orThrowBody builtins constr f params selfType errorType notNull
      label).readStatements ⟨0, 1⟩ = .ok [some ⟨callPlace f + 4⟩] := rfl
  rw [eval_block_singleton (hnode 4) hwhole]
  refine eval_ret_run_of_fault (hnode 3) ?_
  rw [eval_of_node (hnode 2), evalForm]
  exact Evaluating.run_bind_of_fault hresult

/-! ## Calls of the companion -/

/-- The body returns what `g` makes of the end of the call. -/
structure Turns (m : Interpreter) (b : Body) (f : Declaration)
    (g : Except Unwind Value → Outcome) : Prop where
  leaves : ∀ r, (∀ u, r = .error u → m.Leaves u) → ∀ u, g r = .ok (.error u) → m.Leaves u
  eval : ∀ (call : Declaration → Option Value → List Value → Outcome) self l r fuel,
    (∀ u, r = .error u → m.Leaves u) →
    (∀ fuel, (m.eval call b self (fuel + 2) (some ⟨callPlace f⟩)).run.run l = .ok (r, l)) →
      b.size + 1 ≤ fuel →
        ∃ l', (m.eval call b self fuel b.root).run.run l =
          (g r).map fun r' => (returning ⟨0⟩ r', l')
  faults : ∀ (call : Declaration → Option Value → List Value → Outcome) self l fault fuel,
    (∀ fuel, (m.eval call b self (fuel + 2) (some ⟨callPlace f⟩)).run.run l = .error fault) →
      b.size + 1 ≤ fuel → (m.eval call b self fuel b.root).run.run l = .error fault

theorem turns_orNullBody (hcopies : params.length = f.params.length)
    (hhandler : m.program.pools.types.get? handler.type =
      some ⟨.object m.program.builtins.throwableClass, .notNull⟩) :
    Turns m (orNullBody builtins f params selfType handler label) f (fun r => .ok (rescued r)) where
  leaves _ hr u hu := leaves_of_rescued hr u (Except.ok.inj hu)
  eval call self l r fuel hr hresult hfuel := by
    rw [size_orNullBody hcopies] at hfuel
    have hle : 6 ≤ fuel := by omega
    obtain ⟨n, rfl⟩ := Nat.exists_eq_add_of_le' hle
    exact eval_orNullBody hcopies hhandler (hresult n) hr
  faults call self l fault fuel hresult hfuel := by
    rw [size_orNullBody hcopies] at hfuel
    have hle : 6 ≤ fuel := by omega
    obtain ⟨n, rfl⟩ := Nat.exists_eq_add_of_le' hle
    exact eval_orNullBody_of_fault hcopies (hresult n)

theorem turns_orThrowBody (hcopies : params.length = f.params.length)
    (hconstr : m.program.constructor? constr = some k) :
    Turns m (orThrowBody builtins constr f params selfType errorType notNull label) f
      (insisted m k.type) where
  leaves _ := leaves_of_insisted
  eval call self l r fuel hr hresult hfuel := by
    rw [size_orThrowBody hcopies] at hfuel
    have hle : 5 ≤ fuel := by omega
    obtain ⟨n, rfl⟩ := Nat.exists_eq_add_of_le' hle
    exact ⟨l, eval_orThrowBody hcopies hconstr (hresult n)⟩
  faults call self l fault fuel hresult hfuel := by
    rw [size_orThrowBody hcopies] at hfuel
    have hle : 5 ≤ fuel := by omega
    obtain ⟨n, rfl⟩ := Nat.exists_eq_add_of_le' hle
    exact eval_orThrowBody_of_fault hcopies (hresult n)

/-- A return to a label of the function arrives. -/
theorem land_returning {d : Declaration} {name : Name}
    (hlabel : b.label? ⟨0⟩ = some ⟨name, some d.symbol⟩) (hr : ∀ u, r = .error u → m.Leaves u) :
    land d b (returning ⟨0⟩ r) = r := by
  cases r with
  | ok v => simp [returning, land, hlabel]
  | error u =>
    cases u with
    | ret target v => exact (hr _ rfl).elim
    | thrown exception => rfl
    | error e => rfl

/-- The declaration forwards to `f` and answers what `g` makes of how `f` ends. -/
structure ForwardsBy (m : Interpreter) (d f : Declaration) (b : Body)
    (g : Except Unwind Value → Outcome) : Prop where
  body : d.body = some b
  root : b.contains b.root = true
  label : ∃ name, b.label? ⟨0⟩ = some ⟨name, some d.symbol⟩
  call : ∃ selfType, HoldsCall b f d.params selfType
  copies : d.params.length = f.params.length
  own : (d.params.map (·.symbol)).Nodup
  declared : (f.params.map (·.symbol)).Nodup
  callee : m.declaration? f.symbol = some f
  turns : Turns m b f g

variable {d : Declaration} {g : Except Unwind Value → Outcome} {room : Nat}

/-- However the call of `f` ends, the body turns it into the answer. -/
theorem ForwardsBy.invoke_eq (h : ForwardsBy m d f b g) (hr : ∀ u, r = .error u → m.Leaves u)
    (hresult : ∀ fuel, (m.eval (m.invoke room) b self (fuel + 2) (some ⟨callPlace f⟩)).run.run
      (Locals.ofArguments d.params values) = .ok (r, Locals.ofArguments d.params values)) :
    m.invoke (room + 1) d self values = g r := by
  obtain ⟨name, hlabel⟩ := h.label
  obtain ⟨l', hrun⟩ := h.turns.eval _ _ _ _ (m.budget b) hr hresult (size_lt_budget m b)
  rw [invoke_succ h.body h.root, hrun]
  cases hg : g r with
  | error fault => rfl
  | ok r' =>
    have hleaves : ∀ u, r' = .error u → m.Leaves u :=
      fun u hu => h.turns.leaves r hr u (hu ▸ hg)
    exact congrArg Except.ok (land_returning hlabel hleaves)

/-- The call of a companion comes to a call of the function, one level deeper. -/
theorem ForwardsBy.invoke (h : ForwardsBy m d f b g) (hargs : values.length = f.params.length)
    (hself : f.owner ≠ none → self ≠ none) (room : Nat) :
    m.invoke (room + 1) d self values = m.invoke room f (receiverOf f self) values >>= g := by
  obtain ⟨selfType, hcall⟩ := h.call
  have hvalues := Locals.get?_ofArguments h.own (h.copies.trans hargs.symm)
  have hresult : ∀ fuel, (m.eval (m.invoke room) b self (fuel + 2)
      (some ⟨callPlace f⟩)).run.run (Locals.ofArguments d.params values) =
        (m.invoke room f (receiverOf f self) values).map fun r =>
          (r, Locals.ofArguments d.params values) :=
    fun fuel => eval_callPlace h.copies hcall h.callee h.declared hvalues hself
  cases hr : m.invoke room f (receiverOf f self) values with
  | error fault =>
    rw [hr] at hresult
    rw [invoke_succ h.body h.root,
      h.turns.faults _ _ _ fault (m.budget b) hresult (size_lt_budget m b)]
    rfl
  | ok r =>
    rw [hr] at hresult
    exact h.invoke_eq (leaves_of_invoke_eq_ok hr) hresult

/-- A companion of a member needs a receiver. -/
theorem ForwardsBy.invoke_of_no_receiver (h : ForwardsBy m d f b g) (howner : f.owner ≠ none)
    (room : Nat) :
    m.invoke (room + 1) d none values = g (.error (.error .noReceiver)) := by
  obtain ⟨selfType, hcall⟩ := h.call
  refine h.invoke_eq (fun u hu => ?_) fun fuel => eval_callPlace_of_no_receiver hcall howner
  cases hu
  exact trivial

/-! ## Nothing is missing -/

/-- The nodes of the call refer to nodes before them, and all nodes do if those behind the call
do. -/
theorem refersBack_of_nodes (hcopies : params.length = f.params.length) {more : List Expr}
    (hnodes : b.nodes = (callNodes f params selfType ++ more).toArray)
    (harguments : b.arguments = (argumentsFrom (readersStart f) f.params).toArray)
    (hmore : ∀ j x, more[j]? = some x → b.RefersBack (callPlace f + 1 + j) x) (i : Nat) (x : Expr)
    (hx : b.nodes[i]? = some x) : b.RefersBack i x := by
  have hcall : HoldsCall b f params selfType := holdsCall_of_nodes hcopies hnodes harguments
  have hx' : b.node? (some ⟨i⟩) = some x := hx
  rcases Nat.lt_trichotomy i (callPlace f) with hlt | rfl | hgt
  · rcases Nat.lt_or_ge i (readersStart f) with hself | hreader
    · -- the receiver
      cases howner : f.owner with
      | none => simp [readersStart, howner] at hself
      | some owner =>
        obtain rfl : i = 0 := by simpa [readersStart, howner] using hself
        rw [hcall.receiver owner howner] at hx'
        cases hx'
        simp [Body.RefersBack, Body.FormFits, Body.references]
    · -- a reader
      obtain ⟨j, rfl⟩ := Nat.exists_eq_add_of_le hreader
      have hj : j < params.length := hcopies ▸ Nat.lt_of_add_lt_add_left hlt
      rw [hcall.readers j _ (List.getElem?_eq_getElem hj)] at hx'
      cases hx'
      simp [reader, Body.RefersBack, Body.FormFits, Body.references]
  · rw [hcall.call] at hx'
    cases hx'
    refine ⟨by simp [Body.FormFits, Body.Fits, harguments], fun r hr => ?_⟩
    rcases List.mem_append.1 hr with hr | hr
    · cases howner : f.owner with
      | none => simp [receiverPlace, howner] at hr
      | some owner =>
        obtain rfl : r = .plain (some ⟨0⟩) := by simpa [receiverPlace, howner] using hr
        exact ⟨⟨0⟩, rfl, by simp [callPlace, readersStart, howner]⟩
    · rw [Body.items_of_read hcall.readArguments] at hr
      obtain ⟨a, ha, rfl⟩ := List.mem_map.1 hr
      obtain ⟨j, declared, hj, rfl⟩ := mem_argumentsFrom ha
      obtain ⟨hlt, -⟩ := List.getElem?_eq_some_iff.1 hj
      exact ⟨_, rfl, Nat.add_lt_add_left hlt _⟩
  · obtain ⟨j, rfl⟩ := Nat.exists_eq_add_of_le hgt
    rw [Nat.succ_eq_add_one, node?_behind_call hcopies hnodes] at hx'
    exact hmore j x hx'

theorem runnable_orNullBody {types : TypePool} (hcopies : params.length = f.params.length)
    (hhandler : types.contains handler.type = true) :
    (orNullBody builtins f params selfType handler label).Runnable types := by
  refine Body.runnable_of_refersBack (refersBack_of_nodes hcopies rfl rfl fun j x hx => ?_) ?_
  · obtain ⟨hlt, rfl⟩ := List.getElem?_eq_some_iff.1 hx
    have hlt : j < 7 := hlt
    interval_cases j <;>
      simp [orNullNodes, orNullBody, Body.RefersBack, Body.FormFits, Body.Fits, Body.references,
        Body.items]
  · intro h hh
    obtain rfl : h = ⟨handler, some ⟨callPlace f + 5⟩⟩ := by simpa [orNullBody] using hh
    exact hhandler

theorem runnable_orThrowBody {types : TypePool} (hcopies : params.length = f.params.length) :
    (orThrowBody builtins constr f params selfType errorType notNull label).Runnable types := by
  refine Body.runnable_of_refersBack (refersBack_of_nodes hcopies rfl rfl fun j x hx => ?_) ?_
  · obtain ⟨hlt, rfl⟩ := List.getElem?_eq_some_iff.1 hx
    have hlt : j < 5 := hlt
    interval_cases j <;>
      simp [orThrowNodes, orThrowBody, Body.RefersBack, Body.FormFits, Body.Fits, Body.references,
        Body.items]
    -- the elvis refers to the call
    omega
  · intro h hh
    simp [orThrowBody] at hh

end Forwarding

end Companions
