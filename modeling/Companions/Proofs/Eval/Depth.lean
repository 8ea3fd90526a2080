import Companions.Eval.Depth
import Companions.Proofs.Eval.Linkage
import Companions.Proofs.Eval.Overflow
set_option autoImplicit false

/-!
# The depth of calls

The counter of an interpreter shows how many calls are active, whatever is run and however parts of
it end: what a call counts, it takes back.  So a call from outside is answered as if it were the
first (`Interpreter.callEach_exact`), and an overflow is reported exactly where one call more than
`maxCallDepth` would become active.

That the counter is right is proved together with what work under the counter does
(`Gauged.Tallies`): it does what the interpreter without a counter does, which is told how many more
calls may become active.
-/

namespace Companions

namespace Moment

/-- The counter shows how many calls are active. -/
def Exact (x : Moment) : Prop := x.depth = x.active.length

/-- A call is about to start while as many are active as may be. -/
def Refused (x : Moment) : Prop :=
  (∃ callee, x.event = .start callee) ∧ x.active.length = maxCallDepth

end Moment

namespace Gauged

variable {ρ σ : Type} {n : Nat} {spent : ρ → Prop} {spent' : σ → Prop} {x : Gauged ρ}
  {y : Except Fault ρ}

/-- Where the counter shows `n`, the work under the counter ends as `y` does and leaves the counter
at `n`.  All that is written down on the way is exact, and what the work ends in is `spent` exactly
if a call was refused. -/
def Tallies (n : Nat) (spent : ρ → Prop) (x : Gauged ρ) (y : Except Fault ρ) : Prop :=
  ∀ moments, (∃ fault, y = .error fault ∧ x.run ⟨n, moments⟩ = .error fault) ∨
    ∃ r more, y = .ok r ∧ x.run ⟨n, moments⟩ = .ok (r, ⟨n, moments ++ more⟩) ∧
      (∀ a ∈ more, a.Exact) ∧ (spent r ↔ ∃ a ∈ more, a.Refused)

namespace Tallies

theorem pure {r : ρ} (h : ¬ spent r) : Tallies n spent (pure r) (.ok r) := by
  intro moments
  refine .inr ⟨r, [], rfl, ?_, by simp, by simpa using h⟩
  rw [List.append_nil]
  rfl

/-- Work without the counter, of which nothing is spent. -/
theorem lift {z : Except Fault ρ} (h : ∀ r, z = .ok r → ¬ spent r) :
    Tallies n spent (liftM z) z := by
  cases z with
  | ok r => exact .pure (h r rfl)
  | error fault => exact fun moments => .inl ⟨fault, rfl, rfl⟩

theorem bind {k : ρ → Gauged σ} {k' : ρ → Except Fault σ} (h : Tallies n spent x y)
    (hspent : ∀ r, spent r → ∃ r', spent' r' ∧ k r = Pure.pure r' ∧ k' r = .ok r')
    (hrest : ∀ r, y = .ok r → ¬ spent r → Tallies n spent' (k r) (k' r)) :
    Tallies n spent' (x >>= k) (y >>= k') := by
  intro moments
  rcases h moments with ⟨fault, rfl, hx⟩ | ⟨r, more, rfl, hx, hexact, hrefused⟩
  · refine .inl ⟨fault, rfl, ?_⟩
    rw [StateT.run_bind, hx]
    rfl
  · have hrun : (x >>= k).run ⟨n, moments⟩ = (k r).run ⟨n, moments ++ more⟩ := by
      rw [StateT.run_bind, hx]
      rfl
    rw [hrun]
    by_cases ho : spent r
    · obtain ⟨r', hr', hk, hk'⟩ := hspent r ho
      rw [hk]
      exact .inr ⟨r', more, hk', rfl, hexact, iff_of_true hr' (hrefused.1 ho)⟩
    · rcases hrest r rfl ho (moments ++ more) with
        ⟨fault, hk', hk⟩ | ⟨r', others, hk', hk, hexact', hrefused'⟩
      · exact .inl ⟨fault, hk', hk⟩
      · refine .inr ⟨r', more ++ others, hk', by rw [hk, List.append_assoc],
          List.forall_mem_append.2 ⟨hexact, hexact'⟩, hrefused'.trans ?_⟩
        simp only [List.mem_append, or_and_right, exists_or]
        exact (or_iff_right (mt hrefused.2 ho)).symm

end Tallies

/-- Work under the counter follows the work without it. -/
def tracking (n : Nat) : Overflow.Tracking Gauged where
  Rel := Tallies n
  pure := .pure
  read _ := .lift fun _ _ => id
  bind := .bind

/-- Something other than a refused call is written down. -/
theorem tallies_note {active : List FunctionSymbol} {event : Event} {k : Gauged ρ}
    (hactive : active.length = n)
    (hevent : ¬ Moment.Refused ⟨active, n, event⟩) (h : Tallies n spent k y) :
    Tallies n spent (do note active event; k) y := by
  intro moments
  have hrun : (do note active event; k).run ⟨n, moments⟩ =
      k.run ⟨n, moments ++ [⟨active, n, event⟩]⟩ := rfl
  rw [hrun]
  rcases h (moments ++ [⟨active, n, event⟩]) with
    hfault | ⟨r, more, hy, hk, hexact, hrefused⟩
  · exact .inl hfault
  · refine .inr ⟨r, ⟨active, n, event⟩ :: more, hy, by rw [hk, List.append_assoc]; rfl,
      List.forall_mem_cons.2 ⟨hactive.symm, hexact⟩, hrefused.trans ?_⟩
    simp [hevent]

end Gauged

namespace Interpreter

open Overflow.Tracking

variable {m : Interpreter} {active : List FunctionSymbol} {room : Nat}

/-! ## Frames -/

/-- Evaluating under the counter is evaluating, if calls under the counter are calls.  The induction
is on the nodes that a path may still visit. -/
theorem evalGauged_compares {n : Nat} (hactive : active.length = n)
    {call : Declaration → Option Value → List Value → Gauged (Except Unwind Value)}
    {call' : Declaration → Option Value → List Value → Outcome}
    (hcall : ∀ callee d target values, m.declaration? callee = some d →
      Gauged.Tallies n (· = .error .overflow) (call d target values) (call' d target values))
    (b : Body) (self : Option Value) (fuel : Nat) (e : ExprRef) :
    (Gauged.tracking n).Compares (m.evalGauged call b self active fuel e)
      (m.eval call' b self fuel e) := by
  induction fuel generalizing e with
  | zero => exact compares_liftM (.error .endless)
  | succ fuel ih =>
    have hnode : (Gauged.tracking n).Compares
        (do m.evalForm call b self (m.evalGauged call b self active fuel) (← b.node e).form)
        (m.eval call' b self (fuel + 1) e) := by
      refine compares_bind (compares_liftM (b.node e)) fun l x l' hx => ?_
      have hx : x ∈ b.nodes :=
        Body.mem_nodes_of_node? (orFault_eq_ok_iff.1 (Evaluating.Gives.liftM _ l x l' hx))
      exact (Comparison.evalForm admits (calls hcall) (fun e => ⟨ih e, .any _⟩) hx).1
    intro l
    rw [evalGauged, Evaluating.run_bind, Evaluating.run_liftM, bind_assoc]
    refine Gauged.tallies_note hactive (fun h => ?_) (hnode l)
    obtain ⟨⟨callee, heq⟩, -⟩ := h
    cases heq

/-! ## Calls -/

section Start

variable {d : Declaration} {b : Body} {self : Option Value} {arguments : List Value} {fuel n : Nat}
  {moments : List Moment} {k : Gauged (Except Unwind Value)} {s : FunctionSymbol}

theorem invokeGauged_of_no_body (h : d.body = none) :
    m.invokeGauged (fuel + 1) active d self arguments =
      liftM (m.failing (.missingBody d.id)) := by
  rw [invokeGauged.eq_def, h]

theorem invokeGauged_of_no_root (h : d.body = some b) (hroot : b.contains b.root = false) :
    m.invokeGauged (fuel + 1) active d self arguments =
      liftM (m.failing (.missingRoot d.id)) := by
  rw [invokeGauged.eq_def, h]
  dsimp only
  rw [hroot]
  rfl

/-- Where the counter is at its end, no call starts. -/
theorem invokeGauged_of_le (h : d.body = some b) (hroot : b.contains b.root = true)
    (hle : maxCallDepth ≤ n) :
    (m.invokeGauged (fuel + 1) active d self arguments).run ⟨n, moments⟩ =
      .ok (.error .overflow, ⟨n, moments ++ [⟨active, n, .start d.symbol⟩]⟩) := by
  rw [invokeGauged.eq_def, h]
  dsimp only
  rw [if_pos hroot]
  change (ite (maxCallDepth ≤ n) _ _ : Gauged (Except Unwind Value)).run
    ⟨n, moments ++ [⟨active, n, .start d.symbol⟩]⟩ = _
  rw [if_pos hle]
  rfl

/-- A call counts itself while its body is evaluated. -/
theorem invokeGauged_of_lt (h : d.body = some b) (hroot : b.contains b.root = true)
    (hlt : n < maxCallDepth) :
    (m.invokeGauged (fuel + 1) active d self arguments).run ⟨n, moments⟩ =
      (((m.evalGauged (m.invokeGauged fuel (d.symbol :: active)) b self (d.symbol :: active)
          (m.budget b) b.root).run.run (Locals.ofArguments d.params arguments) >>=
            fun r => pure (land d b r.1)).run
        ⟨n + 1, moments ++ [⟨active, n, .start d.symbol⟩]⟩).map
          fun r => (r.1, ⟨n, r.2.moments⟩) := by
  rw [invokeGauged.eq_def, h]
  dsimp only
  rw [if_pos hroot]
  change (ite (maxCallDepth ≤ n) _ _ : Gauged (Except Unwind Value)).run
    ⟨n, moments ++ [⟨active, n, .start d.symbol⟩]⟩ = _
  rw [if_neg (Nat.not_le.2 hlt), StateT.run_bind, StateT.run_bind]
  change (((m.evalGauged (m.invokeGauged fuel (d.symbol :: active)) b self (d.symbol :: active)
    (m.budget b) b.root).run.run (Locals.ofArguments d.params arguments)).run
      ⟨n + 1, moments ++ [⟨active, n, .start d.symbol⟩]⟩ >>= _) = _
  cases ((m.evalGauged (m.invokeGauged fuel (d.symbol :: active)) b self (d.symbol :: active)
    (m.budget b) b.root).run.run (Locals.ofArguments d.params arguments)).run
      ⟨n + 1, moments ++ [⟨active, n, .start d.symbol⟩]⟩ <;> rfl

/-- No call is refused where the function is not started for another reason. -/
theorem tallies_failing {e : EvalError} (h : e ≠ .stackOverflow maxCallDepth) :
    Gauged.Tallies n (· = .error .overflow) (liftM (m.failing e)) (m.failing e) := by
  refine .lift fun r hr heq => ?_
  cases (eq_error_of_failing hr).symm.trans heq
  exact h rfl

/-- A function without a body that has a root is not started. -/
theorem tallies_of_root (h : ∀ b, d.body = some b → b.contains b.root = true →
      Gauged.Tallies n (· = .error .overflow) (m.invokeGauged (fuel + 1) active d self arguments)
        (m.invoke room d self arguments)) :
    Gauged.Tallies n (· = .error .overflow) (m.invokeGauged (fuel + 1) active d self arguments)
      (m.invoke room d self arguments) := by
  cases hbody : d.body with
  | none =>
    rw [invokeGauged_of_no_body hbody, invoke_of_no_body hbody]
    exact tallies_failing nofun
  | some b =>
    cases hroot : b.contains b.root with
    | false =>
      rw [invokeGauged_of_no_root hbody hroot, invoke_of_no_root hbody hroot]
      exact tallies_failing nofun
    | true => exact h b hbody hroot

/-- The start of a call is written down, and what the call ends in is an overflow exactly if it is
refused or a call below it is. -/
theorem tallies_start {x : Gauged (Except Unwind Value)} {y : Outcome}
    (hactive : active.length = n) (hlt : n < maxCallDepth)
    (hx : ∀ moments, x.run ⟨n, moments⟩ = ((k.run ⟨n + 1, moments ++ [⟨active, n, .start s⟩]⟩).map
      fun r => (r.1, ⟨n, r.2.moments⟩)))
    (h : Gauged.Tallies (n + 1) (· = .error .overflow) k y) :
    Gauged.Tallies n (· = .error .overflow) x y := by
  intro moments
  rw [hx moments]
  rcases h (moments ++ [⟨active, n, .start s⟩]) with
    ⟨fault, hy, hk⟩ | ⟨r, more, hy, hk, hexact, hrefused⟩
  · exact .inl ⟨fault, hy, by rw [hk]; rfl⟩
  · have hnot : ¬ Moment.Refused ⟨active, n, .start s⟩ := by
      rintro ⟨-, hfull⟩
      exact Nat.ne_of_lt hlt (hactive.symm.trans hfull)
    refine .inr ⟨r, ⟨active, n, .start s⟩ :: more, hy, ?_,
      List.forall_mem_cons.2 ⟨hactive.symm, hexact⟩, hrefused.trans (by simp [hnot])⟩
    rw [hk, List.append_assoc]
    rfl

end Start

/-- A call under the counter, which shows how many calls are active, is a call for which as many may
become active as are left.  The induction is on the calls that may still become active. -/
theorem invokeGauged_tallies (hroom : active.length + room = maxCallDepth) (d : Declaration)
    (self : Option Value) (arguments : List Value) :
    Gauged.Tallies active.length (· = .error .overflow)
      (m.invokeGauged (room + 1) active d self arguments) (m.invoke room d self arguments) := by
  induction room generalizing active d self arguments with
  | zero =>
    refine tallies_of_root (fun b hbody hroot moments => ?_)
    refine .inr ⟨.error .overflow, [⟨active, active.length, .start d.symbol⟩], ?_, ?_, ?_, ?_⟩
    · exact invoke_zero hbody hroot
    · exact invokeGauged_of_le hbody hroot (Nat.le_of_eq hroom.symm)
    · exact List.forall_mem_singleton.2 rfl
    · exact iff_of_true rfl ⟨_, List.mem_singleton_self _, ⟨d.symbol, rfl⟩, hroom⟩
  | succ room ih =>
    refine tallies_of_root (fun b hbody hroot => ?_)
    have hlt : active.length < maxCallDepth := by omega
    have hroom' : (d.symbol :: active).length + room = maxCallDepth := by
      rw [List.length_cons]
      omega
    have hbelow := evalGauged_compares (m := m) rfl
      (fun _ d' target values _ => ih hroom' d' target values) b self (m.budget b) b.root
    refine tallies_start rfl hlt (fun _ => invokeGauged_of_lt hbody hroot hlt) ?_
    rw [invoke_succ_bind hbody hroot]
    exact rel_land hbelow d b (Locals.ofArguments d.params arguments)

/-- However the evaluation of a place ends, be it by an exception from far below, the counter shows
behind it how many calls are active.  It ends in an overflow exactly if a call was refused. -/
theorem evalGauged_restores (hroom : active.length + room = maxCallDepth) {b : Body}
    {self : Option Value} {fuel : Nat} {e : ExprRef} {l l' : Locals} {moments : List Moment}
    {r : Except Unwind Value} {g : Gauge}
    (h : ((m.evalGauged (m.invokeGauged (room + 1) active) b self active fuel e).run.run l).run
      ⟨active.length, moments⟩ = .ok ((r, l'), g)) :
    g.depth = active.length ∧ ∃ more, g.moments = moments ++ more ∧ (∀ x ∈ more, x.Exact) ∧
      (r = .error .overflow ↔ ∃ x ∈ more, x.Refused) := by
  have hcompares := evalGauged_compares (m := m) rfl
    (fun _ d target values _ => invokeGauged_tallies (m := m) hroom d target values) b self fuel e
  rcases hcompares l moments with ⟨fault, -, hfault⟩ | ⟨ended, more, -, hended, hexact, hrefused⟩
  · rw [hfault] at h
    cases h
  · rw [hended] at h
    cases h
    exact ⟨rfl, more, rfl, hexact, hrefused⟩

/-! ## Calls from outside -/

/-- The outermost call answers with an overflow exactly if it has ended in one. -/
theorem answer_eq_overflow_iff {r : Except Unwind Value} :
    m.answer r = .ok (.error (.stackOverflow maxCallDepth)) ↔ r = .error .overflow := by
  constructor
  · intro h
    rcases m.answer_cases r with hok | ⟨_, -, _, -, hfault, -⟩
    · rw [hok] at h
      match r, h with
      | .error (.error e), h =>
        exact congrArg (Except.error ∘ Unwind.error) (by simpa [reported] using h)
    · rw [hfault] at h
      cases h
  · rintro rfl
    rfl

/-- A call from outside under the counter, which shows that no call is active, is a call from
outside. -/
theorem callGauged_tallies (m : Interpreter) (r : Request) :
    Gauged.Tallies 0 (· = .error (.stackOverflow maxCallDepth)) (m.callGauged r)
      (m.call r.symbol r.self r.arguments) := by
  unfold callGauged call
  cases m.declaration? r.symbol with
  | none => exact .pure nofun
  | some d =>
    dsimp only
    split
    · have hroom : ([] : List FunctionSymbol).length + maxCallDepth = maxCallDepth :=
        Nat.zero_add _
      have hinvoke := invokeGauged_tallies (m := m) hroom d r.self r.arguments
      refine hinvoke.bind (fun ended h => ?_) fun ended _ h => .lift fun answer hanswer heq => ?_
      · exact ⟨_, rfl, by rw [h]; rfl, by rw [h]; rfl⟩
      · exact h (answer_eq_overflow_iff.1 (heq ▸ hanswer))
    · exact .pure nofun

/-- What the reply to a call from outside amounts to. -/
structure Accounts (m : Interpreter) (r : Request) (reply : Reply) : Prop where
  /-- It is the reply to the call alone. -/
  alone : m.callEach [r] 0 = .ok ([reply], 0)
  /-- The answer needs no counter. -/
  answer : m.call r.symbol r.self r.arguments = .ok reply.answer
  exact : ∀ x ∈ reply.moments, x.Exact
  /-- Too many calls are reported exactly if a call was about to start with as many active as may
  be. -/
  refused : reply.answer = .error (.stackOverflow maxCallDepth) ↔ ∃ x ∈ reply.moments, x.Refused

variable {r : Request} {rest : List Request}

/-- The first of the calls either faults, or hands on a counter that shows no active call. -/
theorem callEach_cons (m : Interpreter) (r : Request) (rest : List Request) :
    (∃ fault, m.call r.symbol r.self r.arguments = .error fault ∧
      m.callEach (r :: rest) 0 = .error fault) ∨
    ∃ reply, m.Accounts r reply ∧
      m.callEach (r :: rest) 0 = (m.callEach rest 0).map fun done => (reply :: done.1, done.2) := by
  rcases m.callGauged_tallies r [] with
    ⟨fault, hcall, hrun⟩ | ⟨answer, more, hcall, hrun, hexact, hrefused⟩
  · refine .inl ⟨fault, hcall, ?_⟩
    rw [callEach, hrun]
    rfl
  · have heach : ∀ rest, m.callEach (r :: rest) 0 =
        (m.callEach rest 0).map fun done => (⟨answer, more⟩ :: done.1, done.2) := by
      intro rest
      rw [callEach, hrun]
      change (m.callEach rest 0 >>= _) = _
      cases m.callEach rest 0 <;> rfl
    exact .inr ⟨⟨answer, more⟩, ⟨heach [], hcall, hexact, hrefused⟩, heach rest⟩

/-- Calls come to the end of all of them if each of them alone comes to its end. -/
theorem exists_callEach_iff (m : Interpreter) (requests : List Request) :
    (∃ done, m.callEach requests 0 = .ok done) ↔
      ∀ r ∈ requests, ∃ answer, m.call r.symbol r.self r.arguments = .ok answer := by
  induction requests with
  | nil => exact iff_of_true ⟨_, rfl⟩ (by simp)
  | cons r rest ih =>
    rw [List.forall_mem_cons, ← ih]
    rcases m.callEach_cons r rest with ⟨fault, hcall, heach⟩ | ⟨reply, hreply, heach⟩
    · rw [heach, hcall]
      exact iff_of_false nofun fun h => nomatch h.1
    · rw [heach]
      cases m.callEach rest 0 with
      | error fault => exact iff_of_false nofun fun h => nomatch h.2
      | ok done => exact iff_of_true ⟨_, rfl⟩ ⟨⟨_, hreply.answer⟩, _, rfl⟩

/-- Whatever was called before, a call is answered as if it were the first.  The induction is on the
calls. -/
theorem accounts_of_callEach {requests : List Request} {replies : List Reply} {depth : Nat}
    (h : m.callEach requests 0 = .ok (replies, depth)) :
    depth = 0 ∧ List.Forall₂ m.Accounts requests replies := by
  induction requests generalizing replies with
  | nil =>
    cases h
    exact ⟨rfl, .nil⟩
  | cons r rest ih =>
    rcases m.callEach_cons r rest with ⟨fault, -, heach⟩ | ⟨reply, hreply, heach⟩
    · rw [heach] at h
      cases h
    · rw [heach] at h
      cases hrest : m.callEach rest 0 with
      | error fault =>
        rw [hrest] at h
        cases h
      | ok done =>
        rw [hrest] at h
        cases h
        obtain ⟨hdepth, hothers⟩ := ih hrest
        exact ⟨hdepth, .cons hreply hothers⟩

/-- The counter of an interpreter is exact, so calls are independent.  Calls from outside that come
to their ends one after another are answered as each is alone.  While they run, the counter shows
how many calls are active, also behind parts that end by an exception, and exactly the calls that
would be one too many report an overflow. -/
theorem callEach_exact (m : Interpreter) (requests : List Request)
    (hends : ∀ r ∈ requests, ∃ answer, m.call r.symbol r.self r.arguments = .ok answer) :
    (∃ replies, m.callEach requests 0 = .ok (replies, 0) ∧
      List.Forall₂ m.Accounts requests replies) ∧
    ∀ (active : List FunctionSymbol) (room : Nat), active.length + room = maxCallDepth →
      ∀ (b : Body) (self : Option Value) (fuel : Nat) (e : ExprRef) (l l' : Locals)
        (moments : List Moment) (r : Except Unwind Value) (g : Gauge),
        ((m.evalGauged (m.invokeGauged (room + 1) active) b self active fuel e).run.run l).run
          ⟨active.length, moments⟩ = .ok ((r, l'), g) →
        g.depth = active.length ∧ ∃ more, g.moments = moments ++ more ∧ (∀ x ∈ more, x.Exact) ∧
          (r = .error .overflow ↔ ∃ x ∈ more, x.Refused) := by
  obtain ⟨⟨replies, depth⟩, heach⟩ := (m.exists_callEach_iff requests).2 hends
  obtain ⟨rfl, hreplies⟩ := accounts_of_callEach heach
  exact ⟨⟨replies, heach, hreplies⟩, fun active room hroom b self fuel e l l' moments r g h =>
    evalGauged_restores hroom h⟩

end Interpreter

/-! ## A call that never comes back -/

namespace Sample

/-- Calls the function itself with its own parameter. -/
def sinkingBody : Body where
  nodes := #[⟨.param ⟨4⟩, .string⟩, ⟨.call ⟨3⟩ none ⟨0, 1⟩, .string⟩]
  statements := #[]
  arguments := #[⟨some ⟨0⟩, ⟨4⟩⟩]
  handlers := #[]
  labels := #[]
  root := some ⟨1⟩

/-- The function that calls itself and does nothing else. -/
def sinking : Declaration := textFunction ⟨3⟩ ⟨4⟩ (some sinkingBody)

/-- Runs the function that calls itself, and others. -/
def sunken : Interpreter := ⟨.empty, [guarding, throwing, sinking]⟩

/-- One call too deep, and one that catches an exception. -/
def sunkenRequests : List Interpreter.Request := [⟨⟨3⟩, none, [.null]⟩, ⟨⟨1⟩, none, [.null]⟩]

end Sample

open Sample in
/-- After an overflow there is room for the next call. -/
theorem callEach_exact_sunken :
    (∀ r ∈ sunkenRequests, ∃ answer, sunken.call r.symbol r.self r.arguments = .ok answer) ∧
    ∃ overflown caught, sunken.callEach sunkenRequests 0 = .ok ([overflown, caught], 0) ∧
      overflown.answer = .error (.stackOverflow maxCallDepth) ∧ caught.answer = .ok .null ∧
      ∀ x ∈ overflown.moments ++ caught.moments, x.Exact := by
  have hoverflown : sunken.call ⟨3⟩ none [.null] = .ok (.error (.stackOverflow maxCallDepth)) := by
    decide +kernel
  have hcaught : sunken.call ⟨1⟩ none [.null] = .ok (.ok .null) := by decide +kernel
  have hends : ∀ r ∈ sunkenRequests,
      ∃ answer, sunken.call r.symbol r.self r.arguments = .ok answer :=
    List.forall_mem_cons.2 ⟨⟨_, hoverflown⟩, List.forall_mem_singleton.2 ⟨_, hcaught⟩⟩
  obtain ⟨⟨replies, heach, hreplies⟩, -⟩ := sunken.callEach_exact sunkenRequests hends
  refine ⟨hends, ?_⟩
  obtain _ | @⟨_, overflown, _, _, h, _ | @⟨_, caught, _, _, h', _ | _⟩⟩ := hreplies
  refine ⟨overflown, caught, heach, ?_, ?_, List.forall_mem_append.2 ⟨h.exact, h'.exact⟩⟩
  · exact (Except.ok.inj (hoverflown.symm.trans h.answer)).symm
  · exact (Except.ok.inj (hcaught.symm.trans h'.answer)).symm

end Companions
