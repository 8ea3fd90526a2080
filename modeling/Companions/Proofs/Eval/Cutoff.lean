import Companions.Proofs.Companion.Calls
import Companions.Proofs.Eval.Depth
set_option autoImplicit false

/-!
# The depth as a cutoff

How many calls are active already decides at most whether a call overflows.  What a call ends in
other than an overflow, it ends in as well where fewer calls are active
(`Interpreter.invoke_cutoff`): two runs of it differ only behind a call that one of them has
refused, and nothing comes back from there.
-/

namespace Companions

namespace Cutoff

open Overflow.Tracking

/-- Runs agree unless the first is spent. -/
def Rel {ρ : Type} (spent : ρ → Prop) (x y : Except Fault ρ) : Prop :=
  (∃ r, x = .ok r ∧ spent r) ∨ x = y

variable {ρ σ : Type} {spent : ρ → Prop} {spent' : σ → Prop} {x y : Except Fault ρ}
  {k k' : ρ → Except Fault σ}

theorem Rel.bind (h : Rel spent x y)
    (hspent : ∀ r, spent r → ∃ r', spent' r' ∧ k r = pure r' ∧ k' r = .ok r')
    (hrest : ∀ r, y = .ok r → ¬ spent r → Rel spent' (k r) (k' r)) :
    Rel spent' (x >>= k) (y >>= k') := by
  rcases h with ⟨r, rfl, hr⟩ | rfl
  · obtain ⟨r', hr', hk, -⟩ := hspent r hr
    exact .inl ⟨r', hk, hr'⟩
  · cases x with
    | error fault => exact .inr rfl
    | ok r =>
      by_cases hr : spent r
      · obtain ⟨r', hr', hk, -⟩ := hspent r hr
        exact .inl ⟨r', hk, hr'⟩
      · exact hrest r rfl hr

/-- A run with less room follows a run with more. -/
def tracking : Overflow.Tracking (Except Fault) where
  Rel := Rel
  pure _ := .inr rfl
  read _ := .inr rfl
  bind := .bind

end Cutoff

namespace Interpreter

open Overflow.Tracking Forwarding

variable {m : Interpreter} {room : Nat}

/-- With room for more calls, a call ends as it does with less, unless it overflows there.  The
induction is on the calls for which there is room in both. -/
theorem invoke_cutoff_add (extra : Nat) (d : Declaration) (self : Option Value)
    (arguments : List Value) :
    Cutoff.Rel (· = .error .overflow) (m.invoke room d self arguments)
      (m.invoke (room + extra) d self arguments) := by
  induction room generalizing d self arguments with
  | zero =>
    rcases m.exists_root_or_error d with ⟨b, hbody, hroot⟩ | ⟨e, -, hinvoke⟩
    · exact .inl ⟨_, invoke_zero hbody hroot, rfl⟩
    · exact .inr ((hinvoke ..).trans (hinvoke ..).symm)
  | succ room ih =>
    rcases m.exists_root_or_error d with ⟨b, hbody, hroot⟩ | ⟨e, -, hinvoke⟩
    · have hbelow : Cutoff.tracking.Compares (m.eval (m.invoke room) b self (m.budget b) b.root)
          (m.eval (m.invoke (room + extra)) b self (m.budget b) b.root) :=
        (Comparison.eval admits (calls fun _ d' target values _ => ih d' target values)
          (m.budget b) b.root).1
      rw [Nat.succ_add, invoke_succ_bind hbody hroot, invoke_succ_bind hbody hroot]
      exact rel_land hbelow d b (Locals.ofArguments d.params arguments)
    · exact .inr ((hinvoke ..).trans (hinvoke ..).symm)

/-- Where no fewer calls are active, a call ends in the same or overflows. -/
theorem cutoff_of_le {shallow deep : Nat} (h : shallow ≤ deep) (d : Declaration)
    (self : Option Value) (arguments : List Value) :
    Cutoff.Rel (· = .error .overflow) (m.invoke (maxCallDepth - deep) d self arguments)
      (m.invoke (maxCallDepth - shallow) d self arguments) := by
  have hroom : maxCallDepth - shallow =
      maxCallDepth - deep + (maxCallDepth - shallow - (maxCallDepth - deep)) := by omega
  rw [hroom]
  exact invoke_cutoff_add _ d self arguments

/-- A call that is run under the counter ends in an overflow exactly if a call was refused on the
way, whatever stands around that one. -/
theorem refused_of_invoke {active : List FunctionSymbol}
    (hroom : active.length + room = maxCallDepth) {d : Declaration} {self : Option Value}
    {arguments : List Value} {r : Except Unwind Value}
    (h : m.invoke room d self arguments = .ok r) :
    ∃ g, (m.invokeGauged (room + 1) active d self arguments).run ⟨active.length, []⟩ = .ok (r, g) ∧
      (r = .error .overflow ↔ ∃ x ∈ g.moments, x.Refused) := by
  rcases invokeGauged_tallies (m := m) hroom d self arguments [] with
    ⟨fault, hfault, -⟩ | ⟨r', more, hr', hrun, -, hrefused⟩
  · rw [hfault] at h
    cases h
  · rw [hr'] at h
    cases h
    exact ⟨_, hrun, hrefused⟩

/-- The depth is only a cutoff.  A call that is made while `deep` calls are active, and does not
overflow, ends in the same while fewer are active; one that overflows with fewer overflows with
`deep`.  Nothing turns an overflow into something else: a call has overflowed if any call that it
led to was refused, and a companion overflows if its function does. -/
theorem invoke_cutoff (m : Interpreter) (d : Declaration) (self : Option Value)
    (arguments : List Value) {shallow deep : Nat} (h : shallow ≤ deep) :
    (∀ r, m.invoke (maxCallDepth - deep) d self arguments = .ok r → r ≠ .error .overflow →
      m.invoke (maxCallDepth - shallow) d self arguments = .ok r) ∧
    (m.invoke (maxCallDepth - shallow) d self arguments = .ok (.error .overflow) →
      m.invoke (maxCallDepth - deep) d self arguments = .ok (.error .overflow)) ∧
    (∀ (active : List FunctionSymbol) (room : Nat), active.length + room = maxCallDepth →
      ∀ r, m.invoke room d self arguments = .ok r →
        ∃ g, (m.invokeGauged (room + 1) active d self arguments).run ⟨active.length, []⟩ =
            .ok (r, g) ∧
          (r = .error .overflow ↔ ∃ x ∈ g.moments, x.Refused)) ∧
    ∀ (p : Program) (registry : Registry) (g g' : Generator) (id : CallableId)
      (owner : Option ClassId) (q₀ q : Pools) (c : Companion), p.Reachable → p.pools.Grows q₀ →
      (g.generate (p.host registry) id owner).run q₀ = .ok ((.ok (some c), g'), q) →
      c.Installed p q d m → arguments.length = d.params.length →
      (d.owner ≠ none → self ≠ none) → ∀ room,
        m.invoke room d (receiverOf d self) arguments = .ok (.error .overflow) →
        m.invoke (room + 1) c.declaration self arguments = .ok (.error .overflow) := by
  have hcutoff := cutoff_of_le (m := m) h d self arguments
  refine ⟨fun r hr hne => ?_, fun hoverflow => ?_, fun active room hroom r hr => ?_, ?_⟩
  · rcases hcutoff with ⟨r', hr', rfl⟩ | hsame
    · exact absurd (Except.ok.inj (hr.symm.trans hr')) hne
    · exact hsame.symm.trans hr
  · rcases hcutoff with ⟨r', hr', rfl⟩ | hsame
    · exact hr'
    · exact hsame.trans hoverflow
  · exact refused_of_invoke hroom hr
  · intro p registry g g' id owner q₀ q c hp hq hgen hc hargs hself room hoverflow
    obtain ⟨thrown, -, hinvoke, -⟩ := Generator.exists_turned hp hq hgen hc hargs hself
    rw [hinvoke room, hoverflow]
    exact turned_error

open Sample in
/-- The function needs room for two calls.  With less it overflows, although it handles whatever is
thrown. -/
theorem invoke_cutoff_guarding :
    (0 ≤ 198 ∧ sunken.invoke (maxCallDepth - 198) guarding none [.null] = .ok (.ok .null) ∧
      sunken.invoke (maxCallDepth - 0) guarding none [.null] = .ok (.ok .null)) ∧
    (199 ≤ 250 ∧
      sunken.invoke (maxCallDepth - 199) guarding none [.null] = .ok (.error .overflow) ∧
      sunken.invoke (maxCallDepth - 250) guarding none [.null] = .ok (.error .overflow)) := by
  have henough : sunken.invoke (maxCallDepth - 198) guarding none [.null] = .ok (.ok .null) := by
    decide +kernel
  have htight : sunken.invoke (maxCallDepth - 199) guarding none [.null] =
      .ok (.error .overflow) := by
    decide +kernel
  have hfewer : 0 ≤ 198 := by decide
  have hmore : 199 ≤ 250 := by decide
  obtain ⟨hsame, -⟩ := sunken.invoke_cutoff guarding none [.null] hfewer
  obtain ⟨-, hoverflow, -⟩ := sunken.invoke_cutoff guarding none [.null] hmore
  exact ⟨⟨hfewer, henough, hsame _ henough nofun⟩, hmore, htight, hoverflow htight⟩

end Interpreter

end Companions
