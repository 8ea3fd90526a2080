import Companions.Proofs.Companion.Answers
import Companions.Proofs.Companion.Meaning
import Companions.Proofs.Program.Ancestry
set_option autoImplicit false

/-!
# Calling companions

A companion that was generated over a program is called in an interpreter of that program, or of
what has become of it since.  What the call answers is settled by how a call of the function ends
that is one call deeper: `fOrNull` answers null where that throws, and `fOrThrow` throws where that
answers null.
-/

namespace Companions

/-- The companion can be called, and it calls the function that it was made from. -/
structure Companion.Installed (p : Program) (q : Pools) (c : Companion) (f : Declaration)
    (m : Interpreter) : Prop where
  /-- The interpreter runs the program in which the companion was generated, as it is now. -/
  becomes : Program.Becomes { p with pools := q } m.program
  origin : p.declaration? c.origin = some f
  distinct : (f.params.map (·.symbol)).Nodup
  /-- The function has not been replaced. -/
  callee : m.declaration? f.symbol = some f
  registered : m.declaration? c.symbol = some c.declaration

/-- All that can be called besides the function with the symbol is runnable. -/
def Interpreter.RunnableBut (m : Interpreter) (s : FunctionSymbol) : Prop :=
  ∀ s' d b, s' ≠ s → m.declaration? s' = some d → d.body = some b →
    b.Runnable m.program.pools.types

/-- A function that is registered is called in the place of others with its symbol. -/
theorem Interpreter.declaration?_register (m : Interpreter) (d : Declaration)
    (s : FunctionSymbol) :
    (m.register d).declaration? s = if d.symbol = s then some d else m.declaration? s := by
  have hfind := Program.find?_putFirst Declaration.symbol d m.registered s
  simp only [Interpreter.declaration?, register, hfind]
  split <;> rfl

namespace Forwarding

/-- What a companion makes of the end of the call, by its strategy.  Instead of null it may throw an
object of the class. -/
def turned (m : Interpreter) (thrown : ClassId) : Strategy → Except Unwind Value → Outcome
  | .nullOnThrow => fun r => .ok (rescued r)
  | .throwOnNull => insisted m thrown

variable {m : Interpreter} {e : EvalError} {thrown : ClassId} {strategy : Strategy}

/-- No companion hides an error. -/
@[simp] theorem turned_error : turned m thrown strategy (.error (.error e)) =
    .ok (.error (.error e)) := by
  cases strategy <;> rfl

end Forwarding

open Companion Forwarding Interpreter

variable {p : Program} {registry : Registry} {g g' : Generator} {id : CallableId}
  {owner : Option ClassId} {c : Companion} {f : Declaration} {q₀ q₁ q : Pools} {m : Interpreter}
  {self : Option Value} {args : List Value} {strategy : Strategy} {errorClass : ClassId}

/-- A class can be thrown if it inherits from the class of everything that can be. -/
theorem Interpreter.isThrowable_object_iff {a : ClassId} :
    m.isThrowable (.object a) = true ↔
      m.program.Inherits a m.program.builtins.throwableClass :=
  Program.isSubclass_iff_inherits

/-- A companion that was made and can be called forwards to its function, and nothing that running
it reads is missing.  What it may throw is of its error class, as long as no symbol of a constructor
was minted twice. -/
theorem Companion.IsMade.forwardsBy (hp : p.Reachable) (hgrows : p.pools.Grows q)
    (h : c.IsMade strategy errorClass (p.host registry) id c.origin f q₁ q)
    (hc : c.Installed p q f m) :
    ∃ thrown b, (m.program.pools.symbols.constructors ≤ SymbolSupply.capacity →
        thrown = errorClass) ∧
      ForwardsBy m c.declaration f b (turned m thrown strategy) ∧
      b.Runnable m.program.pools.types := by
  obtain ⟨b, hbody, hforwards⟩ := h.body
  have hcopies : c.declaration.params.length = f.params.length := by
    rw [h.params, length_copiesFrom]
  have hown : (c.declaration.params.map (·.symbol)).Nodup := by
    rw [h.params]
    exact nodup_copiesFrom _ h.length_le_capacity
  have hsound := (hc.becomes.reachable (hp.grow hgrows)).sound
  have hbuiltins : m.program.builtins = p.builtins := hc.becomes.builtins
  cases hforwards with
  | @orNull selfType handler _ _ htype =>
    have hhandler : m.program.pools.types.get? handler.type =
        some ⟨.object m.program.builtins.throwableClass, .notNull⟩ := by
      have hthrowable : handler.type = m.program.builtins.throwable := by
        rw [htype, hbuiltins]
        rfl
      rw [hthrowable]
      exact hsound.throwable
    refine ⟨errorClass, _, fun _ => rfl, ⟨hbody, contains_root_orNullBody hcopies, ⟨id.name, ?_⟩,
      ⟨selfType, holdsCall_of_nodes hcopies rfl rfl⟩, hcopies, hown, hc.distinct, hc.callee,
      turns_orNullBody hcopies hhandler⟩,
      runnable_orNullBody hcopies (TypePool.contains_iff.2 ⟨_, hhandler⟩)⟩
    rw [h.symbol]
    rfl
  | @orThrow selfType errorType notNull constr _ hfound _ _ =>
    obtain ⟨d, k₀, hd, hmem, hk₀, -⟩ := Program.noArgConstructor?_eq_some hfound
    -- the constructor may have been replaced since, if its symbol was minted again
    obtain ⟨k, hk⟩ := hc.becomes.exists_constructor? ⟨k₀, hk₀⟩
    refine ⟨k.type, _, fun hroom => ?_, ⟨hbody, contains_root_orThrowBody hcopies, ⟨id.name, ?_⟩,
      ⟨selfType, holdsCall_of_nodes hcopies rfl rfl⟩, hcopies, hown, hc.distinct, hc.callee,
      turns_orThrowBody hcopies hk⟩, runnable_orThrowBody hcopies⟩
    · have hgrew : p.pools.symbols.constructors ≤ m.program.pools.symbols.constructors :=
        (hgrows.trans hc.becomes.grows).constructors
      obtain ⟨k₁, hk₁, htype⟩ := hp.sound.constructors errorClass d constr hd hmem
      have hkept := hc.becomes.constructor? (hp.grow hgrows) hroom hk₁
      rw [hk] at hkept
      rw [Option.some.inj hkept]
      exact htype (Nat.le_trans hgrew hroom)
    · rw [h.symbol]
      rfl

namespace Generator

section Installed

variable (hp : p.Reachable) (hq : p.pools.Grows q₀)
  (hgen : (g.generate (p.host registry) id owner).run q₀ = .ok ((.ok (some c), g'), q))
  (hc : c.Installed p q f m)

include hp hq hgen hc

/-- A companion that was generated and can be called forwards to its function. -/
theorem exists_forwardsBy :
    ∃ thrown b, (m.program.pools.symbols.constructors ≤ SymbolSupply.capacity →
        thrown = g.errorClass) ∧
      ForwardsBy m c.declaration f b (turned m thrown g.strategy) ∧
      b.Runnable m.program.pools.types := by
  obtain ⟨f', q₁, hgrows, hf', hmade⟩ := run_generate_eq_some hgen
  obtain rfl : f' = f := Option.some.inj (hf'.symm.trans hc.origin)
  exact hmade.forwardsBy hp ((hq.trans hgrows).trans hmade.grows) hc

/-- Running a companion ends in what the companion makes of the end of a call of the function that
is one level deeper, and that is what the companion answers from outside.  A fault of the call is a
fault of the companion. -/
theorem exists_turned (hargs : args.length = f.params.length)
    (hself : f.owner ≠ none → self ≠ none) :
    ∃ thrown, (m.program.pools.symbols.constructors ≤ SymbolSupply.capacity →
        thrown = g.errorClass) ∧
      (∀ room, m.invoke (room + 1) c.declaration self args =
        m.invoke room f (receiverOf f self) args >>= turned m thrown g.strategy) ∧
      m.call c.symbol self args =
        m.invoke (maxCallDepth - 1) f (receiverOf f self) args >>= turned m thrown g.strategy >>=
          m.answer := by
  obtain ⟨thrown, b, hthrown, hforwards, -⟩ := exists_forwardsBy hp hq hgen hc
  refine ⟨thrown, hthrown, fun room => hforwards.invoke hargs hself room, ?_⟩
  rw [call_eq_bind hc.registered (hargs.trans hforwards.copies.symm)]
  exact congrArg (· >>= m.answer) (hforwards.invoke hargs hself (maxCallDepth - 1))

/-- A companion of a member cannot be called without a receiver. -/
theorem call_of_no_receiver (hargs : args.length = f.params.length) (howner : f.owner ≠ none) :
    m.call c.symbol none args = .ok (.error .noReceiver) := by
  obtain ⟨thrown, b, -, hforwards, -⟩ := exists_forwardsBy hp hq hgen hc
  have hinvoke : m.invoke maxCallDepth c.declaration none args = .ok (.error (.error .noReceiver)) :=
    (hforwards.invoke_of_no_receiver howner (maxCallDepth - 1)).trans turned_error
  rw [call_eq_bind hc.registered (hargs.trans hforwards.copies.symm), hinvoke]
  rfl

/-- The call that is one level deeper comes to an end if all other functions are runnable, unless the
message of an error asks for an unknown name. -/
theorem exists_invoke_eq_ok (hrunnable : m.RunnableBut c.symbol) (receiver : Option Value)
    (args : List Value) :
    (∃ r, m.invoke (maxCallDepth - 1) f receiver args = .ok r) ∨
      ∃ fault, m.invoke (maxCallDepth - 1) f receiver args = .error fault ∧
        m.program.pools.names.Lacks fault := by
  obtain ⟨thrown, b, -, hforwards, hbody⟩ := exists_forwardsBy hp hq hgen hc
  have hall : m.Runnable := by
    intro s d b' hd hb'
    by_cases hs : s = c.symbol
    · rw [hs, hc.registered] at hd
      cases hd
      rw [hforwards.body] at hb'
      cases hb'
      exact hbody
    · exact hrunnable s d b' hs hd hb'
  exact hall.exists_invoke_eq_ok (fun b' => hall f.symbol f b' hc.callee) _ _ _

end Installed

/-- A companion that was generated can be called once it is registered, if the function's symbol is
one of the program's own and the symbols of functions have not run out. -/
theorem installed_of_generate (hq : p.pools.Grows q₀)
    (hgen : (g.generate (p.host registry) id owner).run q₀ = .ok ((.ok (some c), g'), q))
    (hf : p.declaration? c.origin = some f) (hminted : p.pools.symbols.HasFunction f.symbol)
    (hroom : q.symbols.functions ≤ SymbolSupply.capacity)
    (hdistinct : (f.params.map (·.symbol)).Nodup) :
    c.Installed p q f ((Interpreter.new { p with pools := q }).register c.declaration) := by
  obtain ⟨f', q₁, hgrows, hf', hmade⟩ := run_generate_eq_some hgen
  have hne : c.declaration.symbol ≠ f.symbol := by
    rw [hmade.symbol]
    rintro heq
    exact hmade.minted.not_hasFunction hroom
      (heq ▸ hminted.mono (hq.trans hgrows).functions)
  refine ⟨.refl, hf, hdistinct, ?_, ?_⟩
  · rw [declaration?_register, if_neg hne, Program.symbol_of_declaration? hf]
    exact hf
  · rw [declaration?_register, if_pos hmade.symbol]

/-- What calling `fOrNull` answers: what calling the function answers, with null instead of an
exception. -/
theorem call_orNull (hp : p.Reachable) (hq : p.pools.Grows q₀) (hg : g.strategy = .nullOnThrow)
    (hgen : (g.generate (p.host registry) id owner).run q₀ = .ok ((.ok (some c), g'), q))
    (hc : c.Installed p q f m) (self : Option Value) (args : List Value)
    (hargs : args.length = f.params.length) :
    (f.owner ≠ none → self = none → m.call c.symbol self args = .ok (.error .noReceiver)) ∧
    ((f.owner ≠ none → self ≠ none) →
      (∀ v, m.invoke (maxCallDepth - 1) f (receiverOf f self) args = .ok (.ok v) →
        m.call c.symbol self args = .ok (.ok v)) ∧
      (∀ exception, m.invoke (maxCallDepth - 1) f (receiverOf f self) args =
          .ok (.error (.thrown exception)) →
        m.call c.symbol self args = .ok (.ok .null)) ∧
      (∀ e, m.invoke (maxCallDepth - 1) f (receiverOf f self) args = .ok (.error (.error e)) →
        m.call c.symbol self args = .ok (.error e)) ∧
      (∀ fault, m.invoke (maxCallDepth - 1) f (receiverOf f self) args = .error fault →
        m.call c.symbol self args = .error fault) ∧
      (∀ l v, m.invoke (maxCallDepth - 1) f (receiverOf f self) args ≠ .ok (.error (.ret l v))) ∧
      ∀ room r, m.invoke room f (receiverOf f self) args = .ok r →
        m.invoke (room + 1) c.declaration self args = .ok (rescued r)) ∧
    (m.RunnableBut c.symbol →
      (∃ r, m.invoke (maxCallDepth - 1) f (receiverOf f self) args = .ok r) ∨
        ∃ fault, m.invoke (maxCallDepth - 1) f (receiverOf f self) args = .error fault ∧
          m.program.pools.names.Lacks fault) := by
  refine ⟨?_, fun hself => ?_, fun h => exists_invoke_eq_ok hp hq hgen hc h _ _⟩
  · rintro howner rfl
    exact call_of_no_receiver hp hq hgen hc hargs howner
  · obtain ⟨thrown, -, hinvoke, hcall⟩ := exists_turned hp hq hgen hc hargs hself
    rw [hg] at hinvoke hcall
    refine ⟨fun v hr => ?_, fun exception hr => ?_, fun e hr => ?_, fun fault hr => ?_,
      fun l v hr => leaves_of_invoke_eq_ok hr _ rfl, fun room r hr => ?_⟩
    all_goals first | rw [hcall, hr] | rw [hinvoke, hr]
    all_goals rfl

/-- What calling `fOrThrow` answers: what calling the function answers, but instead of null it
throws an object of the error class, if such an object can be thrown. -/
theorem call_orThrow (hp : p.Reachable) (hq : p.pools.Grows q₀) (hg : g.strategy = .throwOnNull)
    (hgen : (g.generate (p.host registry) id owner).run q₀ = .ok ((.ok (some c), g'), q))
    (hc : c.Installed p q f m) (self : Option Value) (args : List Value)
    (hargs : args.length = f.params.length) :
    (f.owner ≠ none → self = none → m.call c.symbol self args = .ok (.error .noReceiver)) ∧
    ((f.owner ≠ none → self ≠ none) →
      (∀ v, v ≠ .null → m.invoke (maxCallDepth - 1) f (receiverOf f self) args = .ok (.ok v) →
        m.call c.symbol self args = .ok (.ok v)) ∧
      (m.program.pools.symbols.constructors ≤ SymbolSupply.capacity →
        m.invoke (maxCallDepth - 1) f (receiverOf f self) args = .ok (.ok .null) →
        ∀ path, g.errorClass.display m.program.pools.names = .ok path →
          (m.program.Inherits g.errorClass m.program.builtins.throwableClass →
            m.call c.symbol self args = .ok (.error (.uncaught (.object g.errorClass))) ∧
            (EvalError.uncaught (.object g.errorClass)).message m.program.pools.names =
              .ok ("uncaught exception: " ++ path)) ∧
          (¬ m.program.Inherits g.errorClass m.program.builtins.throwableClass →
            m.call c.symbol self args = .ok (.error (.notThrowable (.object g.errorClass))))) ∧
      (∀ exception, m.invoke (maxCallDepth - 1) f (receiverOf f self) args =
          .ok (.error (.thrown exception)) →
        m.call c.symbol self args = m.answer (.error (.thrown exception))) ∧
      (∀ e, m.invoke (maxCallDepth - 1) f (receiverOf f self) args = .ok (.error (.error e)) →
        m.call c.symbol self args = .ok (.error e)) ∧
      (∀ fault, m.invoke (maxCallDepth - 1) f (receiverOf f self) args = .error fault →
        m.call c.symbol self args = .error fault) ∧
      (∀ l v, m.invoke (maxCallDepth - 1) f (receiverOf f self) args ≠ .ok (.error (.ret l v))) ∧
      (m.program.pools.symbols.constructors ≤ SymbolSupply.capacity →
        ∀ room r, m.invoke room f (receiverOf f self) args = .ok r →
          m.invoke (room + 1) c.declaration self args = insisted m g.errorClass r)) ∧
    (m.RunnableBut c.symbol →
      (∃ r, m.invoke (maxCallDepth - 1) f (receiverOf f self) args = .ok r) ∨
        ∃ fault, m.invoke (maxCallDepth - 1) f (receiverOf f self) args = .error fault ∧
          m.program.pools.names.Lacks fault) := by
  refine ⟨?_, fun hself => ?_, fun h => exists_invoke_eq_ok hp hq hgen hc h _ _⟩
  · rintro howner rfl
    exact call_of_no_receiver hp hq hgen hc hargs howner
  · obtain ⟨thrown, hthrown, hinvoke, hcall⟩ := exists_turned hp hq hgen hc hargs hself
    rw [hg] at hinvoke hcall
    refine ⟨fun v hv hr => ?_, fun hroom hnull path hpath => ⟨fun h => ⟨?_, ?_⟩, fun h => ?_⟩,
      fun exception hr => ?_, fun e hr => ?_, fun fault hr => ?_,
      fun l v hr => leaves_of_invoke_eq_ok hr _ rfl, fun hroom room r hr => ?_⟩
    · rw [hcall, hr]
      exact congrArg (· >>= m.answer) (insisted_of_ne_null hv)
    · obtain rfl := hthrown hroom
      have hinsisted : insisted m g.errorClass (.ok .null) =
          .ok (.error (.thrown (.object g.errorClass))) :=
        if_pos (isThrowable_object_iff.2 h)
      rw [hcall, hnull]
      refine (congrArg (· >>= m.answer) hinsisted).trans ((m.answer_object _).trans ?_)
      rw [hpath]
      rfl
    · rw [EvalError.message_uncaught, hpath]
      rfl
    · obtain rfl := hthrown hroom
      have hinsisted : insisted m g.errorClass (.ok .null) =
          m.failing (.notThrowable (.object g.errorClass)) :=
        if_neg (mt isThrowable_object_iff.1 h)
      rw [hcall, hnull]
      refine (congrArg (· >>= m.answer) hinsisted).trans ?_
      rw [failing_of_worded (EvalError.worded_of_display hpath (.inr rfl))]
      rfl
    all_goals first | rw [hcall, hr] | rw [hinvoke, hr, hthrown hroom]
    all_goals rfl

end Generator

/-! ## The sample -/

namespace Sample

/-- The program as it is now, with a companion registered. -/
def interpreter (p : Program) (c : Companion) (q : Pools) : Interpreter :=
  (Interpreter.new { p with pools := q }).register c.declaration

/-- A generator of a new session with both indexes, and what it answers. -/
def asked (p : Program) (strategy : Strategy) (id : CallableId) :
    Growing (Generator × Except GenerationError (Option Companion)) := do
  let s ← Session.new .standard
  let listing ← s.indexes (p.host (registryOf p))
  let g := listing.2.generator strategy
  let made ← g.generate (p.host (registryOf p)) id none
  return (g, made.1)

/-- Whether the companion is made and does what is asked of it, and calling its function on null,
which is top-level, ends in `r`. -/
def endsIn (p : Program) (strategy : Strategy) (id : CallableId) (r : Except Unwind Value)
    (fits : ClassId → Companion → Pools → Bool) : Bool :=
  match (asked p strategy id).run p.pools with
  | .ok ((g, .ok (some c)), q) =>
    match p.declaration? c.origin with
    | some f =>
      decide (p.pools.symbols.HasFunction f.symbol ∧
        q.symbols.functions ≤ SymbolSupply.capacity ∧ (f.params.map (·.symbol)).Nodup ∧
        f.params.length = 1 ∧ f.owner = none ∧
        (interpreter p c q).invoke (maxCallDepth - 1) f none [.null] = .ok r ∧
        p.isSubclass g.errorClass p.builtins.throwableClass = true ∧
        fits g.errorClass c q = true)
    | none => false
  | _ => false

/-- A companion that can be called and fits, and what calling its function on null ends in. -/
structure Called (p : Program) (strategy : Strategy) (id : CallableId) (r : Except Unwind Value)
    (fits : ClassId → Companion → Pools → Bool) (g : Generator) (q₀ : Pools) (c : Companion)
    (q : Pools) (f : Declaration) : Prop where
  grows : p.pools.Grows q₀
  strategy : g.strategy = strategy
  generated : ∃ g', (g.generate (p.host (registryOf p)) id none).run q₀ =
    .ok ((.ok (some c), g'), q)
  installed : c.Installed p q f (interpreter p c q)
  length : f.params.length = 1
  owner : f.owner = none
  ends : (interpreter p c q).invoke (maxCallDepth - 1) f (receiverOf f none) [.null] = .ok r
  inherits : p.Inherits g.errorClass p.builtins.throwableClass
  fits : fits g.errorClass c q = true

theorem exists_called {p : Program} {strategy : Strategy} {id : CallableId}
    {r : Except Unwind Value} {fits : ClassId → Companion → Pools → Bool}
    (h : endsIn p strategy id r fits = true) :
    ∃ g q₀ c q f, Called p strategy id r fits g q₀ c q f := by
  unfold endsIn at h
  split at h
  · next g c q hasked =>
    split at h
    · next f hf =>
      obtain ⟨hminted, hfunctions, hdistinct, hlength, howner, hends, hsub, hfits⟩ :=
        of_decide_eq_true h
      obtain ⟨s, q₁, hnew, hasked⟩ := Growing.run_bind_eq_ok_iff.1 hasked
      obtain ⟨⟨both, s'⟩, q₂, hlisting, hasked⟩ := Growing.run_bind_eq_ok_iff.1 hasked
      obtain ⟨⟨made, g'⟩, q₃, hgen, hasked⟩ := Growing.run_bind_eq_ok_iff.1 hasked
      obtain ⟨heq, rfl⟩ := Growing.run_pure_eq_ok_iff.1 hasked
      cases heq
      obtain ⟨hgrows₁, hs⟩ := Session.sound_new (p.host (registryOf p)) hnew
      have hs' := (Session.sound_iff_keeps.1 hs).indexes (Session.lasts_sound _ _) hlisting
      have hgrows := hgrows₁.trans (Session.onlyGrows_indexes _ _ _ _ _ hlisting)
      exact ⟨_, q₂, c, q₃, f, hgrows, (hs' strategy).strategy, ⟨g', hgen⟩,
        Generator.installed_of_generate hgrows hgen hf hminted hfunctions hdistinct, hlength,
        howner, by simpa [receiverOf] using hends, Program.isSubclass_iff_inherits.1 hsub, hfits⟩
    · cases h
  · cases h

/-- No symbol of a constructor was minted twice, and the error class has a path. -/
def spares (errorClass : ClassId) (_ : Companion) (q : Pools) : Bool :=
  decide (q.symbols.constructors ≤ SymbolSupply.capacity ∧ ∀ n ∈ errorClass.names, q.names.Knows n)

theorem endsIn_load :
    endsIn program .nullOnThrow loadOrNull (.error (.thrown (.object ⟨⟨5⟩, ⟨6⟩⟩))) spares =
      true := by
  decide +kernel

theorem endsIn_find : endsIn program .throwOnNull findOrThrow (.ok .null) spares = true := by
  decide +kernel

end Sample

open Sample in
/-- The function throws on null, and its companion answers null. -/
theorem Generator.call_orNull_load :
    ∃ (g : Generator) (q₀ : Pools) (c : Companion) (g' : Generator) (q : Pools),
      (g.generate (program.host Sample.registry) loadOrNull none).run q₀ =
        .ok ((.ok (some c), g'), q) ∧
      (interpreter program c q).call c.symbol none [.null] = .ok (.ok .null) := by
  obtain ⟨g, q₀, c, q, f, hcalled⟩ := exists_called endsIn_load
  obtain ⟨g', hgen⟩ := hcalled.generated
  have hcall := call_orNull program_reachable hcalled.grows hcalled.strategy hgen
    hcalled.installed none [.null] hcalled.length.symm
  obtain ⟨-, hthrown, -⟩ := hcall.2.1 fun howner => absurd hcalled.owner howner
  exact ⟨g, q₀, c, g', q, hgen, hthrown _ hcalled.ends⟩

open Sample in
/-- The function answers null, and its companion throws. -/
theorem Generator.call_orThrow_find :
    ∃ (g : Generator) (q₀ : Pools) (c : Companion) (g' : Generator) (q : Pools),
      (g.generate (program.host Sample.registry) findOrThrow none).run q₀ =
        .ok ((.ok (some c), g'), q) ∧
      (interpreter program c q).call c.symbol none [.null] =
        .ok (.error (.uncaught (.object g.errorClass))) := by
  obtain ⟨g, q₀, c, q, f, hcalled⟩ := exists_called endsIn_find
  obtain ⟨g', hgen⟩ := hcalled.generated
  have hcall := call_orThrow program_reachable hcalled.grows hcalled.strategy hgen
    hcalled.installed none [.null] hcalled.length.symm
  obtain ⟨-, hnull, -⟩ := hcall.2.1 fun howner => absurd hcalled.owner howner
  obtain ⟨hroom, hnamed⟩ := of_decide_eq_true hcalled.fits
  obtain ⟨path, hpath⟩ := (NameTable.Answers.display fun _ hn => hn).exists_ok hnamed
  exact ⟨g, q₀, c, g', q, hgen,
    ((hnull hroom hcalled.ends path hpath).1 hcalled.inherits).1⟩

namespace Sample

/-- The class that is declared last of all. -/
def quiet : ClassId := ⟨⟨17⟩, ⟨18⟩⟩

/-- Calling the companion on null ends in an exception of that class, which is not the error
class. -/
def throwsQuiet (errorClass : ClassId) (c : Companion) (q : Pools) : Bool :=
  decide (quiet ≠ errorClass ∧
    (interpreter displaced c q).call c.symbol none [.null] =
      .ok (.error (.uncaught (.object quiet))))

theorem endsIn_displaced :
    endsIn displaced .throwOnNull (.topLevel .empty ⟨21⟩) (.ok .null) throwsQuiet = true := by
  decide +kernel

end Sample

open Sample in
/-- Once the counter of constructors has come round, a class that is declared takes the constructor
of the error class away, and the companion throws an object of that class. -/
theorem Generator.call_orThrow_displaced :
    (Growing.times Growing.mintConstructor (SymbolSupply.capacity - 1)).run program.pools =
        .ok ((), worn.pools) ∧
      displaced.Reachable ∧
      ∃ (g : Generator) (q₀ : Pools) (c : Companion) (g' : Generator) (q : Pools) (f : Declaration),
        displaced.pools.Grows q₀ ∧ g.strategy = .throwOnNull ∧
        (g.generate (displaced.host (registryOf displaced)) (.topLevel .empty ⟨21⟩) none).run q₀ =
          .ok ((.ok (some c), g'), q) ∧
        c.Installed displaced q f (interpreter displaced c q) ∧
        (interpreter displaced c q).invoke (maxCallDepth - 1) f (receiverOf f none) [.null] =
          .ok (.ok .null) ∧
        displaced.Inherits g.errorClass displaced.builtins.throwableClass ∧
        quiet ≠ g.errorClass ∧
        (interpreter displaced c q).call c.symbol none [.null] =
          .ok (.error (.uncaught (.object quiet))) := by
  obtain ⟨g, q₀, c, q, f, hcalled⟩ := exists_called endsIn_displaced
  obtain ⟨g', hgen⟩ := hcalled.generated
  obtain ⟨hne, hcall⟩ := of_decide_eq_true hcalled.fits
  exact ⟨run_mintConstructors_program, displaced_reachable, g, q₀, c, g', q, f, hcalled.grows,
    hcalled.strategy, hgen, hcalled.installed, hcalled.ends, hcalled.inherits, hne, hcall⟩

end Companions
