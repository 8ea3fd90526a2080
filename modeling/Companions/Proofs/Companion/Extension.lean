import Companions.Proofs.Companion.Calls
import Companions.Proofs.Companion.Conversation
import Companions.Proofs.Eval.Agreement
set_option autoImplicit false

/-!
# Companions extend a program

Companions may be registered with an interpreter of the program that they were made for.  Their
symbols are new as long as the counter of functions has not come round, so that nothing in the
program calls them and no function of the program is replaced: every call that could be made before
is answered as before (`Program.HandsOut.call_registerAll`).

Once the counter has come round, a companion gets the symbol of a function of the program, and is
called in its place (`Program.HandsOut.shadows_relaying`).
-/

namespace Companions

/-- Registers functions one after another. -/
def Interpreter.registerAll (m : Interpreter) (ds : List Declaration) : Interpreter :=
  ds.foldl Interpreter.register m

namespace Interpreter

theorem program_registerAll (m : Interpreter) (ds : List Declaration) :
    (m.registerAll ds).program = m.program := by
  induction ds generalizing m with
  | nil => rfl
  | cons d rest ih => exact ih (m.register d)

/-- A symbol that none of the functions has is looked up as before. -/
theorem declaration?_registerAll {m : Interpreter} {ds : List Declaration} {s : FunctionSymbol}
    (h : ∀ d ∈ ds, d.symbol ≠ s) : (m.registerAll ds).declaration? s = m.declaration? s := by
  induction ds generalizing m with
  | nil => rfl
  | cons d rest ih =>
    have hrest := ih (m := m.register d) fun d' hd' => h d' (List.mem_cons_of_mem _ hd')
    rw [declaration?_register, if_neg (h d List.mem_cons_self)] at hrest
    exact hrest

end Interpreter

namespace Program

/-- Companions of the program that sessions have handed out, while the pools grew.  It does not
matter which sessions these were, what they had been asked before, and what was registered. -/
inductive HandsOut (p : Program) : List Companion → Pools → Prop
  | nothing : HandsOut p [] p.pools
  | grow {cs : List Companion} {q q' : Pools} (before : HandsOut p cs q) (h : q.Grows q') :
      HandsOut p cs q'
  | answer {cs : List Companion} {q q' : Pools} {s s' : Session} {a : Session.Answer}
      (before : HandsOut p cs q) (registry : Registry) (request : Session.Request)
      (h : (s.answer (p.host registry) request).run q = .ok ((a, s'), q')) :
      HandsOut p (cs ++ a.companions) q'

/-- The symbols that are called in the program were minted. -/
def CalleesMinted (p : Program) : Prop :=
  ∀ d ∈ p.declarations, ∀ s ∈ d.callees, p.pools.symbols.HasFunction s

instance (p : Program) : Decidable p.CalleesMinted :=
  inferInstanceAs (Decidable (∀ d ∈ p.declarations, ∀ s ∈ d.callees, p.pools.symbols.HasFunction s))

variable {p : Program} {cs : List Companion} {q : Pools}

/-- The symbols of the companions were minted since the program was there. -/
theorem HandsOut.minted (h : p.HandsOut cs q) :
    p.pools.Grows q ∧
      ∀ c ∈ cs, p.pools.symbols.MintsFunction q.symbols c.declaration.symbol := by
  induction h with
  | nothing => exact ⟨.refl _, fun c hc => by cases hc⟩
  | grow _ hgrows ih =>
    exact ⟨ih.1.trans hgrows, fun c hc => (ih.2 c hc).mono (Nat.le_refl _) hgrows.functions⟩
  | answer _ registry request hanswer ih =>
    have hgrows := Session.onlyGrows_answer _ _ _ _ _ _ hanswer
    refine ⟨ih.1.trans hgrows, fun c hc => ?_⟩
    rcases List.mem_append.1 hc with hc | hc
    · exact (ih.2 c hc).mono (Nat.le_refl _) hgrows.functions
    · exact ((Session.madeBetween_of_answer hanswer c hc).mono ih.1 (.refl _)).minted

/-- Companions have symbols that the program did not have, if the counter has not come round. -/
theorem HandsOut.fresh (h : p.HandsOut cs q) (hroom : q.symbols.functions ≤ SymbolSupply.capacity)
    {c : Companion} (hc : c ∈ cs) : ¬ p.pools.symbols.HasFunction c.declaration.symbol :=
  (h.minted.2 c hc).not_hasFunction hroom

/-- Whatever companions are registered, in whatever order and however often, a function of the
program that is called answers what it answers without them, as long as the symbols of functions
have not run out. -/
theorem HandsOut.call_registerAll (h : p.HandsOut cs q)
    (hroom : q.symbols.functions ≤ SymbolSupply.capacity) (hp : p.CalleesMinted)
    {registered : List Companion} (hregistered : ∀ c ∈ registered, c ∈ cs) {s : FunctionSymbol}
    (hs : p.pools.symbols.HasFunction s) (self : Option Value) (arguments : List Value) :
    ((Interpreter.new { p with pools := q }).registerAll (registered.map (·.declaration))).call
        s self arguments =
      (Interpreter.new { p with pools := q }).call s self arguments := by
  let m := Interpreter.new { p with pools := q }
  have hfound : ∀ s, p.pools.symbols.HasFunction s →
      (m.registerAll (registered.map (·.declaration))).declaration? s = p.declaration? s := by
    intro s hs
    refine (Interpreter.declaration?_registerAll fun d hd heq => ?_).trans rfl
    obtain ⟨c, hc, rfl⟩ := List.mem_map.1 hd
    exact h.fresh hroom (hregistered c hc) (heq ▸ hs)
  have hagree : Interpreter.Agree p.pools.symbols.HasFunction
      (m.registerAll (registered.map (·.declaration))) m := by
    refine ⟨Interpreter.program_registerAll _ _, hfound, fun s d hs hd => ?_⟩
    rw [hfound s hs] at hd
    exact hp d (mem_of_declaration? hd)
  exact hagree.call hs self arguments

end Program

/-! ## A program in which a function calls another -/

namespace Sample

/-- Answers what the first function of the sample answers. -/
def relay : Growing Declaration :=
  markedFunction "relay" "kept.as.it.is" fun text =>
    ⟨#[⟨.param text, .string⟩, ⟨.call ⟨0⟩ none ⟨0, 1⟩, .string⟩], #[], #[⟨some ⟨0⟩, ⟨0⟩⟩], #[], #[],
      some ⟨1⟩⟩

/-- The sample program with the function that calls another one. -/
def relaying : Program :=
  match program.grow relay with
  | .ok (d, p) => p.addDeclaration d
  | .error _ => program

/-- The predicates of both strategies, under the names of that program. -/
def relayingRegistry : Registry := registryOf relaying

/-- A new session is asked for all companions of the program. -/
def everything : Growing (Session.Answer × Session) := do
  let s ← Session.new .standard
  s.answer (relaying.host relayingRegistry) .generateAll

/-- Whether there are two companions, and calling the third function on null ends in the exception
that the first one throws. -/
def relays : Bool :=
  match everything.run relaying.pools with
  | .ok ((a, _), q) => decide (a.companions.length = 2 ∧
      q.symbols.functions ≤ SymbolSupply.capacity ∧
      (Interpreter.new { relaying with pools := q }).call ⟨2⟩ none [.null] =
        .ok (.error (.uncaught (.object ⟨⟨5⟩, ⟨6⟩⟩))))
  | .error _ => false

theorem relays_relaying : relays = true := by decide +kernel

end Sample

open Sample in
/-- The third function calls the first one, and does so with two companions registered. -/
theorem Program.HandsOut.call_registerAll_relaying :
    relaying.CalleesMinted ∧ relaying.pools.symbols.HasFunction ⟨2⟩ ∧
      ∃ cs q, relaying.HandsOut cs q ∧ cs.length = 2 ∧
        ((Interpreter.new { relaying with pools := q }).registerAll
            (cs.reverse.map (·.declaration))).call ⟨2⟩ none [.null] =
          .ok (.error (.uncaught (.object ⟨⟨5⟩, ⟨6⟩⟩))) := by
  have hcallees : relaying.CalleesMinted := by decide +kernel
  have hminted : relaying.pools.symbols.HasFunction ⟨2⟩ := by decide +kernel
  have hrelays := relays_relaying
  unfold relays at hrelays
  split at hrelays
  · next a s' q heverything =>
    obtain ⟨hlength, hroom, hcall⟩ := of_decide_eq_true hrelays
    obtain ⟨s, q₁, hnew, hanswer⟩ := Growing.run_bind_eq_ok_iff.1 heverything
    have hgrows := (Session.sound_new (relaying.host relayingRegistry) hnew).1
    have hcs : relaying.HandsOut a.companions q := by
      simpa using (HandsOut.nothing.grow hgrows).answer relayingRegistry .generateAll hanswer
    refine ⟨hcallees, hminted, a.companions, q, hcs, hlength, ?_⟩
    rw [hcs.call_registerAll hroom hcallees (fun c hc => List.mem_reverse.1 hc) hminted]
    exact hcall
  · cases hrelays

namespace Sample

/-- The pools of the program once so many functions were minted that the third symbol is next. -/
def relayingSpent : Pools :=
  { relaying.pools with
    symbols := { relaying.pools.symbols with functions := SymbolSupply.capacity + 2 } }

theorem run_mintFunctions_relaying :
    (Growing.times Growing.mintFunction (SymbolSupply.capacity - 1)).run relaying.pools =
      .ok ((), relayingSpent) := by
  have hcount : relaying.pools.symbols.functions + (SymbolSupply.capacity - 1) =
      SymbolSupply.capacity + 2 := by decide +kernel
  rw [Growing.run_times_mintFunction, hcount, relayingSpent]

/-- Whether calling the third function on null answers null with the companions, and ends in an
exception without them, when they are made of the spent pools. -/
def shadows : Bool :=
  match everything.run relayingSpent with
  | .ok ((a, _), q) =>
    let m := Interpreter.new { relaying with pools := q }
    decide (m.call ⟨2⟩ none [.null] = .ok (.error (.uncaught (.object ⟨⟨5⟩, ⟨6⟩⟩))) ∧
      (m.registerAll (a.companions.map (·.declaration))).call ⟨2⟩ none [.null] =
        .ok (.ok .null))
  | .error _ => false

theorem shadows_relayingSpent : shadows = true := by decide +kernel

end Sample

open Sample in
/-- Once the counter of functions has come round, a companion gets the symbol of the third function,
and is called in its place. -/
theorem Program.HandsOut.shadows_relaying :
    relaying.CalleesMinted ∧ relaying.pools.symbols.HasFunction ⟨2⟩ ∧
      (Growing.times Growing.mintFunction (SymbolSupply.capacity - 1)).run relaying.pools =
        .ok ((), relayingSpent) ∧
      ∃ cs q, relaying.HandsOut cs q ∧ relayingSpent.Grows q ∧
        (Interpreter.new { relaying with pools := q }).call ⟨2⟩ none [.null] =
          .ok (.error (.uncaught (.object ⟨⟨5⟩, ⟨6⟩⟩))) ∧
        ((Interpreter.new { relaying with pools := q }).registerAll
            (cs.map (·.declaration))).call ⟨2⟩ none [.null] = .ok (.ok .null) := by
  have hshadows := shadows_relayingSpent
  unfold shadows at hshadows
  split at hshadows
  · next a s' q heverything =>
    obtain ⟨hwithout, hwith⟩ := of_decide_eq_true hshadows
    obtain ⟨s, q₁, hnew, hanswer⟩ := Growing.run_bind_eq_ok_iff.1 heverything
    have hspent : relaying.pools.Grows relayingSpent :=
      Growing.OnlyGrows.times .mintFunction _ _ _ _ run_mintFunctions_relaying
    have hgrows := (Session.sound_new (relaying.host relayingRegistry) hnew).1
    have hcs : relaying.HandsOut a.companions q := by
      simpa using (HandsOut.nothing.grow (hspent.trans hgrows)).answer relayingRegistry
        .generateAll hanswer
    exact ⟨by decide +kernel, by decide +kernel, run_mintFunctions_relaying, a.companions, q, hcs,
      hgrows.trans (Session.onlyGrows_answer _ _ _ _ _ _ hanswer), hwithout, hwith⟩
  · cases hshadows

end Companions
