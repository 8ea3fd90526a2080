import Companions.Proofs.Companion.Extension
import Companions.Proofs.Companion.Order
set_option autoImplicit false

/-!
# Symbols are minted once

A companion has a symbol of its own, a symbol for each of its parameters, and one for the parameter
of its handler if it has one.  All of these are minted while it is made (`Companion.Supplies`), so
each was shown by a counter on its way from what it was before to what it is afterwards.  As long as
no counter has come round, companions that are handed out one after another therefore never share a
symbol, whatever failed in between and however often the same companion was asked for, and none of
their symbols is one that the program uses (`Program.HandsOut.symbols_disjoint`).
-/

namespace Companions

/-! ## Numbers between two readings of a counter -/

/-- The numbers are those that a counter showed at different times on its way from `a` to `b`. -/
def CountedBetween (a b : Nat) (numbers : List Nat) : Prop :=
  ∃ counts : List Nat, counts.Nodup ∧ (∀ n ∈ counts, a ≤ n ∧ n < b) ∧
    counts.map SymbolSupply.shown = numbers

namespace CountedBetween

variable {a b c d : Nat} {first second : List Nat}

theorem nil (a b : Nat) : CountedBetween a b [] := ⟨[], List.nodup_nil, nofun, rfl⟩

theorem singleton (n : Nat) : CountedBetween n (n + 1) [SymbolSupply.shown n] :=
  ⟨[n], List.nodup_singleton n, by simp, rfl⟩

theorem range (a count : Nat) :
    CountedBetween a (a + count) ((List.range' a count).map SymbolSupply.shown) :=
  ⟨List.range' a count, List.nodup_range', by simp, rfl⟩

theorem mono (h : CountedBetween b c first) (hbefore : a ≤ b) (hafter : c ≤ d) :
    CountedBetween a d first := by
  obtain ⟨counts, hnodup, hbounds, hshown⟩ := h
  exact ⟨counts, hnodup, fun n hn => ⟨Nat.le_trans hbefore (hbounds n hn).1,
    Nat.lt_of_lt_of_le (hbounds n hn).2 hafter⟩, hshown⟩

/-- What was counted later comes behind what was counted before. -/
theorem append (h : CountedBetween a b first) (h' : CountedBetween b c second) (hab : a ≤ b)
    (hbc : b ≤ c) : CountedBetween a c (first ++ second) := by
  obtain ⟨counts, hnodup, hbounds, rfl⟩ := h
  obtain ⟨counts', hnodup', hbounds', rfl⟩ := h'
  refine ⟨counts ++ counts', List.nodup_append.2 ⟨hnodup, hnodup', ?_⟩, fun n hn => ?_,
    List.map_append⟩
  · rintro n hn m hm rfl
    exact Nat.lt_irrefl n (Nat.lt_of_lt_of_le (hbounds n hn).2 (hbounds' n hm).1)
  · rcases List.mem_append.1 hn with hn | hn
    · exact ⟨(hbounds n hn).1, Nat.lt_of_lt_of_le (hbounds n hn).2 hbc⟩
    · exact ⟨Nat.le_trans hab (hbounds' n hn).1, (hbounds' n hn).2⟩

/-- As long as the counter has not come round, the numbers are pairwise distinct. -/
theorem nodup (h : CountedBetween a b first) (hroom : b ≤ SymbolSupply.capacity) :
    first.Nodup := by
  obtain ⟨counts, hnodup, hbounds, rfl⟩ := h
  refine hnodup.map_on fun m hm n hn heq => ?_
  rwa [SymbolSupply.shown_of_lt (Nat.lt_of_lt_of_le (hbounds m hm).2 hroom),
    SymbolSupply.shown_of_lt (Nat.lt_of_lt_of_le (hbounds n hn).2 hroom)] at heq

/-- Then no number was shown before. -/
theorem not_handedOut (h : CountedBetween a b first) (hroom : b ≤ SymbolSupply.capacity) {n : Nat}
    (hn : n ∈ first) : ¬ SymbolSupply.HandedOut a n := by
  obtain ⟨counts, -, hbounds, rfl⟩ := h
  obtain ⟨m, hm, rfl⟩ := List.mem_map.1 hn
  exact SymbolSupply.not_handedOut_shown (Nat.lt_of_lt_of_le (hbounds m hm).2 hroom)
    (hbounds m hm).1

end CountedBetween

/-! ## Symbols in bodies and programs -/

/-- The parameters that the handlers of a body bind. -/
def Body.handlerParams (b : Body) : List ParamSymbol := b.handlers.toList.map (·.param.symbol)

/-- The functions that a body names: those that it calls, and those that its labels leave. -/
def Body.functionSymbols (b : Body) : List FunctionSymbol :=
  b.callees ++ b.labels.toList.filterMap (·.target)

/-- The parameters that a body names: those that it reads, those that its arguments are meant for,
and those that its handlers bind. -/
def Body.paramSymbols (b : Body) : List ParamSymbol :=
  b.nodes.toList.filterMap (fun x => match x.form with
    | .param symbol => some symbol
    | _ => none) ++ b.arguments.toList.map (·.param) ++ b.handlerParams

/-- The parameters that a function binds: its own, and those of its handlers. -/
def Declaration.boundParams (d : Declaration) : List ParamSymbol :=
  d.params.map (·.symbol) ++ (d.body.map (·.handlerParams)).getD []

namespace Program

/-- The functions that a program names anywhere. -/
def functionSymbols (p : Program) : List FunctionSymbol :=
  p.declarations.flatMap fun d => d.symbol :: (d.body.map (·.functionSymbols)).getD []

/-- The parameters that a program names anywhere. -/
def paramSymbols (p : Program) : List ParamSymbol :=
  (p.declarations.flatMap fun d =>
    d.params.map (·.symbol) ++ (d.body.map (·.paramSymbols)).getD []) ++
  p.constructors.flatMap fun k => k.params.map (·.symbol)

/-- All symbols of functions and parameters in the program were minted by its supply. -/
structure SymbolsMinted (p : Program) : Prop where
  functions : ∀ s ∈ p.functionSymbols, p.pools.symbols.HasFunction s
  params : ∀ s ∈ p.paramSymbols, p.pools.symbols.HasParam s

instance (p : Program) : Decidable p.SymbolsMinted :=
  decidable_of_iff ((∀ s ∈ p.functionSymbols, p.pools.symbols.HasFunction s) ∧
      ∀ s ∈ p.paramSymbols, p.pools.symbols.HasParam s)
    ⟨fun h => ⟨h.1, h.2⟩, fun h => ⟨h.functions, h.params⟩⟩

end Program

/-! ## What making a companion mints -/

variable {host : Host} {strategy : Strategy} {errorClass : ClassId} {id : CallableId}
  {owner : Option ClassId} {origin : FunctionSymbol} {f : Declaration} {p q q' r : Pools}
  {cs ds : List Companion}

/-- The parameter of a handler is minted while the body is made. -/
theorem Forwarding.run_body_supplies {params : List Parameter}
    (hcopies : params.length = f.params.length) {name : Name} {l : LabelId} {b : Body}
    (h : (body strategy host errorClass f params name).run.run q = .ok (.ok (l, b), q')) :
    CountedBetween q.symbols.params q'.symbols.params (b.handlerParams.map (·.number)) := by
  cases strategy with
  | nullOnThrow =>
    obtain ⟨made, q₁, hmade, h⟩ := Generating.run_bind_eq_ok_iff.1 h
    obtain ⟨heq, rfl⟩ := Generating.run_pure_eq_ok_iff.1 h
    cases heq
    obtain ⟨handler, rfl, hhandler⟩ :=
      run_orNull_eq_ok hcopies (Generating.run_lift_eq_ok_iff.1 hmade)
    have hnumber : handler.symbol.number =
        SymbolSupply.shown (receiverPools f q).2.symbols.params :=
      congrArg ParamSymbol.number hhandler.symbol
    have hsingle : CountedBetween (receiverPools f q).2.symbols.params
        ((receiverPools f q).2.symbols.params + 1) [handler.symbol.number] :=
      hnumber ▸ .singleton _
    exact hsingle.mono (grows_receiverPools f q).params hhandler.minted
  | throwOnNull =>
    cases hconstr : host.noArgConstructor errorClass with
    | none =>
      simp only [body, hconstr] at h
      cases h
    | some constr =>
      simp only [body, hconstr] at h
      obtain ⟨made, q₁, hmade, h⟩ := Generating.run_bind_eq_ok_iff.1 h
      obtain ⟨heq, rfl⟩ := Generating.run_pure_eq_ok_iff.1 h
      cases heq
      obtain ⟨errorType, notNull, rfl, -⟩ :=
        run_orThrow_eq_ok hcopies (Generating.run_lift_eq_ok_iff.1 hmade)
      exact .nil _ _

namespace Companion

/-- The symbols of the companions, and of the parameters that they bind, were minted while the
pools grew from `q` to `q'`, each for itself. -/
structure Supplies (q q' : Pools) (cs : List Companion) : Prop where
  grows : q.Grows q'
  symbol : ∀ c ∈ cs, c.declaration.symbol = c.symbol
  functions : CountedBetween q.symbols.functions q'.symbols.functions
    ((cs.map (·.symbol)).map (·.number))
  params : CountedBetween q.symbols.params q'.symbols.params
    ((cs.flatMap (·.declaration.boundParams)).map (·.number))

namespace Supplies

/-- Whatever is done to the pools, no companions are no companions. -/
theorem nil (h : q.Grows q') : Supplies q q' [] := ⟨h, by simp, .nil _ _, .nil _ _⟩

/-- Companions that are made later share no symbol with those that were made before. -/
theorem append (h : Supplies p q cs) (h' : Supplies q r ds) : Supplies p r (cs ++ ds) where
  grows := h.grows.trans h'.grows
  symbol c hc := (List.mem_append.1 hc).elim (h.symbol c) (h'.symbol c)
  functions := by
    rw [List.map_append, List.map_append]
    exact h.functions.append h'.functions h.grows.functions h'.grows.functions
  params := by
    rw [List.flatMap_append, List.map_append]
    exact h.params.append h'.params h.grows.params h'.grows.params

/-- Nothing is made while the pools grow before. -/
theorem after (h : Supplies q r cs) (hgrows : p.Grows q) : Supplies p r cs := (nil hgrows).append h

/-- Nothing is made while the pools grow afterwards. -/
theorem before (h : Supplies p q cs) (hgrows : q.Grows r) : Supplies p r cs :=
  List.append_nil cs ▸ h.append (nil hgrows)

end Supplies

/-- Making a companion mints its symbols. -/
theorem run_make_supplies {c : Companion}
    (h : (make strategy errorClass host id origin f).run.run q = .ok (.ok c, q')) :
    Supplies q q' [c] := by
  obtain ⟨params, q₁, hparams, h⟩ := Generating.run_bind_eq_ok_iff.1 h
  rw [Generating.run_lift_eq_ok_iff, mintParams_run] at hparams
  cases hparams
  obtain ⟨⟨l, b⟩, q₂, hbody, h⟩ := Generating.run_bind_eq_ok_iff.1 h
  have hhandlers := Forwarding.run_body_supplies (length_copiesFrom _ _) hbody
  obtain ⟨hgrows₂, rfl, hforwards⟩ := Forwarding.run_body_eq_ok (length_copiesFrom _ _) hbody
  obtain ⟨s, q₃, hmint, h⟩ := Generating.run_bind_eq_ok_iff.1 h
  obtain ⟨hgrows₃, rfl, hcount⟩ :=
    Growing.run_mintFunction_eq_ok (Generating.run_lift_eq_ok_iff.1 hmint)
  dsimp only at h
  rw [bindLabel_eq hforwards.labels, pure_bind] at h
  obtain ⟨returnType, q₄, hreturn, h⟩ := Generating.run_bind_eq_ok_iff.1 h
  have hgrows₄ :=
    (Growing.run_withNullability_eq_ok (Generating.run_lift_eq_ok_iff.1 hreturn)).1
  obtain ⟨u, q₅, happrove, h⟩ := Generating.run_bind_eq_ok_iff.1 h
  obtain ⟨-, rfl⟩ := run_approve_eq_ok_iff.1 happrove
  obtain ⟨rfl, rfl⟩ := Generating.run_pure_eq_ok_iff.1 h
  have hgrows := (grows_afterParams q f.params.length).trans hgrows₂
  have hown : CountedBetween q.symbols.params (afterParams q f.params.length).symbols.params
      (((copiesFrom strategy.provenance q.symbols.params f.params).map (·.symbol)).map
        (·.number)) := by
    rw [map_symbol_copiesFrom, List.map_map]
    simpa [Function.comp_def, afterParams] using
      CountedBetween.range q.symbols.params f.params.length
  refine ⟨(hgrows.trans hgrows₃).trans hgrows₄, by simp, ?_, ?_⟩
  · have hsingle : CountedBetween q₂.symbols.functions (q₂.symbols.functions + 1)
        [SymbolSupply.shown q₂.symbols.functions] := .singleton _
    exact hsingle.mono hgrows.functions (hcount ▸ hgrows₄.functions)
  · have hboth := hown.append hhandlers (grows_afterParams q f.params.length).params hgrows₂.params
    have hafter := hboth.mono (Nat.le_refl _) (hgrows₃.trans hgrows₄).params
    simpa only [Declaration.boundParams, Body.handlerParams, List.flatMap_cons, List.flatMap_nil,
      List.append_nil, List.map_append, Option.map_some, Option.getD_some] using hafter

end Companion

/-! ## What a request mints -/

open Companion

namespace Generator

variable {g g' : Generator} {i : CompanionIndex}

theorem run_generateFrom_supplies {made : Option Companion}
    (h : (g.generateFrom i host id owner).run.run q = .ok (.ok made, q')) :
    Supplies q q' made.toList := by
  unfold generateFrom at h
  split at h
  · obtain ⟨rfl, rfl⟩ := Generating.run_pure_eq_ok_iff.1 h
    exact .nil (.refl _)
  · split at h
    · split at h
      · cases h
      · obtain ⟨c, q₁, hmake, h⟩ := Generating.run_bind_eq_ok_iff.1 h
        obtain ⟨rfl, rfl⟩ := Generating.run_pure_eq_ok_iff.1 h
        exact run_make_supplies hmake
    · obtain ⟨rfl, rfl⟩ := Generating.run_pure_eq_ok_iff.1 h
      exact .nil (.refl _)

/-- By induction on the identities: the companion of the first is made before the others. -/
theorem run_generateEach_supplies {ids : List CallableId}
    (h : (g.generateEach i host ids).run.run q = .ok (.ok cs, q')) : Supplies q q' cs := by
  induction ids generalizing q cs with
  | nil =>
    obtain ⟨rfl, rfl⟩ := Generating.run_pure_eq_ok_iff.1 h
    exact .nil (.refl _)
  | cons id rest ih =>
    rw [generateEach] at h
    obtain ⟨first, q₁, hfirst, h⟩ := Generating.run_bind_eq_ok_iff.1 h
    obtain ⟨others, q₂, hothers, h⟩ := Generating.run_bind_eq_ok_iff.1 h
    obtain ⟨rfl, rfl⟩ := Generating.run_pure_eq_ok_iff.1 h
    exact (run_generateFrom_supplies hfirst).append (ih hothers)

theorem run_generate_supplies {made : Option Companion}
    (h : (g.generate host id owner).run q = .ok ((.ok made, g'), q')) :
    Supplies q q' made.toList := by
  obtain ⟨i, q₁, hget, hfrom⟩ := run_generate_eq_ok h
  exact (run_generateFrom_supplies hfrom).after (run_getIndex_keeps hget).1

theorem run_generateAll_supplies
    (h : (g.generateAll host).run q = .ok ((.ok cs, g'), q')) : Supplies q q' cs := by
  obtain ⟨i, q₁, hget, heach⟩ := run_generateAll_eq_ok h
  exact (run_generateEach_supplies heach).after (run_getIndex_keeps hget).1

end Generator

namespace Session

variable {s s' : Session}

theorem run_generateBy_supplies {made : Option Companion}
    (h : (s.generateBy host strategy id owner).run q = .ok ((.ok made, s'), q')) :
    Supplies q q' made.toList := by
  obtain ⟨g, hmade, -⟩ := run_generateBy_eq_ok h
  exact Generator.run_generate_supplies hmade

theorem run_generate_supplies {made : Option Companion}
    (h : (s.generate host id owner).run q = .ok ((.ok made, s'), q')) :
    Supplies q q' made.toList := by
  rcases run_generate_cases h with ⟨-, hfirst⟩ | ⟨s₁, q₁, hfirst, hsecond⟩
  · exact run_generateBy_supplies hfirst
  · exact (run_generateBy_supplies hfirst).append (run_generateBy_supplies hsecond)

theorem run_generateAll_supplies
    (h : (s.generateAll host).run q = .ok ((.ok cs, s'), q')) : Supplies q q' cs := by
  rcases run_generateAll_cases h with
    ⟨e, g, -, heq, -⟩ | ⟨first, g, q₁, second, g', hfirst, hsecond, heq, -⟩
  · cases heq
  · cases second with
    | error e => cases heq
    | ok second =>
      cases heq
      exact (Generator.run_generateAll_supplies hfirst).append
        (Generator.run_generateAll_supplies hsecond)

/-- Whatever a session is asked and whether or not it fails, the companions of the answer get
symbols that were minted for it. -/
theorem run_answer_supplies {request : Request} {a : Answer}
    (h : (s.answer host request).run q = .ok ((a, s'), q')) : Supplies q q' a.companions := by
  have hgrows := onlyGrows_answer _ _ _ _ _ _ h
  cases answered_of_run h with
  | @generate _ _ made hmade =>
    cases made with
    | error e => exact .nil hgrows
    | ok made => exact run_generate_supplies hmade
  | @generateAll made hmade =>
    cases made with
    | error e => exact .nil hgrows
    | ok made => exact run_generateAll_supplies hmade
  | _ => exact .nil hgrows

end Session

/-! ## Whole runs -/

namespace Program

variable {prog : Program}

/-- All that was handed out was minted since the program was there. -/
theorem HandsOut.supplies (h : prog.HandsOut cs q) : Supplies prog.pools q cs := by
  induction h with
  | nothing => exact .nil (.refl _)
  | grow _ hgrows ih => exact ih.before hgrows
  | answer _ _ _ hanswer ih => exact ih.append (Session.run_answer_supplies hanswer)

/-- As long as no counter has come round, companions that were handed out have symbols that nothing
else has: no other companion, and nothing in the program. -/
theorem HandsOut.symbols_disjoint (h : prog.HandsOut cs q) (hminted : prog.SymbolsMinted)
    (hfunctions : q.symbols.functions ≤ SymbolSupply.capacity)
    (hparams : q.symbols.params ≤ SymbolSupply.capacity) :
    (cs.map (·.declaration.symbol)).Nodup ∧
      (cs.flatMap (·.declaration.boundParams)).Nodup ∧
      ∀ c ∈ cs, c.declaration.symbol = c.symbol ∧ c.symbol ∉ prog.functionSymbols ∧
        ∀ s ∈ c.declaration.boundParams, s ∉ prog.paramSymbols := by
  have hsupplies := h.supplies
  have hsymbols : cs.map (·.declaration.symbol) = cs.map (·.symbol) :=
    List.map_congr_left hsupplies.symbol
  refine ⟨hsymbols ▸ (hsupplies.functions.nodup hfunctions).of_map _,
    (hsupplies.params.nodup hparams).of_map _,
    fun c hc => ⟨hsupplies.symbol c hc, fun hs => ?_, fun s hs hused => ?_⟩⟩
  · exact hsupplies.functions.not_handedOut hfunctions (by simpa using ⟨c, hc, rfl⟩)
      (hminted.functions _ hs)
  · exact hsupplies.params.not_handedOut hparams
      (List.mem_map_of_mem (List.mem_flatMap.2 ⟨c, hc, hs⟩)) (hminted.params _ hused)

end Program

/-! ## Two sessions -/

namespace Sample

/-- Asks for the companion that would throw what cannot be made. -/
def askRefused : Session.Request := .generate (.topLevel .empty ⟨19⟩) none

/-- Asks for the companion that answers null. -/
def askMade : Session.Request := .generate (.topLevel .empty ⟨18⟩) none

/-- A session is asked for both companions, and another one for the second of them again. -/
def sessions : Growing (Session.Answer × Session.Answer × Session.Answer) := do
  let host := program.host predicates
  let (first, s) ← (← Session.new missing).answer host askRefused
  let (second, _) ← s.answer host askMade
  let (third, _) ← (← Session.new missing).answer host askMade
  return (first, second, third)

/-- Whether the first companion is refused and the second is made both times, with symbols to
spare. -/
def makesTwice : Bool :=
  match sessions.run program.pools with
  | .ok ((.generate (.error _), .generate (.ok (some _)), .generate (.ok (some _))), q) =>
    q.symbols.functions ≤ SymbolSupply.capacity ∧ q.symbols.params ≤ SymbolSupply.capacity
  | _ => false

theorem makesTwice_sessions : makesTwice = true := by decide +kernel

end Sample

open Sample in
/-- One companion is refused, and then another is made twice, which are two companions. -/
theorem Program.HandsOut.symbols_disjoint_sessions :
    program.SymbolsMinted ∧ ∃ e c c' q,
      sessions.run program.pools =
        .ok ((.generate (.error e), .generate (.ok (some c)), .generate (.ok (some c'))), q) ∧
      program.HandsOut [c, c'] q ∧ q.symbols.functions ≤ SymbolSupply.capacity ∧
      q.symbols.params ≤ SymbolSupply.capacity ∧ c.declaration.symbol ≠ c'.declaration.symbol ∧
      ([c, c'].flatMap (·.declaration.boundParams)).Nodup := by
  have hminted : program.SymbolsMinted := by decide +kernel
  have htwice := makesTwice_sessions
  unfold makesTwice at htwice
  split at htwice
  · next e c c' q hsessions =>
    obtain ⟨s, q₁, hnew, h⟩ := Growing.run_bind_eq_ok_iff.1 hsessions
    obtain ⟨⟨a₁, s₁⟩, q₂, hrefused, h⟩ := Growing.run_bind_eq_ok_iff.1 h
    obtain ⟨⟨a₂, s₂⟩, q₃, hmade, h⟩ := Growing.run_bind_eq_ok_iff.1 h
    obtain ⟨t, q₄, hnew', h⟩ := Growing.run_bind_eq_ok_iff.1 h
    obtain ⟨⟨a₃, t₁⟩, q₅, hagain, h⟩ := Growing.run_bind_eq_ok_iff.1 h
    obtain ⟨heq, rfl⟩ := Growing.run_pure_eq_ok_iff.1 h
    cases heq
    have hfirst : program.HandsOut [] q₂ :=
      (HandsOut.nothing.grow (Session.sound_new (program.host predicates) hnew).1).answer _ _
        hrefused
    have hsecond : program.HandsOut [c] q₃ := hfirst.answer _ _ hmade
    have hthird : program.HandsOut [c, c'] q₅ :=
      (hsecond.grow (Session.sound_new (program.host predicates) hnew').1).answer _ _ hagain
    obtain ⟨hfunctions, hparams⟩ := of_decide_eq_true htwice
    obtain ⟨hsymbols, hbound, -⟩ := hthird.symbols_disjoint hminted hfunctions hparams
    exact ⟨hminted, e, c, c', q₅, hsessions, hthird, hfunctions, hparams, by simpa using hsymbols,
      hbound⟩
  · cases htwice

end Companions
