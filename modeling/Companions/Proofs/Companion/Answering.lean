import Companions.Proofs.Companion.Conversation
import Companions.Proofs.Companion.Rebuilding
import Companions.Proofs.Companion.Wording
set_option autoImplicit false

/-!
# Answers that are alike

Two sessions that began as one and have been asked different things since have different pools, and
perhaps only one of them has its indexes.  They still answer the same: to requests that are alike
they give answers that are alike (`Session.alike_of_answer`), which says that the same texts stand
in both, and that companions in both read the same ever after.  This is so as long as neither has
run out of symbols for parameters; after that a companion may be turned down by the check.

The invariant is that each generator goes on from the same beginning (`Generator.Continues`): its
index, if it has one, was built since.
-/

namespace Companions

variable {host : Host} {strategy : Strategy} {errorClass : ClassId} {p q₀ q q' r r' : Pools}
  {id id' : CallableId} {owner owner' : Option ClassId} {origin : FunctionSymbol}
  {f : Declaration} {c c' : Companion} {i j : CompanionIndex}

/-! ## Work that may end in an error, side by side -/

/-- The message reads the same wherever the pools have grown to. -/
def GenerationError.Settled (q₀ : Pools) (e : GenerationError) : Prop :=
  ∀ q q', q₀.Grows q → q₀.Grows q' → Coincide (e.message q.names) (e.message q'.names)

namespace Generating

variable {α β γ δ : Type}

/-- Both are the same error, or both are answers that are alike. -/
inductive Alike (q₀ : Pools) (R : α → β → Prop) :
    Except GenerationError α → Except GenerationError β → Prop
  | error {e : GenerationError} (settled : e.Settled q₀) : Alike q₀ R (.error e) (.error e)
  | ok {a : α} {b : β} (h : R a b) : Alike q₀ R (.ok a) (.ok b)

theorem Alike.imp {R S : α → β → Prop} (hRS : ∀ a b, R a b → S a b)
    {made : Except GenerationError α} {made' : Except GenerationError β}
    (h : Alike q₀ R made made') : Alike q₀ S made made' := by
  cases h with
  | error settled => exact .error settled
  | ok hab => exact .ok (hRS _ _ hab)

/-- Wherever both come to an end, and neither has run out of symbols for parameters, they end
alike. -/
def Matches (q₀ : Pools) (R : Pools → Pools → α → β → Prop) (x : Generating α) (y : Generating β)
    (q q' : Pools) : Prop :=
  ∀ a r b r', x.run.run q = .ok (a, r) → y.run.run q' = .ok (b, r') →
    r.symbols.params ≤ SymbolSupply.capacity → r'.symbols.params ≤ SymbolSupply.capacity →
      Alike q₀ (R r r') a b

theorem Matches.pure {R : Pools → Pools → α → β → Prop} {a : α} {b : β} (h : R q q' a b) :
    Matches q₀ R (pure a) (pure b) q q' := by
  intro _ _ _ _ hx hy _ _
  cases hx
  cases hy
  exact .ok h

theorem Matches.bind {R : Pools → Pools → α → β → Prop} {S : Pools → Pools → γ → δ → Prop}
    {x : Generating α} {y : Generating β} {g : α → Generating γ} {g' : β → Generating δ}
    (h : Matches q₀ R x y q q') (hgrows : ∀ a, (g a).OnlyGrows) (hgrows' : ∀ b, (g' b).OnlyGrows)
    (hg : ∀ a r b r', x.run.run q = .ok (.ok a, r) → y.run.run q' = .ok (.ok b, r') →
      R r r' a b → Matches q₀ S (g a) (g' b) r r') :
    Matches q₀ S (x >>= g) (y >>= g') q q' := by
  intro made r made' r' hx hy hroom hroom'
  obtain ⟨e, hxe, rfl⟩ | ⟨a, q₁, hxa, hga⟩ := run_bind_cases hx
  · obtain ⟨e', hye, rfl⟩ | ⟨b, q₁', hyb, hgb⟩ := run_bind_cases hy
    · cases h _ _ _ _ hxe hye hroom hroom' with
      | error settled => exact .error settled
    · cases h _ _ _ _ hxe hyb hroom (Nat.le_trans (hgrows' b _ _ _ hgb).params hroom')
  · have hleft := Nat.le_trans (hgrows a _ _ _ hga).params hroom
    obtain ⟨e', hye, rfl⟩ | ⟨b, q₁', hyb, hgb⟩ := run_bind_cases hy
    · cases h _ _ _ _ hxa hye hleft hroom'
    · cases h _ _ _ _ hxa hyb hleft (Nat.le_trans (hgrows' b _ _ _ hgb).params hroom') with
      | ok hab => exact hg a q₁ b q₁' hxa hyb hab _ _ _ _ hga hgb hroom hroom'

end Generating

/-! ## Companions -/

namespace Companion

open Generating

/-- The companions forward to the same function and read the same ever after. -/
structure ReadsAlike (host : Host) (q q' : Pools) (c c' : Companion) : Prop where
  origin : c.origin = c'.origin
  written : ∀ r r', q.Grows r → q'.Grows r' →
    Coincide ((host.printer r).declaration c.declaration)
      ((host.printer r').declaration c'.declaration)

theorem ReadsAlike.mono (h : c.ReadsAlike host q q' c') (hq : q.Grows r) (hq' : q'.Grows r') :
    c.ReadsAlike host r r' c' :=
  ⟨h.origin, fun _ _ hr hr' => h.written _ _ (hq.trans hr) (hq'.trans hr')⟩

/-- That the class cannot be made is said in the same words everywhere. -/
theorem settled_missingNoArgConstructor (hid : ∀ n ∈ id.package :: id.names, q₀.names.Knows n)
    (herror : ∀ n ∈ errorClass.names, q₀.names.Knows n) :
    (GenerationError.missingNoArgConstructor errorClass id).Settled q₀ :=
  fun _ _ hq hq' => (ClassId.alike_of_knows herror hq hq').coincide_display.bind fun _ =>
    (CallableId.alike_of_knows hid hq hq').coincide_display.map _

/-- Companions of one function under identities that are alike read the same, or neither can be
made. -/
theorem make_matches (hhost : host.Legible q₀) (hf : host.declaration origin = some f)
    (herror : ∀ n ∈ errorClass.names, q₀.names.Knows n) (hq : q₀.Grows q) (hq' : q₀.Grows q')
    (hid : id.Alike q q' id') :
    Matches q₀ (ReadsAlike host) (make strategy errorClass host id origin f)
      (make strategy errorClass host id' origin f) q q' := by
  intro made r made' r' h h' hroom hroom'
  by_cases hconstr : strategy = .throwOnNull → host.noArgConstructor errorClass ≠ none
  · have hknown := hhost.known origin f hf
    obtain ⟨c, rfl⟩ :=
      exists_made_of_run hhost.reliable hf (hknown.mono hq) hconstr h hroom
    obtain ⟨c', rfl⟩ :=
      exists_made_of_run hhost.reliable hf (hknown.mono hq') hconstr h' hroom'
    have hmade := run_make_eq_ok h
    have hmade' := run_make_eq_ok h'
    refine .ok ⟨hmade.origin.trans hmade'.origin.symm, fun s s' hs hs' => ?_⟩
    have hgrows := hmade.grows.trans hs
    have hgrows' := hmade'.grows.trans hs'
    exact hmade.coincide_declaration hmade' hs hs' (hq.trans hgrows) (hq'.trans hgrows') hhost hf
      herror (hid.mono hgrows hgrows')
  · obtain ⟨rfl, hnone⟩ : strategy = .throwOnNull ∧ host.noArgConstructor errorClass = none := by
      simpa using hconstr
    rw [run_make_eq_error hnone] at h h'
    cases h
    cases h'
    exact .error (settled_missingNoArgConstructor (hhost.named origin f hf).id herror)

end Companion

/-! ## Generators -/

namespace Generator

open Generating

variable {g₀ g g' : Generator}

/-- What indexes that are alike lead to is alike. -/
theorem generateFrom_matches (hhost : host.Legible q₀)
    (herror : ∀ n ∈ g.errorClass.names, q₀.names.Knows n) (hstrategy : g'.strategy = g.strategy)
    (hclass : g'.errorClass = g.errorClass) (hq : q₀.Grows q) (hq' : q₀.Grows q')
    (hi : i.Sound host strategy.suffix q) (hij : i.Alike q q' j) (hid : id.Alike q q' id')
    (howner : Option.Rel (ClassId.Alike q q') owner owner') :
    Matches q₀ (fun r r' => Option.Rel (Companion.ReadsAlike host r r'))
      (g.generateFrom i host id owner) (g'.generateFrom j host id' owner') q q' := by
  unfold generateFrom
  rw [← hij.originOf? hid, hstrategy, hclass]
  cases horigin : i.originOf? id with
  | none => exact .pure .none
  | some origin =>
    have hiff : id.owner = owner ↔ id'.owner = owner' :=
      Relator.rel_eq (biUnique_optionRel (ClassId.biUnique_alike q q')) hid.owner howner
    obtain ⟨f, -, hf, -⟩ := hi _ (CompanionIndex.mem_entries_of_originOf? horigin)
    by_cases howns : id.owner = owner
    · simp only [if_pos howns, if_pos (hiff.1 howns), hf]
      exact (Companion.make_matches hhost hf herror hq hq' hid).bind (fun _ => .pure _)
        (fun _ => .pure _) fun _ _ _ _ _ _ hc => .pure (.some hc)
    · simp only [if_neg howns, if_neg (mt hiff.2 howns)]
      exact .pure .none

/-- So is all that they lead to. -/
theorem generateEach_matches (hhost : host.Legible q₀)
    (herror : ∀ n ∈ g.errorClass.names, q₀.names.Knows n) (hstrategy : g'.strategy = g.strategy)
    (hclass : g'.errorClass = g.errorClass) (hq : q₀.Grows q) (hq' : q₀.Grows q')
    (hi : i.Sound host strategy.suffix q) (hij : i.Alike q q' j) {ids ids' : List CallableId}
    (hids : List.Forall₂ (CallableId.Alike q q') ids ids') :
    Matches q₀ (fun r r' => List.Forall₂ (Companion.ReadsAlike host r r'))
      (g.generateEach i host ids) (g'.generateEach j host ids') q q' := by
  induction ids generalizing ids' q q' with
  | nil =>
    cases hids
    exact .pure .nil
  | cons id rest ih =>
    cases hids with
    | cons hid hrest =>
    have honly : ∀ (g : Generator) i ids (made : Option Companion), Generating.OnlyGrows (do
        return made.toList ++ (← g.generateEach i host ids)) :=
      fun _ _ _ _ => .bind (onlyGrows_generateEach _ _ _ _) fun _ => .pure _
    refine (generateFrom_matches hhost herror hstrategy hclass hq hq' hi hij hid hid.owner).bind
      (honly g i rest) (honly g' j _) fun made q₁ made' q₁' hmade hmade' hfirst => ?_
    have hgrows := onlyGrows_generateFrom _ _ _ _ _ _ _ _ hmade
    have hgrows' := onlyGrows_generateFrom _ _ _ _ _ _ _ _ hmade'
    refine (ih (hq.trans hgrows) (hq'.trans hgrows') (hi.mono hgrows) (hij.mono hgrows hgrows')
      (hrest.imp fun _ _ h => h.mono hgrows hgrows')).bind (fun _ => .pure _) (fun _ => .pure _)
      fun others q₂ others' q₂' hothers hothers' hall => ?_
    have hgrows₂ := onlyGrows_generateEach _ _ _ _ _ _ _ hothers
    have hgrows₂' := onlyGrows_generateEach _ _ _ _ _ _ _ hothers'
    refine .pure (List.rel_append ?_ hall)
    cases hfirst with
    | some hc => exact .cons (hc.mono hgrows₂ hgrows₂') .nil
    | none => exact .nil

/-- The generator goes on from `g₀`: if it has an index, that was built since the pools were
`q₀`. -/
structure Continues (host : Host) (q₀ q : Pools) (g g₀ : Generator) : Prop where
  grows : q₀.Grows q
  strategy : g.strategy = g₀.strategy
  predicate : g.predicate = g₀.predicate
  errorClass : g.errorClass = g₀.errorClass
  built : ∀ i, g.index.built? = some i → i.BuiltBetween host g₀.strategy g₀.predicate q₀ q

theorem Continues.mono (h : g.Continues host q₀ q g₀) (hgrows : q.Grows r) :
    g.Continues host q₀ r g₀ :=
  ⟨h.grows.trans hgrows, h.strategy, h.predicate, h.errorClass,
    fun i hi => (h.built i hi).mono hgrows⟩

/-- The index that is answered is one that was built since, and it is kept. -/
theorem Continues.getIndex (hg : g.Continues host q₀ q g₀)
    (h : (g.getIndex host).run q = .ok ((i, g'), r)) :
    g'.Continues host q₀ r g₀ ∧ i.BuiltBetween host g₀.strategy g₀.predicate q₀ r := by
  rcases run_getIndex_cases h with ⟨hbuilt, rfl, rfl⟩ | ⟨-, hbuild, rfl⟩
  · exact ⟨hg, hg.built i hbuilt⟩
  · have hgrows := (CompanionIndex.run_build_eq_ok hbuild).1
    rw [hg.strategy, hg.predicate] at hbuild
    have hbetween : i.BuiltBetween host g₀.strategy g₀.predicate q₀ r :=
      ⟨q, r, hg.grows, hbuild, .refl r⟩
    refine ⟨⟨hg.grows.trans hgrows, hg.strategy, hg.predicate, hg.errorClass, ?_⟩, hbetween⟩
    rintro _ ⟨⟩
    exact hbetween

/-- The indexes that two generators answer are alike if they go on from the same beginning. -/
theorem Continues.alike_of_getIndex (hhost : host.Legible q₀) (hg : g.Continues host q₀ q g₀)
    (hg' : g'.Continues host q₀ q' g₀) {made made' : Generator}
    (h : (g.getIndex host).run q = .ok ((i, made), r))
    (h' : (g'.getIndex host).run q' = .ok ((j, made'), r')) : i.Alike r r' j :=
  CompanionIndex.BuiltBetween.alike (fun s d hd => (hhost.named s d hd).id) (hg.getIndex h).2
    (hg'.getIndex h').2

/-- What two generators generate is alike if they go on from the same beginning. -/
theorem Continues.alike_of_generate (hhost : host.Legible q₀)
    (herror : ∀ n ∈ g₀.errorClass.names, q₀.names.Knows n) (hg : g.Continues host q₀ q g₀)
    (hg' : g'.Continues host q₀ q' g₀) (hid : id.Alike q q' id')
    (howner : Option.Rel (ClassId.Alike q q') owner owner')
    {made made' : Except GenerationError (Option Companion)} {g₁ g₁' : Generator}
    (h : (g.generate host id owner).run q = .ok ((made, g₁), r))
    (h' : (g'.generate host id' owner').run q' = .ok ((made', g₁'), r'))
    (hroom : r.symbols.params ≤ SymbolSupply.capacity)
    (hroom' : r'.symbols.params ≤ SymbolSupply.capacity) :
    Alike q₀ (Option.Rel (Companion.ReadsAlike host r r')) made made' := by
  obtain ⟨i, q₁, hget, hfrom⟩ := run_generate_eq_ok h
  obtain ⟨j, q₁', hget', hfrom'⟩ := run_generate_eq_ok h'
  have hgrows := (run_getIndex_keeps hget).1
  have hgrows' := (run_getIndex_keeps hget').1
  obtain ⟨hg₁, hi⟩ := hg.getIndex hget
  obtain ⟨hg₁', -⟩ := hg'.getIndex hget'
  exact generateFrom_matches hhost (hg₁.errorClass ▸ herror)
    (hg₁'.strategy.trans hg₁.strategy.symm) (hg₁'.errorClass.trans hg₁.errorClass.symm) hg₁.grows
    hg₁'.grows hi.sound (hg.alike_of_getIndex hhost hg' hget hget') (hid.mono hgrows hgrows')
    (optionRel_imp (fun _ _ hc => hc.mono hgrows hgrows') howner) _ _ _ _ hfrom hfrom' hroom hroom'

theorem Continues.alike_of_generateAll (hhost : host.Legible q₀)
    (herror : ∀ n ∈ g₀.errorClass.names, q₀.names.Knows n) (hg : g.Continues host q₀ q g₀)
    (hg' : g'.Continues host q₀ q' g₀)
    {made made' : Except GenerationError (List Companion)} {g₁ g₁' : Generator}
    (h : (g.generateAll host).run q = .ok ((made, g₁), r))
    (h' : (g'.generateAll host).run q' = .ok ((made', g₁'), r'))
    (hroom : r.symbols.params ≤ SymbolSupply.capacity)
    (hroom' : r'.symbols.params ≤ SymbolSupply.capacity) :
    Alike q₀ (List.Forall₂ (Companion.ReadsAlike host r r')) made made' := by
  obtain ⟨i, q₁, hget, hmade⟩ := run_generateAll_eq_ok h
  obtain ⟨j, q₁', hget', hmade'⟩ := run_generateAll_eq_ok h'
  obtain ⟨hg₁, hi⟩ := hg.getIndex hget
  obtain ⟨hg₁', -⟩ := hg'.getIndex hget'
  have hij := hg.alike_of_getIndex hhost hg' hget hget'
  exact generateEach_matches hhost (hg₁.errorClass ▸ herror)
    (hg₁'.strategy.trans hg₁.strategy.symm) (hg₁'.errorClass.trans hg₁.errorClass.symm) hg₁.grows
    hg₁'.grows hi.sound hij hij.identities _ _ _ _ hmade hmade' hroom hroom'

end Generator

/-! ## Sessions -/

namespace Session

open Generating

variable {s₀ s s' s₁ s₁' : Session}

/-- Both generators go on from those of `s₀`. -/
def Continues (host : Host) (q₀ q : Pools) (s s₀ : Session) : Prop :=
  Keeps (fun strategy q g => g.Continues host q₀ q (s₀.generator strategy)) q s

theorem lasts_continues (host : Host) (q₀ : Pools) (s₀ : Session) :
    Lasts host fun strategy q g => g.Continues host q₀ q (s₀.generator strategy) :=
  ⟨fun _ _ _ _ hgrows h => h.mono hgrows, fun _ _ _ _ _ _ h hget => (h.getIndex hget).1⟩

theorem Continues.mono (h : s.Continues host q₀ q s₀) (hgrows : q.Grows r) :
    s.Continues host q₀ r s₀ :=
  fun strategy => (h strategy).mono hgrows

/-- The class that is thrown has a name. -/
def ErrorNamed (q : Pools) (s : Session) : Prop :=
  ∀ strategy, ∀ n ∈ (s.generator strategy).errorClass.names, q.names.Knows n

/-- What is asked for is the same, in names that are alike. -/
inductive Request.Alike (q q' : Pools) : Request → Request → Prop
  | index (strategy : Strategy) : Alike q q' (.index strategy) (.index strategy)
  | topLevel : Alike q q' .topLevel .topLevel
  | namesIn {c c' : ClassId} (h : c.Alike q q' c') : Alike q q' (.namesIn c) (.namesIn c')
  | collisions : Alike q q' .collisions .collisions
  | generate {id id' : CallableId} {owner owner' : Option ClassId} (hid : id.Alike q q' id')
      (howner : Option.Rel (ClassId.Alike q q') owner owner') :
      Alike q q' (.generate id owner) (.generate id' owner')
  | generateAll : Alike q q' .generateAll .generateAll

/-- What is answered is the same, in names that are alike, and companions read the same. -/
inductive Answer.Alike (host : Host) (q₀ q q' : Pools) : Answer → Answer → Prop
  | index {i j : CompanionIndex} (h : i.Alike q q' j) : Alike host q₀ q q' (.index i) (.index j)
  | topLevel {ids ids' : List CallableId} (h : List.Forall₂ (CallableId.Alike q q') ids ids') :
      Alike host q₀ q q' (.topLevel ids) (.topLevel ids')
  | namesIn {names names' : List Name} (h : List.Forall₂ (Name.Alike q q') names names') :
      Alike host q₀ q q' (.namesIn names) (.namesIn names')
  | collisions {found found' : List Collision}
      (h : List.Forall₂ (Collision.Alike q q') found found') :
      Alike host q₀ q q' (.collisions found) (.collisions found')
  | generate {made made' : Except GenerationError (Option Companion)}
      (h : Generating.Alike q₀ (Option.Rel (Companion.ReadsAlike host q q')) made made') :
      Alike host q₀ q q' (.generate made) (.generate made')
  | generateAll {made made' : Except GenerationError (List Companion)}
      (h : Generating.Alike q₀ (List.Forall₂ (Companion.ReadsAlike host q q')) made made') :
      Alike host q₀ q q' (.generateAll made) (.generateAll made')

/-- Answers that are alike stay alike. -/
theorem Answer.Alike.mono {a a' : Answer} (h : a.Alike host q₀ q q' a') (hq : q.Grows r)
    (hq' : q'.Grows r') : a.Alike host q₀ r r' a' := by
  cases h with
  | index h => exact .index (h.mono hq hq')
  | topLevel h => exact .topLevel (h.imp fun _ _ hid => hid.mono hq hq')
  | namesIn h => exact .namesIn (h.imp fun _ _ hn => hn.mono hq hq')
  | collisions h => exact .collisions (h.imp fun _ _ hc => hc.mono hq hq')
  | generate h =>
    exact .generate (h.imp fun _ _ => optionRel_imp fun _ _ hc => hc.mono hq hq')
  | generateAll h => exact .generateAll (h.imp fun _ _ hc => hc.imp fun _ _ hc => hc.mono hq hq')

section Beside

variable (hhost : host.Legible q₀) (hs : s.Continues host q₀ q s₀)
  (hs' : s'.Continues host q₀ q' s₀)

include hhost hs hs'

theorem Continues.alike_of_index (h : (s.index host strategy).run q = .ok ((i, s₁), r))
    (h' : (s'.index host strategy).run q' = .ok ((j, s₁'), r')) : i.Alike r r' j := by
  obtain ⟨g, hget, rfl⟩ := run_index_eq_ok h
  obtain ⟨g', hget', rfl⟩ := run_index_eq_ok h'
  exact (hs strategy).alike_of_getIndex hhost (hs' strategy) hget hget'

theorem Continues.alike_of_indexes {both both' : CompanionIndex × CompanionIndex}
    (h : (s.indexes host).run q = .ok ((both, s₁), r))
    (h' : (s'.indexes host).run q' = .ok ((both', s₁'), r')) :
    both.1.Alike r r' both'.1 ∧ both.2.Alike r r' both'.2 := by
  obtain ⟨s₂, q₁, hfirst, hsecond⟩ := run_indexes_eq_ok h
  obtain ⟨s₂', q₁', hfirst', hsecond'⟩ := run_indexes_eq_ok h'
  have hlasts := lasts_continues host q₀ s₀
  have hs₂ : s₂.Continues host q₀ q₁ s₀ := Keeps.index hlasts hs hfirst
  have hs₂' : s₂'.Continues host q₀ q₁' s₀ := Keeps.index hlasts hs' hfirst'
  exact ⟨(alike_of_index hhost hs hs' hfirst hfirst').mono (onlyGrows_index _ _ _ _ _ _ hsecond)
      (onlyGrows_index _ _ _ _ _ _ hsecond'), alike_of_index hhost hs₂ hs₂' hsecond hsecond'⟩

variable (herror : s₀.ErrorNamed q₀) (hroom : r.symbols.params ≤ SymbolSupply.capacity)
  (hroom' : r'.symbols.params ≤ SymbolSupply.capacity)

include herror hroom hroom'

theorem Continues.alike_of_generateBy {made made' : Except GenerationError (Option Companion)}
    (hid : id.Alike q q' id') (howner : Option.Rel (ClassId.Alike q q') owner owner')
    (h : (s.generateBy host strategy id owner).run q = .ok ((made, s₁), r))
    (h' : (s'.generateBy host strategy id' owner').run q' = .ok ((made', s₁'), r')) :
    Generating.Alike q₀ (Option.Rel (Companion.ReadsAlike host r r')) made made' := by
  obtain ⟨g, hmade, rfl⟩ := run_generateBy_eq_ok h
  obtain ⟨g', hmade', rfl⟩ := run_generateBy_eq_ok h'
  exact (hs strategy).alike_of_generate hhost (herror strategy) (hs' strategy) hid howner hmade
    hmade' hroom hroom'

theorem Continues.alike_of_generate {made made' : Except GenerationError (Option Companion)}
    (hid : id.Alike q q' id') (howner : Option.Rel (ClassId.Alike q q') owner owner')
    (h : (s.generate host id owner).run q = .ok ((made, s₁), r))
    (h' : (s'.generate host id' owner').run q' = .ok ((made', s₁'), r')) :
    Generating.Alike q₀ (Option.Rel (Companion.ReadsAlike host r r')) made made' := by
  have hlasts := lasts_continues host q₀ s₀
  obtain ⟨hanswered, hfirst⟩ | ⟨s₂, q₁, hfirst, hsecond⟩ := run_generate_cases h
  · obtain ⟨-, hfirst'⟩ | ⟨s₂', q₁', hfirst', hsecond'⟩ := run_generate_cases h'
    · exact alike_of_generateBy hhost hs hs' herror hroom hroom' hid howner hfirst hfirst'
    · have hleft' := Nat.le_trans (onlyGrows_generateBy _ _ _ _ _ _ _ _ hsecond').params hroom'
      cases alike_of_generateBy hhost hs hs' herror hroom hleft' hid howner hfirst hfirst' with
      | ok hmade =>
        cases hmade
        exact absurd rfl hanswered
  · have hleft := Nat.le_trans (onlyGrows_generateBy _ _ _ _ _ _ _ _ hsecond).params hroom
    obtain ⟨hanswered', hfirst'⟩ | ⟨s₂', q₁', hfirst', hsecond'⟩ := run_generate_cases h'
    · cases alike_of_generateBy hhost hs hs' herror hleft hroom' hid howner hfirst hfirst' with
      | ok hmade =>
        cases hmade
        exact absurd rfl hanswered'
    · -- both ask the second strategy
      have hgrows := onlyGrows_generateBy _ _ _ _ _ _ _ _ hfirst
      have hgrows' := onlyGrows_generateBy _ _ _ _ _ _ _ _ hfirst'
      exact alike_of_generateBy hhost (Keeps.generateBy hlasts hs hfirst)
        (Keeps.generateBy hlasts hs' hfirst') herror hroom hroom' (hid.mono hgrows hgrows')
        (optionRel_imp (fun _ _ hc => hc.mono hgrows hgrows') howner) hsecond hsecond'

theorem Continues.alike_of_generateAll {made made' : Except GenerationError (List Companion)}
    (h : (s.generateAll host).run q = .ok ((made, s₁), r))
    (h' : (s'.generateAll host).run q' = .ok ((made', s₁'), r')) :
    Generating.Alike q₀ (List.Forall₂ (Companion.ReadsAlike host r r')) made made' := by
  obtain ⟨e, g, hfirst, rfl, -⟩ | ⟨first, g, q₁, second, g₂, hfirst, hsecond, rfl, -⟩ :=
    run_generateAll_cases h
  · obtain ⟨e', g', hfirst', rfl, -⟩ | ⟨first', g', q₁', second', g₂', hfirst', hsecond', rfl, -⟩ :=
      run_generateAll_cases h'
    · cases (hs .nullOnThrow).alike_of_generateAll hhost (herror .nullOnThrow) (hs' .nullOnThrow)
        hfirst hfirst' hroom hroom' with
      | error settled => exact .error settled
    · have hleft' := Nat.le_trans (Generator.onlyGrows_generateAll _ _ _ _ _ hsecond').params hroom'
      cases (hs .nullOnThrow).alike_of_generateAll hhost (herror .nullOnThrow) (hs' .nullOnThrow)
        hfirst hfirst' hroom hleft'
  · have hleft := Nat.le_trans (Generator.onlyGrows_generateAll _ _ _ _ _ hsecond).params hroom
    obtain ⟨e', g', hfirst', rfl, -⟩ | ⟨first', g', q₁', second', g₂', hfirst', hsecond', rfl, -⟩ :=
      run_generateAll_cases h'
    · cases (hs .nullOnThrow).alike_of_generateAll hhost (herror .nullOnThrow) (hs' .nullOnThrow)
        hfirst hfirst' hleft hroom'
    · have hleft' := Nat.le_trans (Generator.onlyGrows_generateAll _ _ _ _ _ hsecond').params hroom'
      have hgrows₁ := Generator.onlyGrows_generateAll _ _ _ _ _ hfirst
      have hgrows₁' := Generator.onlyGrows_generateAll _ _ _ _ _ hfirst'
      have hgrows₂ := Generator.onlyGrows_generateAll _ _ _ _ _ hsecond
      have hgrows₂' := Generator.onlyGrows_generateAll _ _ _ _ _ hsecond'
      cases (hs .nullOnThrow).alike_of_generateAll hhost (herror .nullOnThrow) (hs' .nullOnThrow)
        hfirst hfirst' hleft hleft' with
      | ok hnull =>
      cases ((hs .throwOnNull).mono hgrows₁).alike_of_generateAll hhost (herror .throwOnNull)
        ((hs' .throwOnNull).mono hgrows₁') hsecond hsecond' hroom hroom' with
      | error settled => exact .error settled
      | ok hthrow =>
        exact .ok (List.rel_append (hnull.imp fun _ _ hc => hc.mono hgrows₂ hgrows₂') hthrow)

/-- Requests that are alike are answered alike, whatever the sessions have been asked since they
were one. -/
theorem Continues.alike_of_answer {request request' : Request} {a a' : Answer}
    (hrequest : request.Alike q q' request')
    (h : (s.answer host request).run q = .ok ((a, s₁), r))
    (h' : (s'.answer host request').run q' = .ok ((a', s₁'), r')) : a.Alike host q₀ r r' a' := by
  have hgrows := onlyGrows_answer _ _ _ _ _ _ h
  have hgrows' := onlyGrows_answer _ _ _ _ _ _ h'
  cases hrequest with
  | index strategy =>
    obtain ⟨hindex⟩ := answered_of_run h
    obtain ⟨hindex'⟩ := answered_of_run h'
    exact .index (alike_of_index hhost hs hs' hindex hindex')
  | topLevel =>
    obtain _ | ⟨hindexes⟩ := answered_of_run h
    obtain _ | ⟨hindexes'⟩ := answered_of_run h'
    obtain ⟨hnull, hthrow⟩ := alike_of_indexes hhost hs hs' hindexes hindexes'
    exact .topLevel (forall₂_eraseDups (CallableId.biUnique_alike r r')
      (List.rel_append hnull.topLevel hthrow.topLevel))
  | namesIn hc =>
    obtain _ | _ | ⟨hindexes⟩ := answered_of_run h
    obtain _ | _ | ⟨hindexes'⟩ := answered_of_run h'
    obtain ⟨hnull, hthrow⟩ := alike_of_indexes hhost hs hs' hindexes hindexes'
    have hc := hc.mono hgrows hgrows'
    exact .namesIn (forall₂_eraseDups (Name.biUnique_alike r r')
      (List.rel_append (hnull.namesIn hc) (hthrow.namesIn hc)))
  | collisions =>
    obtain _ | _ | _ | ⟨hindexes⟩ := answered_of_run h
    obtain _ | _ | _ | ⟨hindexes'⟩ := answered_of_run h'
    obtain ⟨hnull, hthrow⟩ := alike_of_indexes hhost hs hs' hindexes hindexes'
    exact .collisions (List.rel_append hnull.collisions hthrow.collisions)
  | generate hid howner =>
    cases answered_of_run h with
    | generate hmade =>
    cases answered_of_run h' with
    | generate hmade' =>
    exact .generate (alike_of_generate hhost hs hs' herror hroom hroom' hid howner hmade hmade')
  | generateAll =>
    cases answered_of_run h with
    | generateAll hmade =>
    cases answered_of_run h' with
    | generateAll hmade' =>
    exact .generateAll (alike_of_generateAll hhost hs hs' herror hroom hroom' hmade hmade')

end Beside

end Session

end Companions
