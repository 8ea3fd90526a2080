import Companions.Proofs.Companion.Answers
import Companions.Proofs.Companion.Replies
import Companions.Proofs.Companion.Totality
set_option autoImplicit false

/-!
# The order of requests

Over a program whose signatures are known and named, what a query is replied is settled when the
session begins (`Session.exists_settled`).  It does not depend on what else is asked, nor on how
often it is asked, nor on what has failed before, as long as there are symbols left for the
parameters of companions.
-/

namespace Companions

variable {host : Host} {q₀ q q' r r' : Pools} {config : Config}

/-! ## Names that are known from the beginning -/

/-- The names of a path that was read are known. -/
theorem ClassId.knows_ofPath (names : NameTable) (path : String) :
    ∀ n ∈ (ofPath names path).1.names, (ofPath names path).2.Knows n := by
  intro n hn
  obtain ⟨hpackage, hname⟩ := spells_ofPath names path
  rcases List.mem_pair.1 hn with rfl | rfl
  · exact ⟨_, hpackage⟩
  · exact ⟨_, hname⟩

/-- The class of everything that can be thrown has a name in every program. -/
theorem Program.Reachable.knows_throwableClass {p : Program} (hp : p.Reachable) :
    ∀ n ∈ p.builtins.throwableClass.names, p.pools.names.Knows n := by
  induction hp with
  | empty => exact ClassId.knows_ofPath .fresh throwablePath
  | step _ last ih =>
    rw [last.builtins]
    exact fun n hn => (ih n hn).mono last.grows

/-- A program that comes up with signatures that are known and named, and with named classes, is a
legible host. -/
theorem Program.Reachable.legible {p : Program} (hp : p.Reachable)
    (hknown : ∀ d ∈ p.declarations, d.SignatureKnown p.pools ∧ d.SignatureNamed p.pools)
    (hnamed : ∀ k ∈ p.constructors, ∀ n ∈ k.type.names, p.pools.names.Knows n) (registry : Registry) :
    (p.host registry).Legible p.pools where
  reliable := hp.sound.reliable registry
  known _ _ hf := (hknown _ (mem_of_declaration? hf)).1
  named _ _ hf := (hknown _ (mem_of_declaration? hf)).2
  throwable := ⟨_, hp.sound.throwable, hp.knows_throwableClass⟩
  constr _ _ hs := by
    obtain ⟨d, -, hd, hmem, -⟩ := noArgConstructor?_eq_some hs
    obtain ⟨k, hk, -⟩ := hp.sound.constructors _ d _ hd hmem
    exact ⟨k, hk, hnamed k (List.mem_of_find?_eq_some hk)⟩

theorem Host.Legible.ready (h : host.Legible q) : host.Ready q where
  throwable := by
    obtain ⟨t, ht, -⟩ := h.throwable
    exact TypePool.contains_iff.2 ⟨t, ht⟩
  header s f hf := (h.known s f hf).headerKnown

namespace Session

variable {s₀ s s' : Session} {k : Query}

/-! ## New sessions -/

/-- A session begins, knows what its error class is called, and has no index yet. -/
theorem exists_run_new (config : Config) (host : Host) (p : Pools) :
    ∃ s₀ q₀, (Session.new config).run p = .ok (s₀, q₀) ∧ p.Grows q₀ ∧ s₀.ErrorNamed q₀ ∧
      s₀.Continues host q₀ q₀ s₀ := by
  obtain ⟨errorClass, q₁, hclass⟩ :
      ∃ c q₁, (Growing.classId config.errorClass).run p = .ok (c, q₁) := ⟨_, _, rfl⟩
  obtain ⟨orNull, q₂, hnull⟩ :
      ∃ m q₂, (Growing.predicate config .nullOnThrow).run q₁ = .ok (m, q₂) := ⟨_, _, rfl⟩
  obtain ⟨orThrow, q₃, hthrow⟩ :
      ∃ m q₃, (Growing.predicate config .throwOnNull).run q₂ = .ok (m, q₃) := ⟨_, _, rfl⟩
  have hrun : (Session.new config).run p =
      .ok (⟨.new .nullOnThrow orNull errorClass, .new .throwOnNull orThrow errorClass⟩, q₃) := by
    rw [new, Growing.run_bind_of_ok hclass, Growing.run_bind_of_ok hnull,
      Growing.run_bind_of_ok hthrow]
    rfl
  have hgrows : q₁.Grows q₃ := by
    cases hnull
    cases hthrow
    exact (Growing.grows_internMarkers _ _).trans (Growing.grows_internMarkers _ _)
  refine ⟨_, q₃, hrun, (sound_new host hrun).1, fun strategy n hn => ?_, fun strategy => ?_⟩
  · refine NameTable.Knows.mono ?_ hgrows
    cases hclass
    cases strategy <;> exact ClassId.knows_ofPath _ _ n hn
  · refine ⟨.refl _, rfl, rfl, rfl, fun i hi => ?_⟩
    cases strategy <;> cases hi

/-! ## What is settled -/

/-- A session that goes on from `s₀` answers every query, and goes on. -/
theorem Continues.exists_run_ask (hhost : host.Legible q₀) (hs : s.Continues host q₀ q s₀)
    (k : Query) :
    ∃ a s' r, (s.ask host k).run q = .ok ((a, s'), r) ∧ s'.Continues host q₀ r s₀ := by
  obtain ⟨request, q₁, hread⟩ := k.exists_run_read q
  have hgrows := Query.onlyGrows_read k _ _ _ hread
  have hready := (hhost.mono ((hs .nullOnThrow).grows.trans hgrows)).ready
  obtain ⟨a, s', r, hanswer⟩ := exists_run_answer hready s request
  exact ⟨a, s', r, (Growing.run_bind_of_ok hread).trans hanswer,
    Keeps.answer (lasts_continues host q₀ s₀) (hs.mono hgrows) hanswer⟩

/-- Two sessions that go on from `s₀` answer a query alike, if neither runs out of symbols. -/
theorem Continues.alike_of_ask {a a' : Answer} {s₁ s₁' : Session} (hhost : host.Legible q₀)
    (herror : s₀.ErrorNamed q₀) (hs : s.Continues host q₀ q s₀) (hs' : s'.Continues host q₀ q' s₀)
    (h : (s.ask host k).run q = .ok ((a, s₁), r))
    (h' : (s'.ask host k).run q' = .ok ((a', s₁'), r'))
    (hroom : r.symbols.params ≤ SymbolSupply.capacity)
    (hroom' : r'.symbols.params ≤ SymbolSupply.capacity) : a.Alike host q₀ r r' a' := by
  obtain ⟨request, q₁, hread, hanswer⟩ := Growing.run_bind_eq_ok_iff.1 h
  obtain ⟨request', q₁', hread', hanswer'⟩ := Growing.run_bind_eq_ok_iff.1 h'
  have hgrows := Query.onlyGrows_read k _ _ _ hread
  have hgrows' := Query.onlyGrows_read k _ _ _ hread'
  exact alike_of_answer hhost (hs.mono hgrows) (hs'.mono hgrows') herror hroom hroom'
    (Query.alike_of_read hread hread') hanswer hanswer'

/-- What is written for a query is settled when the session begins: whatever the session has been
asked since, its answer is written the same, whenever it is written. -/
theorem exists_settled (hhost : host.Legible q₀) (herror : s₀.ErrorNamed q₀) (k : Query) :
    ∃ written, ∀ (s : Session) (q : Pools) (a : Answer) (s' : Session) (r r' : Pools),
      s.Continues host q₀ q s₀ → (s.ask host k).run q = .ok ((a, s'), r) →
        r.symbols.params ≤ SymbolSupply.capacity → r.Grows r' →
          (host.printer r').answer a = .ok written := by
  by_cases hany : ∃ (s : Session) (q : Pools) (a : Answer) (s' : Session) (r : Pools),
      s.Continues host q₀ q s₀ ∧ (s.ask host k).run q = .ok ((a, s'), r) ∧
        r.symbols.params ≤ SymbolSupply.capacity
  · -- any session that has symbols left says what is written
    obtain ⟨s₁, q₁, a₁, s₁', r₁, hs₁, hask₁, hroom₁⟩ := hany
    have hr₁ := (hs₁ .nullOnThrow).grows.trans (onlyGrows_ask s₁ host k _ _ _ hask₁)
    obtain ⟨written, hwritten, -⟩ := Printer.coincide_answer host hr₁ hr₁
      (hs₁.alike_of_ask hhost herror hs₁ hask₁ hask₁ hroom₁ hroom₁)
    refine ⟨written, fun s q a s' r r' hs hask hroom hr => ?_⟩
    have hq := (hs .nullOnThrow).grows.trans (onlyGrows_ask s host k _ _ _ hask)
    obtain ⟨same, hsame, hsame₁⟩ := Printer.coincide_answer host (hq.trans hr) hr₁
      ((hs.alike_of_ask hhost herror hs₁ hask hask₁ hroom hroom₁).mono hr (.refl r₁))
    rw [hwritten] at hsame₁
    cases hsame₁
    exact hsame
  · exact ⟨.texts [], fun s q a s' r r' hs hask hroom _ =>
      absurd ⟨s, q, a, s', r, hs, hask, hroom⟩ hany⟩

/-- If for every query it is settled what is written, a session answers queries one after another,
and what is settled is written for them. -/
theorem exists_run_askEach {settled : Query → Reply} (hhost : host.Legible q₀)
    (hsettled : ∀ (k : Query) (s : Session) (q : Pools) (a : Answer) (s' : Session) (r r' : Pools),
      s.Continues host q₀ q s₀ → (s.ask host k).run q = .ok ((a, s'), r) →
        r.symbols.params ≤ SymbolSupply.capacity → r.Grows r' →
          (host.printer r').answer a = .ok (settled k))
    (hs : s.Continues host q₀ q s₀) (queries : List Query) :
    ∃ answers s' r, (s.askEach host queries).run q = .ok ((answers, s'), r) ∧ q.Grows r ∧
      (r.symbols.params ≤ SymbolSupply.capacity →
        ∀ r', r.Grows r' → answers.mapM (host.printer r').answer = .ok (queries.map settled)) := by
  induction queries generalizing s q with
  | nil => exact ⟨[], s, q, rfl, .refl q, fun _ _ _ => rfl⟩
  | cons k rest ih =>
    obtain ⟨a, s₁, q₁, hask, hs₁⟩ := hs.exists_run_ask hhost k
    obtain ⟨answers, s', r, hrest, hgrows, hwritten⟩ := ih hs₁
    have hbefore : q.Grows q₁ := onlyGrows_ask s host k _ _ _ hask
    refine ⟨a :: answers, s', r, ?_, hbefore.trans hgrows, fun hroom r' hr' => ?_⟩
    · rw [askEach, Growing.run_bind_of_ok hask]
      exact Growing.run_bind_of_ok hrest
    · have hfirst := hsettled k s q a s₁ q₁ r' hs hask (Nat.le_trans hgrows.params hroom)
        (hgrows.trans hr')
      rw [List.mapM_cons, hfirst, hwritten hroom r' hr']
      rfl

/-- For every query it is settled what a new session replies: whatever it is asked before and
besides, and however that ends, the query is answered, and the answer is written the same, whenever
it is written, if the symbols of parameters have not run out. -/
theorem interview_settled {p : Program} (hp : p.Reachable)
    (hknown : ∀ d ∈ p.declarations, d.SignatureKnown p.pools ∧ d.SignatureNamed p.pools)
    (hnamed : ∀ k ∈ p.constructors, ∀ n ∈ k.type.names, p.pools.names.Knows n)
    (config : Config) (registry : Registry) :
    ∃ settled : Query → Reply, ∀ queries, ∃ answers q,
      (Session.interview config (p.host registry) queries).run p.pools = .ok (answers, q) ∧
        (q.symbols.params ≤ SymbolSupply.capacity → ∀ r, q.Grows r →
          answers.mapM ((p.host registry).printer r).answer = .ok (queries.map settled)) := by
  obtain ⟨s₀, q₀, hrun, hgrows, herror, hnew⟩ :=
    exists_run_new config (p.host registry) p.pools
  have hhost := (hp.legible hknown hnamed registry).mono hgrows
  choose settled hsettled using exists_settled hhost herror
  refine ⟨settled, fun queries => ?_⟩
  obtain ⟨answers, s', q, hasked, -, hwritten⟩ := exists_run_askEach hhost hsettled hnew queries
  refine ⟨answers, q, ?_, hwritten⟩
  rw [interview, Growing.run_bind_of_ok hrun]
  exact Growing.run_bind_of_ok hasked

end Session

/-! ## The sample -/

namespace Sample

/-- The class to throw is one that nobody declares. -/
def missing : Config := { Config.standard with errorClass := "Missing" }

/-- What a new session of the configuration asks the host for. -/
def predicates : Registry :=
  match (Session.new missing).run program.pools with
  | .ok (s, _) => ⟨[s.orNull.predicate, s.orThrow.predicate]⟩
  | .error _ => .empty

/-- Asks for the companion of the first function. -/
def askLoad : Session.Query := .generate ⟨"", none, "loadOrNull"⟩ none

/-- Asks for the companion of the second function. -/
def askFind : Session.Query := .generate ⟨"", none, "findOrThrow"⟩ none

/-- What the session writes of a companion that it cannot make. -/
def refusal : Session.Reply :=
  .failed "`Missing` has no zero-argument constructor; cannot synthesize `find`"

/-- What the session writes of a companion that it makes. -/
def loadText : Session.Reply :=
  .made [(⟨0⟩, "public fun loadOrNull(text: String): String? \x7b\n    try \x7b\n        " ++
    "return@loadOrNull load(text)\n    \x7d catch (e: kotlin.Throwable) \x7b\n        " ++
    "return@loadOrNull null\n    \x7d\n\x7d")]

/-- What is written for the queries by a new session of the configuration. -/
def written (p : Program) (queries : List Session.Query) : Option (List Session.Reply) :=
  match (Session.interview missing (p.host predicates) queries).run p.pools with
  | .ok (answers, q) =>
    if q.symbols.params ≤ SymbolSupply.capacity then
      (answers.mapM ((p.host predicates).printer q).answer).toOption
    else none
  | .error _ => none

theorem written_program : written program [askFind, askLoad] = some [refusal, loadText] := by
  decide +kernel

theorem named : ∀ d ∈ program.declarations,
    d.SignatureKnown program.pools ∧ d.SignatureNamed program.pools := by decide +kernel

theorem classesNamed : ∀ k ∈ program.constructors, ∀ n ∈ k.type.names,
    program.pools.names.Knows n := by decide +kernel

end Sample

open Sample in
/-- One companion is made and another is refused, wherever they are asked for. -/
theorem Session.interview_settled_missing :
    program.Reachable ∧
      (∀ d ∈ program.declarations,
        d.SignatureKnown program.pools ∧ d.SignatureNamed program.pools) ∧
      (∀ k ∈ program.constructors, ∀ n ∈ k.type.names, program.pools.names.Knows n) ∧
      ∃ settled : Query → Reply, settled askFind = refusal ∧ settled askLoad = loadText ∧
        ∀ queries, ∃ answers q,
          (interview missing (program.host predicates) queries).run program.pools =
              .ok (answers, q) ∧
            (q.symbols.params ≤ SymbolSupply.capacity → ∀ r, q.Grows r →
              answers.mapM ((program.host predicates).printer r).answer =
                .ok (queries.map settled)) := by
  obtain ⟨settled, hsettled⟩ :=
    interview_settled program_reachable named classesNamed missing predicates
  obtain ⟨answers, q, hrun, hwritten⟩ := hsettled [askFind, askLoad]
  have heq := written_program
  simp only [written, hrun] at heq
  split at heq
  · next hroom =>
    rw [hwritten hroom q (.refl q)] at heq
    have hboth : [settled askFind, settled askLoad] = [refusal, loadText] := Option.some.inj heq
    rw [List.cons.injEq, List.cons.injEq] at hboth
    exact ⟨program_reachable, named, classesNamed, settled, hboth.1, hboth.2.1, hsettled⟩
  · cases heq

namespace Sample

/-- The program once the counter of parameters shows what it showed at first. -/
def spent : Program :=
  { program with pools := { program.pools with
    symbols := { program.pools.symbols with params := SymbolSupply.capacity } } }

theorem run_mintParams_program :
    (Growing.times Growing.mintParam (SymbolSupply.capacity - 2)).run program.pools =
      .ok ((), spent.pools) := by
  have hcount : program.pools.symbols.params + (SymbolSupply.capacity - 2) =
      SymbolSupply.capacity := by decide +kernel
  rw [Growing.run_times_mintParam, hcount, spent]

/-- What is written when the same companion is asked for twice, over the spent program. -/
def writtenTwice : Option (List Session.Reply) :=
  match (Session.interview missing (spent.host predicates) [askLoad, askLoad]).run spent.pools with
  | .ok (answers, q) => (answers.mapM ((spent.host predicates).printer q).answer).toOption
  | .error _ => none

/-- What the session writes of a companion that the check turns down. -/
def turnedDown : Session.Reply :=
  .failed "synthesized `loadOrNull` is malformed: parameter 0 does not mirror the original"

theorem writtenTwice_eq : writtenTwice = some [turnedDown, loadText] := by decide +kernel

end Sample

open Sample in
/-- Once the counter of parameters has come round, a parameter of a companion gets the symbol of the
parameter that it stands for, and the companion is turned down.  Asked for again, it is made. -/
theorem Session.interview_spent :
    (Growing.times Growing.mintParam (SymbolSupply.capacity - 2)).run program.pools =
        .ok ((), spent.pools) ∧
      spent.Reachable ∧
      (∀ d ∈ spent.declarations, d.SignatureKnown spent.pools ∧ d.SignatureNamed spent.pools) ∧
      (∀ k ∈ spent.constructors, ∀ n ∈ k.type.names, spent.pools.names.Knows n) ∧
      turnedDown ≠ loadText ∧
      ∃ answers q, (interview missing (spent.host predicates) [askLoad, askLoad]).run spent.pools =
          .ok (answers, q) ∧
        answers.mapM ((spent.host predicates).printer q).answer = .ok [turnedDown, loadText] := by
  have hspent : program.pools.Grows spent.pools :=
    Growing.OnlyGrows.times .mintParam _ _ _ _ run_mintParams_program
  refine ⟨run_mintParams_program, program_reachable.grow hspent, by decide +kernel,
    by decide +kernel, nofun, ?_⟩
  have heq := writtenTwice_eq
  unfold writtenTwice at heq
  split at heq
  · next answers q hrun =>
    refine ⟨answers, q, hrun, ?_⟩
    revert heq
    cases answers.mapM ((spent.host predicates).printer q).answer with
    | error fault => exact nofun
    | ok replies => exact fun heq => congrArg Except.ok (Option.some.inj heq)
  · cases heq

end Companions
