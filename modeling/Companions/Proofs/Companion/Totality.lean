import Companions.Proofs.Companion.Conversation
import Companions.Proofs.Companion.Meaning
set_option autoImplicit false

/-!
# Sessions always answer

A session answers every request, with an error if need be, as soon as the host's declarations have
names, return types that are known, and no more parameters than a span can count (`Host.Ready`).
Nothing is asked of the parameters: a companion that does not mirror them is turned down by the
check, and the check of a body that was made comes to an end.
-/

namespace Companions

/-- What making a companion reads of the function is known, apart from its parameters. -/
structure Declaration.HeaderKnown (f : Declaration) (q : Pools) : Prop where
  name : ∃ text, q.names.text? f.id.name = some text
  returnType : q.types.contains f.returnType = true
  length : f.params.length ≤ Body.maxListLength

theorem Declaration.SignatureKnown.headerKnown {f : Declaration} {q : Pools}
    (h : f.SignatureKnown q) : f.HeaderKnown q :=
  ⟨h.name, h.returnType, h.length⟩

/-- Companions can be made of all declarations of the host. -/
structure Host.Ready (host : Host) (q : Pools) : Prop where
  throwable : q.types.contains host.builtins.throwable = true
  header : ∀ s f, host.declaration s = some f → f.HeaderKnown q

variable {host : Host} {q q' : Pools} {strategy : Strategy} {errorClass : ClassId}
  {f : Declaration}

theorem Host.Ready.mono (h : host.Ready q) (hgrows : q.Grows q') : host.Ready q' where
  throwable := hgrows.contains h.throwable
  header s f hf := by
    obtain ⟨⟨text, htext⟩, hreturn, hlen⟩ := h.header s f hf
    exact ⟨⟨text, hgrows.names _ _ htext⟩, hgrows.contains hreturn, hlen⟩

theorem Host.Ready.namesKnown (h : host.Ready q) : CompanionIndex.NamesKnown host q :=
  fun s f hf => (h.header s f hf).name

namespace Generating

variable {α β : Type}

/-- The work comes to an end, in an answer or in an error. -/
def Ends (work : Generating α) (q : Pools) : Prop := ∃ r q', work.run.run q = .ok (r, q')

theorem Ends.pure (a : α) (q : Pools) : Ends (pure a : Generating α) q := ⟨_, _, rfl⟩

theorem Ends.throw (e : GenerationError) (q : Pools) : Ends (throw e : Generating α) q :=
  ⟨_, _, rfl⟩

theorem Ends.bind {x : Generating α} {g : α → Generating β} (hx : x.Ends q)
    (hg : ∀ a q', x.run.run q = .ok (.ok a, q') → (g a).Ends q') : (x >>= g).Ends q := by
  obtain ⟨r, q', hrun⟩ := hx
  cases r with
  | error e => exact ⟨_, _, run_bind_of_error hrun⟩
  | ok a =>
    obtain ⟨r, q'', hrest⟩ := hg a q' hrun
    exact ⟨r, q'', (run_bind_of_ok hrun).trans hrest⟩

end Generating

namespace Companion

open Forwarding Generating

/-- A body that forwards leads nowhere twice, and all its spans are in range. -/
theorem runnable_of_forwards {params : List Parameter} {label : Label} {b : Body}
    (hcopies : params.length = f.params.length)
    (hthrowable : q.types.contains host.builtins.throwable = true)
    (h : Forwards host errorClass f params label q strategy b) : b.Runnable q.types := by
  cases h with
  | orNull hself hname htype _ => exact runnable_orNullBody hcopies (htype ▸ hthrowable)
  | orThrow hself hfound herror htype => exact runnable_orThrowBody hcopies

/-- The approval of a declaration comes to an end if the check of its body does. -/
theorem ends_approve (id : CallableId) {d : Declaration}
    (hbody : ∀ b, d.body = some b → b.Acyclic ∧ b.SpansFit) : (approve host id d f).Ends q := by
  obtain ⟨verdict, hrun⟩ :=
    Surroundings.exists_run_check ⟨host.toLookup, q.types⟩ d f hbody
  have hget : (get : Generating Pools).run.run q = .ok (.ok q, q) := rfl
  rw [Ends, approve, run_bind_of_ok hget]
  dsimp only
  rw [hrun]
  cases verdict with
  | error reason => exact ⟨_, _, rfl⟩
  | ok u => exact ⟨_, _, rfl⟩

/-- Making a companion comes to an end. -/
theorem ends_make (id : CallableId) (origin : FunctionSymbol) (hhost : host.Ready q)
    (hf : f.HeaderKnown q) : (make strategy errorClass host id origin f).Ends q := by
  by_cases hconstr : strategy = .throwOnNull → host.noArgConstructor errorClass ≠ none
  · obtain ⟨c, b, q', hgrows, hbody, hparams, -, -, hforwards, hrun⟩ :=
      exists_run_make_eq_approve id origin hf.length hf.returnType hconstr
    have hcopies : c.declaration.params.length = f.params.length := by
      rw [hparams, length_copiesFrom]
    have hthrowable := ((grows_afterParams q f.params.length).trans hgrows).contains hhost.throwable
    have hrunnable := runnable_of_forwards hcopies hthrowable hforwards
    have happrove : (approve host id c.declaration f).Ends q' := by
      refine ends_approve id fun b' hb' => ?_
      rw [hbody] at hb'
      cases hb'
      exact ⟨hrunnable.acyclic, hrunnable.spans⟩
    rw [Ends, hrun]
    exact happrove.bind fun _ q' _ => .pure c q'
  · obtain ⟨rfl, hnone⟩ : strategy = .throwOnNull ∧ host.noArgConstructor errorClass = none := by
      simpa using hconstr
    exact ⟨_, _, run_make_eq_error hnone⟩

end Companion

namespace Generator

open Generating

theorem ends_generateFrom (hhost : host.Ready q) (g : Generator) (i : CompanionIndex)
    (id : CallableId) (owner : Option ClassId) : (g.generateFrom i host id owner).Ends q := by
  unfold generateFrom
  split
  · exact .pure _ q
  · next origin _ =>
    split
    · split
      · exact .throw _ q
      · next f hf =>
        have hmake : (Companion.make g.strategy g.errorClass host id origin f).Ends q :=
          Companion.ends_make id origin hhost (hhost.header origin f hf)
        exact hmake.bind fun c q' _ => .pure _ q'
    · exact .pure _ q

theorem ends_generateEach (hhost : host.Ready q) (g : Generator) (i : CompanionIndex)
    (ids : List CallableId) : (g.generateEach i host ids).Ends q := by
  induction ids generalizing q with
  | nil => exact .pure _ q
  | cons id rest ih =>
    refine (ends_generateFrom hhost g i id id.owner).bind fun made q₁ hmade => ?_
    have hgrows := onlyGrows_generateFrom _ _ _ _ _ _ _ _ hmade
    exact (ih (hhost.mono hgrows)).bind fun others q₂ _ => .pure _ q₂

theorem exists_run_generate (hhost : host.Ready q) (g : Generator) (id : CallableId)
    (owner : Option ClassId) :
    ∃ made g' q', (g.generate host id owner).run q = .ok ((made, g'), q') := by
  obtain ⟨i, g', q₁, hget⟩ := exists_run_getIndex hhost.namesKnown g
  obtain ⟨made, q₂, hmade⟩ :=
    ends_generateFrom (hhost.mono (run_getIndex_keeps hget).1) g' i id owner
  refine ⟨made, g', q₂, ?_⟩
  rw [generate, Growing.run_bind_of_ok hget]
  exact Growing.run_bind_of_ok hmade

theorem exists_run_generateAll (hhost : host.Ready q) (g : Generator) :
    ∃ made g' q', (g.generateAll host).run q = .ok ((made, g'), q') := by
  obtain ⟨i, g', q₁, hget⟩ := exists_run_getIndex hhost.namesKnown g
  obtain ⟨made, q₂, hmade⟩ :=
    ends_generateEach (hhost.mono (run_getIndex_keeps hget).1) g' i i.identities
  refine ⟨made, g', q₂, ?_⟩
  rw [generateAll, Growing.run_bind_of_ok hget]
  exact Growing.run_bind_of_ok hmade

end Generator

namespace Session

theorem exists_run_index (hnames : CompanionIndex.NamesKnown host q) (s : Session)
    (strategy : Strategy) : ∃ i s' q', (s.index host strategy).run q = .ok ((i, s'), q') := by
  obtain ⟨i, g, q', hget⟩ := Generator.exists_run_getIndex hnames (s.generator strategy)
  exact ⟨i, _, q', Growing.run_bind_of_ok hget⟩

theorem exists_run_indexes (hnames : CompanionIndex.NamesKnown host q) (s : Session) :
    ∃ both s' q', (s.indexes host).run q = .ok ((both, s'), q') := by
  obtain ⟨i, s₁, q₁, hfirst⟩ := exists_run_index hnames s .nullOnThrow
  have hgrows := onlyGrows_index _ _ _ _ _ _ hfirst
  obtain ⟨j, s₂, q₂, hsecond⟩ := exists_run_index (hnames.mono hgrows) s₁ .throwOnNull
  refine ⟨(i, j), s₂, q₂, ?_⟩
  rw [indexes, Growing.run_bind_of_ok hfirst]
  exact Growing.run_bind_of_ok hsecond

theorem exists_run_generate (hhost : host.Ready q) (s : Session) (id : CallableId)
    (owner : Option ClassId) :
    ∃ made s' q', (s.generate host id owner).run q = .ok ((made, s'), q') := by
  obtain ⟨made, g, q₁, hfirst⟩ := Generator.exists_run_generate hhost s.orNull id owner
  have hgrows := Generator.onlyGrows_generate _ _ _ _ _ _ _ hfirst
  have hfirst' : (s.generateBy host .nullOnThrow id owner).run q =
      .ok ((made, { s with orNull := g }), q₁) := Growing.run_bind_of_ok hfirst
  rcases made with e | c | c
  · exact ⟨_, _, _, Growing.run_bind_of_ok hfirst'⟩
  · obtain ⟨made, g', q₂, hsecond⟩ :=
      Generator.exists_run_generate (hhost.mono hgrows) s.orThrow id owner
    refine ⟨made, ⟨g, g'⟩, q₂, ?_⟩
    rw [generate, Growing.run_bind_of_ok hfirst']
    exact Growing.run_bind_of_ok hsecond
  · exact ⟨_, _, _, Growing.run_bind_of_ok hfirst'⟩

theorem exists_run_generateAll (hhost : host.Ready q) (s : Session) :
    ∃ made s' q', (s.generateAll host).run q = .ok ((made, s'), q') := by
  obtain ⟨made, g, q₁, hfirst⟩ := Generator.exists_run_generateAll hhost s.orNull
  have hgrows := Generator.onlyGrows_generateAll _ _ _ _ _ hfirst
  cases made with
  | error e => exact ⟨_, _, _, Growing.run_bind_of_ok hfirst⟩
  | ok first =>
    obtain ⟨second, g', q₂, hsecond⟩ :=
      Generator.exists_run_generateAll (hhost.mono hgrows) s.orThrow
    refine ⟨second.map (first ++ ·), ⟨g, g'⟩, q₂, ?_⟩
    rw [generateAll, Growing.run_bind_of_ok hfirst]
    exact Growing.run_bind_of_ok hsecond

/-- A session answers every request. -/
theorem exists_run_answer (hhost : host.Ready q) (s : Session) (request : Request) :
    ∃ a s' q', (s.answer host request).run q = .ok ((a, s'), q') := by
  have hindexes := exists_run_indexes hhost.namesKnown s
  cases request with
  | index strategy =>
    obtain ⟨i, s', q', h⟩ := exists_run_index hhost.namesKnown s strategy
    exact ⟨_, _, _, Growing.run_bind_of_ok h⟩
  | topLevel =>
    obtain ⟨both, s', q', h⟩ := hindexes
    exact ⟨_, _, _, Growing.run_bind_of_ok (Growing.run_bind_of_ok h)⟩
  | namesIn c =>
    obtain ⟨both, s', q', h⟩ := hindexes
    exact ⟨_, _, _, Growing.run_bind_of_ok (Growing.run_bind_of_ok h)⟩
  | collisions =>
    obtain ⟨both, s', q', h⟩ := hindexes
    exact ⟨_, _, _, Growing.run_bind_of_ok (Growing.run_bind_of_ok h)⟩
  | generate id owner =>
    obtain ⟨made, s', q', h⟩ := exists_run_generate hhost s id owner
    exact ⟨_, _, _, Growing.run_bind_of_ok h⟩
  | generateAll =>
    obtain ⟨made, s', q', h⟩ := exists_run_generateAll hhost s
    exact ⟨_, _, _, Growing.run_bind_of_ok h⟩

/-- However long it is, a conversation goes on to its end. -/
theorem exists_run_converse (hhost : host.Ready q) (s : Session) (requests : List Request) :
    ∃ answered s' q', (s.converse host requests).run q = .ok ((answered, s'), q') ∧
      answered.map (·.1) = requests := by
  induction requests generalizing s q with
  | nil => exact ⟨[], s, q, rfl, rfl⟩
  | cons r rest ih =>
    obtain ⟨a, s₁, q₁, hanswer⟩ := exists_run_answer hhost s r
    have hgrows := onlyGrows_answer _ _ _ _ _ _ hanswer
    obtain ⟨answered, s₂, q₂, hrest, hmap⟩ := ih (hhost.mono hgrows) s₁
    refine ⟨(r, a) :: answered, s₂, q₂, ?_, congrArg (r :: ·) hmap⟩
    rw [converse, Growing.run_bind_of_ok hanswer]
    exact Growing.run_bind_of_ok hrest

end Session

end Companions
