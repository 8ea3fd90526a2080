import Companions.Proofs.Eval.Approved
import Companions.Proofs.Source.Writing
set_option autoImplicit false

/-!
# What an approval leaves open

Nothing out of range is read when an approved function is run or written, as far as the check looks.
It looks at the types of the nodes that it walks past, at their spans and at what they refer to.  It
does not look at the types of handlers, at the type that the function answers, or at the handlers of
nodes that no path leads to, where writing looks for the names of parameters.  These are the things
that have to be known besides (`Surroundings.safe_of_approved`).
-/

namespace Companions

/-- No call of a function that `d` calls faults, unless it asks for an unknown name. -/
def Interpreter.Ending (m : Interpreter)
    (call : Declaration → Option Value → List Value → Outcome) (d : Declaration) : Prop :=
  ∀ callee d' target values fault, d.Calls callee → m.declaration? callee = some d' →
    call d' target values = .error fault → m.program.pools.names.Lacks fault

namespace Surroundings

variable {s : Surroundings} {d other : Declaration} {b : Body} {m : Interpreter}

/-- The types of parameters are known if those of the parameters that they repeat are. -/
theorem contains_of_repeats {types : TypePool} {provenance : Provenance}
    {params others : List Parameter}
    (h : List.Forall₂ (fun own theirs => own.Repeats theirs provenance) params others)
    (hothers : ∀ p ∈ others, types.contains p.type = true) :
    ∀ p ∈ params, types.contains p.type = true := by
  induction h with
  | nil => exact hothers
  | cons hfirst _ ih =>
    obtain ⟨hknown, hrest⟩ := List.forall_mem_cons.1 hothers
    exact List.forall_mem_cons.2 ⟨hfirst.type ▸ hknown, ih hrest⟩

/-- Evaluating a safe body comes to an end if the calls do and the types of its handlers are known.
Only the message of an error may ask for an unknown name. -/
theorem BodySafe.exists_eval_eq_ok (h : s.BodySafe d b) (hbody : d.body = some b)
    (hhandlers : d.HandlersKnown m.program.pools.types)
    {call : Declaration → Option Value → List Value → Outcome} (hcall : m.Ending call d)
    (self : Option Value) (l : Locals) :
    (∃ r l', (m.eval call b self (m.budget b) b.root).run.run l = .ok (r, l')) ∨
      ∃ fault, (m.eval call b self (m.budget b) b.root).run.run l = .error fault ∧
        m.program.pools.names.Lacks fault := by
  have hkeeps : Evaluating.Keeps (m.Tolerates False) (fun _ => True) (fun _ => True)
      (m.eval call b self (m.budget b) b.root) := by
    refine h.eval_keeps (P := fun _ _ => True) hbody ?_ (fun _ => hhandlers)
      (fun _ _ _ _ _ _ _ _ _ => trivial) fun _ _ _ => ⟨fun _ _ _ => trivial, fun _ _ => trivial⟩
    exact fun callee d' target values fault hcalls found hfault =>
      .inr (hcall callee d' target values fault hcalls found hfault)
  rcases hkeeps l trivial with ⟨fault, hrun, hfalse | hlacks⟩ | ⟨r, l', hrun, -⟩
  · exact hfalse.elim
  · exact .inr ⟨fault, hrun, hlacks⟩
  · exact .inl ⟨r, l', hrun⟩

/-- A safe body reads what is there when it is written, if the types of its handlers are known. -/
theorem BodySafe.reads (h : s.BodySafe d b) (hbody : d.body = some b) {w : Printer}
    (hhandlers : d.HandlersKnown w.types) {scope : List ParamSymbol} {e : ExprRef} {x : Expr}
    (hpath : b.Path (d.params.map (·.symbol)) b.root scope e) (hx : b.node? e = some x) :
    w.Reads b x.form := by
  refine ⟨h.spans scope e x hpath hx, fun handler hlisted => ?_⟩
  exact hhandlers b hbody scope handler ⟨e, x, hpath, hx, hlisted⟩

/-- An approved function whose handlers are of known types runs, whatever it is called on and
whatever the calls that it makes end in, and it is written if the types of its signature are known
too and all handlers of its body are in range.  Neither asks for a node, a list or a type that is not
there; running it may ask for a name that is not, in the message of an error. -/
theorem safe_of_approved (happroved : (s.check d other).run = .ok (.ok ()))
    (hhandlers : d.HandlersKnown s.types) :
    ∃ b, d.body = some b ∧
      (∀ m : Interpreter, m.program.pools.types = s.types → ∀ call, m.Ending call d →
        ∀ self l,
          (∃ r l', (m.eval call b self (m.budget b) b.root).run.run l = .ok (r, l')) ∨
            ∃ fault, (m.eval call b self (m.budget b) b.root).run.run l = .error fault ∧
              m.program.pools.names.Lacks fault) ∧
      ((∀ p ∈ other.params, s.types.contains p.type = true) →
        s.types.contains d.returnType = true → b.HandlersFit →
        ∀ w : Printer, w.types = s.types → d.NamesKnown w.names → w.Writes (w.declaration d)) := by
  obtain ⟨b, hbody, hsafe⟩ := exists_bodySafe happroved
  refine ⟨b, hbody, ?_, ?_⟩
  · intro m htypes call hcall self l
    exact hsafe.exists_eval_eq_ok hbody (htypes ▸ hhandlers) hcall self l
  · intro hparams hreturn hfit w htypes hnames
    rw [← htypes] at hhandlers hreturn
    have hown := contains_of_repeats (repeats_of_check happroved) hparams
    rw [← htypes] at hown
    exact Printer.writes_declaration hnames hbody hown hreturn hfit
      (fun scope e x hpath hx => hsafe.reads hbody hhandlers hpath hx) hsafe.depth

end Surroundings

/-! ## A function that is approved too soon -/

namespace Sample

/-- Throws a new object, and answers it from a handler of the given type.  Before all that, no path
leads to a `try` with the given handlers. -/
def hastyBody (caught : TypeId) (stray : Span .handlers) : Body where
  nodes := #[⟨.attempt none stray, .any⟩, ⟨.new ⟨0⟩ .empty, .any⟩, ⟨.raise (some ⟨1⟩), .nothing⟩,
    ⟨.param ⟨2⟩, .any⟩, ⟨.attempt (some ⟨2⟩) ⟨0, 1⟩, .any⟩]
  statements := #[]
  arguments := #[]
  handlers := #[⟨⟨⟨2⟩, .empty, caught, .none, .source⟩, some ⟨3⟩⟩]
  labels := #[]
  root := some ⟨4⟩

/-- The function with that body, which says that it answers values of a given type. -/
def hasty (caught answered : TypeId) (stray : Span .handlers) : Declaration :=
  { textFunction ⟨1⟩ ⟨1⟩ (some (hastyBody caught stray)) with returnType := answered }

/-- Runs functions that call no others. -/
def alone : Interpreter := .new .empty

theorem namesKnown_hasty (names : NameTable) (caught answered : TypeId) (stray : Span .handlers) :
    (hasty caught answered stray).NamesKnown names := by
  have hempty : names.Knows .empty := ⟨"", names.empty_first⟩
  refine ⟨?_, ?_, ?_⟩
  · intro n hn
    have hn : n ∈ [Name.empty, Name.empty] := hn
    simp only [List.mem_cons, List.not_mem_nil, or_false, or_self] at hn
    exact hn ▸ hempty
  · intro p hp
    cases List.mem_singleton.1 hp
    exact hempty
  · rintro _ ⟨⟩
    refine ⟨?_, fun l hl => absurd hl (Array.not_mem_empty l), ?_⟩
    · intro x hx n hn
      simp only [hastyBody, List.mem_toArray, List.mem_cons, List.not_mem_nil, or_false] at hx
      rcases hx with rfl | rfl | rfl | rfl | rfl <;> cases hn
    · intro h hh
      simp only [hastyBody, List.mem_toArray, List.mem_cons, List.not_mem_nil, or_false] at hh
      exact hh ▸ hempty

/-- The function is approved, its body is acyclic, and its names are known. -/
def Accepted (d : Declaration) : Prop :=
  (alone.surroundings.check d original).run = .ok (.ok ()) ∧
    (∀ b, d.body = some b → b.Acyclic) ∧ d.NamesKnown alone.program.pools.names

theorem accepted_hasty {caught answered : TypeId} {stray : Span .handlers}
    (happroved : (alone.surroundings.check (hasty caught answered stray) original).run = .ok (.ok ()))
    (hdescends : (hastyBody caught stray).Descends) : Accepted (hasty caught answered stray) := by
  refine ⟨happroved, ?_, namesKnown_hasty _ _ _ _⟩
  rintro _ ⟨⟩
  exact hdescends.acyclic

end Sample

open Sample in
/-- With a handler for all that can be thrown, the function is run and written. -/
theorem Surroundings.safe_of_approved_hasty :
    ((alone.surroundings.check (hasty Program.empty.builtins.throwable .string .empty)
        original).run = .ok (.ok ()) ∧
      (hasty Program.empty.builtins.throwable .string .empty).HandlersKnown
        alone.surroundings.types) ∧
    ∃ b, (hasty Program.empty.builtins.throwable .string .empty).body = some b ∧
      (∃ r l', (alone.eval (alone.invoke 0) b none (alone.budget b) b.root).run.run .empty =
        .ok (r, l')) ∧
      alone.program.printer.Writes (alone.program.printer.declaration
        (hasty Program.empty.builtins.throwable .string .empty)) := by
  have happroved : (alone.surroundings.check (hasty Program.empty.builtins.throwable .string .empty)
      original).run = .ok (.ok ()) := by decide +kernel
  have hhandlers : (hasty Program.empty.builtins.throwable .string .empty).HandlersKnown
      alone.surroundings.types := by
    refine .of_all ?_
    rintro _ ⟨⟩
    decide +kernel
  obtain ⟨b, hbody, hrun, hwrite⟩ := safe_of_approved happroved hhandlers
  have hending : alone.Ending (alone.invoke 0)
      (hasty Program.empty.builtins.throwable .string .empty) :=
    fun _ _ _ _ _ _ found => by cases found
  have hfit : b.HandlersFit := by
    cases hbody
    intro x hx block handlers hform
    simp only [hastyBody, List.mem_toArray, List.mem_cons, List.not_mem_nil, or_false] at hx
    rcases hx with rfl | rfl | rfl | rfl | rfl <;> cases hform <;> decide
  have hends : ∃ r l', (alone.eval (alone.invoke 0) b none (alone.budget b) b.root).run.run .empty =
      .ok (r, l') := by
    refine (hrun alone rfl _ hending none .empty).resolve_right ?_
    rintro ⟨fault, hfault, -⟩
    cases hbody
    have hok : ((alone.eval (alone.invoke 0)
        (hastyBody Program.empty.builtins.throwable .empty) none
        (alone.budget (hastyBody Program.empty.builtins.throwable .empty))
        (hastyBody Program.empty.builtins.throwable .empty).root).run.run .empty).toBool = true := by
      decide +kernel
    rw [hfault] at hok
    cases hok
  exact ⟨⟨happroved, hhandlers⟩, b, hbody, hends,
    hwrite (by decide +kernel) (by decide +kernel) hfit _ rfl (namesKnown_hasty _ _ _ _)⟩

open Sample in
/-- The check approves functions that read what is not there: one with a handler of an unknown type
when it is run and when it is written, one that answers an unknown type when it is written, and
so one whose body holds a `try` that no path leads to. -/
theorem faults_of_approved :
    (Accepted (hasty ⟨99⟩ .string .empty) ∧
      alone.invoke 1 (hasty ⟨99⟩ .string .empty) none [.null] = .error (.unknownType ⟨99⟩) ∧
      alone.program.printer.declaration (hasty ⟨99⟩ .string .empty) =
        .error (.unknownType ⟨99⟩)) ∧
    (Accepted (hasty Program.empty.builtins.throwable ⟨99⟩ .empty) ∧
      alone.program.printer.declaration (hasty Program.empty.builtins.throwable ⟨99⟩ .empty) =
        .error (.unknownType ⟨99⟩)) ∧
    (Accepted (hasty Program.empty.builtins.throwable .string ⟨1, 1⟩) ∧
      alone.program.printer.declaration
          (hasty Program.empty.builtins.throwable .string ⟨1, 1⟩) =
        .error (.spanOutOfRange .handlers 1 1)) := by
  refine ⟨⟨accepted_hasty (by decide +kernel) (by decide), ?_, ?_⟩,
    ⟨accepted_hasty (by decide +kernel) (by decide), ?_⟩,
    ⟨accepted_hasty (by decide +kernel) (by decide), ?_⟩⟩
  all_goals decide +kernel

end Companions
