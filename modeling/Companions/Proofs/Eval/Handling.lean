import Companions.Proofs.Eval.Opening
import Companions.Proofs.Eval.Watching
import Companions.Proofs.Program.Ancestry
set_option autoImplicit false

/-!
# Where an exception goes

Whatever unwinds from an expression leaves every expression around it, up to a `try`.  A `try` stops
an exception that one of its handlers takes, and the handler runs in the place of the `try`: what it
ends in is what the `try` ends in.  Nothing else stops what unwinds.  So an exception comes to the
innermost `try` with a handler that takes it, and an exception from that handler is one that leaves
that `try`: it is on its way to the ones further out (`Frame.reaches_of_nest`).
-/

namespace Companions

namespace Interpreter

/-! ## What a handler takes -/

/-- The handler's type is the type, nullable or not, of a class that the exception's class is or
inherits from. -/
def Takes (m : Interpreter) (h : Handler) (exception : Value) : Prop :=
  ∃ c nullability d, m.program.pools.types.get? h.param.type = some ⟨.object c, nullability⟩ ∧
    exception.class? = some d ∧ m.program.Inherits d c

variable {m : Interpreter} {exception : Value} {h : Handler} {handlers before after : List Handler}

theorem mem_classesOf_iff {c : ClassId} :
    c ∈ m.classesOf exception ↔ ∃ d, exception.class? = some d ∧ m.program.Inherits d c := by
  rw [classesOf]
  cases exception.class? with
  | none => simp
  | some d =>
    simp only [Option.some.injEq, exists_eq_left']
    rw [← Program.isSubclass_iff_inherits, Program.isSubclass, List.contains_iff_mem]

/-- A handler whose type is known accepts what it takes. -/
theorem accepts_eq_true_iff (hknown : m.program.pools.types.contains h.param.type = true) :
    m.accepts (m.classesOf exception) h = .ok true ↔ m.Takes h exception := by
  obtain ⟨⟨kind, nullability⟩, htype⟩ := TypePool.contains_iff.1 hknown
  cases kind with
  | object c =>
    have haccepts : m.accepts (m.classesOf exception) h =
        .ok ((m.classesOf exception).contains c) := by
      simp [accepts, TypePool.classOf, TypePool.get, htype, bind, Except.bind, pure, Except.pure]
    simp [haccepts, Takes, htype, mem_classesOf_iff]
  | _ =>
    simp [accepts, TypePool.classOf, TypePool.get, Takes, htype, bind, Except.bind, pure,
      Except.pure]

/-- Handlers that do not take the exception are passed over. -/
theorem handlerFor_append
    (hknown : ∀ h ∈ before, m.program.pools.types.contains h.param.type = true)
    (hbefore : ∀ h ∈ before, ¬ m.Takes h exception) :
    m.handlerFor exception (before ++ after) = m.handlerFor exception after := by
  induction before with
  | nil => rfl
  | cons first rest ih =>
    obtain ⟨hfirst, hrest⟩ := List.forall_mem_cons.1 hknown
    obtain ⟨hnot, hothers⟩ := List.forall_mem_cons.1 hbefore
    obtain ⟨a, ha⟩ := accepts_ok (m.classesOf exception) hfirst
    cases a with
    | true => exact absurd ((accepts_eq_true_iff hfirst).1 ha) hnot
    | false =>
      rw [← ih hrest hothers, handlerFor, List.cons_append, firstAccepting, ha]
      rfl

theorem handlerFor_cons (hknown : m.program.pools.types.contains h.param.type = true)
    (htakes : m.Takes h exception) : m.handlerFor exception (h :: after) = .ok (some h) := by
  rw [handlerFor, firstAccepting, (accepts_eq_true_iff hknown).2 htakes]
  rfl

/-- Either no handler takes what unwinds, or it is an exception and one of them is the first that
does. -/
theorem forall_not_or_first_takes (m : Interpreter) (u : Unwind) (handlers : List Handler) :
    (∀ exception, u = .thrown exception → ∀ h ∈ handlers, ¬ m.Takes h exception) ∨
      ∃ exception before h after, u = .thrown exception ∧ handlers = before ++ h :: after ∧
        (∀ h' ∈ before, ¬ m.Takes h' exception) ∧ m.Takes h exception := by
  classical
  cases u with
  | thrown exception =>
    cases hfind : handlers.find? (fun h => decide (m.Takes h exception)) with
    | none =>
      refine .inl fun _ hu => ?_
      cases hu
      simpa using hfind
    | some h =>
      obtain ⟨htakes, before, after, hsplit, hbefore⟩ := List.find?_eq_some_iff_append.1 hfind
      exact .inr ⟨exception, before, h, after, rfl, hsplit, by simpa using hbefore,
        of_decide_eq_true htakes⟩
  | _ => exact .inl nofun

end Interpreter

/-! ## Nests -/

/-- The evaluation of a `try` from some standing.  What it refers to is evaluated at most `fuel`
nodes deep. -/
structure Attempt where
  place : ExprRef
  block : ExprRef
  handlers : List Handler
  fuel : Nat
  standing : Standing

namespace Attempt

/-- The `try` is evaluated. -/
def visit (t : Attempt) : Visit := ⟨t.place, t.fuel + 1, t.standing⟩

/-- The block is evaluated. -/
def inside (t : Attempt) (active : List FunctionSymbol) : Visit :=
  ⟨t.block, t.fuel, t.standing.noting active t.place⟩

/-- A handler runs after an exception has left the block. -/
def handling (t : Attempt) (h : Handler) (exception : Value) (s : Standing) : Visit :=
  ⟨h.block, t.fuel, s.entering h exception⟩

end Attempt

namespace Frame

/-- The place of the `try` holds it. -/
def Holds (F : Frame) (t : Attempt) : Prop :=
  ∃ span type, F.body.node? t.place = some ⟨.attempt t.block span, type⟩ ∧
    F.body.readHandlers span = .ok t.handlers

/-- A node evaluates the place `c`, where the standing is `s'` by then, and no `try` is between. -/
inductive Leads (F : Frame) (fuel : Nat) (form : ExprForm) (s : Standing) :
    ExprRef → Standing → Prop
  /-- All that comes before the place has a value. -/
  | inOrder {before after : List ExprRef} {c : ExprRef} {values : List Value} {s' : Standing}
      (listed : F.body.inOrder form = before ++ c :: after)
      (evaluated : watch (before.mapM (F.go fuel)) s = .ok (.ok values, s')) :
      F.Leads fuel form s c s'
  /-- The value of the first place asks for the place. -/
  | chosen {first : ExprRef} {c : ExprId} {v : Value} {s' : Standing}
      (listed : F.body.inOrder form = [first])
      (evaluated : watch (F.go fuel first) s = .ok (.ok v, s'))
      (chosen : form.chosen v = some c) : F.Leads fuel form s (some c) s'

/-- The evaluation of `top` comes to a visit inside the blocks of these `try`s, the innermost
first. -/
inductive Nest (F : Frame) (top : Visit) : List Attempt → Visit → Prop
  | top : F.Nest top [] top
  | node {tries : List Attempt} {place c : ExprRef} {fuel : Nat} {s s' : Standing} {x : Expr}
      (outer : F.Nest top tries ⟨place, fuel + 1, s⟩) (node : F.body.node? place = some x)
      (leads : F.Leads fuel x.form (s.noting F.active place) c s') :
      F.Nest top tries ⟨c, fuel, s'⟩
  | attempt {tries : List Attempt} {t : Attempt} (outer : F.Nest top tries t.visit)
      (holds : F.Holds t) : F.Nest top (t :: tries) (t.inside F.active)

/-- How what unwinds from inside the blocks of these `try`s, the innermost first, goes on. -/
inductive Reaches (F : Frame) (top : Visit) : List Attempt → Unwind → Standing → Prop
  /-- Nothing takes it, be it an exception or something that is never taken.  It leaves all of
  them. -/
  | outside {tries : List Attempt} {u : Unwind} {s : Standing}
      (untaken : ∀ exception, u = .thrown exception →
        ∀ t ∈ tries, ∀ h ∈ t.handlers, ¬ F.interpreter.Takes h exception)
      (ended : F.run top = .ok (.error u, s)) : F.Reaches top tries u s
  /-- The first handler that takes it, of the innermost `try` that has one, runs in the place of
  that `try`.  What unwinds from there goes on inside the blocks of those further out. -/
  | handler {inner outer : List Attempt} {t : Attempt} {before after : List Handler} {h : Handler}
      {exception : Value} {s : Standing}
      (passed : ∀ t' ∈ inner, ∀ h' ∈ t'.handlers, ¬ F.interpreter.Takes h' exception)
      (listed : t.handlers = before ++ h :: after)
      (earlier : ∀ h' ∈ before, ¬ F.interpreter.Takes h' exception)
      (takes : F.interpreter.Takes h exception)
      (handled : F.run t.visit =
        (F.run (t.handling h exception s)).map fun r => (r.1, r.2.leaving h))
      (onward : ∀ u s', F.run t.visit = .ok (.error u, s') → F.Reaches top outer u s') :
      F.Reaches top (inner ++ t :: outer) (.thrown exception) s

variable {F : Frame} {top : Visit} {place c : ExprRef} {fuel : Nat} {s s' s'' : Standing} {x : Expr}
  {u : Unwind} {t : Attempt} {tries : List Attempt} {form : ExprForm}

/-- What unwinds from a place unwinds from the node that evaluates the place. -/
theorem unwinds_of_leads (hleads : F.Leads fuel form s c s')
    (hrun : F.run ⟨c, fuel, s'⟩ = .ok (.error u, s'')) :
    watch (F.interpreter.evalForm F.call F.body F.self (F.go fuel) form) s =
      .ok (.error u, s'') := by
  cases hleads with
  | inOrder listed evaluated =>
    obtain ⟨finish, hopens⟩ := Interpreter.opens_evalForm (F.go fuel) form
    rw [hopens, listed, List.mapM_append, List.mapM_cons, bind_assoc, watch_bind_of_ok evaluated,
      bind_assoc, bind_assoc]
    exact watch_bind_of_unwind hrun
  | chosen listed evaluated hchosen =>
    obtain ⟨first, k, hfirst, heval, hk⟩ := Interpreter.evalForm_of_chosen (F.go fuel) hchosen
    cases List.cons.inj (listed.symm.trans hfirst) |>.1
    rw [heval, watch_bind_of_ok evaluated, hk]
    exact hrun

/-- A `try` hands an exception from its block to the handler that is found for it. -/
theorem Holds.run_of_thrown {exception : Value} {found : Option Handler} (ht : F.Holds t)
    (hrun : F.run (t.inside F.active) = .ok (.error (.thrown exception), s))
    (hfound : F.interpreter.handlerFor exception t.handlers = .ok found) :
    F.run t.visit = watch (match found with
      | none => throw (.thrown exception)
      | some h => Interpreter.handle (F.go t.fuel) exception h) s := by
  obtain ⟨span, type, hx, hread⟩ := ht
  rw [Attempt.visit, run_of_node hx]
  refine (watch_catching_of_thrown hrun).trans ?_
  rw [hread]
  change watch (liftM (F.interpreter.handlerFor exception t.handlers) >>= _) s = _
  rw [hfound]
  rfl

/-- A `try` does not attend to returns and errors from its block. -/
theorem Holds.run_of_unwind (ht : F.Holds t) (hu : ∀ exception, u ≠ .thrown exception)
    (hrun : F.run (t.inside F.active) = .ok (.error u, s)) :
    F.run t.visit = .ok (.error u, s) := by
  obtain ⟨span, type, hx, hread⟩ := ht
  rw [Attempt.visit, run_of_node hx]
  exact watch_catching_of_unwind hrun hu

/-- What no handler takes leaves the `try`. -/
theorem Holds.run_of_untaken (ht : F.Holds t)
    (hknown : ∀ h ∈ t.handlers,
      F.interpreter.program.pools.types.contains h.param.type = true)
    (huntaken : ∀ exception, u = .thrown exception →
      ∀ h ∈ t.handlers, ¬ F.interpreter.Takes h exception)
    (hrun : F.run (t.inside F.active) = .ok (.error u, s)) :
    F.run t.visit = .ok (.error u, s) := by
  cases u with
  | thrown exception =>
    have hfound : F.interpreter.handlerFor exception (t.handlers ++ []) = .ok none :=
      Interpreter.handlerFor_append hknown (huntaken exception rfl)
    rw [List.append_nil] at hfound
    exact ht.run_of_thrown hrun hfound
  | _ => exact ht.run_of_unwind nofun hrun

/-- The first handler that takes an exception runs in the place of the `try`. -/
theorem Holds.run_of_taken {before after : List Handler} {h : Handler} {exception : Value}
    (ht : F.Holds t) (hlisted : t.handlers = before ++ h :: after)
    (hknown : ∀ h ∈ t.handlers,
      F.interpreter.program.pools.types.contains h.param.type = true)
    (hbefore : ∀ h ∈ before, ¬ F.interpreter.Takes h exception)
    (htakes : F.interpreter.Takes h exception)
    (hrun : F.run (t.inside F.active) = .ok (.error (.thrown exception), s)) :
    F.run t.visit = (F.run (t.handling h exception s)).map fun r => (r.1, r.2.leaving h) := by
  rw [hlisted, List.forall_mem_append, List.forall_mem_cons] at hknown
  have hfound : F.interpreter.handlerFor exception t.handlers = .ok (some h) := by
    rw [hlisted, Interpreter.handlerFor_append hknown.1 hbefore]
    exact Interpreter.handlerFor_cons hknown.2.1 htakes
  rw [ht.run_of_thrown hrun hfound]
  exact watch_handle _ _ _ _

/-! ## On the way out -/

/-- What no handler of the innermost `try` takes goes on as if that `try` were not there. -/
theorem Reaches.cons (hreaches : F.Reaches top tries u s)
    (huntaken : ∀ exception, u = .thrown exception →
      ∀ h ∈ t.handlers, ¬ F.interpreter.Takes h exception) :
    F.Reaches top (t :: tries) u s := by
  cases hreaches with
  | outside untaken ended =>
    exact .outside (fun exception hu =>
      List.forall_mem_cons.2 ⟨huntaken exception hu, untaken exception hu⟩) ended
  | handler passed listed earlier takes handled onward =>
    rw [← List.cons_append]
    exact .handler (List.forall_mem_cons.2 ⟨huntaken _ rfl, passed⟩) listed earlier takes handled
      onward

/-- Exceptions come to the nearest handler that takes them.  Say a place is evaluated inside the
blocks of any number of `try`s, with any expressions between them, and the evaluation unwinds.  An
exception goes to the innermost `try` with a handler that takes it, and there to the first such
handler.  The handler runs once, with the exception as its parameter, and the `try` ends in what the
handler ends in; what unwinds from there is offered to the `try`s further out, and to no others.  An
exception that no handler takes leaves all of them, and so does everything that is no exception.

Calls may do anything here; with the calls of the interpreter, these are its runs (`eval_eq_run`).
The induction goes outwards, from the place through what is around it. -/
theorem reaches_of_nest {e : Visit} (hnest : F.Nest top tries e)
    (hknown : ∀ t ∈ tries, ∀ h ∈ t.handlers,
      F.interpreter.program.pools.types.contains h.param.type = true)
    (hrun : F.run e = .ok (.error u, s)) : F.Reaches top tries u s := by
  induction hnest generalizing u s with
  | top => exact .outside (fun _ _ => by simp) hrun
  | node outer hx hleads ih =>
    refine ih hknown ?_
    rw [run_of_node hx]
    exact unwinds_of_leads hleads hrun
  | @attempt tries t outer ht ih =>
    obtain ⟨hfirst, hrest⟩ := List.forall_mem_cons.1 hknown
    rcases F.interpreter.forall_not_or_first_takes u t.handlers with
      huntaken | ⟨exception, before, h, after, rfl, hlisted, hbefore, htakes⟩
    · exact (ih hrest (ht.run_of_untaken hfirst huntaken hrun)).cons huntaken
    · rw [← List.nil_append (t :: tries)]
      exact .handler (by simp) hlisted hbefore htakes
        (ht.run_of_taken hlisted hfirst hbefore htakes hrun) fun u' s' => ih hrest

end Frame

/-! ## A nest of two -/

namespace Sample

/-- The class of all that can be thrown here. -/
def mishap : ClassId := ⟨.empty, ⟨1⟩⟩

/-- A class below it. -/
def slip : ClassId := ⟨.empty, ⟨2⟩⟩

/-- A class that has nothing to do with the two. -/
def other : ClassId := ⟨.empty, ⟨3⟩⟩

/-- A slip is a mishap. -/
def mishaps : Program where
  pools := ⟨.fresh, ((TypePool.fresh.intern ⟨.object mishap, .nullable⟩).2.intern
    ⟨.object other, .notNull⟩).2, .fresh⟩
  builtins := ⟨.nothing, .nullableNothing, ⟨7⟩, mishap⟩
  classes := [⟨mishap, none, []⟩, ⟨slip, some mishap, [⟨0⟩]⟩, ⟨other, none, []⟩]
  constructors := [⟨⟨0⟩, slip, []⟩]
  declarations := []

/-- Ends in the value null where it catches something other than a mishap. -/
def otherwise (param : ParamSymbol) : Handler := ⟨⟨param, .empty, ⟨8⟩, .none, .source⟩, some ⟨0⟩⟩

/-- Ends in the mishap that it catches. -/
def keeping : Handler := ⟨⟨⟨3⟩, .empty, ⟨7⟩, .none, .source⟩, some ⟨1⟩⟩

/-- Throws a slip inside a `try`, which is the second statement inside another `try`. -/
def nestedBody : Body where
  nodes := #[⟨.const .null, .nullableNothing⟩, ⟨.param ⟨3⟩, ⟨7⟩⟩, ⟨.new ⟨0⟩ .empty, ⟨7⟩⟩,
    ⟨.raise (some ⟨2⟩), .nothing⟩, ⟨.attempt (some ⟨3⟩) ⟨0, 1⟩, .any⟩, ⟨.block ⟨0, 2⟩, .any⟩,
    ⟨.attempt (some ⟨5⟩) ⟨1, 2⟩, .any⟩]
  statements := #[some ⟨0⟩, some ⟨4⟩]
  arguments := #[]
  handlers := #[otherwise ⟨1⟩, otherwise ⟨2⟩, keeping]
  labels := #[]
  root := some ⟨6⟩

/-- The outermost call evaluates the body. -/
def nested : Frame := ⟨.new mishaps, (Interpreter.new mishaps).invokeGauged maxCallDepth [⟨0⟩],
  nestedBody, none, [⟨0⟩]⟩

/-- Nothing is bound, and these places have been evaluated. -/
def behind (places : List Nat) : Standing :=
  ⟨.empty, ⟨1, places.map fun n => ⟨[⟨0⟩], 1, .node (some ⟨n⟩)⟩⟩⟩

/-- The `try` around, whose first handler is for something else. -/
def outerTry : Attempt := ⟨some ⟨6⟩, some ⟨5⟩, [otherwise ⟨2⟩, keeping], 9, behind []⟩

/-- The `try` within, which has no handler for what is thrown. -/
def innerTry : Attempt := ⟨some ⟨4⟩, some ⟨3⟩, [otherwise ⟨1⟩], 7, behind [6, 5, 0]⟩

theorem nested_nest :
    nested.Nest outerTry.visit [innerTry, outerTry] (innerTry.inside nested.active) := by
  have houter : nested.Nest outerTry.visit [outerTry] (outerTry.inside nested.active) :=
    .attempt .top ⟨⟨1, 2⟩, .any, rfl, rfl⟩
  have hlisted : nested.body.inOrder (.block ⟨0, 2⟩) = [some ⟨0⟩] ++ some ⟨4⟩ :: [] := rfl
  have hevaluated : watch ([some ⟨0⟩].mapM (nested.go 8)) (behind [6, 5]) =
      .ok (.ok [.null], behind [6, 5, 0]) := by
    decide +kernel
  have hleads : nested.Leads 8 (.block ⟨0, 2⟩) (behind [6, 5]) (some ⟨4⟩) (behind [6, 5, 0]) :=
    .inOrder hlisted hevaluated
  have hinner : nested.Nest outerTry.visit [outerTry] innerTry.visit := .node houter rfl hleads
  exact .attempt hinner ⟨⟨0, 1⟩, .any, rfl, rfl⟩

end Sample

open Sample in
/-- The slip comes to the second handler of the outer `try`. -/
theorem Frame.reaches_of_nest_slip :
    (nested.Nest outerTry.visit [innerTry, outerTry] (innerTry.inside nested.active) ∧
      (∀ t ∈ [innerTry, outerTry], ∀ h ∈ t.handlers,
        nested.interpreter.program.pools.types.contains h.param.type = true) ∧
      nested.run (innerTry.inside nested.active) =
        .ok (.error (.thrown (.object slip)), behind [6, 5, 0, 4, 3, 2])) ∧
    nested.Reaches outerTry.visit [innerTry, outerTry] (.thrown (.object slip))
      (behind [6, 5, 0, 4, 3, 2]) := by
  have hknown : ∀ t ∈ [innerTry, outerTry], ∀ h ∈ t.handlers,
      nested.interpreter.program.pools.types.contains h.param.type = true := by
    decide +kernel
  have hrun : nested.run (innerTry.inside nested.active) =
      .ok (.error (.thrown (.object slip)), behind [6, 5, 0, 4, 3, 2]) := by
    decide +kernel
  exact ⟨⟨nested_nest, hknown, hrun⟩, Frame.reaches_of_nest nested_nest hknown hrun⟩

open Sample in
/-- Its handler has run once, and its parameter is unbound again. -/
example : nested.run outerTry.visit =
    .ok (.ok (.object slip), behind [6, 5, 0, 4, 3, 2, 1]) := by
  decide +kernel

end Companions
