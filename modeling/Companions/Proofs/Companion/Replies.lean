import Companions.Proofs.Companion.Answering
set_option autoImplicit false

/-!
# Queries and replies

Whoever asks a session knows texts: the paths of classes and callables.  What comes back can be read
as text too: identities and names in their order, collisions, messages, and the source text of the
companions (`Session.Query`, `Session.Reply`).

A query that is read twice asks for what is alike (`Session.Query.alike_of_read`), and answers that
are alike are written the same, whenever they are written (`Printer.coincide_answer`).
-/

namespace Companions

variable {q₀ q q' r r' : Pools}

/-! ## Paths as text -/

/-- A class, by the texts of its package and name. -/
structure ClassText where
  package : String
  name : String
  deriving DecidableEq, Repr

/-- A callable, by the texts of its package, owner and name. -/
structure CallableText where
  package : String
  owner : Option ClassText
  name : String
  deriving DecidableEq, Repr

namespace ClassText

/-- Interns the path. -/
def read (t : ClassText) : Growing ClassId := do
  return ⟨← Growing.intern t.package, ← Growing.intern t.name⟩

/-- Interns the path, if there is one. -/
def readOption : Option ClassText → Growing (Option ClassId)
  | none => return none
  | some t => do return some (← t.read)

end ClassText

/-- Interns the path. -/
def CallableText.read (t : CallableText) : Growing CallableId := do
  return ⟨← Growing.intern t.package, ← ClassText.readOption t.owner, ← Growing.intern t.name⟩

theorem Growing.alike_of_intern {text : String} {n n' : Name}
    (h : (intern text).run q = .ok (n, r)) (h' : (intern text).run q' = .ok (n', r')) :
    n.Alike r r' n' :=
  ⟨text, (run_intern_eq_ok h).2, (run_intern_eq_ok h').2⟩

namespace ClassText

variable {t : ClassText}

theorem onlyGrows_read (t : ClassText) : t.read.OnlyGrows :=
  .bind (.intern _) fun _ => .bind (.intern _) fun _ => .pure _

theorem onlyGrows_readOption (t : Option ClassText) : (readOption t).OnlyGrows := by
  cases t with
  | none => exact .pure _
  | some t => exact .bind (onlyGrows_read t) fun _ => .pure _

/-- A path that is read here and there is alike. -/
theorem alike_of_read {c c' : ClassId} (h : t.read.run q = .ok (c, r))
    (h' : t.read.run q' = .ok (c', r')) : c.Alike r r' c' := by
  obtain ⟨package, q₁, hpackage, h⟩ := Growing.run_bind_eq_ok_iff.1 h
  obtain ⟨name, q₂, hname, h⟩ := Growing.run_bind_eq_ok_iff.1 h
  obtain ⟨rfl, rfl⟩ := Growing.run_pure_eq_ok_iff.1 h
  obtain ⟨package', q₁', hpackage', h'⟩ := Growing.run_bind_eq_ok_iff.1 h'
  obtain ⟨name', q₂', hname', h'⟩ := Growing.run_bind_eq_ok_iff.1 h'
  obtain ⟨rfl, rfl⟩ := Growing.run_pure_eq_ok_iff.1 h'
  exact ⟨(Growing.alike_of_intern hpackage hpackage').mono (Growing.run_intern_eq_ok hname).1
    (Growing.run_intern_eq_ok hname').1, Growing.alike_of_intern hname hname'⟩

theorem alike_of_readOption {t : Option ClassText} {c c' : Option ClassId}
    (h : (readOption t).run q = .ok (c, r)) (h' : (readOption t).run q' = .ok (c', r')) :
    Option.Rel (ClassId.Alike r r') c c' := by
  cases t with
  | none =>
    cases h
    cases h'
    exact .none
  | some t =>
    obtain ⟨d, q₁, hread, h⟩ := Growing.run_bind_eq_ok_iff.1 h
    obtain ⟨rfl, rfl⟩ := Growing.run_pure_eq_ok_iff.1 h
    obtain ⟨d', q₁', hread', h'⟩ := Growing.run_bind_eq_ok_iff.1 h'
    obtain ⟨rfl, rfl⟩ := Growing.run_pure_eq_ok_iff.1 h'
    exact .some (alike_of_read hread hread')

end ClassText

namespace CallableText

variable {t : CallableText}

theorem onlyGrows_read (t : CallableText) : t.read.OnlyGrows :=
  .bind (.intern _) fun _ => .bind (ClassText.onlyGrows_readOption _) fun _ =>
    .bind (.intern _) fun _ => .pure _

/-- A path that is read here and there is alike. -/
theorem alike_of_read {id id' : CallableId} (h : t.read.run q = .ok (id, r))
    (h' : t.read.run q' = .ok (id', r')) : id.Alike r r' id' := by
  obtain ⟨package, q₁, hpackage, h⟩ := Growing.run_bind_eq_ok_iff.1 h
  obtain ⟨owner, q₂, howner, h⟩ := Growing.run_bind_eq_ok_iff.1 h
  obtain ⟨name, q₃, hname, h⟩ := Growing.run_bind_eq_ok_iff.1 h
  obtain ⟨rfl, rfl⟩ := Growing.run_pure_eq_ok_iff.1 h
  obtain ⟨package', q₁', hpackage', h'⟩ := Growing.run_bind_eq_ok_iff.1 h'
  obtain ⟨owner', q₂', howner', h'⟩ := Growing.run_bind_eq_ok_iff.1 h'
  obtain ⟨name', q₃', hname', h'⟩ := Growing.run_bind_eq_ok_iff.1 h'
  obtain ⟨rfl, rfl⟩ := Growing.run_pure_eq_ok_iff.1 h'
  have hgrows₁ := ClassText.onlyGrows_readOption _ _ _ _ howner
  have hgrows₁' := ClassText.onlyGrows_readOption _ _ _ _ howner'
  have hgrows₂ := (Growing.run_intern_eq_ok hname).1
  have hgrows₂' := (Growing.run_intern_eq_ok hname').1
  exact ⟨(Growing.alike_of_intern hpackage hpackage').mono (hgrows₁.trans hgrows₂)
      (hgrows₁'.trans hgrows₂'),
    optionRel_imp (fun _ _ hc => hc.mono hgrows₂ hgrows₂')
      (ClassText.alike_of_readOption howner howner'),
    Growing.alike_of_intern hname hname'⟩

end CallableText

/-! ## Queries and replies -/

namespace Session

/-- What a session can be asked for, in texts. -/
inductive Query
  | index (strategy : Strategy)
  | topLevel
  | namesIn (c : ClassText)
  | collisions
  | generate (id : CallableText) (owner : Option ClassText)
  | generateAll
  deriving DecidableEq, Repr

/-- Interns what the query names. -/
def Query.read : Query → Growing Request
  | .index strategy => return .index strategy
  | .topLevel => return .topLevel
  | .namesIn c => do return .namesIn (← c.read)
  | .collisions => return .collisions
  | .generate id owner => do return .generate (← id.read) (← ClassText.readOption owner)
  | .generateAll => return .generateAll

/-- A collision, with the identity as text. -/
structure CollisionText where
  strategy : Strategy
  identity : String
  sources : List FunctionSymbol
  deriving DecidableEq, Repr

/-- What a session answers, in texts.  Functions of the program go by their symbols. -/
inductive Reply
  | index (matched : List FunctionSymbol) (entries : List (String × FunctionSymbol))
      (collisions : List CollisionText)
  /-- Identities or names. -/
  | texts (listed : List String)
  | collisions (found : List CollisionText)
  /-- The functions that companions forward to, each with the source text of the companion. -/
  | made (companions : List (FunctionSymbol × String))
  | failed (message : String)
  deriving DecidableEq, Repr

end Session

namespace Printer

/-- A companion and the function behind it, in texts. -/
def entry (w : Printer) (e : CallableId × FunctionSymbol) :
    Except Fault (String × FunctionSymbol) := do
  return (← e.1.display w.names, e.2)

/-- A collision in texts. -/
def collision (w : Printer) (c : Collision) : Except Fault Session.CollisionText := do
  return ⟨c.strategy, ← c.identity.display w.names, c.sources⟩

/-- A companion in texts: the function behind it, and its source. -/
def companion (w : Printer) (c : Companion) : Except Fault (FunctionSymbol × String) := do
  return (c.origin, ← w.declaration c.declaration)

/-- What became of a request, in texts: the reason, or the companions. -/
def made (w : Printer) : Except GenerationError (List Companion) → Except Fault Session.Reply
  | .error e => do return .failed (← e.message w.names)
  | .ok companions => do return .made (← companions.mapM w.companion)

/-- Writes an answer. -/
def answer (w : Printer) : Session.Answer → Except Fault Session.Reply
  | .index i => do
    return .index i.matched (← i.entries.mapM w.entry) (← i.collisions.mapM w.collision)
  | .topLevel ids => do return .texts (← ids.mapM (·.display w.names))
  | .namesIn names => do return .texts (← names.mapM w.names.text)
  | .collisions found => do return .collisions (← found.mapM w.collision)
  | .generate made => w.made (made.map (·.toList))
  | .generateAll made => w.made made

end Printer

namespace Session

/-- Reads the query and answers it. -/
def ask (s : Session) (host : Host) (k : Query) : Growing (Answer × Session) := do
  s.answer host (← k.read)

/-- Answers queries one after another. -/
def askEach (s : Session) (host : Host) : List Query → Growing (List Answer × Session)
  | [] => return ([], s)
  | k :: rest => do
    let (a, s) ← s.ask host k
    let (others, s) ← s.askEach host rest
    return (a :: others, s)

/-- What a new session answers to queries. -/
def interview (c : Config) (host : Host) (queries : List Query) : Growing (List Answer) := do
  let s ← Session.new c
  return (← s.askEach host queries).1

variable {k : Query}

theorem Query.onlyGrows_read (k : Query) : k.read.OnlyGrows := by
  cases k with
  | namesIn c => exact .bind (ClassText.onlyGrows_read c) fun _ => .pure _
  | generate id owner =>
    exact .bind (CallableText.onlyGrows_read id) fun _ =>
      .bind (ClassText.onlyGrows_readOption owner) fun _ => .pure _
  | _ => exact .pure _

theorem Query.exists_run_read (k : Query) (q : Pools) :
    ∃ request r, k.read.run q = .ok (request, r) := by
  cases k with
  | generate id owner =>
    obtain ⟨package, _ | c, name⟩ := id <;> cases owner <;> exact ⟨_, _, rfl⟩
  | _ => exact ⟨_, _, rfl⟩

/-- A query that is read here and there asks for what is alike. -/
theorem Query.alike_of_read {request request' : Request} (h : k.read.run q = .ok (request, r))
    (h' : k.read.run q' = .ok (request', r')) : request.Alike r r' request' := by
  cases k with
  | namesIn c =>
    obtain ⟨d, q₁, hread, h⟩ := Growing.run_bind_eq_ok_iff.1 h
    obtain ⟨rfl, rfl⟩ := Growing.run_pure_eq_ok_iff.1 h
    obtain ⟨d', q₁', hread', h'⟩ := Growing.run_bind_eq_ok_iff.1 h'
    obtain ⟨rfl, rfl⟩ := Growing.run_pure_eq_ok_iff.1 h'
    exact .namesIn (ClassText.alike_of_read hread hread')
  | generate id owner =>
    obtain ⟨i, q₁, hid, h⟩ := Growing.run_bind_eq_ok_iff.1 h
    obtain ⟨o, q₂, howner, h⟩ := Growing.run_bind_eq_ok_iff.1 h
    obtain ⟨rfl, rfl⟩ := Growing.run_pure_eq_ok_iff.1 h
    obtain ⟨i', q₁', hid', h'⟩ := Growing.run_bind_eq_ok_iff.1 h'
    obtain ⟨o', q₂', howner', h'⟩ := Growing.run_bind_eq_ok_iff.1 h'
    obtain ⟨rfl, rfl⟩ := Growing.run_pure_eq_ok_iff.1 h'
    have hgrows := ClassText.onlyGrows_readOption _ _ _ _ howner
    have hgrows' := ClassText.onlyGrows_readOption _ _ _ _ howner'
    exact .generate ((CallableText.alike_of_read hid hid').mono hgrows hgrows')
      (ClassText.alike_of_readOption howner howner')
  | index strategy =>
    cases h
    cases h'
    exact .index strategy
  | topLevel =>
    cases h
    cases h'
    exact .topLevel
  | collisions =>
    cases h
    cases h'
    exact .collisions
  | generateAll =>
    cases h
    cases h'
    exact .generateAll

theorem onlyGrows_ask (s : Session) (host : Host) (k : Query) : (s.ask host k).OnlyGrows :=
  .bind (Query.onlyGrows_read k) fun _ => onlyGrows_answer _ _ _

end Session

/-! ## Answers that are alike are written the same -/

namespace Printer

theorem coincide_collision (host : Host) {c c' : Collision} (h : c.Alike q q' c') :
    Coincide ((host.printer q).collision c) ((host.printer q').collision c') := by
  unfold collision
  rw [h.strategy, h.sources]
  exact h.identity.coincide_display.map _

theorem coincide_made (host : Host) {made made' : Except GenerationError (List Companion)}
    (hq : q₀.Grows q) (hq' : q₀.Grows q')
    (h : Generating.Alike q₀ (List.Forall₂ (Companion.ReadsAlike host q q')) made made') :
    Coincide ((host.printer q).made made) ((host.printer q').made made') := by
  cases h with
  | error settled => exact (settled q q' hq hq').map _
  | ok h =>
    refine Coincide.map _ (.mapM (h.imp fun c c' hc => ?_))
    unfold companion
    rw [hc.origin]
    exact (hc.written q q' (.refl q) (.refl q')).map _

/-- Answers that are alike are written the same. -/
theorem coincide_answer (host : Host) {a a' : Session.Answer} (hq : q₀.Grows q) (hq' : q₀.Grows q')
    (h : a.Alike host q₀ q q' a') :
    Coincide ((host.printer q).answer a) ((host.printer q').answer a') := by
  cases h with
  | @index i j h =>
    have hentries : Coincide (i.entries.mapM (host.printer q).entry)
        (j.entries.mapM (host.printer q').entry) := by
      refine .mapM (h.entries.imp fun e e' he => ?_)
      unfold entry
      rw [he.2]
      exact he.1.coincide_display.map _
    have hcollisions : Coincide (i.collisions.mapM (host.printer q).collision)
        (j.collisions.mapM (host.printer q').collision) :=
      .mapM (h.collisions.imp fun _ _ hc => coincide_collision host hc)
    simp only [answer, h.matched]
    exact hentries.bind fun _ => hcollisions.map _
  | topLevel h => exact Coincide.map _ (.mapM (h.imp fun _ _ hid => hid.coincide_display))
  | namesIn h => exact Coincide.map _ (.mapM (h.imp fun _ _ hn => hn.coincide_text))
  | collisions h => exact Coincide.map _ (.mapM (h.imp fun _ _ hc => coincide_collision host hc))
  | generateAll h => exact coincide_made host hq hq' h
  | generate h =>
    refine coincide_made host hq hq' ?_
    cases h with
    | error settled => exact .error settled
    | ok h =>
      cases h with
      | some hc => exact .ok (.cons hc .nil)
      | none => exact .ok .nil

end Printer

end Companions
