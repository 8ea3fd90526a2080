import Companions.Proofs.Companion.Making
import Companions.Proofs.Source.Likeness
set_option autoImplicit false

/-!
# How a companion reads

The source text of a companion is put together from the texts of its signature, the written call of
the function that it stands for, and what is written for trouble: the parameter of the handler, or
the class that is thrown (`Printer.expr_of_forwards`).  No symbol is written, so companions of one
function under identities that are alike read the same, whenever they are made and whenever they
are written (`Companion.IsMade.coincide_declaration`).
-/

namespace Companions

/-! ## Pieces of text -/

namespace Printer

open Forwarding

/-- A block of one line. -/
def blockText (depth : Nat) (line : String) : String :=
  "\x7b" ++ (newline (depth + 1) ++ line) ++ newline depth ++ "\x7d"

/-- A return to the label with the value. -/
def returnText (label value : String) : String := "return" ++ ("@" ++ label) ++ (" " ++ value)

/-- The body of `fOrNull`, which catches what is written in `caught`. -/
def orNullText (label call caught : String) : String :=
  blockText 0 ("try " ++ blockText 1 (returnText label call) ++
    (" catch (" ++ caught ++ ") " ++ blockText 1 (returnText label "null")))

/-- The body of `fOrThrow`, which throws an object of the class `error`. -/
def orThrowText (label call error : String) : String :=
  blockText 0 (returnText label (call ++ " ?: " ++ ("throw " ++ (error ++ "(" ++ "" ++ ")"))))

/-- The body of a companion. -/
def bodyText : Strategy → (label call trouble : String) → String
  | .nullOnThrow => orNullText
  | .throwOnNull => orThrowText

variable {w : Printer} {d f : Declaration} {b : Body} {fuel depth : Nat} {e : ExprRef} {v : ExprId}
  {type : TypeId}

/-- Writes the call of a function with parameters of the same names. -/
def callText (w : Printer) (f : Declaration) : Except Fault String := do
  let receiver ←
    match f.owner with
    | some owner => do pure ("this@" ++ (← w.names.text owner.name) ++ ".")
    | none => pure ""
  let name ← w.names.text f.id.name
  let arguments ← f.params.mapM fun p => w.names.text p.name
  return receiver ++ name ++ "(" ++ String.intercalate ", " arguments ++ ")"

/-- Writes what a companion does about trouble: the parameter that takes an exception, or the class
to throw. -/
def troubleText (w : Printer) (builtins : Builtins) (errorClass : ClassId) :
    Strategy → Except Fault String
  | .nullOnThrow => do return "e: " ++ (← w.types.format w.names builtins.throwable)
  | .throwOnNull => errorClass.display w.names

/-! ## Nodes -/

theorem expr_block_singleton {span : Span .expressions} {statement : ExprRef} {line : String}
    (hx : b.node? e = some ⟨.block span, type⟩) (hread : b.readStatements span = .ok [statement])
    (h : w.expr d b fuel (depth + 1) statement = .ok line) :
    w.expr d b (fuel + 1) depth e = .ok (blockText depth line) := by
  rw [expr, hx]
  simp only [hread, List.mapM_cons, List.mapM_nil, h, bind, Except.bind, pure, Except.pure]
  simp [blockText]

theorem expr_ret {target : LabelId} (label : Label) {name value : String}
    (hx : b.node? e = some ⟨.ret target (some v), type⟩) (hlabel : b.label? target = some label)
    (hname : w.names.text label.name = .ok name) (h : w.expr d b fuel depth (some v) = .ok value) :
    w.expr d b (fuel + 1) depth e = .ok (returnText name value) := by
  rw [expr, hx]
  simp only [hlabel, hname, h, bind, Except.bind, pure, Except.pure]
  rfl

/-! ## The call -/

/-- The parameters have the names of those of the function, and no two of them share a symbol. -/
structure NamesakesOf (params : List Parameter) (f : Declaration) : Prop where
  names : List.Forall₂ (fun own theirs : Parameter => own.name = theirs.name) params f.params
  distinct : (params.map (·.symbol)).Nodup

/-- A parameter of the declaration is written by its name. -/
theorem paramName_of_mem {p : Parameter} (hdistinct : (d.params.map (·.symbol)).Nodup)
    (hp : p ∈ d.params) : w.paramName d b p.symbol = w.names.text p.name := by
  have hfind : d.param? p.symbol = some p := by
    cases hown : d.param? p.symbol with
    | none =>
      have hno := List.find?_eq_none.1 hown p hp
      simp at hno
    | some own =>
      have hsymbol : own.symbol = p.symbol := by simpa using List.find?_some hown
      rw [List.inj_on_of_nodup_map hdistinct (List.mem_of_find?_eq_some hown) hp hsymbol]
  unfold paramName
  rw [hfind]

/-- If the places from `n` on are written by the names of the parameters, so are the arguments. -/
theorem mapM_argumentsFrom (write : ExprRef → Except Fault String) {n : Nat}
    {params : List Parameter} {text : Parameter → Except Fault String}
    (h : ∀ i p, params[i]? = some p → write (some ⟨n + i⟩) = text p) :
    (argumentsFrom n params).mapM (fun a => write a.value) = params.mapM text := by
  induction params generalizing n with
  | nil => rfl
  | cons p rest ih =>
    have hrest := ih (n := n + 1) fun i p hp => by
      have hnext := h (i + 1) p hp
      rwa [← Nat.add_assoc, Nat.add_right_comm] at hnext
    have hfirst : write (some ⟨n⟩) = text p := h 0 p rfl
    rw [argumentsFrom, List.mapM_cons, List.mapM_cons, hfirst, hrest]

theorem expr_reader {selfType : TypeId} {i : Nat} {p : Parameter}
    (hcall : HoldsCall b f d.params selfType) (hnamesakes : NamesakesOf d.params f)
    (hp : f.params[i]? = some p) :
    w.expr d b (fuel + 1) depth (some ⟨readersStart f + i⟩) = w.names.text p.name := by
  obtain ⟨hlt, rfl⟩ := List.getElem?_eq_some_iff.1 hp
  have hlt' : i < d.params.length := hnamesakes.names.length_eq ▸ hlt
  rw [expr, hcall.readers i _ (List.getElem?_eq_getElem hlt')]
  change w.paramName d b (d.params[i]).symbol = _
  rw [paramName_of_mem hnamesakes.distinct (List.getElem_mem hlt')]
  exact congrArg w.names.text (hnamesakes.names.get hlt' hlt)

/-- The call is written as a call of the function with the names of its parameters. -/
theorem expr_callPlace {selfType : TypeId} (hcall : HoldsCall b f d.params selfType)
    (hnamesakes : NamesakesOf d.params f) (hf : w.lookup.declaration f.symbol = some f) :
    w.expr d b (fuel + 2) depth (some ⟨callPlace f⟩) = w.callText f := by
  have harguments := mapM_argumentsFrom (w.expr d b (fuel + 1) depth)
    fun i p hp => expr_reader hcall hnamesakes hp
  rw [expr, hcall.call]
  dsimp only
  rw [hcall.readArguments, hf, callText]
  cases howner : f.owner with
  | none =>
    simp only [receiverPlace, howner, Option.map_none]
    rw [← harguments]
    rfl
  | some owner =>
    have hself : w.expr d b (fuel + 1) depth (some ⟨0⟩) =
        (do return "this@" ++ (← w.names.text owner.name)) := by
      rw [expr, hcall.receiver owner howner]
    simp only [receiverPlace, howner, Option.map_some, hself, bind_assoc, pure_bind]
    rw [← harguments]
    rfl

/-! ## Bodies -/

section Bodies

variable {builtins : Builtins} {params : List Parameter} {selfType errorType notNull : TypeId}
  {handler : Parameter} {constr : ConstructorSymbol} {k : Constructor} {label : Label}
  {name call trouble : String}

theorem expr_orNullBody (hcopies : params.length = f.params.length)
    (hname : w.names.text label.name = .ok name) (hcaught : w.parameter handler = .ok trouble)
    (hcall : w.expr d (orNullBody builtins f params selfType handler label) (fuel + 2) 2
      (some ⟨callPlace f⟩) = .ok call) :
    w.expr d (orNullBody builtins f params selfType handler label) (fuel + 6) 0
      (some ⟨callPlace f + 7⟩) = .ok (orNullText name call trouble) := by
  have hnode := node?_behind_call (b := orNullBody builtins f params selfType handler label)
    hcopies rfl
  have hnull : w.expr d (orNullBody builtins f params selfType handler label) (fuel + 2) 2
      (some ⟨callPlace f + 3⟩) = .ok "null" := by
    rw [expr, hnode 2]
    rfl
  have htried : w.expr d (orNullBody builtins f params selfType handler label) (fuel + 4) 1
      (some ⟨callPlace f + 2⟩) = .ok (blockText 1 (returnText name call)) :=
    expr_block_singleton (hnode 1) rfl (expr_ret label (hnode 0) rfl hname hcall)
  have hhandling : w.expr d (orNullBody builtins f params selfType handler label) (fuel + 4) 1
      (some ⟨callPlace f + 5⟩) = .ok (blockText 1 (returnText name "null")) :=
    expr_block_singleton (hnode 4) rfl (expr_ret label (hnode 3) rfl hname hnull)
  have hattempt : (orNullBody builtins f params selfType handler label).node?
      (some ⟨callPlace f + 6⟩) =
        some ⟨.attempt (some ⟨callPlace f + 2⟩) ⟨0, 1⟩, builtins.nothing⟩ := hnode 5
  have hhandlers : (orNullBody builtins f params selfType handler label).readHandlers ⟨0, 1⟩ =
      .ok [⟨handler, some ⟨callPlace f + 5⟩⟩] := rfl
  have hwhole : (orNullBody builtins f params selfType handler label).readStatements ⟨2, 1⟩ =
      .ok [some ⟨callPlace f + 6⟩] := rfl
  refine expr_block_singleton (hnode 6) hwhole ?_
  rw [expr, hattempt]
  simp only [htried, hhandlers, hcaught, hhandling, List.mapM_cons, List.mapM_nil, bind,
    Except.bind, pure, Except.pure]
  simp

theorem expr_orThrowBody (hcopies : params.length = f.params.length)
    (hname : w.names.text label.name = .ok name) (hk : w.lookup.constr constr = some k)
    (herror : k.type.display w.names = .ok trouble)
    (hcall : w.expr d (orThrowBody builtins constr f params selfType errorType notNull label)
      (fuel + 2) 1 (some ⟨callPlace f⟩) = .ok call) :
    w.expr d (orThrowBody builtins constr f params selfType errorType notNull label) (fuel + 5) 0
      (some ⟨callPlace f + 5⟩) = .ok (orThrowText name call trouble) := by
  have hnode := node?_behind_call
    (b := orThrowBody builtins constr f params selfType errorType notNull label) hcopies rfl
  have hobject : (orThrowBody builtins constr f params selfType errorType notNull label).node?
      (some ⟨callPlace f + 1⟩) = some ⟨.new constr ⟨0, 0⟩, errorType⟩ := hnode 0
  have hno : (orThrowBody builtins constr f params selfType errorType notNull
      label).readArguments ⟨0, 0⟩ = .ok [] := by
    simp [Body.readArguments, Body.read]
  have hnew : w.expr d (orThrowBody builtins constr f params selfType errorType notNull label)
      (fuel + 1) 1 (some ⟨callPlace f + 1⟩) = .ok (trouble ++ "(" ++ "" ++ ")") := by
    rw [expr, hobject]
    simp only [hk, herror, hno, List.mapM_nil, bind, Except.bind, pure, Except.pure]
    rfl
  have hraise : w.expr d (orThrowBody builtins constr f params selfType errorType notNull label)
      (fuel + 2) 1 (some ⟨callPlace f + 2⟩) =
        .ok ("throw " ++ (trouble ++ "(" ++ "" ++ ")")) := by
    rw [expr, hnode 1]
    change (w.expr d _ (fuel + 1) 1 (some ⟨callPlace f + 1⟩) >>= fun _ => _) = _
    rw [hnew]
    rfl
  have helvis : (orThrowBody builtins constr f params selfType errorType notNull label).node?
      (some ⟨callPlace f + 3⟩) =
        some ⟨.elvis (some ⟨callPlace f⟩) (some ⟨callPlace f + 2⟩), notNull⟩ := hnode 2
  refine expr_block_singleton (hnode 4) rfl (expr_ret label (hnode 3) rfl hname ?_)
  rw [expr, helvis]
  simp only [hcall, hraise, bind, Except.bind, pure, Except.pure]

end Bodies

/-- The parameter of the handler is written as what a companion does about an exception. -/
theorem parameter_handler {builtins : Builtins} {handler : Parameter} (errorClass : ClassId)
    (hname : w.names.text? handler.name = some "e") (htype : handler.type = builtins.throwable)
    (hflags : handler.flags = .none) :
    w.parameter handler = w.troubleText builtins errorClass .nullOnThrow := by
  have htext : w.names.text handler.name = .ok "e" := orFault_eq_ok_iff.2 hname
  have hprefix : flags .none ++ "e" ++ ": " = "e: " := by decide
  rw [parameter, htext, htype, hflags]
  exact congrArg (fun before : String => w.types.format w.names builtins.throwable >>=
    fun text => .ok (before ++ text)) hprefix

end Printer

/-! ## Hosts -/

/-- What the host writes with, over the pools. -/
def Host.printer (host : Host) (q : Pools) : Printer := ⟨host.toLookup, q.types, q.names⟩

/-- The names that the signature is written with are known. -/
structure Declaration.SignatureNamed (f : Declaration) (q : Pools) : Prop where
  id : ∀ n ∈ f.id.package :: f.id.names, q.names.Knows n
  params : ∀ p ∈ f.params, q.names.Knows p.name ∧ p.type.Named q
  returnType : f.returnType.Named q

instance (f : Declaration) (q : Pools) : Decidable (f.SignatureNamed q) :=
  decidable_of_iff ((∀ n ∈ f.id.package :: f.id.names, q.names.Knows n) ∧
      (∀ p ∈ f.params, q.names.Knows p.name ∧ p.type.Named q) ∧ f.returnType.Named q)
    ⟨fun h => ⟨h.1, h.2.1, h.2.2⟩, fun h => ⟨h.id, h.params, h.returnType⟩⟩

theorem Declaration.SignatureNamed.mono {f : Declaration} {q q' : Pools} (h : f.SignatureNamed q)
    (hgrows : q.Grows q') : f.SignatureNamed q' where
  id n hn := (h.id n hn).mono hgrows
  params p hp := ⟨(h.params p hp).1.mono hgrows, (h.params p hp).2.mono hgrows⟩
  returnType := h.returnType.mono hgrows

/-- Companions of the host's declarations can be made and written. -/
structure Host.Legible (host : Host) (q : Pools) : Prop where
  reliable : host.Reliable
  known : ∀ s f, host.declaration s = some f → f.SignatureKnown q
  named : ∀ s f, host.declaration s = some f → f.SignatureNamed q
  throwable : host.builtins.throwable.Named q
  constr : ∀ c s, host.noArgConstructor c = some s →
    ∃ k, host.constr s = some k ∧ ∀ n ∈ k.type.names, q.names.Knows n

variable {host : Host} {q₀ q q' r r' : Pools} {strategy : Strategy} {errorClass : ClassId}
  {f : Declaration}

theorem Host.Legible.mono (h : host.Legible q) (hgrows : q.Grows q') : host.Legible q' where
  reliable := h.reliable
  known s f hf := (h.known s f hf).mono hgrows
  named s f hf := (h.named s f hf).mono hgrows
  throwable := h.throwable.mono hgrows
  constr c s hs := by
    obtain ⟨k, hk, hnames⟩ := h.constr c s hs
    exact ⟨k, hk, fun n hn => (hnames n hn).mono hgrows⟩

/-- The class of the objects that the constructor makes which a companion throws with.  It is the
error class itself if there is no such constructor. -/
def Host.thrown (host : Host) (errorClass : ClassId) : ClassId :=
  (((host.noArgConstructor errorClass).bind host.constr).map (·.type)).getD errorClass

theorem Host.thrown_eq {constr : ConstructorSymbol} {k : Constructor}
    (hfound : host.noArgConstructor errorClass = some constr) (hk : host.constr constr = some k) :
    host.thrown errorClass = k.type := by
  simp [thrown, hfound, hk]

/-- What a companion throws has a name. -/
theorem Host.Legible.knows_thrown (h : host.Legible q)
    (herror : ∀ n ∈ errorClass.names, q.names.Knows n) :
    ∀ n ∈ (host.thrown errorClass).names, q.names.Knows n := by
  cases hfound : host.noArgConstructor errorClass with
  | none => simpa [Host.thrown, hfound] using herror
  | some constr =>
    obtain ⟨k, hk, hnames⟩ := h.constr errorClass constr hfound
    rwa [Host.thrown_eq hfound hk]

namespace Printer

open Forwarding

/-- The body of a companion is written with the text of its label, the written call and what is
written for trouble. -/
theorem expr_of_forwards {d : Declaration} {b : Body} {label : Label} {name call trouble : String}
    (hhost : host.Legible q) (hf : host.declaration f.symbol = some f)
    (hnamesakes : NamesakesOf d.params f)
    (h : Forwards host errorClass f d.params label q strategy b)
    (hname : q.names.text label.name = .ok name) (hcall : (host.printer q).callText f = .ok call)
    (htrouble : (host.printer q).troubleText host.builtins (host.thrown errorClass) strategy =
      .ok trouble) :
    (host.printer q).expr d b (b.size + 1) 0 b.root =
      .ok (bodyText strategy name call trouble) := by
  have hcopies := hnamesakes.names.length_eq
  cases h with
  | orNull hself hhandler htype hflags =>
    rw [← parameter_handler (w := host.printer q) (host.thrown errorClass) hhandler htype hflags]
      at htrouble
    rw [size_orNullBody hcopies]
    refine expr_orNullBody hcopies hname htrouble ?_
    rw [expr_callPlace (holdsCall_of_nodes hcopies rfl rfl) hnamesakes hf, hcall]
  | orThrow hself hfound herror htype =>
    obtain ⟨k, hk, -⟩ := hhost.constr _ _ hfound
    rw [Host.thrown_eq hfound hk] at htrouble
    rw [size_orThrowBody hcopies]
    refine expr_orThrowBody hcopies hname hk htrouble ?_
    rw [expr_callPlace (holdsCall_of_nodes hcopies rfl rfl) hnamesakes hf, hcall]

/-! ## Texts of pools that grew apart -/

section Apart

variable (hq : q₀.Grows q) (hq' : q₀.Grows q')

include hq hq'

theorem coincide_callText (host : Host) (hnamed : f.SignatureNamed q₀) :
    Coincide ((host.printer q).callText f) ((host.printer q').callText f) := by
  have hid := CallableId.alike_of_knows hnamed.id hq hq'
  have hparams : Coincide (f.params.mapM fun p => q.names.text p.name)
      (f.params.mapM fun p => q'.names.text p.name) :=
    .mapM (List.forall₂_same.2 fun p hp =>
      (Name.alike_of_knows (hnamed.params p hp).1 hq hq').coincide_text)
  unfold callText
  cases howner : f.owner with
  | none => exact hid.name.coincide_text.bind fun _ => hparams.map _
  | some owner =>
    have hmem : owner.name ∈ f.id.names :=
      CallableId.mem_names_of_owner howner owner.name_mem_names
    have howner := Name.alike_of_knows (hnamed.id _ (List.mem_cons_of_mem _ hmem)) hq hq'
    simp only [pure_bind]
    refine howner.coincide_text.bind fun _ => ?_
    exact hid.name.coincide_text.bind fun _ => hparams.map _

theorem coincide_troubleText (hhost : host.Legible q₀)
    (herror : ∀ n ∈ errorClass.names, q₀.names.Knows n) (strategy : Strategy) :
    Coincide ((host.printer q).troubleText host.builtins (host.thrown errorClass) strategy)
      ((host.printer q').troubleText host.builtins (host.thrown errorClass) strategy) := by
  cases strategy with
  | nullOnThrow => exact (hhost.throwable.coincide_format hq hq').map _
  | throwOnNull =>
    exact (ClassId.alike_of_knows (hhost.knows_thrown herror) hq hq').coincide_display

theorem coincide_parameter {p : Parameter} (hp : q₀.names.Knows p.name ∧ p.type.Named q₀) :
    Coincide ((host.printer q).parameter p) ((host.printer q').parameter p) :=
  (Name.alike_of_knows hp.1 hq hq').coincide_text.bind fun _ =>
    (hp.2.coincide_format hq hq').map _

end Apart

end Printer

/-! ## Companions -/

namespace Companion

open Forwarding

variable {id id' : CallableId} {origin : FunctionSymbol} {c c' : Companion} {q₁ q₂ q₁' q₂' : Pools}
  {params : List Parameter} {provenance : Provenance}

/-- Copies of the same parameters differ in their symbols only. -/
theorem forall₂_copiesFrom {R : Parameter → Parameter → Prop}
    (h : ∀ p ∈ params, ∀ s s', R (p.copyAs s provenance) (p.copyAs s' provenance)) (n n' : Nat) :
    List.Forall₂ R (copiesFrom provenance n params) (copiesFrom provenance n' params) := by
  induction params generalizing n n' with
  | nil => exact .nil
  | cons p rest ih =>
    exact .cons (h p List.mem_cons_self _ _)
      (ih (fun p' hp' => h p' (List.mem_cons_of_mem _ hp')) (n + 1) (n' + 1))

theorem namesakesOf_copiesFrom (n : Nat) {f : Declaration}
    (h : f.params.length ≤ SymbolSupply.capacity) :
    Printer.NamesakesOf (copiesFrom provenance n f.params) f := by
  refine ⟨?_, nodup_copiesFrom n h⟩
  generalize f.params = params
  induction params generalizing n with
  | nil => exact .nil
  | cons p rest ih => exact .cons rfl (ih (n + 1))

namespace IsMade

/-- The return type stands for the same ever after. -/
theorem returnType_of_grows (h : c.IsMade strategy errorClass host id origin f q₁ q₂)
    (hgrows : q₂.Grows r) : ∃ t, r.types.get? f.returnType = some t ∧
      r.types.get? c.declaration.returnType =
        some { t with nullability := strategy.nullability } := by
  obtain ⟨t, ht, hreturn⟩ := h.returnType
  exact ⟨t, hgrows.types _ _ ht, hgrows.types _ _ hreturn⟩

/-- What the body of a companion is written as. -/
theorem expr_body (h : c.IsMade strategy errorClass host id origin f q₁ q₂) (hgrows : q₂.Grows r)
    (hhost : host.Legible r) (hf : host.declaration f.symbol = some f) {name call trouble : String}
    (hname : r.names.text id.name = .ok name) (hcall : (host.printer r).callText f = .ok call)
    (htrouble : (host.printer r).troubleText host.builtins (host.thrown errorClass) strategy =
      .ok trouble) :
    ∃ b, c.declaration.body = some b ∧
      (host.printer r).expr c.declaration b (b.size + 1) 0 b.root =
        .ok (Printer.bodyText strategy name call trouble) := by
  obtain ⟨b, hbody, hforwards⟩ := h.body
  have hnamesakes : Printer.NamesakesOf c.declaration.params f := by
    rw [h.params]
    exact namesakesOf_copiesFrom _ h.length_le_capacity
  exact ⟨b, hbody, Printer.expr_of_forwards hhost hf hnamesakes (hforwards.mono hgrows) hname hcall
    htrouble⟩

/-- Companions of one function, made anywhere since its names were known, read the same anywhere
later, if their identities are alike. -/
theorem coincide_declaration (h : c.IsMade strategy errorClass host id origin f q₁ q₂)
    (h' : c'.IsMade strategy errorClass host id' origin f q₁' q₂') (hr : q₂.Grows r)
    (hr' : q₂'.Grows r') (hq : q₀.Grows r) (hq' : q₀.Grows r') (hhost : host.Legible q₀)
    (hf : host.declaration origin = some f) (herror : ∀ n ∈ errorClass.names, q₀.names.Knows n)
    (hid : id.Alike r r' id') :
    Coincide ((host.printer r).declaration c.declaration)
      ((host.printer r').declaration c'.declaration) := by
  have hnamed := hhost.named origin f hf
  have hown : host.declaration f.symbol = some f := by rw [hhost.reliable.declaration _ _ hf, hf]
  -- the pieces of the body
  obtain ⟨name, hname, hname'⟩ := hid.name.coincide_text
  obtain ⟨call, hcall, hcall'⟩ := Printer.coincide_callText hq hq' host hnamed
  obtain ⟨trouble, htrouble, htrouble'⟩ :=
    Printer.coincide_troubleText hq hq' hhost herror strategy
  obtain ⟨b, hbody, hexpr⟩ := h.expr_body hr (hhost.mono hq) hown hname hcall htrouble
  obtain ⟨b', hbody', hexpr'⟩ := h'.expr_body hr' (hhost.mono hq') hown hname' hcall' htrouble'
  -- the pieces of the header
  have hparams : Coincide (c.declaration.params.mapM (host.printer r).parameter)
      (c'.declaration.params.mapM (host.printer r').parameter) := by
    rw [h.params, h'.params]
    exact .mapM (forall₂_copiesFrom
      (fun p hp _ _ => Printer.coincide_parameter hq hq' (hnamed.params p hp)) _ _)
  have hreturn : Coincide (r.types.format r.names c.declaration.returnType)
      (r'.types.format r'.names c'.declaration.returnType) := by
    obtain ⟨t, ht, hnames⟩ := hnamed.returnType
    obtain ⟨u, hu, htype⟩ := h.returnType_of_grows hr
    obtain ⟨u', hu', htype'⟩ := h'.returnType_of_grows hr'
    obtain rfl := Option.some.inj ((hq.types _ _ ht).symm.trans hu)
    obtain rfl := Option.some.inj ((hq'.types _ _ ht).symm.trans hu')
    exact TypePool.coincide_format (t := { t with nullability := strategy.nullability }) hnames hq
      hq' htype htype'
  have hheader : Coincide ((host.printer r).header c.declaration)
      ((host.printer r').header c'.declaration) := by
    unfold Printer.header
    rw [h.status, h'.status, h.id, h'.id]
    exact hid.coincide_display.bind fun _ => hparams.bind fun _ => hreturn.map _
  unfold Printer.declaration
  refine hheader.bind fun _ => ?_
  rw [hbody, hbody']
  dsimp only
  rw [hexpr, hexpr']
  exact .of_ok _

end IsMade

end Companion

end Companions
