import Companions.Proofs.Companion.Completeness
import Companions.Proofs.Source.Writing
set_option autoImplicit false

/-!
# The source of a companion

What is documented of the source text of a companion is said line by line (`SignatureText.lines`), in
terms of what the function itself is written with: its own path, name, owner, parameters and return
type.  Neither symbols nor nodes come up there, nor the printer.

Over a program whose signatures are known and named, every companion that a session lists is made,
and is written exactly so (`Session.companions_read`).
-/

namespace Companions

/-! ## The documented text -/

/-- What a parameter is written with. -/
structure ParamText where
  flags : ParamFlags
  name : String
  type : String

/-- The modifiers, the name and the type of a parameter, with blanks in between. -/
def ParamText.text (p : ParamText) : String :=
  String.intercalate " " ((if p.flags.vararg then ["vararg"] else []) ++
    (if p.flags.crossinline then ["crossinline"] else []) ++
    (if p.flags.noinline then ["noinline"] else []) ++ [p.name ++ ": " ++ p.type])

/-- What the signature of a function is written with. -/
structure SignatureText where
  visibility : String
  /-- The displayed identity. -/
  path : String
  name : String
  /-- The simple name of the class that the function is a member of. -/
  owner : Option String
  params : List ParamText
  /-- The return type without its question mark. -/
  returnType : String

namespace SignatureText

/-- The header of the companion whose name ends in the suffix. -/
def header (t : SignatureText) (suffix returnType : String) : String :=
  t.visibility ++ " fun " ++ t.path ++ suffix ++ "(" ++
    String.intercalate ", " (t.params.map (·.text)) ++ "): " ++ returnType

/-- The call of the function on the receiver of the companion, with the parameters in order. -/
def call (t : SignatureText) : String :=
  (match t.owner with | some owner => "this@" ++ owner ++ "." | none => "") ++ t.name ++ "(" ++
    String.intercalate ", " (t.params.map (·.name)) ++ ")"

/-- The lines of a companion, each with the depth at which it is nested.  What is written for
trouble is the type of all that can be thrown, or the class of what is thrown. -/
def lines (t : SignatureText) : Strategy → (trouble : String) → List (Nat × String)
  | .nullOnThrow, caught =>
    [(0, t.header "OrNull" (t.returnType ++ "?") ++ " \x7b"),
      (1, "try \x7b"),
      (2, "return@" ++ t.name ++ "OrNull " ++ t.call),
      (1, "\x7d catch (e: " ++ caught ++ ") \x7b"),
      (2, "return@" ++ t.name ++ "OrNull null"),
      (1, "\x7d"),
      (0, "\x7d")]
  | .throwOnNull, error =>
    [(0, t.header "OrThrow" t.returnType ++ " \x7b"),
      (1, "return@" ++ t.name ++ "OrThrow " ++ t.call ++ " ?: throw " ++ error ++ "()"),
      (0, "\x7d")]

/-- The source of a companion: its lines, set in by four blanks for each level. -/
def source (t : SignatureText) (strategy : Strategy) (trouble : String) : String :=
  String.intercalate "\n" ((t.lines strategy trouble).map fun (depth, line) =>
    String.join (List.replicate depth "    ") ++ line)

end SignatureText

/-! ## What a function is written with -/

/-- The question mark of a type that admits null. -/
def Nullability.mark : Nullability → String
  | .nullable => "?"
  | .notNull => ""

/-- The parameter is written with these texts. -/
structure Parameter.ReadsAs (p : Parameter) (q : Pools) (t : ParamText) : Prop where
  flags : t.flags = p.flags
  name : q.names.text p.name = .ok t.name
  type : q.types.format q.names p.type = .ok t.type

/-- The signature of the function is written with these texts. -/
structure Declaration.ReadsAs (f : Declaration) (q : Pools) (t : SignatureText) : Prop where
  visibility : t.visibility = f.status.visibility.keyword
  path : f.id.display q.names = .ok t.path
  name : q.names.text f.id.name = .ok t.name
  owner : Option.Rel (fun c text => q.names.text c.name = .ok text) f.owner t.owner
  params : List.Forall₂ (fun p text => p.ReadsAs q text) f.params t.params
  returnType : ∃ type, q.types.get? f.returnType = some type ∧
    q.types.format q.names f.returnType = .ok (t.returnType ++ type.nullability.mark)

/-- What is written for the type of all that can be thrown, or for the class to throw. -/
def Host.Troubles (host : Host) (errorClass : ClassId) (q : Pools) : Strategy → String → Prop
  | .nullOnThrow, text => q.types.format q.names host.builtins.throwable = .ok text
  | .throwOnNull, text => errorClass.display q.names = .ok text

/-- The identity is that of the companion of the function with the signature. -/
structure SignatureText.Identifies (t : SignatureText) (strategy : Strategy) (q : Pools)
    (id : CallableId) : Prop where
  path : id.display q.names = .ok (t.path ++ strategy.suffix)
  name : q.names.text id.name = .ok (t.name ++ strategy.suffix)

variable {host : Host} {strategy : Strategy} {errorClass : ClassId} {q r : Pools}
  {f : Declaration} {t : SignatureText} {id : CallableId}

/-! ## Texts that last -/

theorem Coincide.eq_ok {α : Type} {x y : Except Fault α} {a : α} (h : Coincide x y)
    (hx : x = .ok a) : y = .ok a := by
  obtain ⟨b, hx', hy⟩ := h
  rw [hx] at hx'
  cases hx'
  exact hy

/-- What is read the same ever after is some text. -/
theorem exists_lasting {α : Type} {x : Pools → Except Fault α}
    (h : ∀ r, q.Grows r → Coincide (x q) (x r)) : ∃ a, ∀ r, q.Grows r → x r = .ok a := by
  obtain ⟨a, ha, -⟩ := h q (.refl q)
  exact ⟨a, fun r hr => (h r hr).eq_ok ha⟩

theorem exists_forall₂ {α β : Type} {R : α → β → Prop} {as : List α}
    (h : ∀ a ∈ as, ∃ b, R a b) : ∃ bs, List.Forall₂ R as bs := by
  induction as with
  | nil => exact ⟨[], .nil⟩
  | cons a rest ih =>
    obtain ⟨b, hb⟩ := h a List.mem_cons_self
    obtain ⟨bs, hbs⟩ := ih fun a' ha' => h a' (List.mem_cons_of_mem _ ha')
    exact ⟨b :: bs, .cons hb hbs⟩

/-- A name that is known is read the same ever after. -/
theorem NameTable.Knows.exists_lasting {n : Name} (h : q.names.Knows n) :
    ∃ text, ∀ r, q.Grows r → r.names.text n = .ok text :=
  Companions.exists_lasting fun _ hr => (Name.alike_of_knows h (.refl q) hr).coincide_text

/-- A type that is named is read the same ever after. -/
theorem TypeId.Named.exists_lasting {type : TypeId} (h : type.Named q) :
    ∃ text, ∀ r, q.Grows r → r.types.format r.names type = .ok text :=
  Companions.exists_lasting fun _ hr => h.coincide_format (.refl q) hr

/-! ## Types and paths -/

/-- What is written for a kind. -/
def Kind.display (names : NameTable) : Kind → Except Fault String
  | .int => .ok "Int"
  | .boolean => .ok "Boolean"
  | .string => .ok "String"
  | .unit => .ok "Unit"
  | .nothing => .ok "Nothing"
  | .any => .ok "Any"
  | .object c => c.display names

/-- A type is written by its kind and perhaps a question mark. -/
theorem TypePool.format_eq {p : TypePool} {type : TypeId} {kind : Kind} {n : Nullability}
    (h : p.get? type = some ⟨kind, n⟩) (names : NameTable) :
    p.format names type = (kind.display names).map (· ++ n.mark) := by
  unfold format get
  rw [h]
  cases kind with
  | object c =>
    simp only [orFault_some, bind, Except.bind, Kind.display]
    cases c.display names with
    | error fault => rfl
    | ok text => cases n <;> simp [Except.map, Nullability.mark, pure, Except.pure]
  | _ => cases n <;> rfl

/-- Types of one kind differ in the question mark only. -/
theorem TypePool.format_eq_ok_iff {p : TypePool} {type : TypeId} {kind : Kind} {n : Nullability}
    (h : p.get? type = some ⟨kind, n⟩) {names : NameTable} {text : String} :
    p.format names type = .ok (text ++ n.mark) ↔ kind.display names = .ok text := by
  rw [format_eq h]
  cases kind.display names with
  | error fault => exact ⟨nofun, nofun⟩
  | ok display =>
    simp only [Except.map, Except.ok.injEq]
    exact String.append_left_inj n.mark

/-- A type that is named is written by its kind the same ever after. -/
theorem TypeId.Named.exists_bare {type : TypeId} (h : type.Named q) :
    ∃ t bare, ∀ r, q.Grows r → r.types.get? type = some t ∧
      r.types.format r.names type = .ok (bare ++ t.nullability.mark) := by
  have ⟨⟨kind, n⟩, hget, _⟩ := h
  obtain ⟨text, htext⟩ := h.exists_lasting
  obtain ⟨bare, rfl⟩ : ∃ bare, text = bare ++ n.mark := by
    have hformat := htext q (.refl q)
    rw [TypePool.format_eq hget] at hformat
    cases hdisplay : kind.display q.names with
    | error fault =>
      rw [hdisplay] at hformat
      cases hformat
    | ok bare =>
      rw [hdisplay] at hformat
      exact ⟨bare, (Except.ok.inj hformat).symm⟩
  exact ⟨⟨kind, n⟩, bare, fun r hr => ⟨hr.types _ _ hget, htext r hr⟩⟩

/-- The displayed path of a callable ends in its name. -/
theorem CallableId.exists_prefix {names : NameTable} {path name : String}
    (hpath : id.display names = .ok path) (hname : names.text id.name = .ok name) :
    ∃ before, path = before ++ name ∧ ∀ n text, names.text n = .ok text →
      (id.withName n).display names = .ok (before ++ text) := by
  obtain ⟨package, owner, n₀⟩ := id
  obtain ⟨_, hname', hpath⟩ := exists_of_bind_eq_ok hpath
  obtain rfl := Except.ok.inj (hname.symm.trans hname')
  cases owner with
  | some c =>
    obtain ⟨text, hc, hpath⟩ := exists_of_bind_eq_ok hpath
    refine ⟨text ++ ".", (Except.ok.inj hpath).symm, fun n text' hn => ?_⟩
    simp [display, withName, hn, hc, bind, Except.bind, pure, Except.pure]
  | none =>
    obtain ⟨text, hpackage, hpath⟩ := exists_of_bind_eq_ok hpath
    refine ⟨if text.isEmpty then "" else text ++ ".", ?_, fun n text' hn => ?_⟩
    · rw [← Except.ok.inj hpath]
      split <;> simp
    · simp only [display, withName, hn, hpackage, bind, Except.bind, pure, Except.pure]
      split <;> simp

/-! ## Signatures -/

/-- A parameter whose name and type are known is written the same ever after. -/
theorem Parameter.exists_readsAs {p : Parameter} (h : q.names.Knows p.name ∧ p.type.Named q) :
    ∃ text : ParamText, ∀ r, q.Grows r → p.ReadsAs r text := by
  obtain ⟨name, hname⟩ := h.1.exists_lasting
  obtain ⟨type, htype⟩ := h.2.exists_lasting
  exact ⟨⟨p.flags, name, type⟩, fun r hr => ⟨rfl, hname r hr, htype r hr⟩⟩

/-- A function whose signature is named is written the same ever after. -/
theorem Declaration.SignatureNamed.exists_readsAs (h : f.SignatureNamed q) :
    ∃ t, ∀ r, q.Grows r → f.ReadsAs r t := by
  obtain ⟨path, hpath⟩ : ∃ path, ∀ r, q.Grows r → f.id.display r.names = .ok path :=
    exists_lasting fun _ hr => (CallableId.alike_of_knows h.id (.refl q) hr).coincide_display
  obtain ⟨name, hname⟩ := (h.id _ (List.mem_cons_of_mem _ f.id.name_mem_names)).exists_lasting
  obtain ⟨owner, howner⟩ : ∃ owner : Option String, ∀ r, q.Grows r →
      Option.Rel (fun c text => r.names.text c.name = .ok text) f.owner owner := by
    cases hc : f.owner with
    | none => exact ⟨none, fun _ _ => .none⟩
    | some c =>
      have hmem : c.name ∈ f.id.names := CallableId.mem_names_of_owner hc c.name_mem_names
      obtain ⟨text, htext⟩ := (h.id _ (List.mem_cons_of_mem _ hmem)).exists_lasting
      exact ⟨some text, fun r hr => .some (htext r hr)⟩
  obtain ⟨params, hparams⟩ := exists_forall₂ fun p hp => Parameter.exists_readsAs (h.params p hp)
  obtain ⟨type, bare, hreturn⟩ := h.returnType.exists_bare
  exact ⟨⟨f.status.visibility.keyword, path, name, owner, params, bare⟩, fun r hr =>
    ⟨rfl, hpath r hr, hname r hr, howner r hr, hparams.imp fun _ _ hp => hp r hr, type,
      hreturn r hr⟩⟩

/-- What is derived from a function identifies its companion. -/
theorem Derives.identifies {origin : FunctionSymbol} (h : Derives host strategy.suffix q id origin)
    (hf : host.declaration origin = some f) (ht : f.ReadsAs q t) : t.Identifies strategy q id := by
  obtain ⟨d, text, hd, htext, hderived, hid⟩ := h
  obtain rfl := Option.some.inj (hf.symm.trans hd)
  have hname : q.names.text f.id.name = .ok text := orFault_eq_ok_iff.2 htext
  obtain rfl := Except.ok.inj (ht.name.symm.trans hname)
  have hsuffixed : q.names.text id.name = .ok (t.name ++ strategy.suffix) :=
    orFault_eq_ok_iff.2 hderived
  obtain ⟨before, hbefore, hdisplay⟩ := CallableId.exists_prefix ht.path ht.name
  refine ⟨?_, hsuffixed⟩
  rw [hid, hdisplay _ _ hsuffixed, hbefore, String.append_assoc]

/-! ## Companions -/

/-- The modifiers of a parameter come before its name. -/
theorem ParamText.text_eq (p : ParamText) :
    p.text = Printer.flags p.flags ++ p.name ++ ": " ++ p.type := by
  obtain ⟨⟨vararg, crossinline, noinline⟩, name, type⟩ := p
  apply String.toList_inj.1
  cases vararg <;> cases crossinline <;> cases noinline <;> simp [text, Printer.flags]

namespace Printer

theorem parameter_of_readsAs {p : Parameter} {text : ParamText} (h : p.ReadsAs q text) :
    (host.printer q).parameter p = .ok text.text := by
  rw [text.text_eq, h.flags]
  simp only [parameter, Host.printer, h.name, h.type, bind, Except.bind, pure, Except.pure]

/-- The call is written as it is documented. -/
theorem callText_of_readsAs (h : f.ReadsAs q t) : (host.printer q).callText f = .ok t.call := by
  have hnames : f.params.mapM (fun p => q.names.text p.name) = .ok (t.params.map (·.name)) :=
    mapM_eq_ok_iff.2 (List.forall₂_map_right_iff.2 (h.params.imp fun _ _ hp => hp.name))
  have howner := h.owner
  unfold callText SignatureText.call
  generalize f.owner = owner, t.owner = text at howner ⊢
  cases howner with
  | none => simp only [Host.printer, h.name, hnames, bind, Except.bind, pure, Except.pure]
  | some hname =>
    simp only [Host.printer, hname, h.name, hnames, bind, Except.bind, pure, Except.pure]

/-- What the parameter of a handler is written with, or what is thrown. -/
def caught (trouble : String) : Strategy → String
  | .nullOnThrow => "e: " ++ trouble
  | .throwOnNull => trouble

theorem troubleText_of_troubles {trouble : String}
    (h : host.Troubles errorClass q strategy trouble) :
    (host.printer q).troubleText host.builtins errorClass strategy =
      .ok (caught trouble strategy) := by
  cases strategy with
  | nullOnThrow =>
    have h : q.types.format q.names host.builtins.throwable = .ok trouble := h
    unfold troubleText
    simp only [Host.printer, h, bind, Except.bind, pure, Except.pure, caught]
  | throwOnNull => exact h

end Printer

/-- Header and body of the printer are the documented lines. -/
theorem SignatureText.source_eq (t : SignatureText) (strategy : Strategy) (trouble : String) :
    t.source strategy trouble =
      t.header strategy.suffix (t.returnType ++ strategy.nullability.mark) ++ " " ++
        Printer.bodyText strategy (t.name ++ strategy.suffix) t.call
          (Printer.caught trouble strategy) := by
  apply String.toList_inj.1
  cases strategy <;>
    simp [source, lines, Printer.bodyText, Printer.orNullText, Printer.orThrowText,
      Printer.caught, Printer.blockText, Printer.returnText, Printer.newline, Printer.indent,
      String.join,
      Strategy.suffix, Strategy.nullability, Nullability.mark]

namespace Companion

/-- Copies of parameters are written as the parameters. -/
theorem forall₂_readsAs_copiesFrom {provenance : Provenance} {params : List Parameter}
    {texts : List ParamText} (h : List.Forall₂ (fun p text => p.ReadsAs q text) params texts)
    (n : Nat) :
    List.Forall₂ (fun own text => own.ReadsAs q text) (copiesFrom provenance n params) texts := by
  induction h generalizing n with
  | nil => exact .nil
  | cons hfirst _ ih => exact .cons ⟨hfirst.flags, hfirst.name, hfirst.type⟩ (ih (n + 1))

namespace IsMade

variable {origin : FunctionSymbol} {c : Companion} {q₁ q₂ : Pools} {trouble : String}

/-- The header of a companion is the documented one. -/
theorem header_of_readsAs (h : c.IsMade strategy errorClass host id origin f q₁ q₂)
    (hgrows : q₂.Grows r) (hid : t.Identifies strategy r id) (ht : f.ReadsAs r t) :
    (host.printer r).header c.declaration =
      .ok (t.header strategy.suffix (t.returnType ++ strategy.nullability.mark)) := by
  have hpath : c.declaration.id.display r.names = .ok (t.path ++ strategy.suffix) := by
    rw [h.id, hid.path]
  have hparams : c.declaration.params.mapM (host.printer r).parameter =
      .ok (t.params.map (·.text)) := by
    rw [h.params]
    exact mapM_eq_ok_iff.2 (List.forall₂_map_right_iff.2
      ((forall₂_readsAs_copiesFrom ht.params _).imp fun _ _ hp => Printer.parameter_of_readsAs hp))
  have hreturn : r.types.format r.names c.declaration.returnType =
      .ok (t.returnType ++ strategy.nullability.mark) := by
    -- both return types are of one kind
    obtain ⟨⟨kind, n⟩, hget, hget'⟩ := h.returnType_of_grows hgrows
    obtain ⟨type, htype, hformat⟩ := ht.returnType
    obtain rfl := Option.some.inj (hget.symm.trans htype)
    exact (TypePool.format_eq_ok_iff hget').2 ((TypePool.format_eq_ok_iff hget).1 hformat)
  unfold Printer.header SignatureText.header
  rw [h.status, ht.visibility, hparams]
  simp only [Host.printer, hpath, hreturn, bind, Except.bind, pure, Except.pure,
    ← String.append_assoc]

/-- A companion is written as its documented source. -/
theorem declaration_of_readsAs (h : c.IsMade strategy errorClass host id origin f q₁ q₂)
    (hgrows : q₂.Grows r) (hhost : host.Legible r) (hf : host.declaration f.symbol = some f)
    (hid : t.Identifies strategy r id) (ht : f.ReadsAs r t)
    (htrouble : host.Troubles (host.thrown errorClass) r strategy trouble) :
    (host.printer r).declaration c.declaration = .ok (t.source strategy trouble) := by
  have htext := Printer.troubleText_of_troubles htrouble
  obtain ⟨b, hbody, hexpr⟩ :=
    h.expr_body hgrows hhost hf hid.name (Printer.callText_of_readsAs ht) htext
  unfold Printer.declaration
  rw [h.header_of_readsAs hgrows hid ht, hbody]
  simp only [hexpr, bind, Except.bind, pure, Except.pure]
  rw [t.source_eq]

end IsMade

end Companion

/-! ## Sessions -/

/-- There is something to write for trouble, and it stays. -/
theorem Host.Legible.exists_troubles (hhost : host.Legible q)
    (herror : ∀ n ∈ errorClass.names, q.names.Knows n) (strategy : Strategy) :
    ∃ text, ∀ r, q.Grows r → host.Troubles errorClass r strategy text := by
  cases strategy with
  | nullOnThrow => exact hhost.throwable.exists_lasting
  | throwOnNull =>
    exact exists_lasting fun _ hr =>
      (ClassId.alike_of_knows herror (.refl q) hr).coincide_display

/-- As long as the counter of constructors has not come round, companions throw the error class. -/
theorem Program.Reachable.thrown_host {p : Program} (hp : p.Reachable) (registry : Registry)
    (c : ClassId) (hroom : p.pools.symbols.constructors ≤ SymbolSupply.capacity) :
    (p.host registry).thrown c = c := by
  cases hfound : (p.host registry).noArgConstructor c with
  | none => simp [Host.thrown, hfound]
  | some s =>
    obtain ⟨d, -, hd, hmem, -⟩ := Program.noArgConstructor?_eq_some hfound
    obtain ⟨k, hk, htype⟩ := hp.sound.constructors _ d _ hd hmem
    exact (Host.thrown_eq hfound hk).trans (htype hroom)

namespace Session

variable {s s' s₀ : Session} {indexes : Strategy → CompanionIndex} {config : Config}

/-- The class that a session throws has a name. -/
theorem Serving.errorNamed (h : Serving config host q s r) : s.ErrorNamed r := by
  have hlasts : Lasts host fun _ q g => ∀ n ∈ g.errorClass.names, q.names.Knows n := by
    refine ⟨fun _ _ _ _ hgrows hg n hn => (hg n hn).mono hgrows, fun _ _ _ _ _ _ hg hget => ?_⟩
    obtain ⟨hgrows, -, herror⟩ := Generator.run_getIndex_keeps hget
    rw [herror]
    exact fun n hn => (hg n hn).mono hgrows
  induction h with
  | @new p _ _ _ hnew =>
    obtain ⟨s₀, q₀, hrun, -, herror, -⟩ := exists_run_new config host p
    rw [hnew] at hrun
    cases hrun
    exact herror
  | grow _ hgrows ih => exact fun strategy => hlasts.mono strategy _ _ _ hgrows (ih strategy)
  | serve _ request h ih => exact Keeps.serve hlasts ih h

/-- The generator has the index, and both are sound. -/
structure Indexed (errorClass : ClassId) (host : Host) (indexes : Strategy → CompanionIndex)
    (strategy : Strategy) (q : Pools) (g : Generator) : Prop where
  generator : g.Sound strategy errorClass host q
  index : (indexes strategy).Sound host strategy.suffix q
  built : g.index.built? = some (indexes strategy)

theorem lasts_indexed (errorClass : ClassId) (host : Host)
    (indexes : Strategy → CompanionIndex) : Lasts host (Indexed errorClass host indexes) where
  mono _ _ _ _ hgrows hg := ⟨hg.generator.mono hgrows, hg.index.mono hgrows, hg.built⟩
  getIndex _ _ _ _ _ _ hg hget := by
    obtain ⟨hgrows, -, hsound, hbuilt⟩ := Generator.run_getIndex_eq_ok hget hg.generator
    refine ⟨hsound, hg.index.mono hgrows, hbuilt.trans ?_⟩
    rw [(Generator.run_getIndex_settles hget).1 _ hg.built]

/-- A session that answers its indexes has them from then on. -/
theorem exists_run_indexes_indexed (hhost : host.Ready q) (hs : s.Sound errorClass host q) :
    ∃ indexes s₁ q₁, (s.indexes host).run q =
        .ok (((indexes .nullOnThrow, indexes .throwOnNull), s₁), q₁) ∧ q.Grows q₁ ∧
      Keeps (Indexed errorClass host indexes) q₁ s₁ := by
  obtain ⟨i, g, q₁, hget⟩ := Generator.exists_run_getIndex hhost.namesKnown s.orNull
  obtain ⟨hgrows, hi, hg, hbuilt⟩ := Generator.run_getIndex_eq_ok hget hs.orNull
  obtain ⟨j, g', q₂, hget'⟩ :=
    Generator.exists_run_getIndex (hhost.mono hgrows).namesKnown s.orThrow
  obtain ⟨hgrows', hj, hg', hbuilt'⟩ :=
    Generator.run_getIndex_eq_ok hget' (hs.orThrow.mono hgrows)
  refine ⟨fun | .nullOnThrow => i | .throwOnNull => j, ⟨g, g'⟩, q₂, indexes_run hget hget',
    hgrows.trans hgrows', fun strategy => ?_⟩
  cases strategy with
  | nullOnThrow => exact ⟨hg.mono hgrows', hi.mono hgrows', hbuilt⟩
  | throwOnNull => exact ⟨hg', hj, hbuilt'⟩

/-- A session that has its indexes answers for the companions that they list, and makes them as long
as there are symbols left for parameters, unless the class to throw cannot be made from nothing. -/
theorem exists_run_generate_of_indexed {origin : FunctionSymbol} (hhost : host.Legible q)
    (hs : Keeps (Indexed errorClass host indexes) q s)
    (horigin : (indexes strategy).originOf? id = some origin)
    (hf : host.declaration origin = some f)
    (hconstr : strategy = .throwOnNull → host.noArgConstructor errorClass ≠ none) :
    ∃ answer q', (s.generate host id id.owner).run q = .ok ((answer, s), q') ∧
      (q'.symbols.params ≤ SymbolSupply.capacity → ∃ c, answer = .ok (some c) ∧
        c.IsMade strategy errorClass host id origin f q q') := by
  have hid : id ∈ (indexes strategy).identities :=
    List.mem_map_of_mem (CompanionIndex.mem_entries_of_originOf? horigin)
  obtain ⟨hg, hi, hbuilt⟩ := hs strategy
  obtain ⟨answer, q', hfrom⟩ := Generator.ends_generateFrom hhost.ready (s.generator strategy)
    (indexes strategy) id id.owner
  obtain ⟨hanswer, hsome, -⟩ :=
    Generator.run_generateFrom_of_mem hhost.reliable hhost.known hg hi hid hfrom
  refine ⟨answer, q', ?_, fun hroom => ?_⟩
  · obtain ⟨made, rfl⟩ : ∃ made : Except GenerationError Companion, answer = made.map some := by
      rcases answer with e | _ | c
      · exact ⟨.error e, rfl⟩
      · exact absurd rfl hanswer
      · exact ⟨.ok c, rfl⟩
    cases strategy with
    | nullOnThrow => exact generate_run_of_orNull hbuilt hfrom
    | throwOnNull =>
      have hnot : id ∉ (indexes .nullOnThrow).identities :=
        fun hnull => (hs .nullOnThrow).index.disjoint hi hnull hid
      exact generate_run_of_orThrow (hs .nullOnThrow).built hbuilt hnot hfrom
  · obtain ⟨c, rfl⟩ := hsome hroom hconstr
    -- it is made from the declaration that the index leads to
    obtain ⟨-, horigin', f', hf', hmade⟩ := Generator.run_generateFrom_eq_some hfrom
    obtain rfl := Option.some.inj (horigin.symm.trans horigin')
    obtain rfl := Option.some.inj (hf.symm.trans hf')
    rw [hg.strategy, hg.errorClass] at hmade
    exact ⟨c, rfl, hmade⟩

/-- Over a program whose signatures are known and named, whatever a session has been asked: what its
indexes list, it makes whenever it is asked for it and has symbols left for parameters, and that is
written as the documented source of a companion, whenever it is written. -/
theorem companions_read {p : Program} (hp : p.Reachable)
    (hknown : ∀ d ∈ p.declarations, d.SignatureKnown p.pools ∧ d.SignatureNamed p.pools)
    (hnamed : ∀ k ∈ p.constructors, ∀ n ∈ k.type.names, p.pools.names.Knows n)
    {registry : Registry} (hs : Serving config (p.host registry) p.pools s q) :
    ∃ (indexes : Strategy → CompanionIndex) (s₁ : Session) (q₁ : Pools)
        (trouble : Strategy → String),
      (s.indexes (p.host registry)).run q =
        .ok (((indexes .nullOnThrow, indexes .throwOnNull), s₁), q₁) ∧
      (∀ strategy,
        (strategy = .throwOnNull → p.pools.symbols.constructors ≤ SymbolSupply.capacity) →
          (p.host registry).Troubles s.orThrow.errorClass q strategy (trouble strategy)) ∧
      ∀ strategy id origin, (indexes strategy).originOf? id = some origin →
        ∃ f t, p.declaration? origin = some f ∧ f.ReadsAs p.pools t ∧
          t.Identifies strategy q₁ id ∧
          ((strategy = .throwOnNull → p.MakesFromNothing s.orThrow.errorClass) →
            ∀ s' r, Becomes (p.host registry) s₁ q₁ s' r →
              ∃ answer r', (s'.generate (p.host registry) id id.owner).run r =
                  .ok ((answer, s'), r') ∧
                (r'.symbols.params ≤ SymbolSupply.capacity →
                  ∃ c, answer = .ok (some c) ∧ c.origin = origin ∧ ∀ q', r'.Grows q' →
                    ({ p with pools := q' } : Program).printer.declaration c.declaration =
                      .ok (t.source strategy (trouble strategy)))) := by
  obtain ⟨hgrows, hsound⟩ := hs.sound
  have hlegible := hp.legible hknown hnamed registry
  have hhost := hlegible.mono hgrows
  choose trouble htrouble using
    hhost.exists_troubles (hhost.knows_thrown (hs.errorNamed .throwOnNull))
  obtain ⟨indexes, s₁, q₁, hindexes, hgrows₁, hkept⟩ :=
    exists_run_indexes_indexed hhost.ready hsound
  refine ⟨indexes, s₁, q₁, trouble, hindexes, fun strategy hroom => ?_,
    fun strategy id origin horigin => ?_⟩
  · cases strategy with
    | nullOnThrow => exact htrouble .nullOnThrow q (.refl q)
    | throwOnNull =>
      have htext := htrouble .throwOnNull q (.refl q)
      rwa [hp.thrown_host registry _ (hroom rfl)] at htext
  have hderives :=
    (hkept strategy).index _ (CompanionIndex.mem_entries_of_originOf? horigin)
  have ⟨f, _, hf, _⟩ := hderives
  obtain ⟨t, ht⟩ := (hlegible.named origin f hf).exists_readsAs
  have hid := fun r (hr : q₁.Grows r) =>
    (hderives.mono hr).identifies hf (ht r ((hgrows.trans hgrows₁).trans hr))
  refine ⟨f, t, hf, ht _ (.refl _), hid q₁ (.refl q₁), fun hmakes s' r hbecomes => ?_⟩
  have hconstr : strategy = .throwOnNull →
      (p.host registry).noArgConstructor s.orThrow.errorClass ≠ none :=
    fun h => Program.noArgConstructor?_ne_none_iff.2 (hmakes h)
  have hgrows₂ := hgrows₁.trans hbecomes.grows
  obtain ⟨answer, r', hrun, hanswer⟩ := exists_run_generate_of_indexed (hhost.mono hgrows₂)
    (hbecomes.keeps (lasts_indexed _ _ _) hkept) horigin hf hconstr
  refine ⟨answer, r', hrun, fun hroom => ?_⟩
  obtain ⟨c, rfl, hmade⟩ := hanswer hroom
  refine ⟨c, rfl, hmade.origin, fun q' hq' => ?_⟩
  have hgrows₃ := hmade.grows.trans hq'
  have hown : (p.host registry).declaration f.symbol = some f := by
    rw [hlegible.reliable.declaration _ _ hf, hf]
  exact hmade.declaration_of_readsAs hq' (hhost.mono (hgrows₂.trans hgrows₃)) hown
    (hid q' (hbecomes.grows.trans hgrows₃))
    (ht q' ((hgrows.trans hgrows₂).trans hgrows₃))
    (htrouble strategy q' (hgrows₂.trans hgrows₃))

end Session

/-! ## The sample -/

namespace Sample

/-- What the companions of the sample are written with. -/
def signature : Strategy → SignatureText
  | .nullOnThrow => ⟨"public", "load", "load", none, [⟨.none, "text", "String"⟩], "String"⟩
  | .throwOnNull => ⟨"public", "find", "find", none, [⟨.none, "text", "String"⟩], "String"⟩

/-- The companion that the sample has for the strategy. -/
def companionId : Strategy → CallableId
  | .nullOnThrow => loadOrNull
  | .throwOnNull => findOrThrow

/-- The documented sources of the companions of the sample. -/
def documented : Strategy → String
  | .nullOnThrow => (signature .nullOnThrow).source .nullOnThrow "kotlin.Throwable"
  | .throwOnNull => (signature .throwOnNull).source .throwOnNull "java.lang.IllegalStateException"

/-- A new session answers its indexes and then makes a companion. -/
def lists (strategy : Strategy) :
    Growing (Except GenerationError (Option Companion) × Session) := do
  let s ← Session.new .standard
  let (_, s) ← s.indexes (program.host registry)
  s.generate (program.host registry) (companionId strategy) (companionId strategy).owner

/-- What is written of the companion, if symbols are left for parameters. -/
def reading (strategy : Strategy) : Option String :=
  match (lists strategy).run program.pools with
  | .ok ((.ok (some c), _), q) =>
    if q.symbols.params ≤ SymbolSupply.capacity then
      (({ program with pools := q } : Program).printer.declaration c.declaration).toOption
    else none
  | _ => none

theorem reading_eq (strategy : Strategy) : reading strategy = some (documented strategy) := by
  cases strategy <;> decide +kernel

/-- What a new session throws can be made from nothing. -/
theorem makesFromNothing {s : Session} {q : Pools}
    (h : (Session.new .standard).run program.pools = .ok (s, q)) :
    program.MakesFromNothing s.orThrow.errorClass := by
  have herror : ((Session.new .standard).run program.pools).toOption.bind
      (fun r => program.noArgConstructor? r.1.orThrow.errorClass) ≠ none := by decide +kernel
  rw [h] at herror
  exact Program.noArgConstructor?_ne_none_iff.1 herror

example : documented .nullOnThrow =
    "public fun loadOrNull(text: String): String? \x7b\n    try \x7b\n        " ++
      "return@loadOrNull load(text)\n    \x7d catch (e: kotlin.Throwable) \x7b\n        " ++
      "return@loadOrNull null\n    \x7d\n\x7d" := by decide +kernel

example : documented .throwOnNull =
    "public fun findOrThrow(text: String): String \x7b\n    " ++
      "return@findOrThrow find(text) ?: throw java.lang.IllegalStateException()\n\x7d" := by
  decide +kernel

end Sample

open Sample in
/-- Both companions of the sample are written as documented. -/
theorem Session.companions_read_sample :
    program.Reachable ∧
      (∀ d ∈ program.declarations,
        d.SignatureKnown program.pools ∧ d.SignatureNamed program.pools) ∧
      (∀ k ∈ program.constructors, ∀ n ∈ k.type.names, program.pools.names.Knows n) ∧
      ∃ s q, Serving .standard (program.host registry) program.pools s q ∧
        ∃ both s₁ q₁, (s.indexes (program.host registry)).run q = .ok ((both, s₁), q₁) ∧
          ∀ strategy, ∃ c r',
            (s₁.generate (program.host registry) (companionId strategy)
              (companionId strategy).owner).run q₁ = .ok ((.ok (some c), s₁), r') ∧
            ∀ q', r'.Grows q' →
              ({ program with pools := q' } : Program).printer.declaration c.declaration =
                .ok (documented strategy) := by
  obtain ⟨s, q, hnew⟩ : ∃ s q, (Session.new .standard).run program.pools = .ok (s, q) :=
    ⟨_, _, rfl⟩
  have hserving : Serving .standard (program.host registry) program.pools s q :=
    .new (.refl _) hnew
  obtain ⟨indexes, s₁, q₁, trouble, hindexes, -, hread⟩ :=
    companions_read program_reachable named classesNamed hserving
  refine ⟨program_reachable, named, classesNamed, s, q, hserving, _, s₁, q₁, hindexes,
    fun strategy => ?_⟩
  obtain ⟨origin, horigin⟩ :
      ∃ origin, (indexes strategy).originOf? (companionId strategy) = some origin := by
    have hlisted := listed_program
    rw [listed, Growing.run_bind_of_ok hnew, Growing.run_bind_of_ok hindexes] at hlisted
    have hboth := Option.some.inj hlisted
    refine Option.ne_none_iff_exists'.1 (mt CompanionIndex.originOf?_eq_none_iff.1 ?_)
    cases strategy with
    | nullOnThrow =>
      have hids : (indexes .nullOnThrow).identities = [loadOrNull] := congrArg Prod.fst hboth
      simp [hids, companionId]
    | throwOnNull =>
      have hids : (indexes .throwOnNull).identities = [findOrThrow] := congrArg Prod.snd hboth
      simp [hids, companionId]
  obtain ⟨f, t, -, -, -, hmade⟩ := hread strategy _ origin horigin
  obtain ⟨answer, r', hrun, hwritten⟩ := hmade (fun _ => makesFromNothing hnew) s₁ q₁ .start
  have heq := reading_eq strategy
  rw [reading, lists, Growing.run_bind_of_ok hnew, Growing.run_bind_of_ok hindexes, hrun] at heq
  dsimp only at heq
  split at heq
  · next c _ _ hlast =>
    cases hlast
    split at heq
    · next hroom =>
      obtain ⟨c', hc, -, hwritten⟩ := hwritten hroom
      cases hc
      rw [hwritten r' (.refl r')] at heq
      exact ⟨c, r', hrun, fun q' hq' => by rw [hwritten q' hq', Option.some.inj heq]⟩
    · cases heq
  · cases heq

namespace Sample

/-- The displaced program as a host. -/
def displacedHost : Host := displaced.host (registryOf displaced)

/-- What a new session over the displaced program makes of the second function, and what it throws
by its configuration. -/
def writesQuiet : Bool :=
  match (Session.new .standard).run displaced.pools with
  | .ok (s, q) =>
    match (s.indexes displacedHost).run q with
    | .ok ((_, s₁), q₁) =>
      match (s₁.generate displacedHost (.topLevel .empty ⟨21⟩) none).run q₁ with
      | .ok ((.ok (some c), _), r) =>
        decide (displaced.noArgConstructor? s.orThrow.errorClass ≠ none ∧
          s.orThrow.errorClass.display q.names = .ok "java.lang.IllegalStateException" ∧
          ({ displaced with pools := r } : Program).printer.declaration c.declaration =
            .ok ((signature .throwOnNull).source .throwOnNull "demo.Quiet"))
      | _ => false
    | .error _ => false
  | .error _ => false

theorem writesQuiet_displaced : writesQuiet = true := by decide +kernel

end Sample

open Sample in
/-- Once the counter of constructors has come round, a class that is declared takes the constructor
of the error class away, and stands in the source text in its place. -/
theorem Session.companions_read_displaced :
    (Growing.times Growing.mintConstructor (SymbolSupply.capacity - 1)).run program.pools =
        .ok ((), worn.pools) ∧
      displaced.Reachable ∧
      (∀ d ∈ displaced.declarations,
        d.SignatureKnown displaced.pools ∧ d.SignatureNamed displaced.pools) ∧
      (∀ k ∈ displaced.constructors, ∀ n ∈ k.type.names, displaced.pools.names.Knows n) ∧
      ∃ s q both s₁ q₁ c s₂ r, (Session.new .standard).run displaced.pools = .ok (s, q) ∧
        (s.indexes displacedHost).run q = .ok ((both, s₁), q₁) ∧
        (s₁.generate displacedHost (.topLevel .empty ⟨21⟩) none).run q₁ =
          .ok ((.ok (some c), s₂), r) ∧
        displaced.MakesFromNothing s.orThrow.errorClass ∧
        s.orThrow.errorClass.display q.names = .ok "java.lang.IllegalStateException" ∧
        ({ displaced with pools := r } : Program).printer.declaration c.declaration =
          .ok ((signature .throwOnNull).source .throwOnNull "demo.Quiet") := by
  refine ⟨run_mintConstructors_program, displaced_reachable, by decide +kernel,
    by decide +kernel, ?_⟩
  have hwrites := writesQuiet_displaced
  unfold writesQuiet at hwrites
  split at hwrites
  · next s q hnew =>
    split at hwrites
    · next both s₁ q₁ hindexes =>
      split at hwrites
      · next c s₂ r hgenerate =>
        obtain ⟨hmakes, hdisplay, htext⟩ := of_decide_eq_true hwrites
        exact ⟨s, q, both, s₁, q₁, c, s₂, r, hnew, hindexes, hgenerate,
          Program.noArgConstructor?_ne_none_iff.1 hmakes, hdisplay, htext⟩
      · cases hwrites
    · cases hwrites
  · cases hwrites

end Companions
