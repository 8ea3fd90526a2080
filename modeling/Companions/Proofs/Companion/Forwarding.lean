import Companions.Companion.Forwarding
import Companions.Proofs.Pools.Growth
set_option autoImplicit false

/-!
# The bodies that forward

What the body of a companion looks like, node by node.  Both bodies begin with the nodes of the call
(`callNodes`): the receiver of a member, a reader for each parameter, and the call itself.  The
nodes that deal with the answer follow (`orNullBody`, `orThrowBody`).

The only ways in which making a body can fail are a parameter list that is longer than a span can
say and, for `fOrThrow`, a return type that the pool does not hold.
-/

namespace Companions

namespace Forwarding

/-! ## The call -/

/-- The node that reads a parameter. -/
def reader (p : Parameter) : Expr := ⟨.param p.symbol, p.type⟩

/-- The arguments that hand the values at the places from `n` on to the parameters. -/
def argumentsFrom : Nat → List Parameter → List Argument
  | _, [] => []
  | n, p :: rest => ⟨some ⟨n⟩, p.symbol⟩ :: argumentsFrom (n + 1) rest

/-- The node of the receiver, if the function is a member. -/
def receiverNodes (f : Declaration) (selfType : TypeId) : List Expr :=
  f.owner.toList.map fun owner => ⟨.self owner, selfType⟩

/-- Where the receiver stands. -/
def receiverPlace (f : Declaration) : ExprRef := f.owner.map fun _ => ⟨0⟩

/-- Where the readers begin. -/
def readersStart (f : Declaration) : Nat := f.owner.toList.length

/-- Where the call stands. -/
def callPlace (f : Declaration) : Nat := readersStart f + f.params.length

/-- The nodes of the call, which stands last. -/
def callNodes (f : Declaration) (params : List Parameter) (selfType : TypeId) : List Expr :=
  receiverNodes f selfType ++ params.map reader ++
    [⟨.call f.symbol (receiverPlace f) ⟨0, f.params.length⟩, f.returnType⟩]

/-- A body that has one label, and in it the call. -/
def callBody (f : Declaration) (params : List Parameter) (selfType : TypeId) (label : Name) :
    Body where
  nodes := (callNodes f params selfType).toArray
  statements := #[]
  arguments := (argumentsFrom (readersStart f) f.params).toArray
  handlers := #[]
  labels := #[⟨label, none⟩]
  root := none

@[simp] theorem length_argumentsFrom (n : Nat) (params : List Parameter) :
    (argumentsFrom n params).length = params.length := by
  induction params generalizing n with
  | nil => rfl
  | cons p rest ih => simp [argumentsFrom, ih]

theorem length_receiverNodes (f : Declaration) (selfType : TypeId) :
    (receiverNodes f selfType).length = readersStart f := by
  simp [receiverNodes, readersStart]

theorem length_callNodes {f : Declaration} {params : List Parameter} {selfType : TypeId}
    (h : params.length = f.params.length) :
    (callNodes f params selfType).length = callPlace f + 1 := by
  simp [callNodes, length_receiverNodes, callPlace, h, Nat.add_assoc]

theorem readParams_eq (b : Body) (pairs : List (Parameter × Parameter)) :
    readParams b pairs = (argumentsFrom b.size (pairs.map (·.1)),
      { b with nodes := b.nodes ++ ((pairs.map (·.2)).map reader).toArray }) := by
  induction pairs generalizing b with
  | nil => simp [readParams, argumentsFrom]
  | cons pair rest ih =>
    obtain ⟨declared, own⟩ := pair
    simp only [readParams, ih]
    simp [Body.alloc, Body.size, argumentsFrom, reader]

/-- The pools and the type of the receiver once the receiver is there. -/
def receiverPools (f : Declaration) (q : Pools) : TypeId × Pools :=
  match f.owner with
  | none => (default, q)
  | some owner =>
    ((q.types.classType owner).1, { q with types := (q.types.classType owner).2 })

theorem grows_receiverPools (f : Declaration) (q : Pools) : q.Grows (receiverPools f q).2 := by
  unfold receiverPools
  split
  · exact .refl q
  · exact Growing.grows_internType q _

theorem get?_receiverPools {f : Declaration} {owner : ClassId} (h : f.owner = some owner)
    (q : Pools) :
    (receiverPools f q).2.types.get? (receiverPools f q).1 = some ⟨.object owner, .notNull⟩ := by
  simp only [receiverPools, h]
  exact TypePool.get?_intern q.types _

theorem receiver_run (f : Declaration) (label : Name) (q : Pools) :
    (receiver f (Body.empty.newLabel label).2).run q =
      .ok ((receiverPlace f, { (Body.empty.newLabel label).2 with
        nodes := (receiverNodes f (receiverPools f q).1).toArray }), (receiverPools f q).2) := by
  cases h : f.owner with
  | none =>
    simp only [receiver, receiverPlace, receiverNodes, receiverPools, h]
    rfl
  | some owner =>
    simp only [receiver, receiverPlace, receiverNodes, receiverPools, h]
    rfl

/-- The arguments of a call are stored behind nothing, unless there are more than a span can say. -/
theorem pushArguments_eq {b : Body} (h : b.arguments = #[]) (arguments : List Argument) :
    b.pushArguments arguments =
      if Body.maxListLength < arguments.length then
        .error (.listTooLong .arguments arguments.length)
      else .ok (⟨0, arguments.length⟩, { b with arguments := arguments.toArray }) := by
  unfold Body.pushArguments Body.append
  rw [h]
  cases arguments with
  | nil => rfl
  | cons a rest =>
    simp only [List.isEmpty_cons, Bool.false_eq_true, if_false, Array.size_empty]
    split
    · rfl
    · simp only [Array.empty_append]
      rfl

variable {f : Declaration} {params : List Parameter} {label : Name} {q : Pools}

/-- How the call is made, for copies of all parameters. -/
theorem call_run (hcopies : params.length = f.params.length) :
    (call f params (Body.empty.newLabel label).2).run q =
      if Body.maxListLength < f.params.length then
        .error (.listTooLong .arguments f.params.length)
      else .ok ((⟨callPlace f⟩, callBody f params (receiverPools f q).1 label),
        (receiverPools f q).2) := by
  have hfst : (f.params.zip params).map (·.1) = f.params :=
    List.map_fst_zip (Nat.le_of_eq hcopies.symm)
  have hsnd : (f.params.zip params).map (·.2) = params :=
    List.map_snd_zip (Nat.le_of_eq hcopies)
  rw [call, Growing.run_bind_of_ok (receiver_run f label q)]
  dsimp only
  rw [readParams_eq, hfst, hsnd, pushArguments_eq rfl, length_argumentsFrom]
  split
  · rfl
  · simp [callBody, callNodes, callPlace, Body.alloc, Body.size, Body.newLabel, Body.empty,
      length_receiverNodes, hcopies]
    rfl

/-- The call succeeds exactly if a span can say how many parameters there are. -/
theorem run_call_eq_ok_iff (label : Name) (hcopies : params.length = f.params.length) {e : ExprId}
    {b : Body} {q' : Pools} :
    (call f params (Body.empty.newLabel label).2).run q = .ok ((e, b), q') ↔
      f.params.length ≤ Body.maxListLength ∧ e = ⟨callPlace f⟩ ∧
        b = callBody f params (receiverPools f q).1 label ∧ q' = (receiverPools f q).2 := by
  rw [call_run hcopies]
  split
  · next h => simp [Nat.not_le.2 h]
  · next h => simp [Nat.not_lt.1 h, eq_comm, and_assoc]

/-! ## What becomes of the answer -/

/-- The nodes of `fOrNull` behind the call at `n`: return its answer, tried; return null, handling;
the `try`; the whole. -/
def orNullNodes (builtins : Builtins) (n : Nat) : List Expr :=
  [⟨.ret ⟨0⟩ (some ⟨n⟩), builtins.nothing⟩,
    ⟨.block ⟨0, 1⟩, builtins.nothing⟩,
    ⟨.const .null, builtins.null⟩,
    ⟨.ret ⟨0⟩ (some ⟨n + 3⟩), builtins.nothing⟩,
    ⟨.block ⟨1, 1⟩, builtins.nothing⟩,
    ⟨.attempt (some ⟨n + 2⟩) ⟨0, 1⟩, builtins.nothing⟩,
    ⟨.block ⟨2, 1⟩, builtins.nothing⟩]

/-- The body of `fOrNull`. -/
def orNullBody (builtins : Builtins) (f : Declaration) (params : List Parameter)
    (selfType : TypeId) (handler : Parameter) (label : Label) : Body where
  nodes := (callNodes f params selfType ++ orNullNodes builtins (callPlace f)).toArray
  statements := #[some ⟨callPlace f + 1⟩, some ⟨callPlace f + 4⟩, some ⟨callPlace f + 6⟩]
  arguments := (argumentsFrom (readersStart f) f.params).toArray
  handlers := #[⟨handler, some ⟨callPlace f + 5⟩⟩]
  labels := #[label]
  root := some ⟨callPlace f + 7⟩

/-- The nodes of `fOrThrow` behind the call at `n`: make an object, throw it; the answer or else
that; return it; the whole. -/
def orThrowNodes (builtins : Builtins) (constr : ConstructorSymbol) (errorType notNull : TypeId)
    (n : Nat) : List Expr :=
  [⟨.new constr ⟨0, 0⟩, errorType⟩,
    ⟨.raise (some ⟨n + 1⟩), builtins.nothing⟩,
    ⟨.elvis (some ⟨n⟩) (some ⟨n + 2⟩), notNull⟩,
    ⟨.ret ⟨0⟩ (some ⟨n + 3⟩), builtins.nothing⟩,
    ⟨.block ⟨0, 1⟩, builtins.nothing⟩]

/-- The body of `fOrThrow`. -/
def orThrowBody (builtins : Builtins) (constr : ConstructorSymbol) (f : Declaration)
    (params : List Parameter) (selfType errorType notNull : TypeId) (label : Label) : Body where
  nodes := (callNodes f params selfType ++
    orThrowNodes builtins constr errorType notNull (callPlace f)).toArray
  statements := #[some ⟨callPlace f + 4⟩]
  arguments := (argumentsFrom (readersStart f) f.params).toArray
  handlers := #[]
  labels := #[label]
  root := some ⟨callPlace f + 5⟩

/-- The handler's parameter is minted, is called `e`, and takes all that can be thrown. -/
structure IsHandlerParam (builtins : Builtins) (q : Pools) (handler : Parameter) (q' : Pools) :
    Prop where
  grows : q.Grows q'
  symbol : handler.symbol = ⟨SymbolSupply.shown q.symbols.params⟩
  minted : q.symbols.params < q'.symbols.params
  name : q'.names.text? handler.name = some "e"
  type : handler.type = builtins.throwable
  flags : handler.flags = .none
  provenance : handler.provenance = Strategy.provenance .nullOnThrow

theorem exists_run_handlerParam (builtins : Builtins) (q : Pools) :
    ∃ handler q', (handlerParam builtins).run q = .ok (handler, q') ∧
      IsHandlerParam builtins q handler q' := by
  obtain ⟨s, q₁, hmint⟩ : ∃ s q₁, Growing.mintParam.run q = .ok (s, q₁) := ⟨_, _, rfl⟩
  obtain ⟨n, q₂, hintern⟩ : ∃ n q₂, (Growing.intern "e").run q₁ = .ok (n, q₂) := ⟨_, _, rfl⟩
  obtain ⟨hgrows₁, rfl, hcount⟩ := Growing.run_mintParam_eq_ok hmint
  obtain ⟨hgrows₂, hname⟩ := Growing.run_intern_eq_ok hintern
  refine ⟨⟨⟨SymbolSupply.shown q.symbols.params⟩, n, builtins.throwable, .none,
    Strategy.provenance .nullOnThrow⟩, q₂, ?_, ?_⟩
  · rw [handlerParam, Growing.run_bind_of_ok hmint, Growing.run_bind_of_ok hintern,
      StateT.run_pure]
    rfl
  · refine ⟨hgrows₁.trans hgrows₂, rfl, ?_, hname, rfl, rfl, rfl⟩
    exact Nat.lt_of_lt_of_le (hcount ▸ Nat.lt_succ_self _) hgrows₂.params

theorem block_eq (b : Body) (statement : ExprId) (type : TypeId) :
    block b statement type = .ok (⟨b.size⟩, { b with
      nodes := b.nodes.push ⟨.block ⟨b.statements.size, 1⟩, type⟩
      statements := b.statements.push (some statement) }) := by
  simp [block, Body.pushStatements, Body.append, Body.maxListLength, Body.alloc, Body.size, bind,
    Except.bind, pure, Except.pure]

theorem pushHandlers_singleton (b : Body) (h : Handler) :
    b.pushHandlers [h] =
      .ok (⟨b.handlers.size, 1⟩, { b with handlers := b.handlers.push h }) := by
  simp [Body.pushHandlers, Body.append, Body.maxListLength, bind, Except.bind, pure, Except.pure]

/-- Making the body of `fOrNull` succeeds if making the call does. -/
theorem orNull_run (label : Name) (hcopies : params.length = f.params.length)
    (hlen : f.params.length ≤ Body.maxListLength) (builtins : Builtins) :
    ∃ handler q', (orNull builtins f params ⟨0⟩ (Body.empty.newLabel label).2).run q =
        .ok (orNullBody builtins f params (receiverPools f q).1 handler ⟨label, none⟩, q') ∧
      IsHandlerParam builtins (receiverPools f q).2 handler q' := by
  have hcall := (run_call_eq_ok_iff label (q := q) hcopies).2 ⟨hlen, rfl, rfl, rfl⟩
  obtain ⟨handler, q', hrun, hhandler⟩ :=
    exists_run_handlerParam builtins (receiverPools f q).2
  refine ⟨handler, q', ?_, hhandler⟩
  rw [orNull, Growing.run_bind_of_ok hcall]
  simp only [block_eq, Growing.liftM_ok, pure_bind]
  rw [Growing.run_bind_of_ok hrun]
  simp only [pushHandlers_singleton, Growing.liftM_ok, pure_bind, StateT.run_pure]
  simp [orNullBody, orNullNodes, callBody, Body.alloc, Body.setRoot, Body.size,
    length_callNodes hcopies]
  rfl

/-- A body of `fOrNull` that was made is the one that is expected. -/
theorem run_orNull_eq_ok (hcopies : params.length = f.params.length) {builtins : Builtins}
    {b : Body} {q' : Pools}
    (h : (orNull builtins f params ⟨0⟩ (Body.empty.newLabel label).2).run q = .ok (b, q')) :
    ∃ handler, b = orNullBody builtins f params (receiverPools f q).1 handler ⟨label, none⟩ ∧
      IsHandlerParam builtins (receiverPools f q).2 handler q' := by
  obtain ⟨⟨e, c⟩, q₁, hcall, -⟩ := Growing.run_bind_eq_ok_iff.1 h
  have hlen := ((run_call_eq_ok_iff label hcopies).1 hcall).1
  obtain ⟨handler, q'', hrun, hhandler⟩ :=
    orNull_run label (q := q) hcopies hlen builtins
  rw [hrun] at h
  cases h
  exact ⟨handler, rfl, hhandler⟩

/-- What the object to throw and the answer of `fOrThrow` have for types. -/
structure IsThrowTypes (errorClass : ClassId) (f : Declaration) (q : Pools)
    (errorType notNull : TypeId) (q' : Pools) : Prop where
  grows : q.Grows q'
  errorType : q'.types.get? errorType = some ⟨.object errorClass, .notNull⟩
  notNull : ∃ t, q'.types.get? f.returnType = some t ∧
    q'.types.get? notNull = some { t with nullability := .notNull }

/-- Making the body of `fOrThrow` comes down to the call, the class to throw, and the type of an
answer that is not null. -/
theorem orThrow_run (label : Name) (hcopies : params.length = f.params.length)
    (hlen : f.params.length ≤ Body.maxListLength) (builtins : Builtins) (errorClass : ClassId)
    (constr : ConstructorSymbol) {errorType notNull : TypeId} {q₁ q' : Pools}
    (herror : (Growing.classType errorClass).run (receiverPools f q).2 = .ok (errorType, q₁))
    (hnull : (Growing.withNullability f.returnType .notNull).run q₁ = .ok (notNull, q')) :
    (orThrow builtins errorClass constr f params ⟨0⟩ (Body.empty.newLabel label).2).run q =
        .ok (orThrowBody builtins constr f params (receiverPools f q).1 errorType notNull
          ⟨label, none⟩, q') ∧
      IsThrowTypes errorClass f (receiverPools f q).2 errorType notNull q' := by
  have hcall := (run_call_eq_ok_iff label (q := q) hcopies).2 ⟨hlen, rfl, rfl, rfl⟩
  obtain ⟨hgrows₁, htype⟩ := Growing.run_classType_eq_ok herror
  obtain ⟨hgrows₂, t, ht, hnotNull⟩ := Growing.run_withNullability_eq_ok hnull
  refine ⟨?_, hgrows₁.trans hgrows₂, hgrows₂.types _ _ htype, t, hgrows₂.types _ _ ht, hnotNull⟩
  rw [orThrow, Growing.run_bind_of_ok hcall, Growing.run_bind_of_ok herror]
  dsimp only
  rw [Growing.run_bind_of_ok hnull]
  simp only [block_eq, Growing.liftM_ok, pure_bind, StateT.run_pure]
  simp [orThrowBody, orThrowNodes, callBody, Body.alloc, Body.setRoot, Body.size, Span.empty,
    length_callNodes hcopies]
  rfl

/-- A body of `fOrThrow` that was made is the one that is expected. -/
theorem run_orThrow_eq_ok (hcopies : params.length = f.params.length) {builtins : Builtins}
    {errorClass : ClassId} {constr : ConstructorSymbol} {b : Body} {q' : Pools}
    (h : (orThrow builtins errorClass constr f params ⟨0⟩ (Body.empty.newLabel label).2).run q =
      .ok (b, q')) :
    ∃ errorType notNull, b = orThrowBody builtins constr f params (receiverPools f q).1 errorType
        notNull ⟨label, none⟩ ∧
      IsThrowTypes errorClass f (receiverPools f q).2 errorType notNull q' := by
  obtain ⟨⟨e, c⟩, q₁, hcall, h'⟩ := Growing.run_bind_eq_ok_iff.1 h
  obtain ⟨hlen, rfl, rfl, rfl⟩ := (run_call_eq_ok_iff label hcopies).1 hcall
  obtain ⟨errorType, q₂, herror, h'⟩ := Growing.run_bind_eq_ok_iff.1 h'
  obtain ⟨notNull, q₃, hnull, -⟩ := Growing.run_bind_eq_ok_iff.1 h'
  obtain ⟨hrun, htypes⟩ :=
    orThrow_run label hcopies hlen builtins errorClass constr herror hnull
  rw [hrun] at h
  cases h
  exact ⟨errorType, notNull, rfl, htypes⟩

/-- Making the body of `fOrThrow` succeeds if the return type of the function is known. -/
theorem exists_run_orThrow (label : Name) (hcopies : params.length = f.params.length)
    (hlen : f.params.length ≤ Body.maxListLength) (builtins : Builtins) (errorClass : ClassId)
    (constr : ConstructorSymbol) (hreturn : q.types.contains f.returnType = true) :
    ∃ b q', (orThrow builtins errorClass constr f params ⟨0⟩ (Body.empty.newLabel label).2).run q =
      .ok (b, q') := by
  obtain ⟨errorType, q₁, herror⟩ : ∃ errorType q₁,
      (Growing.classType errorClass).run (receiverPools f q).2 = .ok (errorType, q₁) := ⟨_, _, rfl⟩
  have hgrows := (grows_receiverPools f q).trans (Growing.run_classType_eq_ok herror).1
  obtain ⟨notNull, q', hnull⟩ :=
    Growing.exists_run_withNullability .notNull (hgrows.contains hreturn)
  exact ⟨_, q', (orThrow_run label hcopies hlen builtins errorClass constr herror hnull).1⟩

/-! ## Reading the nodes back -/

/-- The arguments hand on to each parameter the value at its own place. -/
theorem mem_argumentsFrom {n : Nat} {params : List Parameter} {a : Argument}
    (h : a ∈ argumentsFrom n params) :
    ∃ i p, params[i]? = some p ∧ a = ⟨some ⟨n + i⟩, p.symbol⟩ := by
  induction params generalizing n with
  | nil => simp [argumentsFrom] at h
  | cons p rest ih =>
    rcases List.mem_cons.1 h with rfl | h
    · exact ⟨0, p, rfl, rfl⟩
    · obtain ⟨i, p', hp', rfl⟩ := ih h
      exact ⟨i + 1, p', hp', by rw [Nat.add_right_comm, Nat.add_assoc]⟩

/-- The arguments name the parameters position by position. -/
theorem map_param_argumentsFrom (n : Nat) (params : List Parameter) :
    (argumentsFrom n params).map (·.param) = params.map (·.symbol) := by
  induction params generalizing n with
  | nil => rfl
  | cons p rest ih => simp [argumentsFrom, ih]

/-- The body holds the call of `f` with the parameters, position by position, and what the call
refers to. -/
structure HoldsCall (b : Body) (f : Declaration) (params : List Parameter) (selfType : TypeId) :
    Prop where
  call : b.node? (some ⟨callPlace f⟩) =
    some ⟨.call f.symbol (receiverPlace f) ⟨0, f.params.length⟩, f.returnType⟩
  receiver : ∀ owner, f.owner = some owner → b.node? (some ⟨0⟩) = some ⟨.self owner, selfType⟩
  readers : ∀ i p, params[i]? = some p → b.node? (some ⟨readersStart f + i⟩) = some (reader p)
  arguments : b.arguments = (argumentsFrom (readersStart f) f.params).toArray

variable {selfType : TypeId}

/-- A body that begins with the nodes of the call holds the call. -/
theorem holdsCall_of_nodes (hcopies : params.length = f.params.length) {b : Body}
    {more : List Expr} (hnodes : b.nodes = (callNodes f params selfType ++ more).toArray)
    (harguments : b.arguments = (argumentsFrom (readersStart f) f.params).toArray) :
    HoldsCall b f params selfType where
  call := by
    simp [Body.node?, hnodes, callNodes, callPlace, length_receiverNodes, hcopies]
  receiver owner howner := by
    simp [Body.node?, hnodes, callNodes, receiverNodes, howner]
  readers i p hp := by
    obtain ⟨hlt, -⟩ := List.getElem?_eq_some_iff.1 hp
    simp only [Body.node?, hnodes, callNodes, List.getElem?_toArray]
    rw [List.getElem?_append_left, List.getElem?_append_left, List.getElem?_append_right]
    · simp [length_receiverNodes, hp]
    · simp [length_receiverNodes]
    · simp [length_receiverNodes, hlt]
    · simp only [List.length_append, length_receiverNodes, List.length_map, List.length_singleton]
      omega
  arguments := harguments

/-- Behind the nodes of the call stand those that deal with the answer. -/
theorem node?_behind_call (hcopies : params.length = f.params.length) {b : Body}
    {more : List Expr} (hnodes : b.nodes = (callNodes f params selfType ++ more).toArray)
    (j : Nat) :
    b.node? (some ⟨callPlace f + 1 + j⟩) = more[j]? := by
  simp only [Body.node?, hnodes, List.getElem?_toArray]
  rw [List.getElem?_append_right (by rw [length_callNodes hcopies]; omega),
    length_callNodes hcopies, Nat.add_sub_cancel_left]

section Size

variable {builtins : Builtins} {handler : Parameter} {constr : ConstructorSymbol}
  {errorType notNull : TypeId} {label : Label}

theorem size_orNullBody (hcopies : params.length = f.params.length) :
    (orNullBody builtins f params selfType handler label).size = callPlace f + 8 := by
  simp [Body.size, orNullBody, length_callNodes hcopies, orNullNodes]

theorem size_orThrowBody (hcopies : params.length = f.params.length) :
    (orThrowBody builtins constr f params selfType errorType notNull label).size =
      callPlace f + 6 := by
  simp [Body.size, orThrowBody, length_callNodes hcopies, orThrowNodes]

/-- The root is the last node. -/
theorem contains_root_orNullBody (hcopies : params.length = f.params.length) :
    (orNullBody builtins f params selfType handler label).contains (some ⟨callPlace f + 7⟩) =
      true := by
  refine decide_eq_true ?_
  rw [size_orNullBody hcopies]
  exact Nat.lt_succ_self _

/-- The root is the last node. -/
theorem contains_root_orThrowBody (hcopies : params.length = f.params.length) :
    (orThrowBody builtins constr f params selfType errorType notNull label).contains
      (some ⟨callPlace f + 5⟩) = true := by
  refine decide_eq_true ?_
  rw [size_orThrowBody hcopies]
  exact Nat.lt_succ_self _

end Size

theorem HoldsCall.readArguments {b : Body} (h : HoldsCall b f params selfType) :
    b.readArguments ⟨0, f.params.length⟩ = .ok (argumentsFrom (readersStart f) f.params) := by
  rw [Body.readArguments, Body.read, h.arguments, if_pos (by simp)]
  simp [List.take_of_length_le]

end Forwarding

end Companions
