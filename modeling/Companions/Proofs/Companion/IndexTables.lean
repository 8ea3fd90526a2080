import Companions.Proofs.Check.Verdict
import Companions.Proofs.Companion.Partition
set_option autoImplicit false

/-!
# An index in tables

An index lists its companions with the functions behind them.  Here it is kept in tables instead:
the functions under the identities, the identities in their order, and the names under the classes
that own them (`IndexTables`).  Two loops fill them.  The first takes in what the host answers and
keeps the functions under the identity that they derive, with the identities in the order in which
they come up (`Candidates`); the second files each identity as a companion or as a collision.

The tables answer what the index does (`IndexTables.Mirrors`), so they too divide what the host
answers, and never come apart from one another (`IndexTables.build_partitions`).
-/

namespace Companions

/-- The tables of an index.  The newest entry under a key counts. -/
structure IndexTables where
  matched : List FunctionSymbol
  origins : List (CallableId × FunctionSymbol)
  /-- The identities, in the order in which their functions were answered. -/
  order : List CallableId
  namesByClass : List (ClassId × List Name)
  collisions : List Collision

/-- What the first loop keeps. -/
structure Candidates where
  /-- The functions that were answered. -/
  seen : List FunctionSymbol
  matched : List FunctionSymbol
  /-- The functions that derive an identity. -/
  sources : List (CallableId × List FunctionSymbol)
  /-- The identities, in the order in which they came up. -/
  order : List CallableId

namespace Candidates

/-- Nothing was answered yet. -/
def empty : Candidates := ⟨[], [], [], []⟩

/-- Puts a function behind those that derive the identity. -/
def push (c : Candidates) (identity : CallableId) (s : FunctionSymbol) : Candidates :=
  let sources := (c.sources.lookup identity).getD []
  { c with
    order := if sources.isEmpty then c.order ++ [identity] else c.order
    sources := (identity, sources ++ [s]) :: c.sources }

/-- Remembers that the function was answered. -/
def note (c : Candidates) (s : FunctionSymbol) : Candidates :=
  { c with seen := s :: c.seen, matched := c.matched ++ [s] }

/-- Takes in a function that the host answers, unless it was answered before. -/
def add (host : Host) (suffix : String) (c : Candidates) (s : FunctionSymbol) :
    Growing Candidates :=
  if s ∈ c.seen then return c
  else
    match host.declaration s with
    | none => return c.note s
    | some d => return (c.note s).push (← Growing.derive d.id suffix) s

end Candidates

namespace IndexTables

/-- No identity is filed yet. -/
def unfiled (matched : List FunctionSymbol) : IndexTables := ⟨matched, [], [], [], []⟩

/-- Lists a companion. -/
def insert (t : IndexTables) (identity : CallableId) (origin : FunctionSymbol) : IndexTables :=
  { t with
    origins := (identity, origin) :: t.origins
    order := t.order ++ [identity]
    namesByClass :=
      match identity.owner with
      | none => t.namesByClass
      | some c =>
        (c, (t.namesByClass.lookup c).getD [] ++ [identity.name]) :: t.namesByClass }

/-- Lists a companion or a collision, by how many functions derive the identity. -/
def file (strategy : Strategy) (t : IndexTables) (identity : CallableId)
    (sources : List FunctionSymbol) : IndexTables :=
  if 1 < sources.length then
    { t with collisions := t.collisions ++ [⟨strategy, identity, sources⟩] }
  else
    match sources.getLast? with
    | none => t
    | some origin => t.insert identity origin

/-- Files identities one after another, and takes each away from the table. -/
def fileAll (strategy : Strategy) :
    List CallableId → List (CallableId × List FunctionSymbol) → IndexTables → IndexTables
  | [], _, t => t
  | identity :: rest, table, t =>
    match table.lookup identity with
    | none => fileAll strategy rest table t
    | some sources =>
      fileAll strategy rest (table.filter (·.1 ≠ identity)) (t.file strategy identity sources)

/-- Asks the host for the functions that the predicate selects, and fills the tables. -/
def build (host : Host) (strategy : Strategy) (predicate : Predicate) : Growing IndexTables := do
  let c ← (host.matching predicate).foldlM (Candidates.add host strategy.suffix) .empty
  return fileAll strategy c.order c.sources (unfiled c.matched)

/-- What the tables answer. -/
def view (t : IndexTables) : IndexView where
  matched := t.matched
  identities := t.order
  originOf? id := t.origins.lookup id
  topLevel := t.order.filter (·.isTopLevel)
  namesIn c := (t.namesByClass.lookup c).getD []
  collisions := t.collisions

end IndexTables

variable {host : Host} {suffix : String} {strategy : Strategy} {p q : Pools}
  {derived derived' : List Derived} {id : CallableId} {s : FunctionSymbol}

/-! ## The first loop -/

/-- The items that are not among those seen before, without later repeats. -/
def unseen {α : Type} [BEq α] (seen : List α) : List α → List α
  | [] => []
  | a :: rest => if seen.contains a then unseen seen rest else a :: unseen (a :: seen) rest

theorem unseen_nil {α : Type} [BEq α] (l : List α) : unseen [] l = l.eraseDups := by
  have hloop : ∀ l seen : List α,
      List.eraseDupsBy.loop (· == ·) l seen = seen.reverse ++ unseen seen l := by
    intro l
    induction l with
    | nil => simp [List.eraseDupsBy.loop, unseen]
    | cons a rest ih =>
      intro seen
      have hany : seen.any (a == ·) = seen.contains a := (List.contains_eq_any_beq).symm
      rw [List.eraseDupsBy.loop, unseen, hany]
      cases seen.contains a with
      | true => exact ih seen
      | false => simp [ih]
  exact (hloop l []).symm

namespace Derived

/-- A function that is inserted is found in the group of its identity, behind those before it. -/
theorem find?_insert (id : CallableId) (s : FunctionSymbol) (derived : List Derived)
    (k : CallableId) :
    (insert id s derived).find? (·.identity = k) =
      if id = k then
        some ⟨id, ((derived.find? (·.identity = id)).map (·.sources)).getD [] ++ [s]⟩
      else derived.find? (·.identity = k) := by
  induction derived with
  | nil => by_cases hk : id = k <;> simp [insert, hk]
  | cons d rest ih =>
    by_cases hd : d.identity = id
    · obtain ⟨identity, sources⟩ := d
      cases hd
      by_cases hk : identity = k
      · simp [insert, hk]
      · simp [insert, hk]
    · rw [insert, if_neg hd, List.find?_cons, List.find?_cons, List.find?_cons, ih,
        decide_eq_false hd]
      by_cases hk : id = k
      · rw [if_pos hk, if_pos hk, decide_eq_false (hk ▸ hd)]
      · rw [if_neg hk, if_neg hk]

end Derived

namespace Candidates

variable {c : Candidates}

/-- The first loop keeps the groups of functions. -/
structure Mirrors (c : Candidates) (derived : List Derived) : Prop where
  order : c.order = derived.map (·.identity)
  sources : ∀ id, c.sources.lookup id = (derived.find? (·.identity = id)).map (·.sources)
  nonempty : ∀ d ∈ derived, d.sources ≠ []

theorem Mirrors.empty : Candidates.empty.Mirrors [] := ⟨rfl, fun _ => rfl, nofun⟩

/-- The groups do not depend on what was answered besides. -/
theorem Mirrors.note (h : c.Mirrors derived) (s : FunctionSymbol) : (c.note s).Mirrors derived :=
  ⟨h.order, h.sources, h.nonempty⟩

theorem Mirrors.push (h : c.Mirrors derived) (id : CallableId) (s : FunctionSymbol) :
    (c.push id s).Mirrors (Derived.insert id s derived) where
  order := by
    have hempty : ((c.sources.lookup id).getD []).isEmpty = true ↔
        id ∉ derived.map (·.identity) := by
      rw [h.sources]
      cases hfound : derived.find? (·.identity = id) with
      | none => simpa using hfound
      | some d =>
        have hd := List.mem_of_find?_eq_some hfound
        have hid : d.identity = id := by simpa using List.find?_some hfound
        have hmem : id ∈ derived.map (·.identity) := hid ▸ List.mem_map_of_mem hd
        simpa [h.nonempty d hd] using hmem
    rw [Derived.identities_insert, Candidates.push, h.order]
    by_cases hmem : id ∈ derived.map (·.identity)
    · rw [if_pos hmem]
      exact if_neg (mt hempty.1 (not_not.2 hmem))
    · rw [if_neg hmem]
      exact if_pos (hempty.2 hmem)
  sources k := by
    rw [Derived.find?_insert, Candidates.push]
    refine (Program.lookup_put _ _ _ _).trans ?_
    rw [h.sources, h.sources]
    split <;> rfl
  nonempty d hd := by
    rcases Derived.mem_insert hd with hd | rfl | ⟨old, -, -, rfl⟩
    · exact h.nonempty d hd
    · exact List.cons_ne_nil _ _
    · exact List.append_ne_nil_of_right_ne_nil _ (List.cons_ne_nil _ _)

/-- The first loop takes in what the groups are made of, and derives the same identities.  By
induction on the functions that are left. -/
theorem Mirrors.run_add (h : c.Mirrors derived) {answered : List FunctionSymbol}
    (hrun : (CompanionIndex.deriveAll host suffix (unseen c.seen answered) derived).run p =
      .ok (derived', q)) :
    ∃ c', (answered.foldlM (Candidates.add host suffix) c).run p = .ok (c', q) ∧
      c'.Mirrors derived' ∧ c'.matched = c.matched ++ unseen c.seen answered := by
  induction answered generalizing c derived p with
  | nil =>
    obtain ⟨rfl, rfl⟩ := Growing.run_pure_eq_ok_iff.1 hrun
    exact ⟨c, rfl, h, (List.append_nil _).symm⟩
  | cons s rest ih =>
    rw [List.foldlM_cons, unseen]
    rw [unseen] at hrun
    by_cases hseen : s ∈ c.seen
    · have hcontains : c.seen.contains s = true := List.contains_iff_mem.2 hseen
      have hadd : (Candidates.add host suffix c s).run p = .ok (c, p) := by
        rw [Candidates.add, if_pos hseen]
        rfl
      rw [hcontains] at hrun ⊢
      rw [Growing.run_bind_of_ok hadd]
      exact ih h hrun
    · have hcontains : c.seen.contains s = false := by simpa using hseen
      rw [hcontains] at hrun ⊢
      rw [if_neg Bool.false_ne_true, CompanionIndex.deriveAll] at hrun
      rw [if_neg Bool.false_ne_true, List.append_cons]
      cases hd : host.declaration s with
      | none =>
        have hadd : (Candidates.add host suffix c s).run p = .ok (c.note s, p) := by
          rw [Candidates.add, if_neg hseen, hd]
          rfl
        rw [hd] at hrun
        rw [Growing.run_bind_of_ok hadd]
        exact ih (h.note s) hrun
      | some d =>
        rw [hd] at hrun
        obtain ⟨id, p₁, hderive, hrun⟩ := Growing.run_bind_eq_ok_iff.1 hrun
        have hadd : (Candidates.add host suffix c s).run p = .ok ((c.note s).push id s, p₁) := by
          rw [Candidates.add, if_neg hseen, hd]
          exact Growing.run_bind_of_ok hderive
        rw [Growing.run_bind_of_ok hadd]
        exact ih ((h.note s).push id s) hrun

end Candidates

/-! ## The second loop -/

/-- A table without the entries of a key answers the same under all others. -/
theorem lookup_filter_ne {α β : Type} [DecidableEq α] (table : List (α × β)) {a k : α}
    (h : a ≠ k) : (table.filter (·.1 ≠ a)).lookup k = table.lookup k := by
  induction table with
  | nil => rfl
  | cons entry rest ih =>
    obtain ⟨b, value⟩ := entry
    by_cases hb : b = a
    · rw [List.filter_cons_of_neg (by simpa using hb), ih, List.lookup_cons]
      have hne : (k == b) = false := by simpa [hb] using h.symm
      rw [hne]
    · rw [List.filter_cons_of_pos (by simpa using hb), List.lookup_cons, List.lookup_cons, ih]

theorem filterMap_cons_toList {α β : Type} (f : α → Option β) (a : α) (rest : List α) :
    (a :: rest).filterMap f = (f a).toList ++ rest.filterMap f := by
  rw [List.filterMap_cons]
  cases f a <;> rfl

namespace IndexTables

variable {t : IndexTables} {i : CompanionIndex}

/-- The tables answer what the index does. -/
structure Mirrors (t : IndexTables) (i : CompanionIndex) : Prop where
  matched : t.matched = i.matched
  order : t.order = i.identities
  origins : ∀ id, t.origins.lookup id = i.originOf? id
  names : ∀ c, (t.namesByClass.lookup c).getD [] = i.namesIn c
  collisions : t.collisions = i.collisions

theorem Mirrors.view_eq (h : t.Mirrors i) : t.view = i.view := by
  obtain ⟨hmatched, horder, horigins, hnames, hcollisions⟩ := h
  simp only [view, CompanionIndex.view, CompanionIndex.topLevel, hmatched, horder, hcollisions,
    funext horigins, funext hnames]

theorem Mirrors.unfiled (matched : List FunctionSymbol) :
    (unfiled matched).Mirrors ⟨matched, [], []⟩ :=
  ⟨rfl, rfl, fun _ => rfl, fun _ => rfl, rfl⟩

/-- A companion that is new is listed behind the others. -/
theorem Mirrors.insert (h : t.Mirrors i) (hnew : id ∉ i.identities) (s : FunctionSymbol) :
    (t.insert id s).Mirrors { i with entries := i.entries ++ [(id, s)] } where
  matched := h.matched
  order := by
    simp [IndexTables.insert, h.order, CompanionIndex.identities]
  origins k := by
    refine (Program.lookup_put _ _ _ _).trans ?_
    rw [h.origins, CompanionIndex.originOf?, CompanionIndex.originOf?, List.find?_append]
    by_cases hk : id = k
    · subst hk
      have hnone : i.entries.find? (·.1 = id) = none :=
        Option.map_eq_none_iff.1 (CompanionIndex.originOf?_eq_none_iff.2 hnew)
      simp [hnone]
    · simp [hk]
  names c := by
    have hbefore : i.namesIn c = (i.identities.filter (·.owner = some c)).map (·.name) := rfl
    have hafter : ({ i with entries := i.entries ++ [(id, s)] } : CompanionIndex).namesIn c =
        i.namesIn c ++ ([id].filter (·.owner = some c)).map (·.name) := by
      simp [CompanionIndex.namesIn, CompanionIndex.identities]
    rw [hafter, ← h.names c, IndexTables.insert]
    cases howner : id.owner with
    | none => simp [howner]
    | some c' =>
      dsimp only
      rw [Program.lookup_put]
      by_cases hc : c' = c
      · simp [howner, hc]
      · simp [howner, hc]
  collisions := h.collisions

/-- One identity is filed as its group is. -/
theorem Mirrors.file (h : t.Mirrors i) {d : Derived} (hnew : d.identity ∉ i.identities)
    (hnonempty : d.sources ≠ []) :
    (t.file strategy d.identity d.sources).Mirrors { i with
      entries := i.entries ++ d.companion?.toList
      collisions := i.collisions ++ (d.collision? strategy).toList } := by
  obtain ⟨identity, sources⟩ := d
  match sources, hnonempty with
  | [s], _ =>
    have hfile : t.file strategy identity [s] = t.insert identity s := rfl
    have hinsert := h.insert hnew s
    rw [hfile]
    exact ⟨hinsert.matched, hinsert.order, hinsert.origins, hinsert.names,
      h.collisions.trans (List.append_nil _).symm⟩
  | first :: second :: rest, _ =>
    have hlength : 1 < (first :: second :: rest).length := by simp
    have hentries : i.entries ++ (Derived.companion? ⟨identity, first :: second :: rest⟩).toList =
        i.entries := List.append_nil _
    rw [IndexTables.file, if_pos hlength, hentries]
    exact ⟨h.matched, h.order, h.origins, h.names,
      congrArg (· ++ [⟨strategy, identity, first :: second :: rest⟩]) h.collisions⟩

/-- All identities are filed as their groups are.  By induction on the groups that are left: the
identities are different, so what is taken away from the table is not asked for again. -/
theorem Mirrors.fileAll (h : t.Mirrors i) (hdistinct : (derived.map (·.identity)).Nodup)
    (hnew : ∀ d ∈ derived, d.identity ∉ i.identities) (hnonempty : ∀ d ∈ derived, d.sources ≠ [])
    {table : List (CallableId × List FunctionSymbol)}
    (htable : ∀ d ∈ derived, table.lookup d.identity = some d.sources) :
    (fileAll strategy (derived.map (·.identity)) table t).Mirrors { i with
      entries := i.entries ++ derived.filterMap (·.companion?)
      collisions := i.collisions ++ derived.filterMap (·.collision? strategy) } := by
  induction derived generalizing t i table with
  | nil =>
    simpa [IndexTables.fileAll] using h
  | cons d rest ih =>
    obtain ⟨hfirst, hrest⟩ := List.nodup_cons.1 hdistinct
    obtain ⟨hnew₁, hnew⟩ := List.forall_mem_cons.1 hnew
    obtain ⟨hnonempty₁, hnonempty⟩ := List.forall_mem_cons.1 hnonempty
    obtain ⟨htable₁, htable⟩ := List.forall_mem_cons.1 htable
    have hne : ∀ d' ∈ rest, d.identity ≠ d'.identity := fun d' hd' heq =>
      hfirst (List.mem_map.2 ⟨d', hd', heq.symm⟩)
    have hfiled : (fileAll strategy (rest.map (·.identity))
        (table.filter (·.1 ≠ d.identity)) (t.file strategy d.identity d.sources)).Mirrors { i with
          entries := (i.entries ++ d.companion?.toList) ++ rest.filterMap (·.companion?)
          collisions := (i.collisions ++ (d.collision? strategy).toList) ++
            rest.filterMap (·.collision? strategy) } := by
      refine ih (h.file hnew₁ hnonempty₁) hrest (fun d' hd' hmem => ?_) hnonempty
        fun d' hd' => ?_
      · -- the identity that was filed is another one
        simp only [CompanionIndex.identities, List.map_append, List.mem_append] at hmem
        rcases hmem with hmem | hmem
        · exact hnew d' hd' hmem
        · obtain ⟨entry, hentry, heq⟩ := List.mem_map.1 hmem
          cases Derived.companion?_eq_some_iff.1 (Option.mem_toList.1 hentry)
          exact hne d' hd' heq
      · rw [lookup_filter_ne table (hne d' hd')]
        exact htable d' hd'
    rw [List.map_cons, IndexTables.fileAll, htable₁, filterMap_cons_toList, filterMap_cons_toList,
      ← List.append_assoc, ← List.append_assoc]
    exact hfiled

/-- The tables are built where the index is, and answer what it does. -/
theorem exists_run_build_of_index {predicate : Predicate}
    (h : (CompanionIndex.build host strategy predicate).run p = .ok (i, q)) :
    ∃ t, (build host strategy predicate).run p = .ok (t, q) ∧ t.Mirrors i := by
  obtain ⟨derived, hderive, hgroups, rfl⟩ := CompanionIndex.groups_of_build h
  rw [← unseen_nil] at hderive
  obtain ⟨c, hrun, hc, hmatched⟩ := Candidates.Mirrors.empty.run_add hderive
  refine ⟨_, Growing.run_bind_of_ok hrun, ?_⟩
  have hfiled : ∀ d ∈ derived, c.sources.lookup d.identity = some d.sources := fun d hd => by
    rw [hc.sources, (Program.find?_eq_some_iff_of_nodup hgroups.distinct).2 ⟨hd, rfl⟩]
    rfl
  have hmatched : c.matched = (host.matching predicate).eraseDups :=
    hmatched.trans (unseen_nil _)
  have hall : (fileAll strategy (derived.map (·.identity)) c.sources
      (IndexTables.unfiled c.matched)).Mirrors (.ofDerived strategy c.matched derived) :=
    (Mirrors.unfiled c.matched).fileAll hgroups.distinct (fun _ _ => List.not_mem_nil)
      hgroups.nonempty hfiled
  rw [hc.order]
  rwa [hmatched] at hall ⊢

/-- Whatever the host answers, if its declarations have names, the tables are filled and divide what
was answered.  The index is built as well, and answers the same. -/
theorem build_partitions (hnames : CompanionIndex.NamesKnown host p) (strategy : Strategy)
    (predicate : Predicate) :
    ∃ t q, (build host strategy predicate).run p = .ok (t, q) ∧ p.Grows q ∧
      t.view.Divides host strategy (host.matching predicate) q ∧
      ∃ i, (CompanionIndex.build host strategy predicate).run p = .ok (i, q) ∧
        i.view = t.view := by
  obtain ⟨i, q, hindex⟩ := CompanionIndex.exists_run_build hnames strategy predicate
  obtain ⟨t, hrun, hmirrors⟩ := exists_run_build_of_index hindex
  exact ⟨t, q, hrun, (CompanionIndex.run_build_eq_ok hindex).1,
    hmirrors.view_eq ▸ CompanionIndex.divides_of_build hindex, i, hindex, hmirrors.view_eq.symm⟩

end IndexTables

/-! ## A host that repeats itself -/

namespace Sample

/-- Two functions of one name, and one of that name in a class. -/
def overloads : List Declaration :=
  [textFunction ⟨0⟩ ⟨0⟩ none, textFunction ⟨1⟩ ⟨1⟩ none,
    { textFunction ⟨2⟩ ⟨2⟩ none with id := .member ⟨.empty, .empty⟩ .empty }]

/-- Answers a function twice, and a symbol without a declaration. -/
def repetitive : Host where
  declaration s := overloads.find? (·.symbol = s)
  constr _ := none
  matching _ := [⟨0⟩, ⟨7⟩, ⟨2⟩, ⟨0⟩, ⟨1⟩]
  noArgConstructor _ := none
  builtins := Program.empty.builtins

end Sample

open Sample in
/-- The functions of one name collide, and the one in the class is behind a companion. -/
theorem IndexTables.build_partitions_overloads :
    CompanionIndex.NamesKnown repetitive .fresh ∧
      ∃ t q, (build repetitive .nullOnThrow (.anyOf [])).run .fresh = .ok (t, q) ∧
        Pools.fresh.Grows q ∧
        t.view.Divides repetitive .nullOnThrow [⟨0⟩, ⟨7⟩, ⟨2⟩, ⟨0⟩, ⟨1⟩] q ∧
        ∃ i, (CompanionIndex.build repetitive .nullOnThrow (.anyOf [])).run .fresh = .ok (i, q) ∧
          i.view = t.view := by
  have hnames : CompanionIndex.NamesKnown repetitive .fresh := by
    intro s d hd
    have hempty : ∀ d ∈ overloads, d.id.name = .empty := by decide
    have hfind : overloads.find? (·.symbol = s) = some d := hd
    rw [hempty d (List.mem_of_find?_eq_some hfind)]
    exact ⟨"", NameTable.fresh.empty_first⟩
  exact ⟨hnames, build_partitions hnames .nullOnThrow (.anyOf [])⟩

open Sample in
example : ((IndexTables.build repetitive .nullOnThrow (.anyOf [])).run .fresh).toOption.map
    (fun r => (r.1.matched, r.1.origins.map (·.2), r.1.namesByClass.map (·.2.length),
      r.1.collisions.map (·.sources))) =
      some ([⟨0⟩, ⟨7⟩, ⟨2⟩, ⟨1⟩], [⟨2⟩], [1], [[⟨0⟩, ⟨1⟩]]) := by
  decide +kernel

end Companions
