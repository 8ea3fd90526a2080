import Companions.Eval.Operator
import Companions.Proofs.Pools.TypeLaws
import Companions.Proofs.Program.Reachable
set_option autoImplicit false

/-!
# Laws of the name table

A table is asked for the names of texts and for the texts of names.  What it holds after any run of
requests, and what it answered to each, can be told from the texts alone that it was asked to intern
(`NameTable.known`, `NameTable.Operation.answer`): each of them stands once, in the order of first
coming up, and its place is its name.

The table looks for a text among the texts themselves.  A store that keeps a table of names beside
them answers the same (`TextStore.runEach_inStep`), and so its two parts stay inverse to each other.
-/

namespace Companions

namespace NameTable

/-! ## Requests -/

/-- What can be asked of a table. -/
inductive Operation
  | intern (text : String)
  /-- Looks for the name of a text, which is not added. -/
  | find (text : String)
  | lookup (n : Name)
  deriving DecidableEq, Repr, Inhabited

/-- What a request is answered with. -/
inductive Answer
  | name (n : Name)
  | found (n : Option Name)
  | text (text : String)
  /-- The text is new, and no name is left for it. -/
  | refused (reason : InternError)
  | fault (fault : Fault)
  deriving DecidableEq, Repr

/-- Does one thing after the other. -/
def runEach {S : Type} (step : S → Operation → Answer × S) : S → List Operation → List Answer × S
  | s, [] => ([], s)
  | s, op :: rest =>
    let (answer, s) := step s op
    let (answers, s) := runEach step s rest
    (answer :: answers, s)

/-- What is asked and not answered leaves the table as it is. -/
def perform (t : NameTable) : Operation → Answer × NameTable
  | .intern text =>
    match t.internWithin text with
    | .ok (n, t) => (.name n, t)
    | .error reason => (.refused reason, t)
  | .find text => (.found (t.find? text), t)
  | .lookup n =>
    match t.text n with
    | .ok text => (.text text, t)
    | .error fault => (.fault fault, t)

/-- Asks one thing after the other. -/
def run : NameTable → List Operation → List Answer × NameTable := runEach perform

/-! ## What is told by the texts -/

/-- The text that the table is asked to intern. -/
def Operation.interned? : Operation → Option String
  | .intern text => some text
  | _ => none

/-- The name that is handed out. -/
def Answer.name? : Answer → Option Name
  | .name n => some n
  | .found n => n
  | _ => none

/-- The texts that are known after the requests: the empty text and those that were to be interned,
each once, until there is no name left. -/
def known (ops : List Operation) : List String :=
  ("" :: ops.filterMap Operation.interned?).eraseDups.take (maxNumber + 1)

/-- What is answered where these texts are known.  The name of a text is its place. -/
def Operation.answer (texts : List String) : Operation → Answer
  | .intern text =>
    if text ∈ texts then .name ⟨texts.idxOf text⟩
    else if texts.length ≤ maxNumber then .name ⟨texts.length⟩
    else .refused (.overflow texts.length)
  | .find text => .found (if text ∈ texts then some ⟨texts.idxOf text⟩ else none)
  | .lookup n =>
    match texts[n.number]? with
    | some text => .text text
    | none => .fault (.unknownName n)

variable {t q r : NameTable} {n : Name} {s : String} {op : Operation} {ops : List Operation}

/-! ## One request -/

theorem text?_eq (t : NameTable) (n : Name) : t.text? n = t.texts.toList[n.number]? :=
  Array.getElem?_toList.symm

theorem find?_eq (t : NameTable) (s : String) :
    t.find? s = if s ∈ t.texts.toList then some ⟨t.texts.toList.idxOf s⟩ else none := by
  split
  · next hs => exact find?_eq_some_iff.2 ((text?_eq t _).trans (List.getElem?_idxOf hs))
  · next hs => exact find?_eq_none_iff.2 fun h => hs (Array.mem_toList_iff.2 h)

theorem intern_of_find?_eq_some (h : t.find? s = some n) : t.intern s = (n, t) := by
  unfold intern
  split
  · next found =>
    rw [h] at found
    cases found
    rfl
  · next absent =>
    rw [h] at absent
    cases absent

theorem intern_of_find?_eq_none (h : t.find? s = none) : t.intern s = (⟨t.size⟩, t.push s h) := by
  unfold intern
  split
  · next found =>
    rw [h] at found
    cases found
  · rfl

/-- A text has its name already, or it gets the next one, or there is no name left for it. -/
theorem internWithin_cases (t : NameTable) (s : String) :
    (∃ n, t.find? s = some n ∧ t.internWithin s = .ok (n, t)) ∨
      (t.find? s = none ∧ t.size ≤ maxNumber ∧
        ∃ q, t.internWithin s = .ok (⟨t.size⟩, q) ∧ q.texts = t.texts.push s) ∨
      (t.find? s = none ∧ maxNumber < t.size ∧
        t.internWithin s = .error (.overflow t.size)) := by
  cases hs : t.find? s with
  | some n =>
    refine .inl ⟨n, rfl, ?_⟩
    simp [internWithin, hs, intern_of_find?_eq_some hs]
  | none =>
    rcases Nat.lt_or_ge maxNumber t.size with hfull | hroom
    · refine .inr (.inr ⟨rfl, hfull, ?_⟩)
      simp [internWithin, hs, hfull]
    · refine .inr (.inl ⟨rfl, hroom, t.push s hs, ?_, rfl⟩)
      simp [internWithin, hs, Nat.not_lt.2 hroom, intern_of_find?_eq_none hs]

theorem not_mem_toList_of_find?_eq_none (h : t.find? s = none) : s ∉ t.texts.toList :=
  fun hs => find?_eq_none_iff.1 h (Array.mem_toList_iff.1 hs)

/-- What is answered can be told from the texts of the table. -/
theorem perform_fst (t : NameTable) (op : Operation) :
    (t.perform op).1 = op.answer t.texts.toList := by
  cases op with
  | intern s =>
    rcases t.internWithin_cases s with ⟨n, hs, hrun⟩ | ⟨hs, hroom, q, hrun, -⟩ | ⟨hs, hfull, hrun⟩
    · have hfind := t.find?_eq s
      rw [hs] at hfind
      split at hfind
      · next hmem => simp [perform, hrun, Operation.answer, hmem, Option.some.inj hfind]
      · cases hfind
    · have hnot := not_mem_toList_of_find?_eq_none hs
      have hlength : t.texts.toList.length ≤ maxNumber := hroom
      rw [perform, hrun, Operation.answer, if_neg hnot, if_pos hlength]
      rfl
    · have hnot := not_mem_toList_of_find?_eq_none hs
      have hlength : ¬ t.texts.toList.length ≤ maxNumber := Nat.not_le.2 hfull
      rw [perform, hrun, Operation.answer, if_neg hnot, if_neg hlength]
      rfl
  | find s => rw [perform, Operation.answer, find?_eq]
  | lookup n =>
    rw [perform, Operation.answer, text, text?_eq]
    cases t.texts.toList[n.number]? with
    | some s => rfl
    | none => rfl

/-- A text behind the others is kept unless it is among them, or there are `k` of them. -/
theorem take_eraseDups_append_singleton {α : Type} [BEq α] [LawfulBEq α] (l : List α) (a : α)
    (k : Nat) : (l ++ [a]).eraseDups.take k =
      if a ∈ l.eraseDups.take k ∨ k ≤ (l.eraseDups.take k).length then l.eraseDups.take k
      else l.eraseDups.take k ++ [a] := by
  rw [Program.eraseDups_append_singleton]
  rcases Nat.lt_or_ge l.eraseDups.length k with hlt | hle
  · have hall : l.eraseDups.take k = l.eraseDups := List.take_of_length_le (Nat.le_of_lt hlt)
    rw [hall]
    cases ha : l.contains a with
    | true =>
      have hmem : a ∈ l.eraseDups := List.mem_eraseDups.2 (List.contains_iff_mem.1 ha)
      rw [if_pos rfl, hall, if_pos (.inl hmem)]
    | false =>
      have hnot : ¬ (a ∈ l.eraseDups ∨ k ≤ l.eraseDups.length) := by
        rintro (hmem | hle)
        · rw [List.contains_iff_mem.2 (List.mem_eraseDups.1 hmem)] at ha
          cases ha
        · exact Nat.not_lt.2 hle hlt
      rw [if_neg Bool.false_ne_true, if_neg hnot]
      refine List.take_of_length_le ?_
      rw [List.length_append, List.length_singleton]
      exact hlt
  · have hfull : k ≤ (l.eraseDups.take k).length := by
      rw [List.length_take]
      exact Nat.le_min.2 ⟨Nat.le_refl k, hle⟩
    have hsame : (l.eraseDups ++ [a]).take k = l.eraseDups.take k :=
      List.take_append_of_le_length hle
    rw [apply_ite (List.take k), hsame, ite_self]
    exact (if_pos (.inr hfull)).symm

/-- What the table holds after a request can be told from the texts that were to be interned. -/
theorem texts_perform {l : List String} (h : t.texts.toList = l.eraseDups.take (maxNumber + 1))
    (op : Operation) : (t.perform op).2.texts.toList =
      (l ++ op.interned?.toList).eraseDups.take (maxNumber + 1) := by
  cases op with
  | intern s =>
    rw [show l ++ (Operation.intern s).interned?.toList = l ++ [s] from rfl,
      take_eraseDups_append_singleton, ← h]
    rcases t.internWithin_cases s with ⟨n, hs, hrun⟩ | ⟨hs, hroom, q, hrun, hq⟩ | ⟨hs, hfull, hrun⟩
    · have hmem : s ∈ t.texts.toList := by
        rw [find?_eq] at hs
        split at hs
        · next hmem => exact hmem
        · cases hs
      rw [perform, hrun, if_pos (.inl hmem)]
    · have hnot : ¬ (s ∈ t.texts.toList ∨ maxNumber + 1 ≤ t.texts.toList.length) := by
        rintro (hmem | hfull)
        · exact not_mem_toList_of_find?_eq_none hs hmem
        · exact Nat.not_lt.2 hroom hfull
      rw [perform, hrun, if_neg hnot, hq, Array.toList_push]
    · have hlength : maxNumber + 1 ≤ t.texts.toList.length := hfull
      rw [perform, hrun, if_pos (.inr hlength)]
  | find s => simpa [perform, Operation.interned?] using h
  | lookup n =>
    rw [perform]
    split
    all_goals simpa [Operation.interned?] using h

/-! ## Many requests -/

theorem runEach_cons {S : Type} (step : S → Operation → Answer × S) (s : S) (op : Operation)
    (rest : List Operation) : runEach step s (op :: rest) =
      ((step s op).1 :: (runEach step (step s op).2 rest).1,
        (runEach step (step s op).2 rest).2) := rfl

theorem runEach_append {S : Type} (step : S → Operation → Answer × S) (s : S)
    (before after : List Operation) : runEach step s (before ++ after) =
      ((runEach step s before).1 ++ (runEach step (runEach step s before).2 after).1,
        (runEach step (runEach step s before).2 after).2) := by
  induction before generalizing s with
  | nil => rfl
  | cons op rest ih =>
    rw [List.cons_append, runEach_cons, runEach_cons, ih]
    rfl

theorem length_runEach {S : Type} (step : S → Operation → Answer × S) (s : S)
    (ops : List Operation) : (runEach step s ops).1.length = ops.length := by
  induction ops generalizing s with
  | nil => rfl
  | cons op rest ih =>
    rw [runEach_cons, List.length_cons, ih, List.length_cons]

/-- What the table holds after many requests can be told from the texts that were to be interned. -/
theorem texts_runEach {l : List String} (h : t.texts.toList = l.eraseDups.take (maxNumber + 1))
    (ops : List Operation) : (t.run ops).2.texts.toList =
      (l ++ ops.filterMap Operation.interned?).eraseDups.take (maxNumber + 1) := by
  induction ops generalizing t l with
  | nil =>
    rw [List.filterMap_nil, List.append_nil]
    exact h
  | cons op rest ih =>
    have hsplit : (op :: rest).filterMap Operation.interned? =
        op.interned?.toList ++ rest.filterMap Operation.interned? := by
      rw [List.filterMap_cons]
      cases op.interned? with
      | none => rfl
      | some s => rfl
    rw [hsplit, ← List.append_assoc]
    exact ih (texts_perform h op)

theorem texts_run (ops : List Operation) : (fresh.run ops).2.texts.toList = known ops :=
  texts_runEach (l := [""]) (by decide) ops

theorem lt_size_of_find? (h : t.find? s = some n) : n.number < t.size :=
  (Array.getElem?_eq_some_iff.1 (find?_eq_some_iff.1 h)).1

/-- After a request, the names of the table are those that it had and the one that it has handed
out. -/
theorem lt_size_perform (t : NameTable) (op : Operation) (n : Name) :
    n.number < (t.perform op).2.size ↔ n.number < t.size ∨ (t.perform op).1.name? = some n := by
  cases op with
  | intern s =>
    rcases t.internWithin_cases s with ⟨m, hs, hrun⟩ | ⟨hs, hroom, q, hrun, hq⟩ | ⟨hs, hfull, hrun⟩
    · rw [perform, hrun]
      refine (or_iff_left_of_imp ?_).symm
      rintro ⟨⟩
      exact lt_size_of_find? hs
    · have hsize : q.size = t.size + 1 := by rw [size, hq, Array.size_push, size]
      obtain ⟨k⟩ := n
      rw [perform, hrun]
      simp only [hsize, Answer.name?, Option.some.injEq, Name.mk.injEq]
      omega
    · rw [perform, hrun]
      exact (or_iff_left fun hname => by cases hname).symm
  | find s =>
    refine (or_iff_left_of_imp fun hfound => ?_).symm
    exact lt_size_of_find? hfound
  | lookup m =>
    rw [perform]
    split
    · exact (or_iff_left fun hname => by cases hname).symm
    · exact (or_iff_left fun hname => by cases hname).symm

/-- After many requests, the names of the table are those that it had and those that it has handed
out. -/
theorem lt_size_run (t : NameTable) (ops : List Operation) (n : Name) :
    n.number < (t.run ops).2.size ↔
      n.number < t.size ∨ n ∈ (t.run ops).1.filterMap Answer.name? := by
  induction ops generalizing t with
  | nil => exact (or_iff_left List.not_mem_nil).symm
  | cons op rest ih =>
    have hrun : t.run (op :: rest) =
        ((t.perform op).1 :: ((t.perform op).2.run rest).1, ((t.perform op).2.run rest).2) := rfl
    rw [hrun, ih, lt_size_perform, List.filterMap_cons]
    cases (t.perform op).1.name? with
    | none => simp
    | some m => simp [or_assoc, eq_comm]

/-- Every name stands for what it stood for. -/
def Lasts (t q : NameTable) : Prop := ∀ n s, t.text? n = some s → q.text? n = some s

theorem lasts_perform (t : NameTable) (op : Operation) : t.Lasts (t.perform op).2 := by
  intro n s hn
  cases op with
  | intern s' =>
    rcases t.internWithin_cases s' with ⟨_, _, hrun⟩ | ⟨_, _, q, hrun, hq⟩ | ⟨_, _, hrun⟩
    · rw [perform, hrun]
      exact hn
    · rw [perform, hrun, text?, hq]
      obtain ⟨hlt, -⟩ := Array.getElem?_eq_some_iff.1 hn
      rw [Array.getElem?_push, if_neg (Nat.ne_of_lt hlt)]
      exact hn
    · rw [perform, hrun]
      exact hn
  | find _ => exact hn
  | lookup _ =>
    rw [perform]
    split
    · exact hn
    · exact hn

theorem lasts_run (t : NameTable) (ops : List Operation) : t.Lasts (t.run ops).2 := by
  induction ops generalizing t with
  | nil => exact fun _ _ hn => hn
  | cons op rest ih => exact fun n s hn => ih (t.perform op).2 n s (t.lasts_perform op n s hn)

end NameTable

/-! ## A table of names beside the texts -/

/-- Texts in the order of their names, and a table of the names by text. -/
structure TextStore where
  texts : Array String
  table : List (String × Name)
  deriving DecidableEq, Repr, Inhabited

namespace TextStore

open NameTable

/-- Only the empty text is known. -/
def fresh : TextStore := ⟨#[""], [("", .empty)]⟩

/-- The name of a text from the table, or the next one for a text that is not in the table, as long
as there is a next one. -/
def intern (s : TextStore) (text : String) : Except InternError (Name × TextStore) :=
  match s.table.lookup text with
  | some n => .ok (n, s)
  | none =>
    if maxNumber < s.texts.size then .error (.overflow s.texts.size)
    else .ok (⟨s.texts.size⟩, ⟨s.texts.push text, (text, ⟨s.texts.size⟩) :: s.table⟩)

/-- Does what is asked.  What is not answered leaves the store as it is. -/
def perform (s : TextStore) : Operation → Answer × TextStore
  | .intern text =>
    match s.intern text with
    | .ok (n, s) => (.name n, s)
    | .error reason => (.refused reason, s)
  | .find text => (.found (s.table.lookup text), s)
  | .lookup n =>
    match s.texts[n.number]? with
    | some text => (.text text, s)
    | none => (.fault (.unknownName n), s)

/-- Asks one thing after the other. -/
def run : TextStore → List Operation → List Answer × TextStore := runEach perform

/-- The table holds the names of the texts, and nothing else. -/
def Inverse (s : TextStore) : Prop :=
  ∀ text n, s.table.lookup text = some n ↔ s.texts[n.number]? = some text

/-- The store holds the texts of the table of names, and finds them. -/
structure Holds (s : TextStore) (t : NameTable) : Prop where
  texts : s.texts = t.texts
  indexed : Indexes s.texts s.table Name.mk

variable {s : TextStore} {t : NameTable}

theorem Holds.lookup (h : s.Holds t) (text : String) : s.table.lookup text = t.find? text := by
  rw [h.indexed, h.texts]
  rfl

theorem Holds.inverse (h : s.Holds t) : s.Inverse := by
  intro text n
  rw [h.lookup, find?_eq_some_iff, h.texts]
  rfl

theorem holds_fresh : fresh.Holds .fresh where
  texts := rfl
  indexed := Indexes.empty.push rfl

/-- The store answers what the table of names does, and goes on holding the same texts. -/
theorem perform_inStep (h : s.Holds t) (op : Operation) :
    (s.perform op).1 = (t.perform op).1 ∧ (s.perform op).2.Holds (t.perform op).2 := by
  cases op with
  | intern text =>
    have hlookup := h.lookup text
    have hsize : s.texts.size = t.size := congrArg Array.size h.texts
    rcases t.internWithin_cases text with
      ⟨n, hs, hrun⟩ | ⟨hs, hroom, q, hrun, hq⟩ | ⟨hs, hfull, hrun⟩
    · have hstore : s.intern text = .ok (n, s) := by rw [intern, hlookup, hs]
      rw [perform, hstore, NameTable.perform, hrun]
      exact ⟨rfl, h⟩
    · rw [hs] at hlookup
      have hstore : s.intern text =
          .ok (⟨t.size⟩, ⟨s.texts.push text, (text, ⟨s.texts.size⟩) :: s.table⟩) := by
        rw [intern, hlookup, hsize]
        exact if_neg (Nat.not_lt.2 hroom)
      rw [perform, hstore, NameTable.perform, hrun]
      refine ⟨rfl, ?_, h.indexed.push hlookup⟩
      rw [hq, h.texts]
    · have hstore : s.intern text = .error (.overflow t.size) := by
        rw [intern, hlookup, hs, hsize]
        exact if_pos hfull
      rw [perform, hstore, NameTable.perform, hrun]
      exact ⟨rfl, h⟩
  | find text =>
    rw [perform, NameTable.perform, h.lookup]
    exact ⟨rfl, h⟩
  | lookup n =>
    rw [perform, NameTable.perform, h.texts, NameTable.text, text?]
    cases t.texts[n.number]? with
    | some text => exact ⟨rfl, h⟩
    | none => exact ⟨rfl, h⟩

theorem runEach_inStep (h : s.Holds t) (ops : List Operation) :
    (s.run ops).1 = (t.run ops).1 ∧ (s.run ops).2.Holds (t.run ops).2 := by
  induction ops generalizing s t with
  | nil => exact ⟨rfl, h⟩
  | cons op rest ih =>
    obtain ⟨hanswer, hholds⟩ := perform_inStep h op
    obtain ⟨hanswers, hend⟩ := ih hholds
    refine ⟨?_, hend⟩
    rw [run, NameTable.run, runEach_cons, runEach_cons, hanswer]
    exact congrArg _ hanswers

end TextStore

/-! ## The laws -/

namespace NameTable

/-- What a table can be relied on for, at once and after any further requests. -/
structure Bijective (t : NameTable) : Prop where
  /-- The names are numbered without gaps, and there are no more than 32 bits tell apart. -/
  dense : ∀ n, (∃ s, t.text n = .ok s) ↔ n.number < t.size
  room : t.size ≤ maxNumber + 1
  /-- Looking for the name of a text and for the text of a name are inverse to each other. -/
  inverse : ∀ s n, t.find? s = some n ↔ t.text n = .ok s
  /-- Names are the same exactly if their texts are. -/
  same_iff : ∀ a b s s', t.text a = .ok s → t.text b = .ok s' → (a = b ↔ s = s')
  /-- A text that is interned gets a name, which stands for it ever after, unless the text is new
  and no name is left. -/
  intern : ∀ s, (∃ n q, t.internWithin s = .ok (n, q) ∧
      ∀ ops, (q.run ops).2.text n = .ok s ∧ (q.run ops).2.find? s = some n ∧
        (q.run ops).2.internWithin s = .ok (n, (q.run ops).2)) ∨
    (t.internWithin s = .error (.overflow (maxNumber + 1)) ∧ s ∉ t.texts ∧ t.size = maxNumber + 1)
  /-- What a name stands for has that name, at every later moment. -/
  lasts : ∀ n s, t.text n = .ok s → ∀ ops, (t.run ops).2.text n = .ok s ∧
    (t.run ops).2.find? s = some n ∧ (t.run ops).2.internWithin s = .ok (n, (t.run ops).2)
  empty : t.text .empty = .ok "" ∧ t.internWithin "" = .ok (.empty, t)
  /-- Strings compare as their texts do. -/
  compare : ∀ a b s s', t.text a = .ok s → t.text b = .ok s' →
    BinaryOp.eq.apply (.string a) (.string b) = .ok (.boolean (s = s')) ∧
      BinaryOp.ne.apply (.string a) (.string b) = .ok (.boolean (s ≠ s'))

variable {t : NameTable} {n : Name} {s : String}

theorem text_eq_ok_iff : t.text n = .ok s ↔ t.text? n = some s := orFault_eq_ok_iff

theorem internWithin_of_text? (h : t.text? n = some s) : t.internWithin s = .ok (n, t) := by
  have hs : t.find? s = some n := find?_eq_some_iff.2 h
  simp [internWithin, hs, intern_of_find?_eq_some hs]

theorem eq_iff_of_text? {a b : Name} {s s' : String} (ha : t.text? a = some s)
    (hb : t.text? b = some s') : a = b ↔ s = s' := by
  constructor
  · rintro rfl
    exact Option.some.inj (ha.symm.trans hb)
  · rintro rfl
    exact text?_inj ha hb

/-- What a name stands for has that name ever after. -/
theorem run_of_text? (h : t.text? n = some s) (ops : List Operation) :
    (t.run ops).2.text n = .ok s ∧ (t.run ops).2.find? s = some n ∧
      (t.run ops).2.internWithin s = .ok (n, (t.run ops).2) := by
  have hlater := t.lasts_run ops n s h
  exact ⟨text_eq_ok_iff.2 hlater, find?_eq_some_iff.2 hlater, internWithin_of_text? hlater⟩

/-- A table with no more texts than there are names can be relied on. -/
theorem bijective_of_size_le (hroom : t.size ≤ maxNumber + 1) : t.Bijective where
  dense n := by
    simp only [text_eq_ok_iff]
    constructor
    · rintro ⟨s, hn⟩
      exact (Array.getElem?_eq_some_iff.1 hn).1
    · exact fun hn => ⟨_, Array.getElem?_eq_getElem hn⟩
  room := hroom
  inverse s n := find?_eq_some_iff.trans text_eq_ok_iff.symm
  same_iff a b s s' ha hb := eq_iff_of_text? (text_eq_ok_iff.1 ha) (text_eq_ok_iff.1 hb)
  intern s := by
    rcases t.internWithin_cases s with ⟨n, hs, hrun⟩ | ⟨hs, -, q, hrun, hq⟩ | ⟨hs, hfull, hrun⟩
    · exact .inl ⟨n, t, hrun, run_of_text? (find?_eq_some_iff.1 hs)⟩
    · have htext : q.text? ⟨t.size⟩ = some s := by
        rw [text?, hq]
        exact Array.getElem?_push_size
      exact .inl ⟨_, q, hrun, run_of_text? htext⟩
    · have hsize : t.size = maxNumber + 1 := Nat.le_antisymm hroom hfull
      exact .inr ⟨hsize ▸ hrun, find?_eq_none_iff.1 hs, hsize⟩
  lasts n s hn ops := run_of_text? (text_eq_ok_iff.1 hn) ops
  empty := ⟨text_eq_ok_iff.2 t.empty_first, internWithin_of_text? t.empty_first⟩
  compare a b s s' ha hb := by
    have hsame := eq_iff_of_text? (text_eq_ok_iff.1 ha) (text_eq_ok_iff.1 hb)
    simp [BinaryOp.apply, hsame]

/-- What a run has left behind. -/
structure Accounted (ops : List Operation) (answers : List Answer) (t : NameTable) : Prop where
  /-- The texts are those that were to be interned, as long as there were names. -/
  texts : t.texts.toList = known ops
  /-- The names that were handed out, and that of the empty text, are the numbers below the size. -/
  handedOut : ∀ n, n = .empty ∨ n ∈ answers.filterMap Answer.name? ↔ n.number < t.size
  /-- Every answer is told by the texts that were known at that moment. -/
  answers : ∀ before op after, ops = before ++ op :: after →
    answers[before.length]? = some (op.answer (known before))

theorem accounted_run (ops : List Operation) :
    Accounted ops (fresh.run ops).1 (fresh.run ops).2 where
  texts := texts_run ops
  handedOut n := by
    rw [lt_size_run]
    refine or_congr_left ?_
    obtain ⟨k⟩ := n
    rw [Name.empty, Name.mk.injEq]
    exact Nat.lt_one_iff.symm
  answers before op after h := by
    subst h
    have hlength := length_runEach perform fresh before
    rw [run, runEach_append, List.getElem?_append_right (Nat.le_of_eq hlength), hlength,
      Nat.sub_self, runEach_cons, ← texts_run, ← perform_fst]
    rfl

theorem size_run_le (ops : List Operation) : (fresh.run ops).2.size ≤ maxNumber + 1 := by
  have hlength := congrArg List.length (texts_run ops)
  rw [known, List.length_take] at hlength
  exact Nat.le_trans (Nat.le_of_eq hlength) (Nat.min_le_left _ _)

/-- After any run of requests, names and texts are in bijection: the table can be relied on, what it
holds and what it answered are told by the texts that were to be interned, and a store with a table
beside the texts has gone the same way, where table and texts are inverse to each other. -/
theorem bijective_of_run (ops : List Operation) :
    ∃ answers t store, fresh.run ops = (answers, t) ∧ t.Bijective ∧ Accounted ops answers t ∧
      TextStore.fresh.run ops = (answers, store) ∧ store.texts = t.texts ∧ store.Inverse := by
  obtain ⟨hanswers, hholds⟩ := TextStore.runEach_inStep TextStore.holds_fresh ops
  exact ⟨_, _, _, rfl, bijective_of_size_le (size_run_le ops), accounted_run ops,
    Prod.ext hanswers rfl, hholds.texts, hholds.inverse⟩

/-- A text that is looked for before it is interned has no name, and then the one name it keeps. -/
example : (fresh.run [.find "load", .intern "text", .intern "load", .intern "text", .find "load",
    .lookup ⟨2⟩, .lookup ⟨3⟩, .intern ""]).1 =
      [.found none, .name ⟨1⟩, .name ⟨2⟩, .name ⟨1⟩, .found (some ⟨2⟩), .text "load",
        .fault (.unknownName ⟨3⟩), .name .empty] := by
  decide +kernel

end NameTable

end Companions
