import Companions.Proofs.Check.Verdict
set_option autoImplicit false

/-!
# What an approval says

An approval is worth something on any body, acyclic or not: what the check could not read, or could
not come to the end of, it has not approved.  So a declaration that is approved has a body that is
sound along every path from its root, and there every span is in range and every path comes to an
end (`Surroundings.BodySafe`).  Of the nodes that no path leads to, an approval says nothing.
-/

namespace Companions

namespace Body

/-- What can be read is in range. -/
theorem fits_of_read {α : Type} {list : ListKind} {store : Array α} {s : Span list}
    {items : List α} (h : read store s = .ok items) : Fits store s := by
  unfold read at h
  split at h
  · next hle => exact hle
  · cases h

/-- A list is read exactly if it is in range, as its items. -/
theorem read_eq_ok_iff {α : Type} {list : ListKind} {store : Array α} {span : Span list}
    {items : List α} :
    read store span = .ok items ↔ Fits store span ∧ Body.items store span = items := by
  constructor
  · exact fun h => ⟨fits_of_read h, items_of_read h⟩
  · rintro ⟨hfits, rfl⟩
    exact read_of_fits hfits

end Body

namespace Checking

variable {α β : Type}

/-- Two steps of a check succeed exactly if the first does and the second does on what it found. -/
theorem run_bind_eq_ok_iff {x : Checking α} {f : α → Checking β} {b : β} :
    (x >>= f).run = .ok (.ok b) ↔ ∃ a, x.run = .ok (.ok a) ∧ (f a).run = .ok (.ok b) := by
  rw [ExceptT.run_bind]
  constructor
  · intro h
    cases hx : x.run with
    | error fault =>
      rw [hx] at h
      cases h
    | ok result =>
      rw [hx] at h
      cases result with
      | error wrong => cases h
      | ok a => exact ⟨a, rfl, h⟩
  · rintro ⟨a, hx, hf⟩
    rw [hx]
    exact hf

/-- What was read in the course of a check was there to be read. -/
theorem eq_ok_of_run_liftM {x : Except Fault α} {a : α}
    (h : (liftM x : Checking α).run = .ok (.ok a)) : x = .ok a := by
  cases x with
  | error fault => cases h
  | ok a' =>
    cases h
    rfl

theorem run_forM_eq_ok {items : List α} {f : α → Checking Unit}
    (h : (items.forM f).run = .ok (.ok ())) : ∀ a ∈ items, (f a).run = .ok (.ok ()) := by
  induction items with
  | nil =>
    intro a ha
    cases ha
  | cons first rest ih =>
    obtain ⟨_, hfirst, hrest⟩ := run_bind_eq_ok_iff.1 h
    intro a ha
    rcases List.mem_cons.1 ha with rfl | ha
    · exact hfirst
    · exact ih hrest a ha

end Checking

open Checking

namespace Surroundings

variable {s : Surroundings} {b : Body} {n : Nat} {scope scope' : List ParamSymbol}
  {parent e e' : ExprRef} {x : Expr} {d other : Declaration}

/-! ## Nodes -/

/-- Only a node whose spans are in range passes. -/
theorem formFits_of_checkNode (h : (s.checkNode b (n + 1) scope parent e).run = .ok (.ok ()))
    (hx : b.node? e = some x) : b.FormFits x.form := by
  rw [checkNode, hx] at h
  obtain ⟨form, type⟩ := x
  simp only [found, pure_bind] at h
  -- behind the check of the type, each list of the node has been read: that of a `try` behind the
  -- check of its form, all others in the course of it
  obtain ⟨_, -, h⟩ := run_bind_eq_ok_iff.1 h
  obtain ⟨_, hform, hhandlers⟩ := run_bind_eq_ok_iff.1 h
  cases form with
  | call callee receiver arguments =>
    obtain ⟨_, -, hform⟩ := run_bind_eq_ok_iff.1 hform
    obtain ⟨_, -, hform⟩ := run_bind_eq_ok_iff.1 hform
    obtain ⟨_, hread, -⟩ := run_bind_eq_ok_iff.1 hform
    exact Body.fits_of_read (eq_ok_of_run_liftM hread)
  | new constr arguments =>
    obtain ⟨_, -, hform⟩ := run_bind_eq_ok_iff.1 hform
    obtain ⟨_, hread, -⟩ := run_bind_eq_ok_iff.1 hform
    exact Body.fits_of_read (eq_ok_of_run_liftM hread)
  | block statements =>
    obtain ⟨_, hread, -⟩ := run_bind_eq_ok_iff.1 hform
    exact Body.fits_of_read (eq_ok_of_run_liftM hread)
  | attempt block handlers =>
    obtain ⟨_, hread, -⟩ := run_bind_eq_ok_iff.1 hhandlers
    exact Body.fits_of_read (eq_ok_of_run_liftM hread)
  | _ => exact trivial

/-- A place passes exactly if it holds a node whose spans are in range, whose type is known and
which is sound, and all that the node refers to passes. -/
theorem checkNode_eq_ok_iff : (s.checkNode b (n + 1) scope parent e).run = .ok (.ok ()) ↔
    ∃ x, b.node? e = some x ∧ b.FormFits x.form ∧ s.types.contains x.type = true ∧
      s.FormSound b scope x.form ∧ ∀ r ∈ b.references x.form,
        (s.checkNode b n (r.scope scope) e r.place).run = .ok (.ok ()) := by
  constructor
  · intro h
    cases hx : b.node? e with
    | none =>
      rw [checkNode, hx] at h
      cases h
    | some x =>
      have hfits := formFits_of_checkNode h hx
      rw [checkNode_succ hx hfits] at h
      obtain ⟨_, htype, h⟩ := run_bind_eq_ok_iff.1 h
      obtain ⟨_, hform, hrefs⟩ := run_bind_eq_ok_iff.1 h
      exact ⟨x, rfl, hfits, (decides_require _ _).run_iff.1 htype,
        (decides_checkHead scope e x.form).run_iff.1 hform, run_forM_eq_ok hrefs⟩
  · rintro ⟨x, hx, hfits, htype, hform, hrefs⟩
    exact checkNode_approves hx hfits htype hform hrefs

/-- Nothing passes that is deeper than the check looks. -/
theorem withinDepth_of_checkNode (h : (s.checkNode b n scope parent e).run = .ok (.ok ())) :
    b.WithinDepth n e := by
  induction n generalizing scope parent e with
  | zero => cases h
  | succ n ih =>
    obtain ⟨x, hx, -, -, -, hrefs⟩ := checkNode_eq_ok_iff.1 h
    rintro c ⟨x', hx', r, hr, rfl⟩
    rw [hx] at hx'
    cases hx'
    exact ih (hrefs r hr)

/-- What a place that passes leads to passes as well. -/
theorem checkNode_of_path (hpath : b.Path scope e scope' e')
    (h : (s.checkNode b n scope parent e).run = .ok (.ok ())) :
    ∃ n' parent', (s.checkNode b (n' + 1) scope' parent' e').run = .ok (.ok ()) := by
  induction hpath generalizing n parent with
  | here scope e =>
    cases n with
    | zero => cases h
    | succ n => exact ⟨n, parent, h⟩
  | step hx hr _ ih =>
    cases n with
    | zero => cases h
    | succ n =>
      obtain ⟨x, hx', -, -, -, hrefs⟩ := checkNode_eq_ok_iff.1 h
      rw [hx] at hx'
      cases hx'
      exact ih (hrefs _ hr)

/-! ## Declarations -/

/-- Where a path from the root of the body leads, nodes are sound and nothing is out of range, and
every such path comes to an end. -/
structure BodySafe (s : Surroundings) (d : Declaration) (b : Body) : Prop
    extends s.BodySound d b where
  spans : ∀ scope e x, b.Path (d.params.map (·.symbol)) b.root scope e → b.node? e = some x →
    b.FormFits x.form
  depth : b.WithinDepth (b.size + 1) b.root

/-- The parameters of a declaration that is approved repeat those of the function. -/
theorem repeats_of_check (h : (s.check d other).run = .ok (.ok ())) :
    List.Forall₂ (fun own theirs => own.Repeats theirs d.provenance) d.params other.params := by
  obtain ⟨_, hparams, -⟩ := run_bind_eq_ok_iff.1 h
  exact (decides_checkParams d other).run_iff.1 hparams

/-- A declaration that is approved has a safe body. -/
theorem exists_bodySafe (h : (s.check d other).run = .ok (.ok ())) :
    ∃ b, d.body = some b ∧ s.BodySafe d b := by
  obtain ⟨_, -, h⟩ := run_bind_eq_ok_iff.1 h
  obtain ⟨b, hfound, h⟩ := run_bind_eq_ok_iff.1 h
  obtain ⟨_, hroot, h⟩ := run_bind_eq_ok_iff.1 h
  obtain ⟨_, hlabels, hnodes⟩ := run_bind_eq_ok_iff.1 h
  have hbody : d.body = some b := by
    cases hd : d.body with
    | none =>
      rw [hd] at hfound
      cases hfound
    | some b' =>
      rw [hd] at hfound
      cases hfound
      rfl
  refine ⟨b, hbody, ⟨(decides_require _ _).run_iff.1 hroot, ?_, ?_⟩, ?_,
    withinDepth_of_checkNode hnodes⟩
  · simpa using (decides_checkLabels _ _ _).run_iff.1 hlabels
  · intro scope e hpath
    obtain ⟨n, parent, hpassed⟩ := checkNode_of_path hpath hnodes
    obtain ⟨x, hx, -, htype, hform, -⟩ := checkNode_eq_ok_iff.1 hpassed
    exact ⟨x, hx, htype, hform⟩
  · intro scope e x hpath hx
    obtain ⟨n, parent, hpassed⟩ := checkNode_of_path hpath hnodes
    exact formFits_of_checkNode hpassed hx

/-- The node at the end of a path from the root is sound. -/
theorem BodySafe.form (h : s.BodySafe d b)
    (hpath : b.Path (d.params.map (·.symbol)) b.root scope e) (hx : b.node? e = some x) :
    s.FormSound b scope x.form := by
  obtain ⟨x', hx', -, hform⟩ := h.nodes scope e hpath
  rw [hx] at hx'
  cases hx'
  exact hform

/-- A path from the root leads to nodes only. -/
theorem BodySafe.contains (h : s.BodySafe d b)
    (hpath : b.Path (d.params.map (·.symbol)) b.root scope e) : b.contains e = true := by
  obtain ⟨x, hx, -⟩ := h.nodes scope e hpath
  exact Body.contains_iff.2 ⟨x, hx⟩

end Surroundings

end Companions
