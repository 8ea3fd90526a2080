import Companions.Text.Blank
import Mathlib.Data.List.DropRight
set_option autoImplicit false

/-!
# Items of comma-separated lists

An item has content, has no comma, and has no blank at either end (`IsItem`).  Whatever text is read
as a list, items are all that is read from it (`isItem_of_mem_items`).  And a list of items is read
from every text that lays it out: with blanks around each item, and with blank pieces anywhere
between the commas (`items_of_lays`).
-/

namespace Companions.Text

/-- There are no characters but blanks. -/
def Blank (s : String) : Prop := ∀ c ∈ s.toList, isBlank c = true

/-- Neither the first character nor the last is a blank. -/
def Trimmed (s : String) : Prop :=
  (∀ c ∈ s.toList.head?, isBlank c = false) ∧ ∀ c ∈ s.toList.getLast?, isBlank c = false

/-- A text that a comma-separated list can name. -/
structure IsItem (s : String) : Prop where
  ne_empty : s ≠ ""
  trimmed : Trimmed s
  no_comma : ',' ∉ s.toList

instance (s : String) : Decidable (Blank s) :=
  inferInstanceAs (Decidable (∀ c ∈ s.toList, isBlank c = true))

instance (s : String) : Decidable (Trimmed s) :=
  inferInstanceAs (Decidable (_ ∧ _))

instance (s : String) : Decidable (IsItem s) :=
  decidable_of_iff (s ≠ "" ∧ Trimmed s ∧ ',' ∉ s.toList)
    ⟨fun h => ⟨h.1, h.2.1, h.2.2⟩, fun h => ⟨h.ne_empty, h.trimmed, h.no_comma⟩⟩

/-- What stands between the commas of a list lays out these items, one after another: it is blank,
or it is the next item with blanks around it. -/
inductive Lays : List String → List String → Prop
  | nil : Lays [] []
  | blank {piece : String} {pieces items : List String} (blank : Blank piece)
      (rest : Lays pieces items) : Lays (piece :: pieces) items
  | item {before item after : String} {pieces items : List String} (leading : Blank before)
      (trailing : Blank after) (rest : Lays pieces items) :
      Lays ((before ++ item ++ after) :: pieces) (item :: items)

/-! ## Trimming -/

theorem trimChars_eq_nil_iff {s : List Char} : trimChars s = [] ↔ ∀ c ∈ s, isBlank c = true := by
  have hdrop : trimChars s = [] ↔ s.dropWhile isBlank = [] := by
    constructor
    · intro h
      have hall : ∀ c ∈ s.dropWhile isBlank, isBlank c = true := List.rdropWhile_eq_nil_iff.1 h
      cases hs : s.dropWhile isBlank with
      | nil => rfl
      | cons c rest =>
        have hfirst := List.head?_dropWhile_not isBlank s
        rw [hs] at hfirst hall
        have hc : isBlank c = false := hfirst
        rw [hall c List.mem_cons_self] at hc
        cases hc
    · intro h
      rw [trimChars, h]
      rfl
  rw [hdrop, List.dropWhile_eq_nil_iff]

/-- Blanks at the ends make no difference. -/
theorem trimChars_append {before after : List Char} (hbefore : ∀ c ∈ before, isBlank c = true)
    (hafter : ∀ c ∈ after, isBlank c = true) (s : List Char) :
    trimChars (before ++ s ++ after) = trimChars s := by
  rw [trimChars, trimChars, List.append_assoc, List.dropWhile_append_of_pos hbefore,
    List.dropWhile_append]
  split
  · next h =>
    rw [List.isEmpty_iff] at h
    rw [h, List.dropWhile_eq_nil_iff.2 hafter]
  · rw [List.reverse_append, List.dropWhile_append_of_pos]
    intro c hc
    exact hafter c (List.mem_reverse.1 hc)

theorem trimChars_sublist (s : List Char) : (trimChars s).Sublist s := by
  have hprefix : trimChars s <+: s.dropWhile isBlank := List.rdropWhile_prefix _ _
  exact hprefix.sublist.trans (List.dropWhile_sublist _)

/-- A text without blanks at its ends is left as it is. -/
theorem trimChars_of_trimmed {s : String} (h : Trimmed s) : trimChars s.toList = s.toList := by
  obtain ⟨hfirst, hlast⟩ := h
  have hleft : s.toList.dropWhile isBlank = s.toList := by
    cases hs : s.toList with
    | nil => rfl
    | cons c rest =>
      refine List.dropWhile_cons_of_neg ?_
      rw [hfirst c (by rw [hs]; rfl)]
      exact Bool.false_ne_true
  have hright : s.toList.rdropWhile isBlank = s.toList := by
    refine List.rdropWhile_eq_self_iff.2 fun hne => ?_
    rw [hlast _ (List.getLast?_eq_getLast_of_ne_nil hne)]
    exact Bool.false_ne_true
  calc trimChars s.toList = (s.toList.dropWhile isBlank).rdropWhile isBlank := rfl
    _ = s.toList := by rw [hleft, hright]

theorem trimmed_trimChars (s : List Char) : Trimmed (String.ofList (trimChars s)) := by
  rw [Trimmed, String.toList_ofList]
  constructor
  · intro c hc
    -- what is left of a text after its first blanks are gone begins as that does
    obtain ⟨after, hafter⟩ : trimChars s <+: s.dropWhile isBlank := List.rdropWhile_prefix _ _
    have hfirst := List.head?_dropWhile_not isBlank s
    rw [← hafter, List.head?_append_of_ne_nil] at hfirst
    · rw [hc] at hfirst
      exact hfirst
    · rintro hnil
      rw [hnil] at hc
      cases hc
  · intro c hc
    have hne : trimChars s ≠ [] := by
      rintro hnil
      rw [hnil] at hc
      cases hc
    have hlast := List.rdropWhile_last_not isBlank (s.dropWhile isBlank) hne
    rw [List.getLast?_eq_getLast_of_ne_nil hne] at hc
    cases hc
    exact Bool.eq_false_iff.2 hlast

/-! ## Splitting -/

theorem splitChars_eq_splitOn (separator : Char) (s : List Char) :
    splitChars separator s = s.splitOn separator := by
  induction s with
  | nil => rw [splitChars, List.splitOn_nil]
  | cons c rest ih =>
    rw [splitChars, ih, List.splitOn_cons_eq_if_modifyHead]
    by_cases hc : c = separator
    · rw [if_pos hc, if_pos (beq_iff_eq.2 hc)]
    · rw [if_neg hc, if_neg (mt beq_iff_eq.1 hc)]
      cases hrest : rest.splitOn separator with
      | nil => exact absurd hrest (List.splitOn_ne_nil separator rest)
      | cons piece pieces => rfl

/-- What stands between separators belongs to the text and has no separator in it. -/
theorem mem_of_mem_splitChars {separator c : Char} {s piece : List Char}
    (hpiece : piece ∈ splitChars separator s) (hc : c ∈ piece) : c ∈ s ∧ c ≠ separator := by
  induction s generalizing piece with
  | nil =>
    rw [splitChars, List.mem_singleton] at hpiece
    rw [hpiece] at hc
    cases hc
  | cons d rest ih =>
    rw [splitChars] at hpiece
    split at hpiece
    · rcases List.mem_cons.1 hpiece with rfl | hpiece
      · cases hc
      · exact (ih hpiece hc).imp (List.mem_cons_of_mem d) id
    · next hd =>
      split at hpiece
      · next hrest => exact absurd hrest (splitChars_ne_nil separator rest)
      · next first pieces hrest =>
        rw [hrest] at ih
        rcases List.mem_cons.1 hpiece with rfl | hpiece
        · rcases List.mem_cons.1 hc with rfl | hc
          · exact ⟨List.mem_cons_self, hd⟩
          · exact (ih List.mem_cons_self hc).imp (List.mem_cons_of_mem d) id
        · exact (ih (List.mem_cons_of_mem _ hpiece) hc).imp (List.mem_cons_of_mem d) id

/-! ## Items -/

/-- Whatever is read as a list, it is read as items. -/
theorem isItem_of_mem_items {s item : String} (h : item ∈ items s) : IsItem item := by
  obtain ⟨content, hcontent, rfl⟩ := List.mem_map.1 h
  obtain ⟨hmem, hne⟩ := List.mem_filter.1 hcontent
  obtain ⟨piece, hpiece, rfl⟩ := List.mem_map.1 hmem
  refine ⟨?_, trimmed_trimChars piece, ?_⟩
  · intro hempty
    have hnil : trimChars piece = [] := by
      rw [← String.toList_ofList (l := trimChars piece), hempty]
      rfl
    rw [hnil] at hne
    cases hne
  · rw [String.toList_ofList]
    intro hcomma
    exact (mem_of_mem_splitChars hpiece ((trimChars_sublist piece).subset hcomma)).2 rfl

/-- A text of commas and blanks lists nothing. -/
theorem items_of_void {s : String} (h : ∀ c ∈ s.toList, c = ',' ∨ isBlank c = true) :
    items s = [] := by
  have hpieces : ∀ piece ∈ splitChars ',' s.toList, trimChars piece = [] := by
    intro piece hpiece
    refine trimChars_eq_nil_iff.2 fun c hc => ?_
    obtain ⟨hmem, hne⟩ := mem_of_mem_splitChars hpiece hc
    exact (h c hmem).resolve_left hne
  rw [items, List.map_eq_nil_iff, List.filter_eq_nil_iff]
  intro content hcontent
  obtain ⟨piece, hpiece, rfl⟩ := List.mem_map.1 hcontent
  rw [hpieces piece hpiece]
  simp

theorem Blank.no_comma {s : String} (h : Blank s) : ',' ∉ s.toList := by
  intro hcomma
  have hblank : isBlank ',' = true := h ',' hcomma
  cases hblank

/-- What lays out items has no commas of its own. -/
theorem Lays.no_comma {pieces items : List String} (h : Lays pieces items)
    (hitems : ∀ item ∈ items, IsItem item) : ∀ piece ∈ pieces, ',' ∉ piece.toList := by
  induction h with
  | nil => exact fun _ hpiece => absurd hpiece List.not_mem_nil
  | blank hblank _ ih => exact List.forall_mem_cons.2 ⟨hblank.no_comma, ih hitems⟩
  | item hleading htrailing _ ih =>
    obtain ⟨hitem, hrest⟩ := List.forall_mem_cons.1 hitems
    refine List.forall_mem_cons.2 ⟨?_, ih hrest⟩
    rw [String.toList_append, String.toList_append, List.mem_append, List.mem_append, not_or, not_or]
    exact ⟨⟨hleading.no_comma, hitem.no_comma⟩, htrailing.no_comma⟩

/-- The items that are laid out are what is left of the pieces. -/
theorem Lays.trimmed_pieces {pieces items : List String} (h : Lays pieces items)
    (hitems : ∀ item ∈ items, IsItem item) :
    (((pieces.map String.toList).map trimChars).filter (!·.isEmpty)).map String.ofList = items := by
  induction h with
  | nil => rfl
  | @blank piece pieces items hblank _ ih =>
    have hpiece : trimChars piece.toList = [] := trimChars_eq_nil_iff.2 hblank
    rw [List.map_cons, List.map_cons, hpiece, List.filter_cons_of_neg (by simp)]
    exact ih hitems
  | @item before item after pieces items hleading htrailing _ ih =>
    obtain ⟨hitem, hrest⟩ := List.forall_mem_cons.1 hitems
    have hpiece : trimChars (before ++ item ++ after).toList = item.toList := by
      rw [String.toList_append, String.toList_append, trimChars_append hleading htrailing,
        trimChars_of_trimmed hitem.trimmed]
    have hkept : ¬ item.toList = [] := fun hnil => hitem.ne_empty (String.toList_eq_nil_iff.1 hnil)
    rw [List.map_cons, List.map_cons, hpiece, List.filter_cons_of_pos (by simpa using hkept),
      List.map_cons, String.ofList_toList, ih hrest]

/-- A list of items is read from every text that lays it out. -/
theorem items_of_lays {pieces list : List String} (h : Lays pieces list)
    (hitems : ∀ item ∈ list, IsItem item) : items (",".intercalate pieces) = list := by
  cases pieces with
  | nil =>
    cases h
    rfl
  | cons piece rest =>
    have hcommas : ∀ p ∈ (piece :: rest).map String.toList, ',' ∉ p :=
      List.forall_mem_map.2 (h.no_comma hitems)
    have hsplit : splitChars ',' (",".intercalate (piece :: rest)).toList =
        (piece :: rest).map String.toList := by
      rw [splitChars_eq_splitOn, String.toList_intercalate]
      exact List.splitOn_intercalate ',' hcommas (List.cons_ne_nil _ _)
    rw [items, hsplit]
    exact h.trimmed_pieces hitems

/-- Items with nothing around them and nothing between them but commas. -/
theorem lays_self (list : List String) : Lays list list := by
  induction list with
  | nil => exact .nil
  | cons item rest ih =>
    have hblank : Blank "" := fun c hc => absurd hc List.not_mem_nil
    have hlays : Lays (("" ++ item ++ "") :: rest) (item :: rest) := .item hblank hblank ih
    rwa [String.empty_append, String.append_empty] at hlays

end Companions.Text
