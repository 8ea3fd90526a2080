import Companions.Config
import Companions.Proofs.Settings.Items
set_option autoImplicit false

/-!
# Reading settings

A configuration that was read has markers for both strategies, all of them items, and a trimmed error
class.  Each of its parts comes from one setting: from its content, or from the standard
configuration where the setting is absent or has no content.  Markers may be laid out in any way.
Written out again as settings, the configuration is read as itself (`Config.readsSettings`).
-/

namespace Companions

namespace Text

theorem trim_append {before after : String} (hbefore : Blank before) (hafter : Blank after)
    (s : String) : trim (before ++ s ++ after) = trim s := by
  rw [trim, trim, String.toList_append, String.toList_append, trimChars_append hbefore hafter]

theorem trim_of_trimmed {s : String} (h : Trimmed s) : trim s = s := by
  rw [trim, trimChars_of_trimmed h, String.ofList_toList]

theorem trim_eq_empty_iff {s : String} : trim s = "" ↔ Blank s := by
  rw [trim, String.ofList_eq_empty_iff, trimChars_eq_nil_iff]
  rfl

end Text

namespace Config

/-- The settings that write a configuration out. -/
def settings (c : Config) (key : String) : Option String :=
  if key = markersKey .nullOnThrow then some (",".intercalate c.nullMarkers)
  else if key = markersKey .throwOnNull then some (",".intercalate c.throwMarkers)
  else if key = errorClassKey then some c.errorClass
  else none

variable {setting other : String → Option String} {c : Config}

theorem settings_markersKey (c : Config) (s : Strategy) :
    c.settings (markersKey s) = some (",".intercalate (c.markers s)) := by
  cases s <;> rfl

theorem settings_errorClassKey (c : Config) : c.settings errorClassKey = some c.errorClass := rfl

theorem markers_ofSettings (setting : String → Option String) (s : Strategy) :
    (ofSettings setting).markers s = readMarkers (setting (markersKey s)) (standard.markers s) := by
  cases s <;> rfl

theorem ext_markers {c d : Config} (hmarkers : ∀ s, c.markers s = d.markers s)
    (herror : c.errorClass = d.errorClass) : c = d := by
  calc c = ⟨c.markers .nullOnThrow, c.markers .throwOnNull, c.errorClass⟩ := rfl
    _ = ⟨d.markers .nullOnThrow, d.markers .throwOnNull, d.errorClass⟩ := by
      rw [hmarkers, hmarkers, herror]
    _ = d := rfl

/-! ## Markers -/

theorem readMarkers_of_items_eq_nil {text : Option String} (default : List String)
    (h : ∀ t ∈ text, Text.items t = []) : readMarkers text default = default := by
  cases text with
  | none => rfl
  | some t => rw [readMarkers, Option.map_some, h t rfl]

theorem readMarkers_of_items {t : String} (default : List String) (h : Text.items t ≠ []) :
    readMarkers (some t) default = Text.items t := by
  rw [readMarkers, Option.map_some]
  split
  · next hnone => cases hnone
  · next hnil => exact absurd (Option.some.inj hnil) h
  · next items hitems => exact (Option.some.inj hitems).symm

/-- What is read is the default, or the items of the setting. -/
theorem readMarkers_cases (text : Option String) (default : List String) :
    readMarkers text default = default ∨ ∃ t, readMarkers text default = Text.items t := by
  cases text with
  | none => exact .inl rfl
  | some t =>
    by_cases h : Text.items t = []
    · refine .inl (readMarkers_of_items_eq_nil default fun t' ht' => ?_)
      cases ht'
      exact h
    · exact .inr ⟨t, readMarkers_of_items default h⟩

theorem isItem_standard (s : Strategy) : ∀ t ∈ standard.markers s, Text.IsItem t := by
  intro t ht
  cases s with
  | nullOnThrow =>
    obtain rfl | rfl := List.mem_pair.1 ht
    · exact ⟨by simp, by simp [Text.Trimmed, Text.isBlank], by simp⟩
    · exact ⟨by simp, by simp [Text.Trimmed, Text.isBlank], by simp⟩
  | throwOnNull =>
    obtain rfl := List.mem_singleton.1 ht
    exact ⟨by simp, by simp [Text.Trimmed, Text.isBlank], by simp⟩

theorem standard_ne_nil (s : Strategy) : standard.markers s ≠ [] := by
  cases s <;> exact List.cons_ne_nil _ _

theorem isItem_of_mem_markers {s : Strategy} {t : String}
    (h : t ∈ (ofSettings setting).markers s) : Text.IsItem t := by
  rw [markers_ofSettings] at h
  rcases readMarkers_cases (setting (markersKey s)) (standard.markers s) with hdefault | ⟨text, hitems⟩
  · rw [hdefault] at h
    exact isItem_standard s t h
  · rw [hitems] at h
    exact Text.isItem_of_mem_items h

/-- Markers that are laid out in their setting are read from it. -/
theorem markers_of_lays {s : Strategy} {pieces list : List String} (hlays : Text.Lays pieces list)
    (hne : list ≠ []) (hitems : ∀ t ∈ list, Text.IsItem t)
    (hsetting : setting (markersKey s) = some (",".intercalate pieces)) :
    (ofSettings setting).markers s = list := by
  have hread : Text.items (",".intercalate pieces) = list := Text.items_of_lays hlays hitems
  rw [markers_ofSettings, hsetting, readMarkers_of_items _ (hread ▸ hne), hread]

/-! ## The error class -/

theorem readErrorClass_of_blank {text : Option String} (default : String)
    (h : ∀ t ∈ text, Text.Blank t) : readErrorClass text default = default := by
  cases text with
  | none => rfl
  | some t =>
    rw [readErrorClass, Option.map_some, Text.trim_eq_empty_iff.2 (h t rfl)]
    rfl

theorem readErrorClass_of_not_blank {t : String} (default : String) (h : ¬ Text.Blank t) :
    readErrorClass (some t) default = Text.trim t := by
  rw [readErrorClass, Option.map_some]
  refine if_neg fun hempty => h (Text.trim_eq_empty_iff.1 ?_)
  exact String.isEmpty_iff.1 hempty

/-- An error class with blanks around it is read without them. -/
theorem errorClass_of_padded {before text after : String} (hbefore : Text.Blank before)
    (hafter : Text.Blank after) (hne : text ≠ "") (htrimmed : Text.Trimmed text)
    (hsetting : setting errorClassKey = some (before ++ text ++ after)) :
    (ofSettings setting).errorClass = text := by
  have htrim : Text.trim (before ++ text ++ after) = text := by
    rw [Text.trim_append hbefore hafter, Text.trim_of_trimmed htrimmed]
  have hcontent : ¬ Text.Blank (before ++ text ++ after) := by
    rw [← Text.trim_eq_empty_iff, htrim]
    exact hne
  calc (ofSettings setting).errorClass =
      readErrorClass (setting errorClassKey) standard.errorClass := rfl
    _ = Text.trim (before ++ text ++ after) := by
      rw [hsetting, readErrorClass_of_not_blank _ hcontent]
    _ = text := htrim

theorem errorClass_content (setting : String → Option String) :
    (ofSettings setting).errorClass ≠ "" ∧ Text.Trimmed (ofSettings setting).errorClass := by
  have hread : (ofSettings setting).errorClass =
      readErrorClass (setting errorClassKey) standard.errorClass := rfl
  have hstandard : standard.errorClass ≠ "" ∧ Text.Trimmed standard.errorClass := by
    simp [standard, Text.Trimmed, Text.isBlank]
  rw [hread]
  cases hsetting : setting errorClassKey with
  | none => exact hstandard
  | some t =>
    by_cases hblank : Text.Blank t
    · rw [readErrorClass_of_blank]
      · exact hstandard
      · intro t' ht'
        cases ht'
        exact hblank
    · rw [readErrorClass_of_not_blank _ hblank]
      exact ⟨mt Text.trim_eq_empty_iff.1 hblank, Text.trimmed_trimChars t.toList⟩

/-! ## Configurations -/

/-- What a configuration is that is read from settings. -/
structure ReadsSettings (setting : String → Option String) : Prop where
  markers_ne_nil : ∀ s, (ofSettings setting).markers s ≠ []
  /-- Markers have content, no commas, and no blanks at their ends. -/
  markers_items : ∀ s, ∀ t ∈ (ofSettings setting).markers s, Text.IsItem t
  errorClass_ne_empty : (ofSettings setting).errorClass ≠ ""
  errorClass_trimmed : Text.Trimmed (ofSettings setting).errorClass
  /-- The markers of a strategy come from one setting. -/
  markers_own : ∀ s other, other (markersKey s) = setting (markersKey s) →
    (ofSettings other).markers s = (ofSettings setting).markers s
  errorClass_own : ∀ other, other errorClassKey = setting errorClassKey →
    (ofSettings other).errorClass = (ofSettings setting).errorClass
  /-- Where the setting is absent or has nothing but commas and blanks, the default holds. -/
  markers_default : ∀ s,
    (∀ text ∈ setting (markersKey s), ∀ c ∈ text.toList, c = ',' ∨ Text.isBlank c = true) →
      (ofSettings setting).markers s = standard.markers s
  errorClass_default : (∀ text ∈ setting errorClassKey, Text.Blank text) →
    (ofSettings setting).errorClass = standard.errorClass
  /-- Blanks around markers, and blank pieces between them, make no difference. -/
  markers_listed : ∀ s pieces list, Text.Lays pieces list → list ≠ [] →
    (∀ t ∈ list, Text.IsItem t) → setting (markersKey s) = some (",".intercalate pieces) →
      (ofSettings setting).markers s = list
  errorClass_given : ∀ before text after, Text.Blank before → Text.Blank after → text ≠ "" →
    Text.Trimmed text → setting errorClassKey = some (before ++ text ++ after) →
      (ofSettings setting).errorClass = text
  /-- The configuration is read again from the settings that write it out. -/
  again : ofSettings (ofSettings setting).settings = ofSettings setting

/-- Configurations are read from settings in one way, whatever the settings are. -/
theorem readsSettings (setting : String → Option String) : ReadsSettings setting := by
  have hne : ∀ s, (ofSettings setting).markers s ≠ [] := by
    intro s
    rw [markers_ofSettings]
    exact readMarkers_ne_nil _ (standard_ne_nil s)
  have hitems : ∀ s, ∀ t ∈ (ofSettings setting).markers s, Text.IsItem t :=
    fun s t => isItem_of_mem_markers
  obtain ⟨hcontent, htrimmed⟩ := errorClass_content setting
  refine ⟨hne, hitems, hcontent, htrimmed, ?_, ?_, ?_, ?_, ?_, ?_, ?_⟩
  · intro s other hown
    rw [markers_ofSettings, markers_ofSettings, hown]
  · intro other hown
    exact congrArg (readErrorClass · standard.errorClass) hown
  · intro s hvoid
    rw [markers_ofSettings]
    exact readMarkers_of_items_eq_nil _ fun text htext => Text.items_of_void (hvoid text htext)
  · exact fun hblank => readErrorClass_of_blank _ hblank
  · exact fun s pieces list hlays hlist hall => markers_of_lays hlays hlist hall
  · exact fun before text after => errorClass_of_padded
  · refine ext_markers (fun s => ?_) ?_
    · exact markers_of_lays (Text.lays_self _) (hne s) (hitems s) (settings_markersKey _ s)
    · have hblank : Text.Blank "" := fun c hc => absurd hc List.not_mem_nil
      refine errorClass_of_padded hblank hblank hcontent htrimmed ?_
      rw [String.empty_append, String.append_empty, settings_errorClassKey]

/-- Items are told from the blanks and commas around them. -/
example : ofSettings (fun key => if key = markersKey .nullOnThrow then some " a.Safe ,, b.Quiet\t, "
      else if key = errorClassKey then some " demo.Boom" else some " , ") =
    ⟨["a.Safe", "b.Quiet"], standard.throwMarkers, "demo.Boom"⟩ := by
  decide +kernel

end Config

end Companions
