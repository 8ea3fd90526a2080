import Companions.Proofs.Companion.Discovery
set_option autoImplicit false

/-!
# Predicates as sets of markers

However its alternatives are nested, a predicate looks for a marker among annotations and mentions
the markers that it looks for.  The search stops at the first that is found and the markers are
collected to the end, but both go through the same tree: the predicate holds exactly where one of
its markers occurs (`Predicate.holds_iff`).  So a predicate is the set of its markers
(`Predicate.IsMarkerSet`).

A predicate that is made of texts has the markers of the texts, and markers are told apart by their
texts at whatever later moment they are made (`Predicate.SelectsTexts`).
-/

namespace Companions

/-! ## The markers of texts -/

namespace Marker

variable {names later : NameTable} {m : Marker} {text : String}

theorem Reads.mono (h : m.Reads names text)
    (hlasts : ∀ n s, names.text? n = some s → later.text? n = some s) : m.Reads later text :=
  hlasts _ _ h

theorem reads_ofPath (names : NameTable) (text : String) :
    (ofPath names text).1.Reads (ofPath names text).2 text :=
  NameTable.text?_intern names text

/-- A marker that has a text is the one that the text is made into, then and ever after. -/
theorem Reads.eq_ofPath (h : m.Reads names text) : m = (ofPath names text).1 := by
  have hstill : m.Reads (ofPath names text).2 text :=
    h.mono fun _ _ hn => NameTable.text?_intern_of_some hn text
  exact reads_leftUnique _ hstill (reads_ofPath names text)

/-- Markers that have the texts one after another are what the texts are made into. -/
theorem eq_map_ofPath_of_reads {ms : List Marker} {texts : List String}
    (h : List.Forall₂ (Reads names) ms texts) :
    ms = texts.map fun text => (ofPath names text).1 := by
  induction h with
  | nil => rfl
  | cons hfirst _ ih => rw [List.map_cons, ← hfirst.eq_ofPath, ← ih]

/-- The texts of markers are those that one of them has. -/
theorem mem_texts_iff_of_reads {ms : List Marker} {texts : List String}
    (h : List.Forall₂ (Reads names) ms texts) (text : String) :
    text ∈ texts ↔ ∃ m ∈ ms, m.Reads names text := by
  induction h with
  | nil => simp
  | @cons m first ms texts hfirst _ ih =>
    have hone : text = first ↔ m.Reads names text :=
      ⟨fun heq => heq ▸ hfirst, fun h => Option.some.inj (h.symm.trans hfirst)⟩
    rw [List.mem_cons, hone, ih]
    simp

end Marker

namespace Predicate

/-! ## Where a predicate holds -/

mutual

/-- A predicate holds exactly where one of its markers occurs. -/
theorem holds_iff (p : Predicate) (annotations : List Marker) :
    p.holds annotations = true ↔ ∃ m ∈ p.markers, m ∈ annotations := by
  cases p with
  | has m => simp [holds, markers]
  | anyOf ps =>
    rw [holds, markers]
    exact holdsAny_iff ps annotations

/-- One of the predicates holds exactly where one of all their markers occurs. -/
theorem holdsAny_iff (ps : List Predicate) (annotations : List Marker) :
    holdsAny ps annotations = true ↔ ∃ m ∈ markersAll ps, m ∈ annotations := by
  cases ps with
  | nil => simp [holdsAny, markersAll]
  | cons p rest =>
    rw [holdsAny, Bool.or_eq_true, holds_iff p annotations, holdsAny_iff rest annotations]
    simp only [markersAll, List.mem_append, or_and_right, exists_or]

end

/-- A single annotation is accepted exactly if it is one of the markers. -/
theorem holds_singleton_iff (p : Predicate) (m : Marker) :
    p.holds [m] = true ↔ m ∈ p.markers := by
  rw [holds_iff]
  simp

/-- What a predicate does is said by the set of its markers, and says it. -/
structure IsMarkerSet (p : Predicate) : Prop where
  /-- It holds exactly where one of its markers occurs. -/
  holds_iff : ∀ annotations, p.holds annotations = true ↔ ∃ m ∈ p.markers, m ∈ annotations
  /-- Those that hold in the same places are those with the same markers, in whatever order, however
  often, and however deep. -/
  same_iff : ∀ q : Predicate, (∀ annotations, p.holds annotations = q.holds annotations) ↔
    ∀ m, m ∈ p.markers ↔ m ∈ q.markers

theorem isMarkerSet (p : Predicate) : p.IsMarkerSet where
  holds_iff := p.holds_iff
  same_iff q := by
    constructor
    · intro hsame m
      rw [← p.holds_singleton_iff, ← q.holds_singleton_iff, hsame]
    · intro hmarkers annotations
      rw [Bool.eq_iff_iff, p.holds_iff, q.holds_iff]
      simp only [hmarkers]

/-! ## Predicates of texts -/

/-- The predicate that is satisfied by the marker of any of the texts. -/
def ofTexts (names : NameTable) (texts : List String) : Predicate × NameTable :=
  let (ms, names) := internMarkers names texts
  (ofMarkers ms, names)

/-- What a configuration marks for a strategy is selected by the predicate of its texts. -/
theorem predicate_eq_ofTexts (c : Config) (strategy : Strategy) (names : NameTable) :
    c.predicate strategy names = ofTexts names (c.markers strategy) := rfl

theorem markersAll_map_has (ms : List Marker) : markersAll (ms.map has) = ms := by
  induction ms with
  | nil => rfl
  | cons m rest ih => rw [List.map_cons, markersAll, ih, markers, List.singleton_append]

/-- The shape depends on how many markers there are, what the predicate mentions does not. -/
theorem markers_ofMarkers (ms : List Marker) : (ofMarkers ms).markers = ms := by
  unfold ofMarkers
  split
  · rfl
  · exact markersAll_map_has ms

variable {names later : NameTable} {texts others : List String}

/-- A predicate of texts mentions markers that have the texts. -/
theorem reads_markers_ofTexts (names : NameTable) (texts : List String) :
    List.Forall₂ (Marker.Reads (ofTexts names texts).2) (ofTexts names texts).1.markers texts := by
  have hmarkers : (ofTexts names texts).1.markers = (internMarkers names texts).1 :=
    markers_ofMarkers _
  rw [hmarkers]
  exact reads_internMarkers { (default : Pools) with names } texts

/-- Making a predicate leaves the meaning of every earlier name alone. -/
theorem text?_ofTexts_of_some {n : Name} {text : String} (h : names.text? n = some text)
    (texts : List String) : (ofTexts names texts).2.text? n = some text :=
  (Growing.grows_internMarkers { (default : Pools) with names } texts).names n text h

/-- Predicates hold in the same places exactly if they mention markers that have the same texts. -/
theorem holds_eq_iff_of_reads {p q : Predicate}
    (hp : List.Forall₂ (Marker.Reads later) p.markers texts)
    (hq : List.Forall₂ (Marker.Reads later) q.markers others) :
    (∀ annotations, p.holds annotations = q.holds annotations) ↔
      ∀ text, text ∈ texts ↔ text ∈ others := by
  rw [p.isMarkerSet.same_iff]
  constructor
  · intro hmarkers text
    rw [Marker.mem_texts_iff_of_reads hp, Marker.mem_texts_iff_of_reads hq]
    simp only [hmarkers]
  · intro htexts m
    rw [Marker.mem_iff_of_reads hp, Marker.mem_iff_of_reads hq]
    simp only [htexts]

/-- A predicate that is made of texts selects by them, whatever is interned afterwards. -/
structure SelectsTexts (names : NameTable) (texts : List String) : Prop where
  /-- It mentions what the texts are made into at any later moment. -/
  markers_eq : ∀ between, (ofTexts names texts).1.markers = texts.map fun text =>
    (Marker.ofPath ((ofTexts names texts).2.internEach between) text).1
  /-- It holds exactly where what one of the texts is made into occurs. -/
  holds_iff : ∀ between annotations, (ofTexts names texts).1.holds annotations = true ↔
    ∃ text ∈ texts,
      (Marker.ofPath ((ofTexts names texts).2.internEach between) text).1 ∈ annotations
  /-- One that is made of other texts later holds in the same places exactly if they are the same
  texts, in whatever order and however often. -/
  same_iff : ∀ between others,
    (∀ annotations, (ofTexts names texts).1.holds annotations =
      (ofTexts ((ofTexts names texts).2.internEach between) others).1.holds annotations) ↔
    ∀ text, text ∈ texts ↔ text ∈ others

theorem selectsTexts (names : NameTable) (texts : List String) : SelectsTexts names texts := by
  have hlater : ∀ between, List.Forall₂
      (Marker.Reads ((ofTexts names texts).2.internEach between)) (ofTexts names texts).1.markers
      texts := by
    intro between
    refine (reads_markers_ofTexts names texts).imp fun _ _ h => ?_
    exact NameTable.text?_internEach_of_some h between
  have hmarkers : ∀ between, (ofTexts names texts).1.markers = texts.map fun text =>
      (Marker.ofPath ((ofTexts names texts).2.internEach between) text).1 :=
    fun between => Marker.eq_map_ofPath_of_reads (hlater between)
  refine ⟨hmarkers, fun between annotations => ?_, fun between others => ?_⟩
  · rw [Predicate.holds_iff, hmarkers between]
    simp only [List.mem_map, exists_exists_and_eq_and]
  · refine holds_eq_iff_of_reads ?_ (reads_markers_ofTexts _ others)
    exact (hlater between).imp fun _ _ h => h.mono fun _ _ hn => text?_ofTexts_of_some hn others

/-- A predicate is the set of its markers, however it is nested, and one that is made of texts
selects by the set of the texts, however many there are. -/
theorem selects_by_markers (p : Predicate) (names : NameTable) (texts : List String) :
    p.IsMarkerSet ∧ SelectsTexts names texts :=
  ⟨p.isMarkerSet, selectsTexts names texts⟩

/-- Texts that repeat and are turned round make another predicate, which holds in the same
places. -/
example :
    let (p, names) := ofTexts .fresh ["a.One", "a.Two"]
    let (q, _) := ofTexts names ["a.Two", "a.One", "a.Two"]
    p ≠ q ∧ p.markers ⊆ q.markers ∧ q.markers ⊆ p.markers := by
  decide +kernel

end Predicate

end Companions
