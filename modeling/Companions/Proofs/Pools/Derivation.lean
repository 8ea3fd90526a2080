import Companions.Strategy
set_option autoImplicit false

/-!
# Derived identities

With a suffix, an identity yields another: the same place, under the name whose text is the old one
with the suffix behind it (`CallableId.Yields`).  A text has one name, however many texts are
interned in between, so what identities yield is told apart by texts: by the text before the suffix
if the suffix is the same, and by the last letter if the suffixes are those of the two strategies
(`CallableId.tellsApart`).
-/

namespace Companions

/-! ## Texts with a suffix -/

theorem suffixed_inj {a b suffix : String} (h : suffixed a suffix = suffixed b suffix) : a = b := by
  have hlists := congrArg String.toList h
  simp only [suffixed, String.toList_append] at hlists
  exact String.toList_injective (List.append_cancel_right hlists)

theorem suffixed_eq_self_iff {text suffix : String} :
    suffixed text suffix = text ↔ suffix = "" := by
  constructor
  · intro h
    have hlists := congrArg String.toList h
    rw [suffixed, String.toList_append, List.append_right_eq_self] at hlists
    exact String.toList_injective hlists
  · rintro rfl
    exact String.append_empty

theorem suffixed_orNull_ne_orThrow (a b : String) :
    suffixed a (Strategy.suffix .nullOnThrow) ≠ suffixed b (Strategy.suffix .throwOnNull) := by
  intro h
  have hlast := congrArg (fun s => s.toList.getLast?) h
  simp [suffixed, Strategy.suffix] at hlast

/-- A text with the suffix of a strategy says which strategy it is. -/
theorem Strategy.eq_of_suffixed_eq {s s' : Strategy} {a b : String}
    (h : suffixed a s.suffix = suffixed b s'.suffix) : s = s' := by
  cases s <;> cases s'
  · rfl
  · exact absurd h (suffixed_orNull_ne_orThrow a b)
  · exact absurd h.symm (suffixed_orNull_ne_orThrow b a)
  · rfl

theorem Strategy.suffix_ne_empty (s : Strategy) : s.suffix ≠ "" := by
  cases s <;> decide

/-! ## Interning in between -/

namespace NameTable

/-- Interns one text after the other. -/
def internEach : NameTable → List String → NameTable
  | t, [] => t
  | t, text :: rest => internEach (t.intern text).2 rest

/-- Whatever is interned, a name goes on standing for its text. -/
theorem text?_internEach_of_some {t : NameTable} {n : Name} {text : String}
    (h : t.text? n = some text) (texts : List String) :
    (t.internEach texts).text? n = some text := by
  induction texts generalizing t with
  | nil => exact h
  | cons first rest ih => exact ih (text?_intern_of_some h first)

end NameTable

/-! ## What an identity yields -/

namespace CallableId

/-- With the suffix, the identity yields the other: the same place, under the name with the
suffix. -/
def Yields (names : NameTable) (suffix : String) (id derived : CallableId) : Prop :=
  ∃ text, names.text? id.name = some text ∧
    names.text? derived.name = some (suffixed text suffix) ∧ derived = id.withName derived.name

variable {names later : NameTable} {suffix suffix' : String} {a a' b b' : CallableId}

theorem Yields.mono (h : a.Yields names suffix a')
    (hlasts : ∀ n text, names.text? n = some text → later.text? n = some text) :
    a.Yields later suffix a' := by
  obtain ⟨text, hname, hderived, hplace⟩ := h
  exact ⟨text, hlasts _ _ hname, hlasts _ _ hderived, hplace⟩

/-- Under one suffix, identities yield the same exactly if they are the same. -/
theorem Yields.eq_iff (ha : a.Yields names suffix a') (hb : b.Yields names suffix b') :
    a' = b' ↔ a = b := by
  obtain ⟨text, hname, hderived, hplace⟩ := ha
  obtain ⟨text', hname', hderived', hplace'⟩ := hb
  constructor
  · rintro rfl
    have htext : text = text' := suffixed_inj (Option.some.inj (hderived.symm.trans hderived'))
    have hnames : a.name = b.name := NameTable.text?_inj hname (htext ▸ hname')
    calc a = a'.withName a.name := by rw [hplace]; rfl
      _ = a'.withName b.name := by rw [hnames]
      _ = b := by rw [hplace']; rfl
  · rintro rfl
    cases hname.symm.trans hname'
    rw [hplace, hplace', NameTable.text?_inj hderived hderived']

/-- An identity that two yield has a text with both suffixes. -/
theorem Yields.suffixed_eq (ha : a.Yields names suffix a') (hb : b.Yields names suffix' a') :
    ∃ text text', suffixed text suffix = suffixed text' suffix' := by
  obtain ⟨text, -, hderived, -⟩ := ha
  obtain ⟨text', -, hderived', -⟩ := hb
  exact ⟨text, text', Option.some.inj (hderived.symm.trans hderived')⟩

/-- Only the empty suffix makes an identity yield itself. -/
theorem Yields.eq_self_iff (h : a.Yields names suffix a') : a' = a ↔ suffix = "" := by
  obtain ⟨text, hname, hderived, hplace⟩ := h
  have hsuffix : suffixed text suffix = text ↔ suffix = "" := suffixed_eq_self_iff
  rw [← hsuffix]
  constructor
  · rintro rfl
    exact Option.some.inj (hderived.symm.trans hname)
  · intro htext
    have hnames : a'.name = a.name := NameTable.text?_inj (htext ▸ hderived) hname
    rw [hplace, hnames]
    rfl

/-- An identity with a known name can be given a suffix, and it yields what is answered, however
many texts are interned from then on. -/
theorem exists_derive (h : ∃ text, names.text? a.name = some text) (suffix : String) :
    ∃ a' later, a.derive names suffix = .ok (a', later) ∧
      (∀ n text, names.text? n = some text → later.text? n = some text) ∧
      ∀ between, a.Yields (later.internEach between) suffix a' := by
  obtain ⟨text, hname⟩ := h
  have hlasts : ∀ n s, names.text? n = some s →
      (names.intern (suffixed text suffix)).2.text? n = some s :=
    fun n s hn => NameTable.text?_intern_of_some hn _
  have hrun : a.derive names suffix = .ok (a.withName (names.intern (suffixed text suffix)).1,
      (names.intern (suffixed text suffix)).2) := by
    rw [derive, NameTable.text, hname]
    rfl
  have hyields : a.Yields (names.intern (suffixed text suffix)).2 suffix
      (a.withName (names.intern (suffixed text suffix)).1) :=
    ⟨text, hlasts _ _ hname, NameTable.text?_intern names _, rfl⟩
  exact ⟨_, _, hrun, hlasts, fun between =>
    hyields.mono fun n s hn => NameTable.text?_internEach_of_some hn between⟩

/-! ## Telling identities apart -/

/-- What two identities yield is told apart, whatever is interned between the one and the other. -/
structure TellsApart (names : NameTable) (a b : CallableId) : Prop where
  /-- Under one suffix, the identities yield the same exactly if they are the same. -/
  same_iff : ∀ suffix between, ∃ a' names₁ b' names₂,
    a.derive names suffix = .ok (a', names₁) ∧
    b.derive (names₁.internEach between) suffix = .ok (b', names₂) ∧ (a' = b' ↔ a = b)
  /-- For different strategies, they never yield the same. -/
  disjoint : ∀ s s' : Strategy, s ≠ s' → ∀ between, ∃ a' names₁ b' names₂,
    a.derive names s.suffix = .ok (a', names₁) ∧
    b.derive (names₁.internEach between) s'.suffix = .ok (b', names₂) ∧ a' ≠ b'
  /-- Only the name changes, to the text with the suffix, which it keeps. -/
  yields : ∀ suffix, ∃ a' names₁, a.derive names suffix = .ok (a', names₁) ∧
    (a' = a ↔ suffix = "") ∧ ∀ between, a.Yields (names₁.internEach between) suffix a'
  /-- No identity is that of its own companion. -/
  ne_self : ∀ s : Strategy, ∃ a' names₁, a.derive names s.suffix = .ok (a', names₁) ∧ a' ≠ a

/-- Two identities are given suffixes, with texts interned in between. -/
theorem exists_derive_derive (ha : ∃ text, names.text? a.name = some text)
    (hb : ∃ text, names.text? b.name = some text) (suffix suffix' : String)
    (between : List String) : ∃ a' names₁ b' names₂,
      a.derive names suffix = .ok (a', names₁) ∧
      b.derive (names₁.internEach between) suffix' = .ok (b', names₂) ∧
      a.Yields names₂ suffix a' ∧ b.Yields names₂ suffix' b' := by
  obtain ⟨a', names₁, hrun, hlasts, hyields⟩ := exists_derive ha suffix
  obtain ⟨text, hname⟩ := hb
  have hknown : (names₁.internEach between).text? b.name = some text :=
    NameTable.text?_internEach_of_some (hlasts _ _ hname) between
  obtain ⟨b', names₂, hrun', hlasts', hyields'⟩ := exists_derive ⟨text, hknown⟩ suffix'
  exact ⟨a', names₁, b', names₂, hrun, hrun', (hyields between).mono hlasts', hyields' []⟩

/-- All identities with known names are told apart. -/
theorem tellsApart (ha : ∃ text, names.text? a.name = some text)
    (hb : ∃ text, names.text? b.name = some text) : TellsApart names a b where
  same_iff suffix between := by
    obtain ⟨a', names₁, b', names₂, hrun, hrun', hyields, hyields'⟩ :=
      exists_derive_derive ha hb suffix suffix between
    exact ⟨a', names₁, b', names₂, hrun, hrun', hyields.eq_iff hyields'⟩
  disjoint s s' hne between := by
    obtain ⟨a', names₁, b', names₂, hrun, hrun', hyields, hyields'⟩ :=
      exists_derive_derive ha hb s.suffix s'.suffix between
    refine ⟨a', names₁, b', names₂, hrun, hrun', ?_⟩
    rintro rfl
    obtain ⟨text, text', htexts⟩ := hyields.suffixed_eq hyields'
    exact hne (Strategy.eq_of_suffixed_eq htexts)
  yields suffix := by
    obtain ⟨a', names₁, hrun, -, hyields⟩ := exists_derive ha suffix
    exact ⟨a', names₁, hrun, (hyields []).eq_self_iff, hyields⟩
  ne_self s := by
    obtain ⟨a', names₁, hrun, -, hyields⟩ := exists_derive ha s.suffix
    exact ⟨a', names₁, hrun, fun heq => s.suffix_ne_empty ((hyields []).eq_self_iff.1 heq)⟩

/-- The name that a companion of `f` has may belong to another function, whose own companions are
still told apart from those of `f`. -/
theorem tellsApart_nested :
    (∃ text, (NameTable.fresh.internEach ["f", "fOrNull"]).text? ⟨1⟩ = some text) ∧
      (∃ text, (NameTable.fresh.internEach ["f", "fOrNull"]).text? ⟨2⟩ = some text) ∧
      TellsApart (NameTable.fresh.internEach ["f", "fOrNull"]) (.topLevel .empty ⟨1⟩)
        (.topLevel .empty ⟨2⟩) := by
  have hf : ∃ text, (NameTable.fresh.internEach ["f", "fOrNull"]).text? ⟨1⟩ = some text :=
    ⟨"f", by decide +kernel⟩
  have hg : ∃ text, (NameTable.fresh.internEach ["f", "fOrNull"]).text? ⟨2⟩ = some text :=
    ⟨"fOrNull", by decide +kernel⟩
  exact ⟨hf, hg, tellsApart hf hg⟩

end CallableId

end Companions
