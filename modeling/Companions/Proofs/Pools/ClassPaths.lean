import Companions.Proofs.Pools.Derivation
set_option autoImplicit false

/-!
# Class paths

Reading a path splits it at its last dot, writing a class joins the two parts (`Text.split`,
`Text.join`).  The one is the inverse of the other but for a dot that has no package before it and
no dot behind it, which is not written again, and for a simple name with a dot in it, which no path
is read as.  A table adds nothing to this: equal texts have one name in it, however many texts come
in between (`ClassId.pathLaws`).
-/

namespace Companions

/-! ## Splitting and joining -/

namespace Text

/-- The path of a class.  The root package is not written. -/
def join (package name : String) : String :=
  if package.isEmpty then name else package ++ "." ++ name

/-- The package and the simple name of a path. -/
def split (path : String) : String × String :=
  match splitLastDot path.toList with
  | none => ("", path)
  | some (package, name) => (String.ofList package, String.ofList name)

/-- The path is a dot before a text without dots. -/
def LosesDot (path : String) : Prop := ∃ name, path = "." ++ name ∧ '.' ∉ name.toList

variable {package name path path' : String}

theorem toList_dotted (package name : String) :
    (package ++ "." ++ name).toList = package.toList ++ '.' :: name.toList := by
  simp

theorem split_of_not_mem (h : '.' ∉ path.toList) : split path = ("", path) := by
  rw [split, splitLastDot_eq_none_iff.2 h]

theorem split_dotted (package : String) (h : '.' ∉ name.toList) :
    split (package ++ "." ++ name) = (package, name) := by
  rw [split, splitLastDot_eq_some_iff.2 ⟨toList_dotted package name, h⟩]
  simp

/-- A path has no dot, or it has a last one. -/
theorem split_cases (path : String) : ('.' ∉ path.toList ∧ split path = ("", path)) ∨
    ∃ package name, path = package ++ "." ++ name ∧ '.' ∉ name.toList ∧
      split path = (package, name) := by
  cases hsplit : splitLastDot path.toList with
  | none =>
    have hdots := splitLastDot_eq_none_iff.1 hsplit
    exact .inl ⟨hdots, split_of_not_mem hdots⟩
  | some parts =>
    obtain ⟨before, after⟩ := parts
    obtain ⟨hpath, hdots⟩ := splitLastDot_eq_some_iff.1 hsplit
    have hname : '.' ∉ (String.ofList after).toList := by rwa [String.toList_ofList]
    have hdotted : path = String.ofList before ++ "." ++ String.ofList after := by
      refine String.toList_injective ?_
      rw [toList_dotted, String.toList_ofList, String.toList_ofList, hpath]
    refine .inr ⟨_, _, hdotted, hname, ?_⟩
    rw [hdotted, split_dotted _ hname]

/-- The simple name of a path has no dot. -/
theorem not_mem_split_snd (path : String) : '.' ∉ (split path).2.toList := by
  rcases split_cases path with ⟨hdots, hsplit⟩ | ⟨package, name, -, hdots, hsplit⟩
  · rwa [hsplit]
  · rwa [hsplit]

theorem join_of_ne_empty (h : package ≠ "") : join package name = package ++ "." ++ name := by
  rw [join, if_neg]
  simpa using h

/-- What was split and is joined again is what it was, unless it loses its dot. -/
theorem join_split_eq_iff : join (split path).1 (split path).2 = path ↔ ¬ LosesDot path := by
  rcases split_cases path with ⟨hdots, hsplit⟩ | ⟨package, name, hpath, hdots, hsplit⟩
  · rw [hsplit]
    refine iff_of_true rfl ?_
    rintro ⟨name, rfl, -⟩
    simp at hdots
  · rw [hsplit]
    rcases Decidable.em (package = "") with rfl | hpackage
    · have hloses : LosesDot path := ⟨name, by rw [hpath, String.empty_append], hdots⟩
      refine iff_of_false ?_ (not_not_intro hloses)
      intro hname
      have hlength := congrArg String.length (hname.trans hpath)
      simp [join] at hlength
    · refine iff_of_true ((join_of_ne_empty hpackage).trans hpath.symm) ?_
      rintro ⟨rest, hrest, hno⟩
      -- a path is split in one way only, and this one has a package
      have hroot : split path = ("", rest) := by
        rw [hrest, ← split_dotted "" hno, String.empty_append]
      rw [hsplit] at hroot
      exact hpackage (congrArg Prod.fst hroot)

/-- What was joined and is split again is what it was, unless the simple name has a dot. -/
theorem split_join_eq_iff : split (join package name) = (package, name) ↔ '.' ∉ name.toList := by
  constructor
  · intro h
    have hdots := not_mem_split_snd (join package name)
    rwa [h] at hdots
  · intro hdots
    rcases Decidable.em (package = "") with rfl | hpackage
    · exact split_of_not_mem hdots
    · rw [join_of_ne_empty hpackage, split_dotted package hdots]

end Text

/-! ## Reading and writing -/

namespace ClassId

/-- The texts of the package and of the simple name. -/
def Spells (names : NameTable) (c : ClassId) (package name : String) : Prop :=
  names.text? c.package = some package ∧ names.text? c.name = some name

variable {names later : NameTable} {c c' : ClassId} {package name package' name' : String}

theorem Spells.mono (h : c.Spells names package name)
    (hlasts : ∀ n text, names.text? n = some text → later.text? n = some text) :
    c.Spells later package name :=
  ⟨hlasts _ _ h.1, hlasts _ _ h.2⟩

/-- Classes of one table are the same exactly if their texts are. -/
theorem Spells.eq_iff (h : c.Spells names package name) (h' : c'.Spells names package' name') :
    c = c' ↔ (package, name) = (package', name') := by
  obtain ⟨hpackage, hname⟩ := h
  obtain ⟨hpackage', hname'⟩ := h'
  constructor
  · rintro rfl
    rw [Option.some.inj (hpackage.symm.trans hpackage'), Option.some.inj (hname.symm.trans hname')]
  · rintro ⟨rfl, rfl⟩
    calc c = ⟨c.package, c.name⟩ := rfl
      _ = ⟨c'.package, c'.name⟩ := by
        rw [NameTable.text?_inj hpackage hpackage', NameTable.text?_inj hname hname']
      _ = c' := rfl

theorem Spells.display (h : c.Spells names package name) :
    c.display names = .ok (Text.join package name) := by
  rw [ClassId.display, NameTable.text, NameTable.text, h.1, h.2]
  rfl

/-- A class that is read is spelled by the parts of its path. -/
theorem spells_ofPath (names : NameTable) (path : String) :
    (ofPath names path).1.Spells (ofPath names path).2 (Text.split path).1 (Text.split path).2 := by
  cases hsplit : Text.splitLastDot path.toList with
  | none =>
    simp only [ofPath, Text.split, hsplit]
    exact ⟨NameTable.empty_first _, NameTable.text?_intern names path⟩
  | some parts =>
    simp only [ofPath, Text.split, hsplit]
    exact ⟨NameTable.text?_intern_of_some (NameTable.text?_intern _ _) _,
      NameTable.text?_intern _ _⟩

/-- Reading a path leaves the meaning of every earlier name alone. -/
theorem text?_ofPath_of_some {n : Name} {text : String} (h : names.text? n = some text)
    (path : String) : (ofPath names path).2.text? n = some text := by
  have hwhole := NameTable.text?_intern_of_some h path
  cases hsplit : Text.splitLastDot path.toList with
  | none => simpa only [ofPath, hsplit] using hwhole
  | some parts =>
    simp only [ofPath, hsplit]
    exact NameTable.text?_intern_of_some (NameTable.text?_intern_of_some hwhole _) _

/-- A class that is there is read from a path exactly if the path has its parts. -/
theorem Spells.eq_ofPath_iff (h : c.Spells names package name) (path : String) :
    c = (ofPath names path).1 ↔ (package, name) = Text.split path :=
  (h.mono fun _ _ hn => text?_ofPath_of_some hn path).eq_iff (spells_ofPath names path)

/-! ## The laws -/

/-- How paths and classes correspond, whatever is interned between one moment and another. -/
structure PathLaws (names : NameTable) : Prop where
  /-- A path that was read is written as it was, unless it loses its dot. -/
  written : ∀ path between,
    (ofPath names path).1.display ((ofPath names path).2.internEach between) = .ok path ↔
      ¬ Text.LosesDot path
  /-- Paths that keep their dots are read as the same class exactly if they are the same. -/
  same_iff : ∀ path between path', ¬ Text.LosesDot path → ¬ Text.LosesDot path' →
    ((ofPath names path).1 = (ofPath ((ofPath names path).2.internEach between) path').1 ↔
      path = path')
  /-- A path that loses its dot is read as the class of the root package. -/
  losesDot : ∀ name between, '.' ∉ name.toList →
    (ofPath names name).1 =
      (ofPath ((ofPath names name).2.internEach between) ("." ++ name)).1
  /-- A class has one path, from which it is read again, unless its simple name has a dot. -/
  again : ∀ c package name, c.Spells names package name →
    ∃ path, ∀ between, c.display (names.internEach between) = .ok path ∧
      (c = (ofPath (names.internEach between) path).1 ↔ '.' ∉ name.toList)

/-- What was read goes on being spelled as it was. -/
theorem spells_internEach_ofPath (names : NameTable) (path : String) (between : List String) :
    (ofPath names path).1.Spells ((ofPath names path).2.internEach between)
      (Text.split path).1 (Text.split path).2 :=
  (spells_ofPath names path).mono fun _ _ hn => NameTable.text?_internEach_of_some hn between

/-- Over any table, the paths of classes are read and written in one way. -/
theorem pathLaws (names : NameTable) : PathLaws names where
  written path between := by
    rw [(spells_internEach_ofPath names path between).display, Except.ok.injEq]
    exact Text.join_split_eq_iff
  same_iff path between path' hpath hpath' := by
    rw [(spells_internEach_ofPath names path between).eq_ofPath_iff path']
    constructor
    · intro hsplit
      have hparts : Text.split path = Text.split path' := hsplit
      calc path = Text.join (Text.split path).1 (Text.split path).2 :=
            (Text.join_split_eq_iff.2 hpath).symm
        _ = Text.join (Text.split path').1 (Text.split path').2 := by rw [hparts]
        _ = path' := Text.join_split_eq_iff.2 hpath'
    · rintro rfl
      rfl
  losesDot name between hdots := by
    rw [(spells_internEach_ofPath names name between).eq_ofPath_iff, Text.split_of_not_mem hdots]
    have hdotted : "." ++ name = "" ++ "." ++ name := by rw [String.empty_append]
    rw [hdotted, Text.split_dotted "" hdots]
  again c package name hc := by
    refine ⟨Text.join package name, fun between => ?_⟩
    have hlater : c.Spells (names.internEach between) package name :=
      hc.mono fun _ _ hn => NameTable.text?_internEach_of_some hn between
    refine ⟨hlater.display, ?_⟩
    rw [hlater.eq_ofPath_iff, eq_comm]
    exact Text.split_join_eq_iff

/-- Dots in front, at the end and side by side are kept.  One dot in front of a text without dots is
not. -/
example :
    ["a.b.C", "a..C", "..C", "C.", ".", ".C"].map (fun path =>
      ((ofPath .fresh path).1.display (ofPath .fresh path).2).toOption) =
      [some "a.b.C", some "a..C", some "..C", some "C.", some "", some "C"] := by
  decide +kernel

end ClassId

end Companions
