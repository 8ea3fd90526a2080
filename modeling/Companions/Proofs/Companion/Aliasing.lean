import Companions.Proofs.Check.Approval
import Companions.Proofs.Companion.Making
set_option autoImplicit false

/-!
# Aliasing of parameters

The parameters of a companion are copies under symbols of their own, so none of them should be a
parameter of the function, and no two should be the same.  The check compares a copy only with the
parameter that it repeats.  Of an approved declaration that leaves what stands at different positions
open (`Surroundings.unaliased_iff_apartAcross`), and a declaration whose symbols repeat or change
places is approved (`Surroundings.aliased_of_approved`).

Companions that are made do not come near that as long as there are symbols left: theirs are minted
after those of the function and one behind the other (`Companion.IsMade.unaliased`).
-/

namespace Companions

namespace Declaration

/-- No parameter is a parameter of the other declaration, and no two parameters share a symbol. -/
structure Unaliased (d other : Declaration) : Prop where
  fresh : ∀ s ∈ d.params.map (·.symbol), s ∉ other.params.map (·.symbol)
  distinct : (d.params.map (·.symbol)).Nodup

/-- The symbol of a parameter is at no other position, neither in the declaration itself nor in the
other one. -/
def ApartAcross (d other : Declaration) : Prop :=
  ∀ (i j : Nat) (s : ParamSymbol), i ≠ j → (d.params.map (·.symbol))[i]? = some s →
    (d.params.map (·.symbol))[j]? ≠ some s ∧ (other.params.map (·.symbol))[j]? ≠ some s

variable {d other : Declaration}

theorem Unaliased.apartAcross (h : d.Unaliased other) : d.ApartAcross other := by
  intro i j s hne hi
  refine ⟨fun hj => hne ?_, fun hj => ?_⟩
  · have hlt : i < (d.params.map (·.symbol)).length := (List.getElem?_eq_some_iff.1 hi).1
    exact (List.getElem?_inj hlt h.distinct).1 (hi.trans hj.symm)
  · exact h.fresh s (List.mem_of_getElem? hi) (List.mem_of_getElem? hj)

/-- Symbols that are apart across the positions are apart if they are so at each position. -/
theorem ApartAcross.unaliased (h : d.ApartAcross other)
    (hbeside : ∀ (i : Nat) (s : ParamSymbol), (d.params.map (·.symbol))[i]? = some s →
      (other.params.map (·.symbol))[i]? ≠ some s) : d.Unaliased other := by
  refine ⟨fun s hs hs' => ?_, List.nodup_iff_getElem?_ne_getElem?.2 fun i j hij hj heq => ?_⟩
  · obtain ⟨i, hi⟩ := List.mem_iff_getElem?.1 hs
    obtain ⟨j, hj⟩ := List.mem_iff_getElem?.1 hs'
    by_cases hne : i = j
    · exact hbeside i s hi (hne ▸ hj)
    · exact (h i j s hne hi).2 hj
  · have hlt : j < (d.params.map (·.symbol)).length := hj
    exact (h j i _ (Nat.ne_of_gt hij) (List.getElem?_eq_getElem hlt)).1
      (heq.trans (List.getElem?_eq_getElem hlt))

end Declaration

namespace Surroundings

variable {s : Surroundings} {d other : Declaration}

/-- The check looks at each position for itself. -/
theorem symbol_ne_of_approved (happroved : (s.check d other).run = .ok (.ok ())) (i : Nat)
    (own : ParamSymbol) (hown : (d.params.map (·.symbol))[i]? = some own) :
    (other.params.map (·.symbol))[i]? ≠ some own := by
  have hrepeats : List.Forall₂ (fun a b => a ≠ b) (d.params.map (·.symbol))
      (other.params.map (·.symbol)) :=
    List.forall₂_map_left_iff.2 (List.forall₂_map_right_iff.2
      ((repeats_of_check happroved).imp fun _ _ h => h.symbol))
  intro htheirs
  have hpaired : (own, own) ∈ (d.params.map (·.symbol)).zip (other.params.map (·.symbol)) :=
    List.mem_of_getElem? (List.getElem?_zip_eq_some.2 ⟨hown, htheirs⟩)
  exact (List.forall₂_iff_zip.1 hrepeats).2 hpaired rfl

/-- The parameters of an approved declaration are not aliased exactly if they are apart across the
positions, which the check does not compare. -/
theorem unaliased_iff_apartAcross (happroved : (s.check d other).run = .ok (.ok ())) :
    d.Unaliased other ↔ d.ApartAcross other :=
  ⟨Declaration.Unaliased.apartAcross, fun h => h.unaliased (symbol_ne_of_approved happroved)⟩

end Surroundings

/-- The parameters of a companion that is made are not aliased, as long as there are symbols left. -/
theorem Companion.IsMade.unaliased {strategy : Strategy} {errorClass : ClassId} {host : Host}
    {id : CallableId} {origin : FunctionSymbol} {f : Declaration} {c : Companion} {q q' : Pools}
    (h : c.IsMade strategy errorClass host id origin f q q') (hf : f.SignatureKnown q)
    (hroom : q.symbols.params + f.params.length ≤ SymbolSupply.capacity) :
    c.declaration.Unaliased f := by
  refine ⟨fun s hs hs' => ?_, h.params ▸ nodup_copiesFrom _ (by omega)⟩
  rw [h.params, map_symbol_copiesFrom] at hs
  obtain ⟨n, hn, rfl⟩ := List.mem_map.1 hs
  obtain ⟨p, hp, hsymbol⟩ := List.mem_map.1 hs'
  obtain ⟨hminted, hlast⟩ := List.mem_range'_1.1 hn
  have hearlier : q.symbols.HasParam p.symbol := (hf.params p hp).1
  rw [hsymbol] at hearlier
  exact SymbolSupply.not_handedOut_shown (by omega) hminted hearlier

/-! ## Symbols that change places -/

namespace Sample

/-- A function of three integers under these symbols, which answers null. -/
def threefold (symbol : FunctionSymbol) (own : List ParamSymbol) : Declaration :=
  { textFunction symbol ⟨0⟩ (some ⟨#[⟨.const .null, .nullableNothing⟩], #[], #[], #[], #[], some ⟨0⟩⟩)
    with params := own.map fun s => ⟨s, .empty, .int, .none, .source⟩ }

end Sample

open Sample in
/-- Symbols that the function does not have. -/
theorem Surroundings.unaliased_iff_apartAcross_threefold :
    (surroundings.check (threefold ⟨1⟩ [⟨3⟩, ⟨4⟩, ⟨5⟩]) (threefold ⟨0⟩ [⟨0⟩, ⟨1⟩, ⟨2⟩])).run =
        .ok (.ok ()) ∧
      (threefold ⟨1⟩ [⟨3⟩, ⟨4⟩, ⟨5⟩]).Unaliased (threefold ⟨0⟩ [⟨0⟩, ⟨1⟩, ⟨2⟩]) ∧
      (threefold ⟨1⟩ [⟨3⟩, ⟨4⟩, ⟨5⟩]).ApartAcross (threefold ⟨0⟩ [⟨0⟩, ⟨1⟩, ⟨2⟩]) := by
  have happroved : (surroundings.check (threefold ⟨1⟩ [⟨3⟩, ⟨4⟩, ⟨5⟩])
      (threefold ⟨0⟩ [⟨0⟩, ⟨1⟩, ⟨2⟩])).run = .ok (.ok ()) := by
    decide +kernel
  have hunaliased : (threefold ⟨1⟩ [⟨3⟩, ⟨4⟩, ⟨5⟩]).Unaliased (threefold ⟨0⟩ [⟨0⟩, ⟨1⟩, ⟨2⟩]) :=
    ⟨by decide, by decide⟩
  exact ⟨happroved, hunaliased, (unaliased_iff_apartAcross happroved).1 hunaliased⟩

open Sample in
/-- Each symbol differs from the one that it is compared with.  The first and the second are
parameters of the function, and the third is the first again. -/
theorem Surroundings.aliased_of_approved :
    (surroundings.check (threefold ⟨1⟩ [⟨1⟩, ⟨2⟩, ⟨1⟩]) (threefold ⟨0⟩ [⟨0⟩, ⟨1⟩, ⟨2⟩])).run =
        .ok (.ok ()) ∧
      ¬ (threefold ⟨1⟩ [⟨1⟩, ⟨2⟩, ⟨1⟩]).Unaliased (threefold ⟨0⟩ [⟨0⟩, ⟨1⟩, ⟨2⟩]) := by
  refine ⟨by decide +kernel, fun h => ?_⟩
  exact absurd h.distinct (by decide)

end Companions
