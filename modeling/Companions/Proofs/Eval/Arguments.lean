import Companions.Eval.Interpreter
import Mathlib.Data.List.Forall2
import Mathlib.Data.List.Nodup
set_option autoImplicit false

/-!
# Arguments

Where no two parameters of a function share a symbol, each value that the function is called with is
found again under the symbol of the parameter at its position: in the frame of the call, and among
the arguments that name the parameters.
-/

namespace Companions

/-- In a list without repeated keys, a key is looked up to the value beside it. -/
theorem lookup_eq_some_of_mem {α β : Type} [BEq α] [LawfulBEq α] {pairs : List (α × β)} {k : α}
    {v : β} (hnodup : (pairs.map (·.1)).Nodup) (h : (k, v) ∈ pairs) : pairs.lookup k = some v := by
  induction pairs with
  | nil => simp at h
  | cons first rest ih =>
    obtain ⟨k', v'⟩ := first
    obtain ⟨hfirst, hrest⟩ := List.nodup_cons.1 hnodup
    rcases List.mem_cons.1 h with heq | hmem
    · cases heq
      simp
    · have hne : k ≠ k' := by
        rintro rfl
        exact hfirst (List.mem_map.2 ⟨_, hmem, rfl⟩)
      rw [List.lookup_cons, beq_false_of_ne hne]
      exact ih hrest hmem

namespace Locals

/-- Binding one parameter after the other leaves the others alone. -/
theorem get?_foldl_of_not_mem {pairs : List (Parameter × Value)} {q : ParamSymbol}
    (h : q ∉ pairs.map (·.1.symbol)) (l : Locals) :
    (pairs.foldl (fun l (p, v) => l.bind p.symbol v) l).get? q = l.get? q := by
  induction pairs generalizing l with
  | nil => rfl
  | cons first rest ih =>
    obtain ⟨hfirst, hrest⟩ := not_or.1 (mt List.mem_cons.2 h)
    rw [List.foldl_cons, ih hrest]
    exact get?_bind_of_ne l hfirst _

theorem get?_foldl_of_mem {pairs : List (Parameter × Value)} {p : Parameter} {v : Value}
    (hnodup : (pairs.map (·.1.symbol)).Nodup) (h : (p, v) ∈ pairs) (l : Locals) :
    (pairs.foldl (fun l (p, v) => l.bind p.symbol v) l).get? p.symbol = some v := by
  induction pairs generalizing l with
  | nil => simp at h
  | cons first rest ih =>
    obtain ⟨hfirst, hrest⟩ := List.nodup_cons.1 hnodup
    rcases List.mem_cons.1 h with rfl | h
    · rw [List.foldl_cons, get?_foldl_of_not_mem hfirst]
      exact get?_bind_self l _ _
    · exact ih hrest h _

/-- In the frame of a call, each parameter has the value at its position. -/
theorem get?_ofArguments {params : List Parameter} {values : List Value}
    (hnodup : (params.map (·.symbol)).Nodup) (hlen : params.length = values.length) :
    List.Forall₂ (fun p v => (ofArguments params values).get? p.symbol = some v) params values := by
  refine List.forall₂_iff_zip.2 ⟨hlen, fun h => get?_foldl_of_mem ?_ h empty⟩
  have hfst : (params.zip values).map (·.1) = params := List.map_fst_zip (Nat.le_of_eq hlen)
  rwa [← hfst, List.map_map] at hnodup

end Locals

namespace Interpreter

/-- The values of arguments are paired with the symbols that the arguments name once all of them are
evaluated. -/
theorem mapM_arguments {N : Type → Type} [Monad N] [LawfulMonad N]
    (go : ExprRef → EvaluatingOver N Value) (arguments : List Argument) :
    (arguments.mapM fun a => do return (a.param, ← go a.value)) =
      (arguments.map (·.value)).mapM go >>= fun values =>
        pure ((arguments.map (·.param)).zip values) := by
  induction arguments with
  | nil => simp
  | cons a rest ih =>
    rw [List.mapM_cons, ih, List.map_cons, List.mapM_cons]
    simp only [bind_assoc, pure_bind]
    rfl

/-- Arguments that name the parameters in order. -/
def boundTo (params : List Parameter) (values : List Value) : List (ParamSymbol × Value) :=
  (params.map (·.symbol)).zip values

theorem pick_eq_ok {bound : List (ParamSymbol × Value)} {params : List Parameter}
    {values : List Value}
    (h : List.Forall₂ (fun p v => bound.lookup p.symbol = some v) params values) :
    pick bound params = .ok values := by
  induction h with
  | nil => rfl
  | cons hfirst _ ih =>
    rw [pick, hfirst]
    dsimp only
    rw [ih]
    rfl

/-- Arguments that name the parameters in order reach them in order. -/
theorem route_boundTo {params : List Parameter} {values : List Value}
    (hnodup : (params.map (·.symbol)).Nodup) (hlen : params.length = values.length) :
    route params (boundTo params values) = .ok values := by
  have hkeys : (boundTo params values).map (·.1) = params.map (·.symbol) :=
    List.map_fst_zip (by simp [hlen])
  have hpick : pick (boundTo params values) params = .ok values := by
    refine pick_eq_ok (List.forall₂_iff_zip.2 ⟨hlen, fun {p v} h => ?_⟩)
    refine lookup_eq_some_of_mem (hkeys ▸ hnodup) ?_
    rw [boundTo, List.zip_map_left]
    exact List.mem_map_of_mem (f := Prod.map (·.symbol) id) h
  have hcount : (boundTo params values).length = values.length := by
    simp [boundTo, hlen]
  simp [route, hpick, hcount, bind, Except.bind, pure, Except.pure]

end Interpreter

end Companions
