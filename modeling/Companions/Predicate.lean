import Companions.Config
set_option autoImplicit false

/-!
# Predicates

Which declarations a strategy wants, said in terms of their markers.
-/

namespace Companions

/-- What is asked of the annotations of a function. -/
inductive Predicate
  /-- Carries the marker. -/
  | has (marker : Marker)
  /-- Satisfies one of the alternatives. -/
  | anyOf (alternatives : List Predicate)
  deriving Repr, Inhabited

namespace Predicate

mutual

/-- Equality of predicates is decided along their structure. -/
def decEq : (a b : Predicate) → Decidable (a = b)
  | has m, has n =>
    if h : m = n then isTrue (by rw [h]) else isFalse (by simpa using h)
  | has _, anyOf _ => isFalse (by simp)
  | anyOf _, has _ => isFalse (by simp)
  | anyOf ps, anyOf qs =>
    match decEqList ps qs with
    | isTrue h => isTrue (by rw [h])
    | isFalse h => isFalse (by simpa using h)

/-- Equality of lists of predicates. -/
def decEqList : (ps qs : List Predicate) → Decidable (ps = qs)
  | [], [] => isTrue rfl
  | [], _ :: _ => isFalse (by simp)
  | _ :: _, [] => isFalse (by simp)
  | p :: ps, q :: qs =>
    match decEq p q, decEqList ps qs with
    | isTrue h, isTrue hs => isTrue (by rw [h, hs])
    | isFalse h, _ => isFalse (fun e => h (List.cons.inj e).1)
    | _, isFalse hs => isFalse (fun e => hs (List.cons.inj e).2)

end

instance : DecidableEq Predicate := decEq

mutual

/-- Whether annotations satisfy the predicate. -/
def holds : Predicate → List Marker → Bool
  | has m, annotations => annotations.contains m
  | anyOf ps, annotations => holdsAny ps annotations

/-- Whether annotations satisfy one of the predicates. -/
def holdsAny : List Predicate → List Marker → Bool
  | [], _ => false
  | p :: ps, annotations => holds p annotations || holdsAny ps annotations

end

mutual

/-- Every marker that the predicate mentions, in reading order. -/
def markers : Predicate → List Marker
  | has m => [m]
  | anyOf ps => markersAll ps

/-- Every marker that the predicates mention. -/
def markersAll : List Predicate → List Marker
  | [] => []
  | p :: ps => markers p ++ markersAll ps

end

/-- A marker for each text, interned from left to right. -/
def internMarkers (names : NameTable) : List String → List Marker × NameTable
  | [] => ([], names)
  | text :: texts =>
    let (m, names) := Marker.ofPath names text
    let (ms, names) := internMarkers names texts
    (m :: ms, names)

/-- Satisfied by any of the markers; a single marker needs no alternatives. -/
def ofMarkers : List Marker → Predicate
  | [m] => has m
  | ms => anyOf (ms.map has)

end Predicate

/-- The predicate that selects what the configuration marks for a strategy. -/
def Config.predicate (c : Config) (strategy : Strategy) (names : NameTable) :
    Predicate × NameTable :=
  let (ms, names) := Predicate.internMarkers names (c.markers strategy)
  (Predicate.ofMarkers ms, names)

end Companions
