import TraversalSdk.Analysis.Components

namespace TraversalSdk.Cycles

open Components (Call weight)

/-- A member that is being visited, with the way that has led to it. -/
structure Visit extends Call where
  path : List String

def Visit.on (r : Relation String) (node : String) (path : List String) : Visit := ⟨.on r node, path⟩

/-- The way to the children of a member. -/
def Visit.way (v : Visit) : List String := v.path ++ [v.node]

/-- A search walks a relation depth first, in order, and reports the way around whenever it comes back to a
member that it is still inside of. It holds the members that have been entered, those of them that have not
been left, and the cycles found. -/
structure Search where
  visited : List String
  inside : List String
  cycles : List (List String)

namespace Search

def start : Search := ⟨[], [], []⟩

def enter (s : Search) (name : String) : Search :=
  { s with visited := name :: s.visited, inside := name :: s.inside }

def leave (s : Search) (name : String) : Search := { s with inside := s.inside.filter (· ≠ name) }

def report (s : Search) (cycle : List String) : Search := { s with cycles := s.cycles ++ [cycle] }

end Search

/-- A way from a member on and back to it; there is none if the way does not pass the member. -/
def closing? (way : List String) (name : String) : Option (List String) :=
  match way.dropWhile (· ≠ name) with
  | [] => none
  | around => some (around ++ [name])

/-- One step of the innermost visit. It looks at its next child: one that is still open closes a cycle, and
one that has not been entered is visited in turn. Or it is over. A step fails where the way does not pass
an open child. -/
def step? (r : Relation String) (s : Search) (v : Visit) (outer : List Visit) :
    Option (Search × List Visit) :=
  match v.kids with
  | kid :: kids =>
    let rest := { v with kids := kids } :: outer
    if kid ∈ s.inside then (closing? v.way kid).map fun cycle => (s.report cycle, rest)
    else if kid ∈ s.visited then some (s, rest)
    else some (s.enter kid, Visit.on r kid v.way :: rest)
  | [] => some (s.leave v.node, outer)

/-- A step either enters a new member or leaves less to do. -/
theorem step?_progress {r : Relation String} {s s' : Search} {v : Visit} {outer visits : List Visit}
    (h : step? r s v outer = some (s', visits)) :
    (∃ kid, kid ∉ s.visited ∧ s'.visited = kid :: s.visited ∧
      (r.next kid = [] → weight (visits.map Visit.toCall) < weight ((v :: outer).map Visit.toCall))) ∨
    (s'.visited = s.visited ∧
      weight (visits.map Visit.toCall) < weight ((v :: outer).map Visit.toCall)) := by
  unfold step? at h
  split at h
  · next kid kids hkids =>
    have hw : weight (({ v with kids := kids } :: outer).map Visit.toCall) <
        weight ((v :: outer).map Visit.toCall) := by
      simp only [List.map_cons, weight, hkids, List.length_cons]
      omega
    split at h
    · obtain ⟨cycle, _, h⟩ := Option.map_eq_some_iff.mp h
      cases h
      exact .inr ⟨rfl, hw⟩
    · split at h
      · cases h
        exact .inr ⟨rfl, hw⟩
      · next hnew =>
        cases h
        refine .inl ⟨kid, hnew, rfl, fun hnext => ?_⟩
        simp only [List.map_cons, weight, Visit.on, Call.on, hnext, sortTexts, sortOn, hkids,
          List.mergeSort_nil, List.length_nil, List.length_cons]
        omega
  · cases h
    exact .inr ⟨rfl, by simp [weight]⟩

/-- Goes on until the outermost visit is over. -/
def run? (r : Relation String) (s : Search) : List Visit → Option Search
  | [] => some s
  | v :: outer =>
    match _step : step? r s v outer with
    | none => none
    | some (s', visits) => run? r s' visits
termination_by visits => ((unseen Prod.fst r.rows s.visited).length, weight (visits.map Visit.toCall))
decreasing_by
  rcases step?_progress _step with ⟨kid, hnew, hvisited, hleaf⟩ | ⟨hvisited, hless⟩
  · rw [hvisited]
    exact r.lex_unseen hnew hleaf
  · rw [hvisited]
    exact Prod.Lex.right _ hless

/-- Searches from a member that has not been entered before. -/
def visit? (r : Relation String) (s : Search) (name : String) : Option Search :=
  if name ∈ s.visited then some s else run? r (s.enter name) [Visit.on r name []]

/-- The cycles that a search from the members with a row finds, in order. -/
def find? (r : Relation String) : Option (List (List String)) :=
  ((sortTexts (r.rows.map (·.1))).foldlM (visit? r) .start).map Search.cycles

/-- All cycles found. The search does not fail. -/
def find (r : Relation String) : List (List String) := (find? r).getD []

end TraversalSdk.Cycles
