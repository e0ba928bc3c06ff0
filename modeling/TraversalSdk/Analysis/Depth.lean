import TraversalSdk.Analysis.Components

namespace TraversalSdk

/-- How deep containment goes below a member. Members that reach each other count as one level, so the depth
of a member is the height of its component among the components. -/
structure Depth where
  levels : Nat
  children : Nat
  deriving DecidableEq

namespace Relation

/-- The heights of members: each is one more than the greatest of those that follow the member. Heights that
have been found are known from then on. A member that is met again before its height is found has none. -/
def heights? {α : Type} [DecidableEq α] (r : Relation α) (inside : List α) (known : List (α × Nat)) :
    List α → Option (List Nat × List (α × Nat))
  | [] => some ([], known)
  | a :: as =>
    match lookup a known with
    | some n => (heights? r inside known as).map fun found => (n :: found.1, found.2)
    | none =>
      if a ∈ inside then none
      else
        match heights? r (a :: inside) known (r.next a) with
        | none => none
        | some (below, known) =>
          let n := 1 + below.foldl max 0
          (heights? r inside ((a, n) :: known) as).map fun found => (n :: found.1, found.2)
termination_by as => ((unseen Prod.fst r.rows inside).length, as.length)
decreasing_by
  · exact Prod.Lex.right _ (by simp)
  · exact r.lex_unseen ‹a ∉ inside› fun hn => by simp [hn]
  · exact Prod.Lex.right _ (by simp)

/-- The component of a member. What is in no row of the table is a component of its own. -/
def componentOf (table : List (String × List String)) (a : String) : List String :=
  (lookup a table).getD [a]

variable (r : Relation String)

/-- The components next to a component, outside of it. -/
def exits (table : List (String × List String)) (component : List String) : List (List String) :=
  distinct (((component.flatMap r.next).map (componentOf table)).filter (· ≠ component))

/-- The components of a relation and what is next to each. -/
def condensed (table : List (String × List String)) : Relation (List String) :=
  ⟨(distinct (table.map (·.2))).map fun component => (component, r.exits table component)⟩

/-- The depth of each of the given members, in order. -/
def depths? (named : List String) : Option (List (String × Depth)) := do
  let table ← Components.table? r
  let names := textSet named
  let found ← (r.condensed table).heights? [] [] (names.map (componentOf table))
  return names.zipWith (fun a n => (a, ⟨n, (distinct (r.next a)).length⟩)) found.1

/-- The depths of the given members. The search does not fail. -/
def depths (named : List String) : List (String × Depth) := (r.depths? named).getD []

end Relation

end TraversalSdk
