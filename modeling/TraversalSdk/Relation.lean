import TraversalSdk.Order

namespace TraversalSdk

/-- A finite relation. Rows list the successors of a member; a member without a row has none. -/
structure Relation (α : Type) where
  rows : List (α × List α)

namespace Relation

variable {α : Type} [DecidableEq α] (r : Relation α)

def next (a : α) : List α := (lookup a r.rows).getD []

/-- Every member that occurs in a row. -/
def members : List α := distinct (r.rows.flatMap fun row => row.1 :: row.2)

/-- A search that finds a member has fewer rows left, or the member has no successors. -/
theorem lex_unseen {a : α} {found : List α} {m n : Nat} (ha : a ∉ found) (h : r.next a = [] → m < n) :
    Prod.Lex (· < ·) (· < ·) ((unseen Prod.fst r.rows (a :: found)).length, m)
      ((unseen Prod.fst r.rows found).length, n) := by
  refine lex_unseen_cons ha fun hrows => h ?_
  have hnone : lookup a r.rows = none := lookup_eq_none_iff.mpr fun hkey => by
    obtain ⟨row, hrow, hfst⟩ := List.mem_map.mp hkey
    exact hrows row hrow hfst
  rw [next, hnone, Option.getD_none]

end Relation

end TraversalSdk
