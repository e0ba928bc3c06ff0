import Mathlib.Logic.Relation
import TraversalSdk.Relation

namespace TraversalSdk.Relation

variable {α : Type} [DecidableEq α] (r : Relation α)

def Reaches (a b : α) : Prop := Relation.ReflTransGen (fun x y => y ∈ r.next x) a b

variable {r}

/-- What follows a member stands in its row. -/
theorem exists_row_of_next {a b : α} (h : b ∈ r.next a) : ∃ kids, (a, kids) ∈ r.rows ∧ b ∈ kids := by
  rw [next] at h
  cases hl : lookup a r.rows with
  | none => simp [hl] at h
  | some kids =>
    rw [hl, Option.getD_some] at h
    exact ⟨kids, mem_of_lookup hl, h⟩

theorem Reaches.step {a b c : α} (hb : b ∈ r.next a) (h : r.Reaches b c) : r.Reaches a c :=
  Relation.ReflTransGen.head hb h

/-- A set that holds the successors of its members is not left. -/
theorem Reaches.inside {P : α → Prop} (hP : ∀ a, P a → ∀ b ∈ r.next a, P b) {a b : α}
    (h : r.Reaches a b) (ha : P a) : P b := by
  induction h with
  | refl => exact ha
  | tail _ hstep ih => exact hP _ ih _ hstep

end TraversalSdk.Relation
