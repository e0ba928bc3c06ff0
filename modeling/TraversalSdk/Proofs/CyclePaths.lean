import Mathlib.Data.List.Chain
import TraversalSdk.Analysis.Cycles
import TraversalSdk.Proofs.Reachability

namespace TraversalSdk

/-- In a list without repetition, what stands behind a member has the higher position. -/
theorem idxOf_lt_of_sublist {α : Type} [DecidableEq α] {l : List α} (hn : l.Nodup) {a b : α}
    (h : [a, b].Sublist l) : l.idxOf a < l.idxOf b := by
  induction hn with
  | nil => cases h
  | @cons x l hx _ ih =>
    cases h with
    | cons _ h =>
      have ha : x ≠ a := hx a (h.subset (by simp))
      have hb : x ≠ b := hx b (h.subset (by simp))
      rw [List.idxOf_cons_ne _ ha, List.idxOf_cons_ne _ hb]
      exact Nat.succ_lt_succ (ih h)
    | cons_cons _ h =>
      have hb : a ≠ b := hx b (h.subset (by simp))
      rw [List.idxOf_cons_self, List.idxOf_cons_ne _ hb]
      exact Nat.succ_pos _

/-- A relation of which every step leads forwards in one list has no way back. -/
theorem acyclic_of_sublist {α : Type} [DecidableEq α] {R : α → α → Prop} {l : List α} (hn : l.Nodup)
    (h : ∀ a b, R a b → [a, b].Sublist l) (a : α) : ¬Relation.TransGen R a a := by
  have hlt {b : α} (hab : Relation.TransGen R a b) : l.idxOf a < l.idxOf b := by
    induction hab with
    | single hab => exact idxOf_lt_of_sublist hn (h _ _ hab)
    | tail _ hbc ih => exact Nat.lt_trans ih (idxOf_lt_of_sublist hn (h _ _ hbc))
  exact fun haa => Nat.lt_irrefl _ (hlt haa)

namespace Cycles

variable {r : Relation String} {p way : List String} {a b x y node name : String}

/-- A way around: along the relation, back to where it starts, and through no other member twice. -/
structure IsCycle (r : Relation String) (p : List String) : Prop where
  two : 2 ≤ p.length
  closed : p.head? = p.getLast?
  distinct : p.dropLast.Nodup
  steps : p.IsChain fun a b => b ∈ r.next a

/-- The last step of a way. -/
def Closes (p : List String) (a b : String) : Prop := [a, b] <:+ p

theorem closes_snoc (h : way.getLast? = some node) :
    Closes (way ++ [name]) a b ↔ a = node ∧ b = name := by
  obtain ⟨front, rfl⟩ := List.getLast?_eq_some_iff.mp h
  have hend : [node, name] <:+ front ++ [node] ++ [name] := ⟨front, by simp⟩
  constructor
  · intro hab
    have heq : [a, b] = [node, name] :=
      (List.suffix_of_suffix_length_le hab hend (by simp)).eq_of_length rfl
    simpa using heq
  · rintro ⟨rfl, rfl⟩
    exact hend

namespace IsCycle

/-- Members of a cycle reach each other. -/
theorem reaches (h : IsCycle r p) (hx : x ∈ p) (hy : y ∈ p) : r.Reaches x y := by
  have hne : p ≠ [] := List.ne_nil_of_mem hx
  have hends : p.getLast hne = p.head hne := by
    have hclosed := h.closed
    rw [List.head?_eq_some_head hne, List.getLast?_eq_some_getLast hne] at hclosed
    exact (Option.some.inj hclosed).symm
  have hto : r.Reaches x (p.getLast hne) :=
    h.steps.backwards_induction (r.Reaches · (p.getLast hne)) p (fun _ _ hab hb => .step hab hb)
      (fun _ => .refl) x hx
  have hfrom : r.Reaches (p.head hne) y :=
    h.steps.induction (r.Reaches (p.head hne)) p (fun _ _ hab ha => ha.tail hab) (fun _ => .refl) y hy
  exact hto.trans (hends ▸ hfrom)

/-- A cycle leads from one of its members back to that member. -/
theorem exists_transGen (h : IsCycle r p) : ∃ a, Relation.TransGen (fun a b => b ∈ r.next a) a a := by
  match p, h with
  | [], h => exact absurd h.two (by simp)
  | [_], h => exact absurd h.two (by simp)
  | a :: b :: _, h =>
    have hstep : b ∈ r.next a := h.steps.rel_head? rfl
    exact ⟨a, Relation.TransGen.head' hstep (h.reaches (by simp) (by simp))⟩

end IsCycle

/-- A way that comes back to one of its members is closed to a cycle there. -/
theorem closing?_of_mem (h : name ∈ way) :
    ∃ before after, way = before ++ name :: after ∧ closing? way name = some (name :: after ++ [name]) := by
  induction way with
  | nil => cases h
  | cons x way ih =>
    by_cases hx : x = name
    · subst hx
      exact ⟨[], way, rfl, by simp [closing?]⟩
    · obtain ⟨before, after, rfl, hclosing⟩ := ih ((List.mem_cons.mp h).resolve_left (Ne.symm hx))
      refine ⟨x :: before, after, rfl, ?_⟩
      rwa [closing?, List.dropWhile_cons_of_pos (by simpa using hx)]

/-- A way that leads on to one of its members gives a cycle, which ends with the step there. -/
theorem closing?_isCycle (hn : way.Nodup) (hsteps : way.IsChain fun a b => b ∈ r.next a)
    (hlast : way.getLast? = some node) (hnext : name ∈ r.next node) (hmem : name ∈ way) :
    ∃ cycle, closing? way name = some cycle ∧ IsCycle r cycle ∧
      ∀ a b, Closes cycle a b ↔ a = node ∧ b = name := by
  obtain ⟨before, after, rfl, hclosing⟩ := closing?_of_mem hmem
  have hend : (name :: after).getLast? = some node := by
    rwa [List.getLast?_append_of_ne_nil _ (List.cons_ne_nil _ _)] at hlast
  refine ⟨_, hclosing, ⟨by simp, ?_, ?_, ?_⟩, fun a b => closes_snoc hend⟩
  · rw [List.getLast?_append_of_ne_nil _ (by simp)]
    rfl
  · rw [List.dropLast_concat]
    exact hn.sublist (List.sublist_append_right _ _)
  · refine hsteps.right_of_append.append (.singleton _) fun x hx y hy => ?_
    have hx : node = x := by simpa [hend] using hx
    have hy : name = y := by simpa using hy
    rwa [← hx, ← hy]

end Cycles

end TraversalSdk
