import TraversalSdk.Analysis.Components
import TraversalSdk.Proofs.Reachability
import TraversalSdk.Proofs.SortedLists

namespace TraversalSdk.Components

namespace Search

/-- The number of a member that has been found. -/
def number (s : Search) (a : String) : Nat := (lookup a s.numbers).getD 0

def mark (s : Search) (a : String) : Nat := (lookup a s.marks).getD 0

variable {s : Search} {a k : String}

theorem lookup_number (h : a ∈ s.found) : lookup a s.numbers = some (s.number a) := by
  cases hl : lookup a s.numbers with
  | none => exact absurd h (lookup_eq_none_iff.mp hl)
  | some n => simp [number, hl]

theorem number_discover_self : (s.discover k).number k = s.numbers.length := by
  simp [number, discover, lookup_cons]

theorem number_discover (h : a ≠ k) : (s.discover k).number a = s.number a := by
  simp [number, discover, lookup_cons, Ne.symm h]

theorem mark_discover_self : (s.discover k).mark k = s.numbers.length := by
  simp [mark, discover, lookup_cons]

theorem mark_discover (h : a ≠ k) : (s.discover k).mark a = s.mark a := by
  simp [mark, discover, lookup_cons, Ne.symm h]

theorem mark_setMark_self (n : Nat) : (s.setMark k n).mark k = n := by
  simp [mark, setMark, lookup_assign]

theorem mark_setMark (h : a ≠ k) (n : Nat) : (s.setMark k n).mark a = s.mark a := by
  simp [mark, setMark, lookup_assign, Ne.symm h]

end Search

/-- What waits has been found and is held in the order of numbers, the newest first; so are the nodes of open
calls, which wait as well. -/
structure Ordered (s : Search) (nodes : List String) : Prop where
  waiting_iff : ∀ a, a ∈ s.waiting ↔ a ∈ s.stack
  marked : ∀ a ∈ s.found, lookup a s.marks = some (s.mark a)
  found : ∀ a ∈ s.stack, a ∈ s.found
  below : ∀ a ∈ s.stack, s.number a < s.numbers.length
  sorted : s.stack.Pairwise fun a b => s.number b < s.number a
  waits : ∀ a ∈ nodes, a ∈ s.stack
  nested : nodes.Pairwise fun a b => s.number b < s.number a

/-- How members that wait reach each other. -/
structure Linked (r : Relation String) (s : Search) (nodes : List String) : Prop where
  down : ∀ a ∈ nodes, ∀ b ∈ s.stack, s.number a ≤ s.number b → r.Reaches a b
  up : ∀ b ∈ s.stack, ∃ a ∈ nodes, s.number a ≤ s.number b ∧ r.Reaches b a

section

variable {r : Relation String} {s : Search} {nodes : List String} {v k : String}

namespace Ordered

/-- The innermost open member has the greatest number of all open ones. -/
theorem number_le (h : Ordered s (v :: nodes)) : ∀ a ∈ v :: nodes, s.number a ≤ s.number v := by
  intro a ha
  rcases List.mem_cons.mp ha with rfl | ha
  · exact Nat.le_refl _
  · exact Nat.le_of_lt ((List.pairwise_cons.mp h.nested).1 a ha)

theorem number_lt (h : Ordered s (v :: nodes)) : ∀ a ∈ nodes, s.number a < s.number v :=
  (List.pairwise_cons.mp h.nested).1

theorem nodup (h : Ordered s nodes) : s.stack.Nodup :=
  h.sorted.imp fun hlt heq => absurd (heq ▸ hlt) (Nat.lt_irrefl _)

theorem leave (h : Ordered s (v :: nodes)) : Ordered s nodes :=
  { h with
    waits := fun a ha => h.waits a (List.mem_cons_of_mem _ ha)
    nested := (List.pairwise_cons.mp h.nested).2 }

theorem ne_new (h : Ordered s nodes) (hk : k ∉ s.found) {a : String} (ha : a ∈ s.stack) : a ≠ k := by
  intro heq
  rw [heq] at ha
  exact hk (h.found k ha)

/-- What waits keeps its number when a new member is found. -/
theorem number_discover (h : Ordered s nodes) (hk : k ∉ s.found) {a : String} (ha : a ∈ s.stack) :
    (s.discover k).number a = s.number a := Search.number_discover (h.ne_new hk ha)

theorem discover (h : Ordered s nodes) (hk : k ∉ s.found) : Ordered (s.discover k) (k :: nodes) := by
  have hlast : ∀ a ∈ s.stack, (s.discover k).number a < (s.discover k).number k := by
    intro a ha
    rw [h.number_discover hk ha, Search.number_discover_self]
    exact h.below a ha
  refine ⟨?_, ?_, ?_, ?_, ?_, ?_, ?_⟩
  · intro a
    simp only [Search.discover, List.mem_cons, h.waiting_iff a]
  · intro a ha
    by_cases hak : a = k
    · rw [hak, Search.mark_discover_self]
      exact (lookup_cons k k _ _).trans (if_pos rfl)
    · have ha : a ∈ s.found := (List.mem_cons.mp ha).resolve_left hak
      rw [Search.mark_discover hak, ← h.marked a ha]
      exact (lookup_cons a k _ _).trans (if_neg (Ne.symm hak))
  · exact List.forall_mem_cons.mpr
      ⟨List.mem_cons_self, fun a ha => List.mem_cons_of_mem _ (h.found a ha)⟩
  · intro a ha
    change (s.discover k).number a < s.numbers.length + 1
    rcases List.mem_cons.mp ha with rfl | ha
    · rw [Search.number_discover_self]
      omega
    · rw [h.number_discover hk ha]
      exact Nat.lt_succ_of_lt (h.below a ha)
  · refine List.pairwise_cons.mpr ⟨hlast, h.sorted.imp_of_mem ?_⟩
    intro a b ha hb hlt
    rwa [h.number_discover hk ha, h.number_discover hk hb]
  · exact List.forall_mem_cons.mpr
      ⟨List.mem_cons_self, fun a ha => List.mem_cons_of_mem _ (h.waits a ha)⟩
  · refine List.pairwise_cons.mpr ⟨fun a ha => hlast a (h.waits a ha), h.nested.imp_of_mem ?_⟩
    intro a b ha hb hlt
    rwa [h.number_discover hk (h.waits a ha), h.number_discover hk (h.waits b hb)]

theorem setMark (h : Ordered s nodes) (n : Nat) : Ordered (s.setMark v n) nodes := by
  refine { h with marked := fun a ha => ?_ }
  by_cases hav : a = v
  · rw [hav, Search.mark_setMark_self, Search.setMark, lookup_assign, if_pos rfl]
  · rw [Search.mark_setMark hav, ← h.marked a ha, Search.setMark, lookup_assign, if_neg (Ne.symm hav)]

end Ordered

/-- Popping down to a member that waits never fails. -/
theorem popTo?_eq {stack : List String} (h : v ∈ stack) :
    ∃ above rest, Search.popTo? v stack = some (above ++ [v], rest) ∧ stack = above ++ v :: rest := by
  induction stack with
  | nil => cases h
  | cons top stack ih =>
    by_cases htop : top = v
    · exact ⟨[], stack, by simp [Search.popTo?, htop], by simp [htop]⟩
    · have hv : v ∈ stack := (List.mem_cons.mp h).resolve_left (Ne.symm htop)
      obtain ⟨above, rest, hpop, hstack⟩ := ih hv
      exact ⟨top :: above, rest, by simp [Search.popTo?, htop, hpop], by simp [hstack]⟩

structure Cut (s : Search) (v : String) (members rest : List String) : Prop where
  popped : Search.popTo? v s.stack = some (members, rest)
  stack : s.stack = members ++ rest
  above : ∀ a ∈ members, s.number v ≤ s.number a
  below : ∀ a ∈ rest, s.number a < s.number v

namespace Ordered

/-- An open member can be cut off, for it waits. -/
theorem cut (h : Ordered s (v :: nodes)) : ∃ members rest, Cut s v members rest := by
  obtain ⟨above, rest, hpop, hstack⟩ := popTo?_eq (h.waits v List.mem_cons_self)
  have hsorted := h.sorted
  rw [hstack] at hsorted
  obtain ⟨_, hrest, habove⟩ := List.pairwise_append.mp hsorted
  refine ⟨above ++ [v], rest, hpop, by simp [hstack], ?_, (List.pairwise_cons.mp hrest).1⟩
  intro a ha
  rcases List.mem_append.mp ha with ha | ha
  · exact Nat.le_of_lt (habove a ha v List.mem_cons_self)
  · exact Nat.le_of_eq (congrArg s.number (List.mem_singleton.mp ha)).symm

end Ordered

namespace Cut

variable {members rest : List String}

theorem mem_stack (h : Cut s v members rest) {a : String} : a ∈ s.stack ↔ a ∈ members ∨ a ∈ rest := by
  rw [h.stack, List.mem_append]

theorem mem_rest (h : Cut s v members rest) {a : String} :
    a ∈ rest ↔ a ∈ s.stack ∧ s.number a < s.number v := by
  constructor
  · intro ha
    exact ⟨h.mem_stack.mpr (.inr ha), h.below a ha⟩
  · intro ha
    refine (h.mem_stack.mp ha.1).resolve_left fun hm => ?_
    exact absurd (h.above a hm) (Nat.not_le.mpr ha.2)

theorem not_mem_rest (h : Cut s v members rest) {a : String} (ha : a ∈ members) : a ∉ rest := by
  intro hr
  exact absurd (h.above a ha) (Nat.not_le.mpr (h.below a hr))

/-- What is cut off are the members with numbers from its own on. -/
theorem mem_members (h : Cut s v members rest) {a : String} :
    a ∈ members ↔ a ∈ s.stack ∧ s.number v ≤ s.number a := by
  constructor
  · intro ha
    exact ⟨h.mem_stack.mpr (.inl ha), h.above a ha⟩
  · intro ha
    refine (h.mem_stack.mp ha.1).resolve_right fun hr => ?_
    exact absurd (h.below a hr) (Nat.not_lt.mpr ha.2)

end Cut

theorem Ordered.file {members rest : List String} (h : Ordered s (v :: nodes))
    (hcut : Cut s v members rest) : Ordered (s.file members rest) nodes := by
  have hrest : ∀ a ∈ rest, a ∈ s.stack := fun a ha => (hcut.mem_rest.mp ha).1
  refine ⟨?_, h.marked, fun a ha => h.found a (hrest a ha), fun a ha => h.below a (hrest a ha), ?_, ?_,
    h.leave.nested⟩
  · intro a
    have hmem : a ∈ s.waiting.filter (· ∉ members) ↔ a ∈ s.stack ∧ a ∉ members := by
      rw [List.mem_filter, h.waiting_iff a, decide_eq_true_eq]
    change a ∈ s.waiting.filter (· ∉ members) ↔ a ∈ rest
    rw [hmem, hcut.mem_rest, hcut.mem_members, not_and, Nat.not_le]
    exact and_congr_right fun ha => ⟨fun hlt => hlt ha, fun hlt _ => hlt⟩
  · have hsorted := h.sorted
    rw [hcut.stack] at hsorted
    exact (List.pairwise_append.mp hsorted).2.1
  · intro a ha
    exact hcut.mem_rest.mpr ⟨h.waits a (List.mem_cons_of_mem _ ha), h.number_lt a ha⟩

namespace Linked

theorem setMark (h : Linked r s nodes) (n : Nat) : Linked r (s.setMark v n) nodes := ⟨h.down, h.up⟩

/-- All that waits above the innermost open member is reached from it and reaches it. -/
theorem mutual_above (h : Linked r s (v :: nodes)) (ho : Ordered s (v :: nodes)) {a : String}
    (ha : a ∈ s.stack) (hle : s.number v ≤ s.number a) : r.Reaches v a ∧ r.Reaches a v := by
  obtain ⟨b, hb, _, hreach⟩ := h.up a ha
  have hv : v ∈ s.stack := ho.waits v List.mem_cons_self
  exact ⟨h.down v List.mem_cons_self a ha hle, hreach.trans (h.down b hb v hv (ho.number_le b hb))⟩

theorem discover (h : Linked r s nodes) (ho : Ordered s nodes) (hk : k ∉ s.found)
    (hnext : ∀ v, nodes.head? = some v → k ∈ r.next v) : Linked r (s.discover k) (k :: nodes) := by
  have hopen : ∀ a ∈ nodes, r.Reaches a k := by
    intro a ha
    cases nodes with
    | nil => cases ha
    | cons v nodes =>
      have hv : v ∈ s.stack := ho.waits v List.mem_cons_self
      exact (h.down a ha v hv (ho.number_le a ha)).tail (hnext v rfl)
  refine ⟨?_, ?_⟩
  · intro a ha b hb hle
    rcases List.mem_cons.mp ha with rfl | hold
    · rcases List.mem_cons.mp hb with rfl | hstack
      · exact .refl
      · rw [ho.number_discover hk hstack, Search.number_discover_self] at hle
        exact absurd (ho.below b hstack) (Nat.not_lt.mpr hle)
    · rcases List.mem_cons.mp hb with rfl | hstack
      · exact hopen a hold
      · rw [ho.number_discover hk (ho.waits a hold), ho.number_discover hk hstack] at hle
        exact h.down a hold b hstack hle
  · intro b hb
    rcases List.mem_cons.mp hb with rfl | hb
    · exact ⟨b, List.mem_cons_self, Nat.le_refl _, .refl⟩
    · obtain ⟨a, ha, hle, hreach⟩ := h.up b hb
      refine ⟨a, List.mem_cons_of_mem _ ha, ?_, hreach⟩
      rwa [ho.number_discover hk (ho.waits a ha), ho.number_discover hk hb]

/-- A member that is done leaves the others linked if it reaches one that has waited longer. -/
theorem leave (h : Linked r s (v :: nodes))
    (hlow : ∃ b ∈ s.stack, s.number b < s.number v ∧ r.Reaches v b) : Linked r s nodes := by
  refine ⟨fun a ha => h.down a (List.mem_cons_of_mem _ ha), fun b hb => ?_⟩
  obtain ⟨a, ha, hle, hreach⟩ := h.up b hb
  rcases List.mem_cons.mp ha with rfl | ha
  · obtain ⟨c, hc, hlt, hac⟩ := hlow
    obtain ⟨d, hd, hdc, hcd⟩ := h.up c hc
    have hne : d ≠ a := by
      intro heq
      rw [heq] at hdc
      omega
    have hopen : d ∈ nodes := (List.mem_cons.mp hd).resolve_left hne
    exact ⟨d, hopen, by omega, (hreach.trans hac).trans hcd⟩
  · exact ⟨a, ha, hle, hreach⟩

theorem file {members rest : List String} (h : Linked r s (v :: nodes)) (hcut : Cut s v members rest) :
    Linked r (s.file members rest) nodes := by
  refine ⟨fun a ha b hb => ?_, fun b hb => ?_⟩
  · exact h.down a (List.mem_cons_of_mem _ ha) b (hcut.mem_rest.mp hb).1
  · obtain ⟨hstack, hlt⟩ := hcut.mem_rest.mp hb
    obtain ⟨a, ha, hle, hreach⟩ := h.up b hstack
    have hne : a ≠ v := by
      intro heq
      rw [heq] at hle
      omega
    exact ⟨a, (List.mem_cons.mp ha).resolve_left hne, hle, hreach⟩

end Linked

end

end TraversalSdk.Components
