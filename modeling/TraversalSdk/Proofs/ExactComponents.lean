import TraversalSdk.Proofs.ComponentSearch

namespace TraversalSdk.Components

def Pending (calls : List Call) (a b : String) : Prop := ∃ call ∈ calls, call.node = a ∧ b ∈ call.kids

/-- What holds of a search at every step. Whatever has been filed leads to filed members only, and an edge
that has been looked at leads no lower on the stack than the marks say; so where a mark is the own number of a
member, nothing leads out of the stack above, and that part is a component. -/
structure Sound (r : Relation String) (s : Search) (calls : List Call) : Prop where
  ahead : ∀ call ∈ calls, ∀ kid ∈ call.kids, kid ∈ r.next call.node
  within : ∀ a ∈ s.found, a ∈ r.members
  ordered : Ordered s (calls.map Call.node)
  linked : Linked r s (calls.map Call.node)
  settled : Settled r s
  tracked : Tracked r s (calls.map Call.node) (Pending calls)

variable {r : Relation String} {s : Search} {call around : Call} {calls outer : List Call} {k : String}

theorem mem_members_of_next {a : String} (h : k ∈ r.next a) : k ∈ r.members := by
  obtain ⟨kids, hrow, hk⟩ := Relation.exists_row_of_next h
  exact mem_distinct.mpr (List.mem_flatMap.mpr ⟨_, hrow, List.mem_cons_of_mem _ hk⟩)

namespace Pending

theorem cons {a b : String} (h : Pending calls a b) : Pending (call :: calls) a b := by
  obtain ⟨c, hc, ha, hb⟩ := h
  exact ⟨c, List.mem_cons_of_mem _ hc, ha, hb⟩

/-- Looking at a child settles one edge. -/
theorem look {kid a b : String} {kids : List String} (hkids : call.kids = kid :: kids)
    (h : Pending (call :: outer) a b) :
    (a = call.node ∧ b = kid) ∨ Pending (⟨call.node, kids⟩ :: outer) a b := by
  obtain ⟨c, hc, rfl, hb⟩ := h
  rcases List.mem_cons.mp hc with rfl | hc
  · rw [hkids] at hb
    rcases List.mem_cons.mp hb with rfl | hb
    · exact .inl ⟨rfl, rfl⟩
    · exact .inr ⟨_, List.mem_cons_self, rfl, hb⟩
  · exact .inr ⟨c, List.mem_cons_of_mem _ hc, rfl, hb⟩

theorem done {a b : String} (hkids : call.kids = []) (h : Pending (call :: outer) a b) :
    Pending outer a b := by
  obtain ⟨c, hc, ha, hb⟩ := h
  rcases List.mem_cons.mp hc with rfl | hc
  · rw [hkids] at hb
    cases hb
  · exact ⟨c, hc, ha, hb⟩

end Pending

/-- Lowering a mark never fails for a member that has been found. -/
theorem lower?_eq {nodes : List String} (ho : Ordered s nodes) (hk : k ∈ s.found) (n : Nat) :
    s.lower? k n = some (s.setMark k (min (s.mark k) n)) := by
  rw [Search.lower?, ho.marked k hk, Option.map_some]

/-- A member that is done is filed with the stack above it, or it stays on the stack. -/
theorem finish?_eq {nodes : List String} (ho : Ordered s nodes) (hk : k ∈ s.found) :
    s.finish? k = if s.mark k = s.number k then
      (Search.popTo? k s.stack).map fun popped => s.file popped.1 popped.2 else some s := by
  simp only [Search.finish?, ho.marked k hk, Search.lookup_number hk, Option.bind_eq_bind, Option.bind_some,
    Option.pure_def]

namespace Sound

theorem open_found (h : Sound r s (call :: outer)) : call.node ∈ s.found :=
  h.ordered.found _ (h.ordered.waits _ List.mem_cons_self)

theorem start : Sound r .start [] where
  ahead := fun _ h => absurd h List.not_mem_nil
  within := fun _ h => absurd h List.not_mem_nil
  ordered :=
    { waiting_iff := fun _ => Iff.rfl
      marked := fun _ h => absurd h List.not_mem_nil
      found := fun _ h => absurd h List.not_mem_nil
      below := fun _ h => absurd h List.not_mem_nil
      sorted := .nil
      waits := fun _ h => absurd h List.not_mem_nil
      nested := .nil }
  linked :=
    { down := fun _ h => absurd h List.not_mem_nil
      up := fun _ h => absurd h List.not_mem_nil }
  settled :=
    { closed := fun _ h => absurd h List.not_mem_nil
      filed := fun a => by simp [Search.start, Search.found]
      component := fun _ _ h => by cases h
      shared := fun _ _ h => by cases h
      nodup := .nil }
  tracked :=
    { looked := fun _ h => absurd h List.not_mem_nil
      reached := fun _ h => absurd h List.not_mem_nil
      bound := fun _ h => absurd h List.not_mem_nil }

/-- A member is found, as the child of the innermost open member or as the start of a search. Only edges
to it are settled by that. -/
theorem discover {calls' : List Call} (h : Sound r s calls) (hk : k ∉ s.found) (hm : k ∈ r.members)
    (hnodes : calls'.map Call.node = calls.map Call.node)
    (hahead : ∀ call ∈ calls', ∀ kid ∈ call.kids, kid ∈ r.next call.node)
    (hnext : ∀ v, (calls.map Call.node).head? = some v → k ∈ r.next v)
    (hpending : ∀ a b, Pending calls a b → b = k ∨ Pending calls' a b) :
    Sound r (s.discover k) (Call.on r k :: calls') := by
  have hopen : (Call.on r k :: calls').map Call.node = k :: calls.map Call.node := by
    rw [List.map_cons, hnodes, Call.on]
  refine ⟨?_, ?_, ?_, ?_, h.settled.discover h.ordered hk, ?_⟩
  · exact List.forall_mem_cons.mpr ⟨fun kid hkid => mem_sortOn.mp hkid, hahead⟩
  · exact List.forall_mem_cons.mpr ⟨hm, h.within⟩
  · rw [hopen]
    exact h.ordered.discover hk
  · rw [hopen]
    exact h.linked.discover h.ordered hk hnext
  · rw [hopen]
    exact h.tracked.discover h.ordered hk (fun a b hab => (hpending a b hab).imp_right .cons)
      fun b hb => ⟨_, List.mem_cons_self, rfl, mem_sortOn.mpr hb⟩

/-- The search stays sound when a mark goes down to a number that is reached and waits. -/
theorem lower (h : Sound r s calls) {n : Nat}
    (hn : s.mark k ≤ n ∨ ∃ b ∈ s.stack, s.number b = n ∧ r.Reaches k b) :
    Sound r (s.setMark k (min (s.mark k) n)) calls :=
  ⟨h.ahead, h.within, h.ordered.setMark _, h.linked.setMark _, h.settled.setMark _, h.tracked.lower hn⟩

/-- A child that has been found is looked at, and nothing leads below the mark by it. -/
theorem look {kid : String} {kids : List String} (h : Sound r s (call :: outer))
    (hkids : call.kids = kid :: kids) (hfound : kid ∈ s.found)
    (hlow : kid ∈ s.stack → s.mark call.node ≤ s.number kid) :
    Sound r s (⟨call.node, kids⟩ :: outer) := by
  obtain ⟨hahead, houter⟩ := List.forall_mem_cons.mp h.ahead
  refine ⟨List.forall_mem_cons.mpr ⟨fun b hb => hahead b ?_, houter⟩, h.within, h.ordered, h.linked,
    h.settled, h.tracked.resolve fun a b hab => ?_⟩
  · rw [hkids]
    exact List.mem_cons_of_mem _ hb
  · rcases hab.look hkids with ⟨rfl, rfl⟩ | hab
    · exact .inr ⟨hfound, fun hb => ⟨_, List.mem_cons_self, Nat.le_refl _, hlow hb⟩⟩
    · exact .inl hab

/-- A member that is done and reaches below itself stays on the stack. -/
theorem leave (h : Sound r s (call :: around :: outer)) (hkids : call.kids = [])
    (hroot : s.mark call.node ≠ s.number call.node) (hmark : s.mark around.node ≤ s.mark call.node) :
    Sound r s (around :: outer) := by
  obtain ⟨b, hb, heq, hle, hreach⟩ := h.tracked.reached _ List.mem_cons_self
  have hlt : s.number b < s.number call.node := by omega
  refine ⟨(List.forall_mem_cons.mp h.ahead).2, h.within, h.ordered.leave,
    h.linked.leave ⟨b, hb, hlt, hreach⟩, h.settled, ?_⟩
  exact (h.tracked.leave h.ordered hmark).resolve fun a b hab => .inl (hab.done hkids)

/-- The outermost member reaches nothing below itself. -/
theorem outermost (h : Sound r s [call]) : s.mark call.node = s.number call.node := by
  obtain ⟨b, hb, heq, hle, _⟩ := h.tracked.reached _ List.mem_cons_self
  obtain ⟨a, ha, hab, _⟩ := h.linked.up b hb
  rw [List.mem_singleton.mp ha] at hab
  exact heq.symm.trans (Nat.le_antisymm hle hab)

/-- The search stays sound when a component is filed. -/
theorem file {members rest : List String} (h : Sound r s (call :: outer)) (hkids : call.kids = [])
    (hcut : Cut s call.node members rest) (hroot : s.mark call.node = s.number call.node) :
    Sound r (s.file members rest) outer := by
  -- whoever still has edges to look at is open and lies below
  have hdone : ∀ a ∈ members, ∀ b, ¬Pending (call :: outer) a b := by
    intro a ha b hab
    obtain ⟨c, hc, rfl, _⟩ := hab.done hkids
    exact absurd (hcut.above _ ha) (Nat.not_le.mpr (h.ordered.number_lt _ (List.mem_map_of_mem hc)))
  have hall : ∀ a ∈ members, r.Reaches call.node a ∧ r.Reaches a call.node := by
    intro a ha
    obtain ⟨hstack, hle⟩ := hcut.mem_members.mp ha
    exact h.linked.mutual_above h.ordered hstack hle
  refine ⟨(List.forall_mem_cons.mp h.ahead).2, h.within, h.ordered.file hcut, h.linked.file hcut,
    h.settled.file h.ordered hcut (h.tracked.no_exit h.ordered hcut hroot hdone) hall, ?_⟩
  exact (h.tracked.file h.ordered hcut hroot).resolve fun a b hab => .inl (hab.done hkids)

/-- A step at a child. -/
theorem step_kid {kid : String} {kids : List String} (h : Sound r s (call :: outer))
    (hkids : call.kids = kid :: kids) :
    ∃ s' calls, step? r s call outer = some (s', calls) ∧ Sound r s' calls := by
  obtain ⟨hahead, houter⟩ := List.forall_mem_cons.mp h.ahead
  have hnext : kid ∈ r.next call.node := hahead kid (by simp [hkids])
  rw [step?, hkids]
  by_cases hk : kid ∈ s.found
  · simp only [Search.lookup_number hk, h.ordered.waiting_iff]
    by_cases hstack : kid ∈ s.stack
    · simp only [if_pos hstack, lower?_eq h.ordered h.open_found, Option.map_some]
      have hreach : r.Reaches call.node kid := .step hnext .refl
      refine ⟨_, _, rfl, (h.lower (.inr ⟨kid, hstack, rfl, hreach⟩)).look hkids hk fun _ => ?_⟩
      rw [Search.mark_setMark_self]
      exact Nat.min_le_right _ _
    · simp only [if_neg hstack]
      exact ⟨_, _, rfl, h.look hkids hk fun hs => absurd hs hstack⟩
  · simp only [lookup_eq_none_iff.mpr hk]
    refine ⟨_, _, rfl, h.discover hk (mem_members_of_next hnext) rfl ?_ ?_ ?_⟩
    · refine List.forall_mem_cons.mpr ⟨fun b hb => hahead b ?_, houter⟩
      rw [hkids]
      exact List.mem_cons_of_mem _ hb
    · intro v hv
      cases hv
      exact hnext
    · intro a b hab
      exact (hab.look hkids).imp_left And.right

/-- The last step at the first member of a component, which is filed. -/
theorem step_root (h : Sound r s (call :: outer)) (hkids : call.kids = [])
    (hroot : s.mark call.node = s.number call.node) :
    ∃ s' calls, step? r s call outer = some (s', calls) ∧ Sound r s' calls := by
  obtain ⟨members, rest, hcut⟩ := h.ordered.cut
  have hfile := h.file hkids hcut hroot
  rw [step?, hkids]
  simp only [finish?_eq h.ordered h.open_found, if_pos hroot, hcut.popped]
  cases outer with
  | nil => exact ⟨_, _, rfl, hfile⟩
  | cons around outer =>
    have hmark : lookup call.node (s.file members rest).marks = some (s.mark call.node) :=
      h.ordered.marked _ h.open_found
    simp only [Option.map_some, Option.bind_eq_bind, Option.bind_some, hmark,
      lower?_eq hfile.ordered hfile.open_found]
    -- the mark of the member around is below all that has been taken off the stack
    obtain ⟨b, _, heq, hle, _⟩ := h.tracked.reached around.node (by simp)
    have hlt := h.ordered.number_lt around.node (by simp)
    have hlow : s.mark around.node ≤ s.mark call.node := by omega
    exact ⟨_, _, rfl, hfile.lower (.inl hlow)⟩

/-- The last step at a member that reaches below itself. -/
theorem step_inner (h : Sound r s (call :: outer)) (hkids : call.kids = [])
    (hroot : s.mark call.node ≠ s.number call.node) :
    ∃ s' calls, step? r s call outer = some (s', calls) ∧ Sound r s' calls := by
  rw [step?, hkids]
  simp only [finish?_eq h.ordered h.open_found, if_neg hroot]
  cases outer with
  | nil => exact absurd h.outermost hroot
  | cons around outer =>
    have haround : around.node ∈ s.stack := h.ordered.waits _ (by simp)
    have hlt : s.number around.node < s.number call.node := h.ordered.number_lt _ (by simp)
    have hne : call.node ≠ around.node := by
      intro heq
      rw [heq] at hlt
      omega
    simp only [Option.bind_eq_bind, Option.bind_some, h.ordered.marked _ h.open_found,
      lower?_eq h.ordered (h.ordered.found _ haround)]
    obtain ⟨b, hb, heq, _, hreach⟩ := h.tracked.reached call.node (by simp)
    have hdown : r.Reaches around.node call.node :=
      h.linked.down _ (by simp) _ (h.ordered.waits _ (by simp)) (Nat.le_of_lt hlt)
    have hlower := h.lower (.inr ⟨b, hb, heq, hdown.trans hreach⟩)
    refine ⟨_, _, rfl, hlower.leave hkids ?_ ?_⟩
    · rwa [Search.mark_setMark hne]
    · rw [Search.mark_setMark hne, Search.mark_setMark_self]
      exact Nat.min_le_right _ _

/-- A step of the search never fails and keeps the search sound. -/
theorem step (h : Sound r s (call :: outer)) :
    ∃ s' calls, step? r s call outer = some (s', calls) ∧ Sound r s' calls := by
  cases hkids : call.kids with
  | nil =>
    by_cases hroot : s.mark call.node = s.number call.node
    · exact h.step_root hkids hroot
    · exact h.step_inner hkids hroot
  | cons kid kids => exact h.step_kid hkids

end Sound

theorem found_of_step? {s' : Search} (h : step? r s call outer = some (s', calls)) :
    ∀ a ∈ s.found, a ∈ s'.found := by
  intro a ha
  rcases step?_progress h with ⟨kid, _, hfound, _⟩ | ⟨hfound, _⟩
  · rw [hfound]
    exact List.mem_cons_of_mem _ ha
  · rwa [hfound]

theorem run?_cons {s' : Search} (h : step? r s call outer = some (s', calls)) :
    run? r s (call :: outer) = run? r s' calls := by
  rw [run?]
  split
  · next hnone =>
    rw [h] at hnone
    cases hnone
  · next hsome =>
    rw [h] at hsome
    cases hsome
    rfl

/-- A run ends with no open calls, and nothing that was found is lost. -/
theorem run?_sound (h : Sound r s calls) :
    ∃ s', run? r s calls = some s' ∧ Sound r s' [] ∧ ∀ a ∈ s.found, a ∈ s'.found := by
  induction s, calls using run?.induct r with
  | case1 s => exact ⟨s, by rw [run?], h, fun a ha => ha⟩
  | case2 s call outer hstep =>
    obtain ⟨s', calls, hsome, _⟩ := h.step
    rw [hstep] at hsome
    cases hsome
  | case3 s call outer s' calls hstep ih =>
    obtain ⟨s₁, calls₁, hsome, hsound⟩ := h.step
    rw [hstep] at hsome
    cases hsome
    obtain ⟨s₂, hrun, hend, hfound⟩ := ih hsound
    exact ⟨s₂, (run?_cons hstep).trans hrun, hend, fun a ha => hfound a (found_of_step? hstep a ha)⟩

theorem visit?_sound (h : Sound r s []) (hm : k ∈ r.members) :
    ∃ s', visit? r s k = some s' ∧ Sound r s' [] ∧ k ∈ s'.found ∧ ∀ a ∈ s.found, a ∈ s'.found := by
  by_cases hk : k ∈ s.found
  · exact ⟨s, if_pos hk, h, hk, fun a ha => ha⟩
  · have hstart : Sound r (s.discover k) [Call.on r k] := by
      refine h.discover hk hm rfl (fun _ hc => absurd hc List.not_mem_nil) (fun v hv => ?_) fun a b hab => ?_
      · cases hv
      · exact .inr hab
    obtain ⟨s', hrun, hend, hfound⟩ := run?_sound hstart
    refine ⟨s', (if_neg hk).trans hrun, hend, hfound k List.mem_cons_self, fun a ha => ?_⟩
    exact hfound a (List.mem_cons_of_mem _ ha)

/-- Searches one after the other keep the search sound and find every member. -/
theorem visits_sound {roots : List String} (h : Sound r s []) (hroots : ∀ k ∈ roots, k ∈ r.members) :
    ∃ s', roots.foldlM (visit? r) s = some s' ∧ Sound r s' [] ∧
      (∀ k ∈ roots, k ∈ s'.found) ∧ ∀ a ∈ s.found, a ∈ s'.found := by
  induction roots generalizing s with
  | nil => exact ⟨s, rfl, h, fun k hk => absurd hk List.not_mem_nil, fun a ha => ha⟩
  | cons k roots ih =>
    obtain ⟨hk, hroots⟩ := List.forall_mem_cons.mp hroots
    obtain ⟨s₁, hvisit, hsound, hfirst, hkept⟩ := visit?_sound h hk
    obtain ⟨s₂, hrest, hend, hall, hkept'⟩ := ih hsound hroots
    refine ⟨s₂, ?_, hend, List.forall_mem_cons.mpr ⟨hkept' k hfirst, hall⟩,
      fun a ha => hkept' a (hkept a ha)⟩
    simp only [List.foldlM_cons, hvisit, Option.bind_eq_bind, Option.bind_some, hrest]

/-- With no open call nothing waits. -/
theorem Sound.stack_eq_nil (h : Sound r s []) : s.stack = [] := by
  refine List.eq_nil_iff_forall_not_mem.mpr fun b hb => ?_
  obtain ⟨a, ha, _⟩ := h.linked.up b hb
  cases ha

/-- A table of the components of a relation: each member of the relation stands once, with the members that
it reaches and that reach it. -/
structure Exact (r : Relation String) (table : List (String × List String)) : Prop where
  once : (table.map (·.1)).Nodup
  domain : ∀ a, a ∈ table.map (·.1) ↔ ∃ row ∈ r.rows, a = row.1 ∨ a ∈ row.2
  component : ∀ a members, (a, members) ∈ table →
    ∀ b, b ∈ members ↔ a = b ∨ (r.Reaches a b ∧ r.Reaches b a)
  inside : ∀ members ∈ table.map (·.2), members ≠ [] ∧ ∀ b ∈ members, b ∈ table.map (·.1)
  partition : ∀ a ∈ table.map (·.1), ∃! members, members ∈ table.map (·.2) ∧ a ∈ members

/-- After all members have been visited, the members are filed. -/
theorem Sound.mem_keys (h : Sound r s []) (hall : ∀ k ∈ r.members, k ∈ s.found) {a : String} :
    a ∈ s.result.map (·.1) ↔ a ∈ r.members := by
  rw [h.settled.filed, h.stack_eq_nil]
  exact ⟨fun ha => h.within a ha.1, fun ha => ⟨hall a ha, List.not_mem_nil⟩⟩

namespace Settled

variable {a : String} {members : List String}

theorem lookup_result (h : Settled r s) (hm : (a, members) ∈ s.result) :
    lookup a s.result = some members := lookup_of_mem h.nodup hm

theorem mem_own (h : Settled r s) (hm : (a, members) ∈ s.result) : a ∈ members :=
  (h.component a members (h.lookup_result hm) a).mpr ⟨.refl, .refl⟩

/-- A member is in one component only, the one that is filed under it. -/
theorem eq_of_mem {b : String} {others : List String} (h : Settled r s) (hm : (a, members) ∈ s.result)
    (hb : (b, others) ∈ s.result) (ha : a ∈ others) : others = members := by
  have hshared := h.shared b others (h.lookup_result hb) a ha
  rw [h.lookup_result hm] at hshared
  exact (Option.some.inj hshared).symm

end Settled

/-- In the end the table is that of the components. -/
theorem Sound.exact (h : Sound r s []) (hall : ∀ k ∈ r.members, k ∈ s.found) : Exact r s.result := by
  refine ⟨h.settled.nodup, ?_, ?_, ?_, ?_⟩
  · intro a
    rw [h.mem_keys hall, Relation.members, mem_distinct, List.mem_flatMap]
    simp only [List.mem_cons]
  · intro a members hm b
    rw [h.settled.component a members (h.settled.lookup_result hm) b]
    refine ⟨.inr, fun hab => ?_⟩
    rcases hab with rfl | hab
    · exact ⟨.refl, .refl⟩
    · exact hab
  · intro members hm
    obtain ⟨⟨a, _⟩, ha, rfl⟩ := List.mem_map.mp hm
    refine ⟨List.ne_nil_of_mem (h.settled.mem_own ha), fun b hb => ?_⟩
    exact List.mem_map_of_mem
      (mem_of_lookup (h.settled.shared a _ (h.settled.lookup_result ha) b hb))
  · intro a ha
    obtain ⟨⟨_, members⟩, hm, rfl⟩ := List.mem_map.mp ha
    refine ⟨members, ⟨List.mem_map_of_mem hm, h.settled.mem_own hm⟩, fun others hothers => ?_⟩
    obtain ⟨hmem, hin⟩ := hothers
    obtain ⟨⟨b, _⟩, hb, rfl⟩ := List.mem_map.mp hmem
    exact h.settled.eq_of_mem hm hb hin

/-- The search finds the components of every relation, and the relation shows them in the order of their
members. -/
theorem components_exact (r : Relation String) :
    ∃ table, table? r = some table ∧ r.components = sortOn (·.1) table ∧ Exact r table := by
  have hroots : ∀ k ∈ sortTexts r.members, k ∈ r.members := fun k hk => mem_sortOn.mp hk
  obtain ⟨s, hsearch, hsound, hfound, _⟩ := visits_sound Sound.start hroots
  have htable : table? r = some s.result := by rw [table?, hsearch, Option.map_some]
  refine ⟨s.result, htable, ?_, hsound.exact fun k hk => hfound k (mem_sortOn.mpr hk)⟩
  rw [Relation.components, htable, Option.getD_some]

/-- A cycle, a member on a cycle of its own, and one that only occurs as a child. -/
example : (⟨[("b", ["c", "d"]), ("a", ["b"]), ("c", ["a"]), ("d", ["d", "e"])]⟩ : Relation String).components =
    [("a", ["a", "b", "c"]), ("b", ["a", "b", "c"]), ("c", ["a", "b", "c"]), ("d", ["d"]), ("e", ["e"])] := by
  cbv

end TraversalSdk.Components
