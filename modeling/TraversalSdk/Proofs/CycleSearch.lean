import Mathlib.Data.List.Permutation
import TraversalSdk.Proofs.CyclePaths
import TraversalSdk.Proofs.ExactComponents

namespace TraversalSdk.Cycles

open Components (Pending Call)

/-- Visits within each other: every way goes through the visits around, and children wait once each. -/
inductive Nested (r : Relation String) : List Visit → Prop
  | nil : Nested r []
  | cons {v : Visit} {outer : List Visit} (hpath : v.path = (outer.map (·.node)).reverse)
    (hstep : ∀ around ∈ (outer.map (·.node)).head?, v.node ∈ r.next around)
    (hkids : ∀ kid ∈ v.kids, kid ∈ r.next v.node) (honce : v.kids.Nodup) (houter : Nested r outer) :
    Nested r (v :: outer)

variable {r : Relation String} {s : Search} {v : Visit} {outer visits : List Visit}
  {done kids : List String} {a b kid name : String}

/-- Open members from the outermost on, then those whose visits are over, the last of them first. A step of
the relation that has been looked at leads forwards in this order or closes a reported cycle. -/
def order (visits : List Visit) (done : List String) : List String :=
  (visits.map (·.node)).reverse ++ done

/-- What holds of a search at every step. -/
structure Sound (r : Relation String) (s : Search) (visits : List Visit) (done : List String) : Prop where
  nested : Nested r visits
  inside_iff : ∀ a, a ∈ s.inside ↔ a ∈ visits.map (·.node)
  visited_iff : ∀ a, a ∈ s.visited ↔ a ∈ order visits done
  once : (order visits done).Nodup
  ahead : ∀ a ∈ s.visited, ∀ b ∈ r.next a, Pending (visits.map Visit.toCall) a b ∨
    (∃ p ∈ s.cycles, Closes p a b) ∨ [a, b].Sublist (order visits done)
  cycle : ∀ p ∈ s.cycles, IsCycle r p
  looked : ∀ p ∈ s.cycles, ∀ a b, Closes p a b →
    a ∈ s.visited ∧ ¬Pending (visits.map Visit.toCall) a b
  apart : s.cycles.Pairwise fun p q => ∀ a b, Closes p a b → ¬Closes q a b

namespace Nested

/-- The way of a visit goes through all visits around it. -/
theorem way (h : Nested r (v :: outer)) : v.way = ((v :: outer).map (·.node)).reverse := by
  cases h with
  | cons hpath => rw [Visit.way, hpath, List.map_cons, List.reverse_cons]

/-- Open visits follow each other along the relation. -/
theorem steps (h : Nested r visits) :
    (visits.map (·.node)).reverse.IsChain fun a b => b ∈ r.next a := by
  rw [List.isChain_reverse]
  induction h with
  | nil => exact .nil
  | cons _ hstep _ _ _ ih => exact ih.cons hstep

/-- Looking at a child leaves the others waiting. -/
theorem look (h : Nested r (v :: outer)) (hkids : v.kids = kid :: kids) :
    Nested r ({ v with kids := kids } :: outer) ∧ kid ∈ r.next v.node ∧ kid ∉ kids := by
  cases h with
  | cons hpath hstep hnext honce houter =>
    rw [hkids] at hnext honce
    obtain ⟨hnext, hrest⟩ := List.forall_mem_cons.mp hnext
    obtain ⟨hnot, honce⟩ := List.nodup_cons.mp honce
    exact ⟨.cons hpath hstep hrest honce houter, hnext, hnot⟩

theorem leave (h : Nested r (v :: outer)) : Nested r outer := by
  cases h with
  | cons _ _ _ _ houter => exact houter

theorem enter (hr : ∀ a, (r.next a).Nodup) (h : Nested r (v :: outer)) (hnext : kid ∈ r.next v.node) :
    Nested r (Visit.on r kid v.way :: v :: outer) := by
  refine .cons h.way (fun around haround => ?_) (fun b hb => mem_sortOn.mp hb)
    ((sortOn_perm id _).nodup_iff.mpr (hr kid)) h
  cases haround
  exact hnext

theorem start (hr : ∀ a, (r.next a).Nodup) (name : String) : Nested r [Visit.on r name []] :=
  .cons rfl (fun _ h => absurd h (by simp)) (fun b hb => mem_sortOn.mp hb)
    ((sortOn_perm id _).nodup_iff.mpr (hr name)) .nil

end Nested

/-- The end of a visit does not change the order. -/
theorem order_leave : order (v :: outer) done = order outer (v.node :: done) := by
  simp [order]

/-- A step to a member whose visit is over leads forwards. -/
theorem sublist_order (h : b ∈ done) : [v.node, b].Sublist (order (v :: outer) done) := by
  rw [order_leave]
  exact ((List.singleton_sublist.mpr h).cons_cons _).trans (List.sublist_append_right _ _)

theorem pending_of_rest (hkids : v.kids = kid :: kids)
    (h : Pending (({ v with kids := kids } :: outer).map Visit.toCall) a b) :
    Pending ((v :: outer).map Visit.toCall) a b := by
  obtain ⟨call, hcall, rfl, hb⟩ := h
  rcases List.mem_cons.mp hcall with rfl | hcall
  · refine ⟨v.toCall, List.mem_cons_self, rfl, ?_⟩
    rw [hkids]
    exact List.mem_cons_of_mem _ hb
  · exact ⟨call, List.mem_cons_of_mem _ hcall, rfl, hb⟩

namespace Sound

theorem start : Sound r .start [] [] where
  nested := .nil
  inside_iff := fun _ => Iff.rfl
  visited_iff := fun _ => Iff.rfl
  once := .nil
  ahead := fun _ h => absurd h List.not_mem_nil
  cycle := fun _ h => absurd h List.not_mem_nil
  looked := fun _ h => absurd h List.not_mem_nil
  apart := .nil

theorem nodes_nodup (h : Sound r s visits done) : (visits.map (·.node)).Nodup :=
  List.nodup_reverse.mp (List.Nodup.of_append_left h.once)

theorem node_visited (h : Sound r s (v :: outer) done) : v.node ∈ s.visited :=
  (h.visited_iff _).mpr (by simp [order])

/-- A child waits once, so that it waits no more once it has been looked at. -/
theorem not_pending (h : Sound r s (v :: outer) done) (hkids : v.kids = kid :: kids) :
    ¬Pending (({ v with kids := kids } :: outer).map Visit.toCall) v.node kid := by
  rintro ⟨call, hcall, hnode, hkid⟩
  rcases List.mem_cons.mp hcall with rfl | hcall
  · exact (h.nested.look hkids).2.2 hkid
  · obtain ⟨around, haround, rfl⟩ := List.mem_map.mp hcall
    exact (List.nodup_cons.mp h.nodes_nodup).1 (List.mem_map.mpr ⟨around, haround, hnode⟩)

/-- A child that has been left stands behind. -/
theorem skip (h : Sound r s (v :: outer) done) (hkids : v.kids = kid :: kids) (hin : kid ∉ s.inside)
    (hvisited : kid ∈ s.visited) : Sound r s ({ v with kids := kids } :: outer) done where
  nested := (h.nested.look hkids).1
  inside_iff := h.inside_iff
  visited_iff := h.visited_iff
  once := h.once
  ahead := by
    have hdone : kid ∈ done := by
      rcases List.mem_append.mp ((h.visited_iff _).mp hvisited) with hopen | hdone
      · exact absurd ((h.inside_iff _).mpr (List.mem_reverse.mp hopen)) hin
      · exact hdone
    intro a ha b hb
    rcases h.ahead a ha b hb with hab | hab
    · rcases hab.look hkids with ⟨rfl, rfl⟩ | hab
      · exact .inr (.inr (sublist_order hdone))
      · exact .inl hab
    · exact .inr hab
  cycle := h.cycle
  looked := fun p hp a b hab => (h.looked p hp a b hab).imp_right fun hn hw => hn (pending_of_rest hkids hw)
  apart := h.apart

/-- A child that is still open closes a cycle, which no cycle found before ends like. -/
theorem report (h : Sound r s (v :: outer) done) (hkids : v.kids = kid :: kids) (hin : kid ∈ s.inside) :
    ∃ cycle, closing? v.way kid = some cycle ∧
      Sound r (s.report cycle) ({ v with kids := kids } :: outer) done := by
  obtain ⟨hnested, hnext, _⟩ := h.nested.look hkids
  have hway : v.way = ((v :: outer).map (·.node)).reverse := h.nested.way
  have hlast : v.way.getLast? = some v.node := List.getLast?_concat
  have hmem : kid ∈ v.way := by
    rw [hway, List.mem_reverse]
    exact (h.inside_iff kid).mp hin
  obtain ⟨cycle, hclosing, hcycle, hcloses⟩ :=
    closing?_isCycle (hway ▸ List.nodup_reverse.mpr h.nodes_nodup) (hway ▸ h.nested.steps) hlast hnext hmem
  refine ⟨cycle, hclosing, hnested, h.inside_iff, h.visited_iff, h.once, ?_, ?_, ?_, ?_⟩
  · intro a ha b hb
    rcases h.ahead a ha b hb with hab | ⟨p, hp, hab⟩ | hab
    · rcases hab.look hkids with ⟨rfl, rfl⟩ | hab
      · exact .inr (.inl ⟨cycle, List.mem_append_right _ List.mem_cons_self, (hcloses _ _).mpr ⟨rfl, rfl⟩⟩)
      · exact .inl hab
    · exact .inr (.inl ⟨p, List.mem_append_left _ hp, hab⟩)
    · exact .inr (.inr hab)
  · exact List.forall_mem_append.mpr ⟨h.cycle, List.forall_mem_singleton.mpr hcycle⟩
  · refine List.forall_mem_append.mpr ⟨fun p hp a b hab => ?_, ?_⟩
    · exact (h.looked p hp a b hab).imp_right fun hn hw => hn (pending_of_rest hkids hw)
    · refine List.forall_mem_singleton.mpr fun a b hab => ?_
      obtain ⟨rfl, rfl⟩ := (hcloses a b).mp hab
      exact ⟨h.node_visited, h.not_pending hkids⟩
  · refine List.pairwise_append.mpr ⟨h.apart, List.pairwise_singleton _ _, fun p hp q hq a b hab hq' => ?_⟩
    have hkid : kid ∈ v.kids := by simp [hkids]
    obtain rfl := List.mem_singleton.mp hq
    obtain ⟨rfl, rfl⟩ := (hcloses a b).mp hq'
    exact (h.looked p hp _ _ hab).2 ⟨v.toCall, List.mem_cons_self, rfl, hkid⟩

/-- A member is entered, as a child of the innermost visit or as the start of a search. Only steps to it are
settled by that. -/
theorem enter {path : List String} {rest : List Visit} (h : Sound r s visits done) (hnew : name ∉ s.visited)
    (hnodes : rest.map (·.node) = visits.map (·.node)) (hnested : Nested r (Visit.on r name path :: rest))
    (hback : ∀ a b, Pending (rest.map Visit.toCall) a b → Pending (visits.map Visit.toCall) a b)
    (hpending : ∀ a b, Pending (visits.map Visit.toCall) a b →
      Pending (rest.map Visit.toCall) a b ∨ [a, b].Sublist (order rest (name :: done))) :
    Sound r (s.enter name) (Visit.on r name path :: rest) done := by
  have horder : order rest done = order visits done := by rw [order, order, hnodes]
  have hperm : (order rest (name :: done)).Perm (name :: order visits done) := by
    rw [← horder]
    exact List.perm_middle
  have hgrown : (order visits done).Sublist (order rest (name :: done)) := by
    rw [← horder]
    exact (List.Sublist.refl _).append (List.sublist_cons_self _ _)
  refine ⟨hnested, fun a => ?_, fun a => ?_, ?_, ?_, h.cycle, ?_, h.apart⟩
  · rw [List.map_cons, hnodes, List.mem_cons, ← h.inside_iff a]
    exact List.mem_cons
  · rw [order_leave]
    refine Iff.trans ?_ hperm.mem_iff.symm
    rw [List.mem_cons, ← h.visited_iff a]
    exact List.mem_cons
  · rw [order_leave]
    exact hperm.nodup_iff.mpr (List.nodup_cons.mpr ⟨fun hn => hnew ((h.visited_iff _).mpr hn), h.once⟩)
  · rw [order_leave]
    refine List.forall_mem_cons.mpr ⟨fun b hb => ?_, fun a ha b hb => ?_⟩
    · exact .inl ⟨_, List.mem_cons_self, rfl, mem_sortOn.mpr hb⟩
    · rcases h.ahead a ha b hb with hab | hab | hab
      · exact (hpending a b hab).imp .cons .inr
      · exact .inr (.inl hab)
      · exact .inr (.inr (hab.trans hgrown))
  · intro p hp a b hab
    obtain ⟨ha, hn⟩ := h.looked p hp a b hab
    refine ⟨List.mem_cons_of_mem _ ha, fun hw => ?_⟩
    obtain ⟨call, hcall, rfl, hb⟩ := hw
    rcases List.mem_cons.mp hcall with rfl | hcall
    · exact hnew ha
    · exact hn (hback _ _ ⟨call, hcall, rfl, hb⟩)

/-- A visit is over when no child waits. -/
theorem leave (h : Sound r s (v :: outer) done) (hkids : v.kids = []) :
    Sound r (s.leave v.node) outer (v.node :: done) where
  nested := h.nested.leave
  inside_iff := by
    intro a
    have hnot : v.node ∉ outer.map (·.node) := (List.nodup_cons.mp h.nodes_nodup).1
    rw [Search.leave, List.mem_filter, h.inside_iff a, List.map_cons, List.mem_cons]
    constructor
    · rintro ⟨ha | ha, hne⟩
      · exact absurd ha (by simpa using hne)
      · exact ha
    · exact fun ha => ⟨.inr ha, by simpa using ne_of_mem_of_not_mem ha hnot⟩
  visited_iff := fun a => by rw [← order_leave]; exact h.visited_iff a
  once := by rw [← order_leave]; exact h.once
  ahead := by
    intro a ha b hb
    rw [← order_leave]
    exact (h.ahead a ha b hb).imp_left (·.done hkids)
  cycle := h.cycle
  looked := by
    intro p hp a b hab
    exact (h.looked p hp a b hab).imp_right fun hn hw => hn hw.cons
  apart := h.apart

/-- A step of the search never fails and keeps the search sound. -/
theorem step (hr : ∀ a, (r.next a).Nodup) (h : Sound r s (v :: outer) done) :
    ∃ s' visits done', step? r s v outer = some (s', visits) ∧ Sound r s' visits done' := by
  unfold step?
  cases hkids : v.kids with
  | nil => exact ⟨_, _, _, rfl, h.leave hkids⟩
  | cons kid kids =>
    dsimp only
    by_cases hin : kid ∈ s.inside
    · obtain ⟨cycle, hclosing, hsound⟩ := h.report hkids hin
      rw [if_pos hin, hclosing]
      exact ⟨_, _, _, rfl, hsound⟩
    rw [if_neg hin]
    by_cases hvisited : kid ∈ s.visited
    · rw [if_pos hvisited]
      exact ⟨_, _, _, rfl, h.skip hkids hin hvisited⟩
    · rw [if_neg hvisited]
      obtain ⟨hnested, hnext, _⟩ := h.nested.look hkids
      refine ⟨_, _, _, rfl, h.enter hvisited rfl (hnested.enter hr hnext) ?_ fun a b hab => ?_⟩
      · exact fun _ _ => pending_of_rest hkids
      · rcases hab.look hkids with ⟨rfl, rfl⟩ | hab
        · exact .inr (sublist_order List.mem_cons_self)
        · exact .inl hab

end Sound

theorem visited_of_step? {s' : Search} (h : step? r s v outer = some (s', visits)) :
    ∀ a ∈ s.visited, a ∈ s'.visited := by
  intro a ha
  rcases step?_progress h with ⟨kid, _, hvisited, _⟩ | ⟨hvisited, _⟩
  · rw [hvisited]
    exact List.mem_cons_of_mem _ ha
  · rwa [hvisited]

theorem run?_cons {s' : Search} (h : step? r s v outer = some (s', visits)) :
    run? r s (v :: outer) = run? r s' visits := by
  rw [run?]
  split
  · next hnone =>
    rw [h] at hnone
    cases hnone
  · next hsome =>
    rw [h] at hsome
    cases hsome
    rfl

/-- A run ends with no open visit, and what was visited stays so. -/
theorem run?_sound (hr : ∀ a, (r.next a).Nodup) (h : Sound r s visits done) :
    ∃ s' done', run? r s visits = some s' ∧ Sound r s' [] done' ∧ ∀ a ∈ s.visited, a ∈ s'.visited := by
  induction s, visits using run?.induct r generalizing done with
  | case1 s => exact ⟨s, done, by rw [run?], h, fun a ha => ha⟩
  | case2 s v outer hstep =>
    obtain ⟨s', visits, _, hsome, _⟩ := h.step hr
    rw [hstep] at hsome
    cases hsome
  | case3 s v outer s' visits hstep ih =>
    obtain ⟨s₁, visits₁, done₁, hsome, hsound⟩ := h.step hr
    rw [hstep] at hsome
    cases hsome
    obtain ⟨s₂, done₂, hrun, hend, hvisited⟩ := ih hsound
    refine ⟨s₂, done₂, (run?_cons hstep).trans hrun, hend, fun a ha => ?_⟩
    exact hvisited a (visited_of_step? hstep a ha)

theorem visit?_sound (hr : ∀ a, (r.next a).Nodup) (h : Sound r s [] done) (name : String) :
    ∃ s' done', visit? r s name = some s' ∧ Sound r s' [] done' ∧ name ∈ s'.visited ∧
      ∀ a ∈ s.visited, a ∈ s'.visited := by
  by_cases hname : name ∈ s.visited
  · exact ⟨s, done, if_pos hname, h, hname, fun a ha => ha⟩
  · have hstart : Sound r (s.enter name) [Visit.on r name []] done :=
      h.enter hname rfl (.start hr name) (fun _ _ hab => hab) fun _ _ hab => .inl hab
    obtain ⟨s', done', hrun, hend, hvisited⟩ := run?_sound hr hstart
    refine ⟨s', done', (if_neg hname).trans hrun, hend, hvisited name List.mem_cons_self, fun a ha => ?_⟩
    exact hvisited a (List.mem_cons_of_mem _ ha)

/-- Visits one after the other keep the search sound, and in the end every name has been visited. -/
theorem visits_sound (hr : ∀ a, (r.next a).Nodup) (h : Sound r s [] done) (names : List String) :
    ∃ s' done', names.foldlM (visit? r) s = some s' ∧ Sound r s' [] done' ∧
      (∀ name ∈ names, name ∈ s'.visited) ∧ ∀ a ∈ s.visited, a ∈ s'.visited := by
  induction names generalizing s done with
  | nil => exact ⟨s, done, rfl, h, fun a ha => absurd ha List.not_mem_nil, fun a ha => ha⟩
  | cons name names ih =>
    obtain ⟨s₁, done₁, hvisit, hsound, hfirst, hkept⟩ := visit?_sound hr h name
    obtain ⟨s₂, done₂, hrest, hend, hall, hkept'⟩ := ih hsound
    refine ⟨s₂, done₂, ?_, hend, List.forall_mem_cons.mpr ⟨hkept' name hfirst, hall⟩,
      fun a ha => hkept' a (hkept a ha)⟩
    simp only [List.foldlM_cons, hvisit, Option.bind_eq_bind, Option.bind_some, hrest]

/-- Cycles of a relation that its recursive structures have each one of. -/
structure Exhaustive (r : Relation String) (cycles : List (List String)) : Prop where
  cycle : ∀ p ∈ cycles, IsCycle r p
  /-- No two cycles end with the same step. -/
  apart : cycles.Pairwise fun p q => ∀ a b, Closes p a b → ¬Closes q a b
  /-- Without the last steps of the cycles nothing leads back to itself. -/
  broken : ∀ a, ¬Relation.TransGen (fun a b => b ∈ r.next a ∧ ∀ p ∈ cycles, ¬Closes p a b) a a
  eq_nil_iff : cycles = [] ↔ ∀ a, ¬Relation.TransGen (fun a b => b ∈ r.next a) a a
  /-- A step within a component comes with a cycle within that component. -/
  component : ∀ a b, b ∈ r.next a → r.Reaches b a →
    ∃ p ∈ cycles, ∀ x ∈ p, r.Reaches a x ∧ r.Reaches x a

/-- A way on which not every step has a property takes a step without it. -/
theorem exists_step_of_not {R Q : String → String → Prop} (h : Relation.TransGen R a b)
    (hn : ¬Relation.TransGen (fun a b => R a b ∧ Q a b) a b) :
    ∃ x y, Relation.ReflTransGen R a x ∧ R x y ∧ ¬Q x y ∧ Relation.ReflTransGen R y b := by
  induction h with
  | @single b hab => exact ⟨a, b, .refl, hab, fun hq => hn (.single ⟨hab, hq⟩), .refl⟩
  | @tail b c hab hbc ih =>
    by_cases hall : Relation.TransGen (fun a b => R a b ∧ Q a b) a b
    · exact ⟨b, c, hab.to_reflTransGen, hbc, fun hq => hn (hall.tail ⟨hbc, hq⟩), .refl⟩
    · obtain ⟨x, y, hax, hxy, hq, hyb⟩ := ih hall
      exact ⟨x, y, hax, hxy, hq, hyb.tail hbc⟩

theorem mem_names_of_next (h : b ∈ r.next a) : a ∈ sortTexts (r.rows.map (·.1)) := by
  obtain ⟨kids, hrow, _⟩ := Relation.exists_row_of_next h
  exact mem_sortOn.mpr (List.mem_map.mpr ⟨_, hrow, rfl⟩)

/-- A search that is over is exhaustive if every member with a row has been visited. -/
theorem Sound.exhaustive (h : Sound r s [] done)
    (hall : ∀ name ∈ sortTexts (r.rows.map (·.1)), name ∈ s.visited) : Exhaustive r s.cycles := by
  have hahead {a b : String} (hab : b ∈ r.next a) :
      (∃ p ∈ s.cycles, Closes p a b) ∨ [a, b].Sublist (order [] done) := by
    rcases h.ahead a (hall a (mem_names_of_next hab)) b hab with ⟨call, hcall, _⟩ | hab
    · cases hcall
    · exact hab
  have hbroken : ∀ a, ¬Relation.TransGen
      (fun a b => b ∈ r.next a ∧ ∀ p ∈ s.cycles, ¬Closes p a b) a a := by
    refine acyclic_of_sublist h.once fun a b ⟨hab, hopen⟩ => (hahead hab).resolve_left ?_
    rintro ⟨p, hp, hcloses⟩
    exact hopen p hp hcloses
  refine ⟨h.cycle, h.apart, hbroken, ⟨fun hnil a haa => ?_, fun hnone => ?_⟩, fun a b hab hba => ?_⟩
  · exact hbroken a (Relation.TransGen.mono (fun a b hab => ⟨hab, by simp [hnil]⟩) a a haa)
  · refine List.eq_nil_iff_forall_not_mem.mpr fun p hp => ?_
    obtain ⟨a, haa⟩ := (h.cycle p hp).exists_transGen
    exact hnone a haa
  · have haa : Relation.TransGen (fun a b => b ∈ r.next a) a a := .head' hab hba
    obtain ⟨x, y, hax, hxy, hcloses, hya⟩ := exists_step_of_not haa (hbroken a)
    push Not at hcloses
    obtain ⟨p, hp, hcloses⟩ := hcloses
    have hx : x ∈ p := hcloses.subset List.mem_cons_self
    refine ⟨p, hp, fun z hz => ⟨?_, ?_⟩⟩
    · exact hax.trans ((h.cycle p hp).reaches hx hz)
    · exact ((h.cycle p hp).reaches hz hx).trans (Relation.Reaches.step hxy hya)

/-- The search for cycles gives a result for every relation whose rows hold nothing twice, and misses no
recursive structure. -/
theorem find_exhaustive (r : Relation String) (h : ∀ row ∈ r.rows, row.2.Nodup) :
    find? r = some (find r) ∧ Exhaustive r (find r) := by
  have hr : ∀ a, (r.next a).Nodup := by
    intro a
    rw [Relation.next]
    cases hl : lookup a r.rows with
    | none => exact .nil
    | some kids => exact h _ (mem_of_lookup hl)
  obtain ⟨s, done, hvisits, hsound, hall, _⟩ := visits_sound hr .start (sortTexts (r.rows.map (·.1)))
  have hfind : find? r = some s.cycles := by rw [find?, hvisits, Option.map_some]
  rw [find, hfind]
  exact ⟨rfl, hsound.exhaustive hall⟩

/-- Two members around each other next to one that follows itself. -/
theorem find_exhaustive_loops :
    (∀ row ∈ [("b", ["c", "d"]), ("a", ["b"]), ("c", ["a"]), ("d", ["d", "e"])], row.2.Nodup) ∧
      Exhaustive ⟨[("b", ["c", "d"]), ("a", ["b"]), ("c", ["a"]), ("d", ["d", "e"])]⟩
        [["a", "b", "c", "a"], ["d", "d"]] := by
  have h : ∀ row ∈ [("b", ["c", "d"]), ("a", ["b"]), ("c", ["a"]), ("d", ["d", "e"])], row.2.Nodup := by
    decide
  have hfind : find ⟨[("b", ["c", "d"]), ("a", ["b"]), ("c", ["a"]), ("d", ["d", "e"])]⟩ =
      [["a", "b", "c", "a"], ["d", "d"]] := by
    cbv
  exact ⟨h, hfind ▸ (find_exhaustive _ h).2⟩

end TraversalSdk.Cycles
