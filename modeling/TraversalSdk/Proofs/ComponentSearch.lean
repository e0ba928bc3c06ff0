import TraversalSdk.Proofs.SearchStack

namespace TraversalSdk.Components

/-- Members that have been found and wait no more are filed, each under its component, and nothing leads from
them to a member that waits. -/
structure Settled (r : Relation String) (s : Search) : Prop where
  closed : ∀ a ∈ s.found, a ∉ s.stack → ∀ b ∈ r.next a, b ∈ s.found ∧ b ∉ s.stack
  filed : ∀ a, a ∈ s.result.map (·.1) ↔ a ∈ s.found ∧ a ∉ s.stack
  component : ∀ a members, lookup a s.result = some members →
    ∀ b, b ∈ members ↔ r.Reaches a b ∧ r.Reaches b a
  shared : ∀ a members, lookup a s.result = some members →
    ∀ b ∈ members, lookup b s.result = some members
  nodup : (s.result.map (·.1)).Nodup

/-- Marks are reached, and no edge that has been looked at leads below them: from the stack above an open
member it leads to a member that waits only if an open one from there on has a mark as low. -/
structure Tracked (r : Relation String) (s : Search) (nodes : List String)
    (pending : String → String → Prop) : Prop where
  looked : ∀ a ∈ s.found, ∀ b ∈ r.next a, b ∈ s.found ∨ pending a b
  reached : ∀ a ∈ nodes, ∃ b ∈ s.stack, s.number b = s.mark a ∧ s.number b ≤ s.number a ∧
    r.Reaches a b
  bound : ∀ p ∈ nodes, ∀ a ∈ s.stack, s.number p ≤ s.number a → ∀ b ∈ r.next a, b ∈ s.stack →
    pending a b ∨ ∃ q ∈ nodes, s.number p ≤ s.number q ∧ s.mark q ≤ s.number b

variable {r : Relation String} {s : Search} {nodes : List String} {v k : String}
  {pending pending' : String → String → Prop} {members rest : List String}

/-- Filing members under a value leaves the values of all others as they are. -/
theorem lookup_foldl_assign {ms : List String} {value : List String} {a : String}
    {pairs : List (String × List String)} :
    lookup a (ms.foldl (fun pairs m => assign m value pairs) pairs) =
      if a ∈ ms then some value else lookup a pairs := by
  induction ms generalizing pairs with
  | nil => simp
  | cons m ms ih =>
    rw [List.foldl_cons, ih, lookup_assign]
    by_cases ha : a ∈ ms
    · simp [ha]
    · by_cases hm : m = a
      · simp [hm]
      · simp [ha, hm, Ne.symm hm]

theorem nodup_foldl_assign {ms : List String} {value : List String} {pairs : List (String × List String)}
    (h : (pairs.map Prod.fst).Nodup) :
    ((ms.foldl (fun pairs m => assign m value pairs) pairs).map Prod.fst).Nodup := by
  induction ms generalizing pairs with
  | nil => exact h
  | cons m ms ih => exact ih (nodup_assign h m value)

namespace Settled

theorem discover (h : Settled r s) (ho : Ordered s nodes) (hk : k ∉ s.found) :
    Settled r (s.discover k) := by
  have hstack : k ∉ s.stack := fun hs => hk (ho.found k hs)
  refine ⟨?_, ?_, h.component, h.shared, h.nodup⟩
  · intro a ha hna b hb
    obtain ⟨hne, hna⟩ := not_or.mp (mt List.mem_cons.mpr hna)
    have ha : a ∈ s.found := (List.mem_cons.mp ha).resolve_left hne
    obtain ⟨hfound, hnb⟩ := h.closed a ha hna b hb
    refine ⟨List.mem_cons_of_mem _ hfound, fun hmem => ?_⟩
    rcases List.mem_cons.mp hmem with rfl | hmem
    · exact hk hfound
    · exact hnb hmem
  · intro a
    rw [show (s.discover k).result = s.result from rfl, h.filed a]
    change _ ↔ a ∈ k :: s.found ∧ a ∉ k :: s.stack
    by_cases hak : a = k
    · simp [hak, hk]
    · simp [hak]

theorem setMark (h : Settled r s) (n : Nat) : Settled r (s.setMark v n) :=
  ⟨h.closed, h.filed, h.component, h.shared, h.nodup⟩

/-- What is filed leads to what is filed. -/
theorem reaches (h : Settled r s) {a b : String} (hab : r.Reaches a b) (ha : a ∈ s.found ∧ a ∉ s.stack) :
    b ∈ s.found ∧ b ∉ s.stack :=
  hab.inside (fun a ha b hb => h.closed a ha.1 ha.2 b hb) ha

section

variable (h : Settled r s) (ho : Ordered s (v :: nodes)) (hcut : Cut s v members rest)
  (hclosed : ∀ a ∈ members, ∀ b ∈ r.next a, b ∈ s.found ∧ b ∉ rest)

include h ho hcut hclosed

omit ho in
/-- With the members of a cut taken off the stack, nothing leads from there to what still waits. -/
theorem stays : ∀ a ∈ s.found, a ∉ rest → ∀ b ∈ r.next a, b ∈ s.found ∧ b ∉ rest := by
  intro a ha hna b hb
  by_cases hmem : a ∈ members
  · exact hclosed a hmem b hb
  · have hstack : a ∉ s.stack := fun hs => (hcut.mem_stack.mp hs).elim hmem hna
    obtain ⟨hfound, hnb⟩ := h.closed a ha hstack b hb
    exact ⟨hfound, fun hr => hnb (hcut.mem_rest.mp hr).1⟩

/-- The members of a cut are a component if they reach the lowest of them and are reached from it. -/
theorem members_component (hall : ∀ a ∈ members, r.Reaches v a ∧ r.Reaches a v) {a b : String}
    (ha : a ∈ members) : b ∈ members ↔ r.Reaches a b ∧ r.Reaches b a := by
  constructor
  · intro hb
    exact ⟨(hall a ha).2.trans (hall b hb).1, (hall b hb).2.trans (hall a ha).1⟩
  · intro hab
    have hstack : a ∈ s.stack := hcut.mem_stack.mpr (.inl ha)
    obtain ⟨hb, hnb⟩ := hab.1.inside (P := fun b => b ∈ s.found ∧ b ∉ rest)
      (fun a ha b hb => h.stays hcut hclosed a ha.1 ha.2 b hb) ⟨ho.found a hstack, hcut.not_mem_rest ha⟩
    -- outside of the members it would be filed, and what is filed does not lead back to the stack
    by_contra hout
    have hfiled : b ∈ s.found ∧ b ∉ s.stack := ⟨hb, fun hs => (hcut.mem_stack.mp hs).elim hout hnb⟩
    exact (h.reaches hab.2 hfiled).2 hstack

/-- The part of the stack from a member on upwards is filed, if nothing leads out of it to the rest of the
stack and all of it reaches that member and is reached from it. -/
theorem file (hall : ∀ a ∈ members, r.Reaches v a ∧ r.Reaches a v) : Settled r (s.file members rest) := by
  have hlookup (a : String) : lookup a (s.file members rest).result =
      if a ∈ members then some (sortTexts members) else lookup a s.result := lookup_foldl_assign
  refine ⟨h.stays hcut hclosed, ?_, ?_, ?_, nodup_foldl_assign h.nodup⟩
  · intro a
    rw [← not_iff_not, ← lookup_eq_none_iff, hlookup a]
    by_cases ha : a ∈ members
    · have hfound : a ∈ (s.file members rest).found := ho.found a (hcut.mem_stack.mpr (.inl ha))
      have hgone : a ∉ (s.file members rest).stack := hcut.not_mem_rest ha
      simp [ha, hfound, hgone]
    · rw [if_neg ha, lookup_eq_none_iff, h.filed a, hcut.mem_stack]
      change ¬_ ↔ ¬(a ∈ s.found ∧ a ∉ rest)
      simp [ha]
  · intro a ms hms b
    rw [hlookup a] at hms
    split at hms
    · next ha =>
      cases hms
      rw [sortTexts, mem_sortOn]
      exact h.members_component ho hcut hclosed hall ha
    · exact h.component a ms hms b
  · intro a ms hms b hb
    rw [hlookup a] at hms
    rw [hlookup b]
    split at hms
    · cases hms
      rw [if_pos (mem_sortOn.mp hb)]
    · have hshared := h.shared a ms hms b hb
      have hfiled : b ∈ s.result.map (·.1) := by
        by_contra hnone
        rw [lookup_eq_none_iff.mpr hnone] at hshared
        cases hshared
      have hout : b ∉ members := fun hm => ((h.filed b).mp hfiled).2 (hcut.mem_stack.mpr (.inl hm))
      rw [if_neg hout, hshared]

end

end Settled

namespace Tracked

section

variable (h : Tracked r s nodes pending) (ho : Ordered s nodes) (hk : k ∉ s.found)
  (hold : ∀ a b, pending a b → b = k ∨ pending' a b)

include h ho hk hold

/-- The edges of what waits stay tracked when a member is found; one that leads to it leads no lower than its
mark. -/
theorem bound_discover {p a b : String} (hp : p ∈ nodes) (ha : a ∈ s.stack)
    (hle : s.number p ≤ s.number a) (hb : b ∈ r.next a) (hbs : b ∈ (s.discover k).stack) :
    pending' a b ∨ ∃ q ∈ k :: nodes, (s.discover k).number p ≤ (s.discover k).number q ∧
      (s.discover k).mark q ≤ (s.discover k).number b := by
  have hps : p ∈ s.stack := ho.waits p hp
  rcases List.mem_cons.mp hbs with rfl | hbo
  · refine .inr ⟨b, List.mem_cons_self, ?_, ?_⟩
    · rw [Search.number_discover_self, ho.number_discover hk hps]
      exact Nat.le_of_lt (ho.below p hps)
    · exact Nat.le_of_eq (Search.mark_discover_self.trans Search.number_discover_self.symm)
  · rcases h.bound p hp a ha hle b hb hbo with hpending | hq
    · exact .inl ((hold a b hpending).resolve_left (ho.ne_new hk hbo))
    · obtain ⟨q, hq, hpq, hqb⟩ := hq
      have hqs : q ∈ s.stack := ho.waits q hq
      refine .inr ⟨q, List.mem_cons_of_mem _ hq, ?_, ?_⟩
      · rwa [ho.number_discover hk hps, ho.number_discover hk hqs]
      · rwa [Search.mark_discover (ho.ne_new hk hqs), ho.number_discover hk hbo]

theorem discover (hnew : ∀ b ∈ r.next k, pending' k b) :
    Tracked r (s.discover k) (k :: nodes) pending' := by
  refine ⟨?_, ?_, ?_⟩
  · intro a ha b hb
    rcases List.mem_cons.mp ha with rfl | ha
    · exact .inr (hnew b hb)
    · rcases h.looked a ha b hb with hfound | hpending
      · exact .inl (List.mem_cons_of_mem _ hfound)
      · rcases hold a b hpending with rfl | hpending
        · exact .inl List.mem_cons_self
        · exact .inr hpending
  · intro a ha
    rcases List.mem_cons.mp ha with rfl | ha
    · refine ⟨a, List.mem_cons_self, ?_, Nat.le_refl _, .refl⟩
      rw [Search.number_discover_self, Search.mark_discover_self]
    · obtain ⟨b, hb, heq, hle, hreach⟩ := h.reached a ha
      have has : a ∈ s.stack := ho.waits a ha
      refine ⟨b, List.mem_cons_of_mem _ hb, ?_, ?_, hreach⟩
      · rw [ho.number_discover hk hb, Search.mark_discover (ho.ne_new hk has), heq]
      · rwa [ho.number_discover hk hb, ho.number_discover hk has]
  · intro p hp a ha hle b hb hbs
    rcases List.mem_cons.mp ha with rfl | hwas
    · exact .inl (hnew b hb)
    · -- an open member other than the new one lies at or below `a`
      have hpo : p ∈ nodes := by
        refine (List.mem_cons.mp hp).resolve_left fun heq => ?_
        rw [heq, Search.number_discover_self, ho.number_discover hk hwas] at hle
        exact absurd (ho.below a hwas) (Nat.not_lt.mpr hle)
      rw [ho.number_discover hk hwas, ho.number_discover hk (ho.waits p hpo)] at hle
      exact h.bound_discover ho hk hold hpo hwas hle hb hbs

end

/-- An edge need no longer be looked at once it leads to a member that is filed, or that waits and is not
below the mark of an open member from the start of the edge on. -/
theorem resolve (h : Tracked r s nodes pending)
    (hres : ∀ a b, pending a b → pending' a b ∨ (b ∈ s.found ∧
      (b ∈ s.stack → ∃ q ∈ nodes, s.number a ≤ s.number q ∧ s.mark q ≤ s.number b))) :
    Tracked r s nodes pending' := by
  refine ⟨fun a ha b hb => ?_, h.reached, fun p hp a ha hle b hb hbs => ?_⟩
  · rcases h.looked a ha b hb with hfound | hpending
    · exact .inl hfound
    · exact (hres a b hpending).elim .inr fun hb => .inl hb.1
  · rcases h.bound p hp a ha hle b hb hbs with hpending | hq
    · rcases hres a b hpending with hpending | hb
      · exact .inl hpending
      · obtain ⟨q, hq, haq, hqb⟩ := hb.2 hbs
        exact .inr ⟨q, hq, Nat.le_trans hle haq, hqb⟩
    · exact .inr hq

/-- A mark may become less if what it then says is reached and waits. -/
theorem lower (h : Tracked r s nodes pending) {n : Nat}
    (hn : s.mark v ≤ n ∨ ∃ b ∈ s.stack, s.number b = n ∧ r.Reaches v b) :
    Tracked r (s.setMark v (min (s.mark v) n)) nodes pending := by
  have hless (q : String) : (s.setMark v (min (s.mark v) n)).mark q ≤ s.mark q := by
    by_cases hq : q = v
    · rw [hq, Search.mark_setMark_self]
      exact Nat.min_le_left _ _
    · exact Nat.le_of_eq (Search.mark_setMark hq _)
  refine ⟨h.looked, fun a ha => ?_, fun p hp a ha hle b hb hbs => ?_⟩
  · obtain ⟨b, hb, heq, hle, hreach⟩ := h.reached a ha
    by_cases hav : a = v
    · rw [hav, Search.mark_setMark_self]
      rw [hav] at heq hle hreach
      rcases Nat.le_total (s.mark v) n with hmin | hmin
      · exact ⟨b, hb, heq.trans (Nat.min_eq_left hmin).symm, hle, hreach⟩
      · rw [Nat.min_eq_right hmin]
        rcases hn with hn | hn
        · exact ⟨b, hb, heq.trans (Nat.le_antisymm hn hmin), hle, hreach⟩
        · obtain ⟨c, hc, hcn, hvc⟩ := hn
          exact ⟨c, hc, hcn, by change s.number c ≤ s.number v; omega, hvc⟩
    · rw [Search.mark_setMark hav]
      exact ⟨b, hb, heq, hle, hreach⟩
  · refine (h.bound p hp a ha hle b hb hbs).imp_right fun hq => ?_
    obtain ⟨q, hq, hpq, hqb⟩ := hq
    exact ⟨q, hq, hpq, Nat.le_trans (hless q) hqb⟩

/-- A member that is done has its mark counted for the one around it. -/
theorem leave {u : String} (h : Tracked r s (v :: u :: nodes) pending) (ho : Ordered s (v :: u :: nodes))
    (hmark : s.mark u ≤ s.mark v) : Tracked r s (u :: nodes) pending := by
  refine ⟨h.looked, fun a ha => h.reached a (List.mem_cons_of_mem _ ha), ?_⟩
  intro p hp a ha hle b hb hbs
  refine (h.bound p (List.mem_cons_of_mem _ hp) a ha hle b hb hbs).imp_right fun hq => ?_
  obtain ⟨q, hq, hpq, hqb⟩ := hq
  rcases List.mem_cons.mp hq with rfl | hq
  · exact ⟨u, List.mem_cons_self, ho.leave.number_le p hp, Nat.le_trans hmark hqb⟩
  · exact ⟨q, hq, hpq, hqb⟩

section

variable (h : Tracked r s (v :: nodes) pending) (ho : Ordered s (v :: nodes))
  (hcut : Cut s v members rest) (hroot : s.mark v = s.number v)

include h ho hcut hroot

/-- Nothing leads down from the part of the stack above a member whose mark is its own number. -/
theorem no_exit (hdone : ∀ a ∈ members, ∀ b, ¬pending a b) :
    ∀ a ∈ members, ∀ b ∈ r.next a, b ∈ s.found ∧ b ∉ rest := by
  intro a ha b hb
  obtain ⟨hstack, hle⟩ := hcut.mem_members.mp ha
  refine ⟨(h.looked a (ho.found a hstack) b hb).resolve_right (hdone a ha b), fun hr => ?_⟩
  obtain ⟨hbs, hlt⟩ := hcut.mem_rest.mp hr
  obtain ⟨q, hq, hvq, hqb⟩ :=
    (h.bound v List.mem_cons_self a hstack hle b hb hbs).resolve_left (hdone a ha b)
  rcases List.mem_cons.mp hq with rfl | hq
  · omega
  · exact absurd (ho.number_lt q hq) (Nat.not_lt.mpr hvq)

theorem file : Tracked r (s.file members rest) nodes pending := by
  refine ⟨h.looked, fun a ha => ?_, fun p hp a ha hle b hb hbs => ?_⟩
  · obtain ⟨b, hb, heq, hle, hreach⟩ := h.reached a (List.mem_cons_of_mem _ ha)
    have hlt : s.number b < s.number v := Nat.lt_of_le_of_lt hle (ho.number_lt a ha)
    exact ⟨b, hcut.mem_rest.mpr ⟨hb, hlt⟩, heq, hle, hreach⟩
  · obtain ⟨hbstack, hlt⟩ := hcut.mem_rest.mp hbs
    have hbound := h.bound p (List.mem_cons_of_mem _ hp) a (hcut.mem_rest.mp ha).1 hle b hb hbstack
    refine hbound.imp_right fun hq => ?_
    obtain ⟨q, hq, hpq, hqb⟩ := hq
    have hne : q ≠ v := by
      intro heq
      rw [heq] at hqb
      omega
    exact ⟨q, (List.mem_cons.mp hq).resolve_left hne, hpq, hqb⟩

end

end Tracked

end TraversalSdk.Components
