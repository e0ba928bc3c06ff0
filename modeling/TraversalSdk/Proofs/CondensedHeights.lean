import TraversalSdk.Analysis.Depth
import TraversalSdk.Proofs.ExactComponents

namespace TraversalSdk

/-- What is known stays so when a new key comes. -/
theorem lookup_cons_of_new {κ α : Type} [DecidableEq κ] {key k : κ} {known : List (κ × α)} {value : α}
    (hk : lookup k known = none) (h : lookup key known = some value) (value' : α) :
    lookup key ((k, value') :: known) = some value := by
  have hne : k ≠ key := by
    rintro rfl
    rw [hk] at h
    cases h
  rw [lookup_cons, if_neg hne, h]

theorem lookup_map_pair {κ α : Type} [DecidableEq κ] (key : κ) (f : κ → α) (keys : List κ) :
    lookup key (keys.map fun k => (k, f k)) = if key ∈ keys then some (f key) else none := by
  induction keys with
  | nil => rfl
  | cons k keys ih =>
    rw [List.map_cons, lookup_cons, ih]
    by_cases hk : k = key
    · simp [hk]
    · simp [hk, Ne.symm hk]

/-- The greatest of numbers, where 0 stands for none. -/
theorem foldl_max_spec (l : List Nat) :
    (∀ n ∈ l, n ≤ l.foldl max 0) ∧ (l = [] ∧ l.foldl max 0 = 0 ∨ l.foldl max 0 ∈ l) := by
  rw [List.foldl_max]
  cases hm : l.max? with
  | none =>
    rw [List.max?_eq_none_iff] at hm
    simp [hm]
  | some m =>
    obtain ⟨hmem, hle⟩ := List.max?_eq_some_iff.mp hm
    simpa using ⟨hle, .inr hmem⟩

namespace Relation

section

variable {α : Type} [DecidableEq α] {r : Relation α} {known known' : List (α × Nat)} {inside as : List α}
  {a : α}

/-- Where a height is known, so are those of what follows. It is greater than each, by one than some. -/
structure Heights (r : Relation α) (known : List (α × Nat)) : Prop where
  below : ∀ a n, lookup a known = some n → ∀ b ∈ r.next a, ∃ m, lookup b known = some m ∧ m < n
  attained : ∀ a n, lookup a known = some n →
    n = 1 ∨ ∃ b ∈ r.next a, ∃ m, lookup b known = some m ∧ n = m + 1

theorem Heights.nil : Heights r [] := ⟨fun _ _ h => by simp [lookup] at h, fun _ _ h => by simp [lookup] at h⟩

/-- A member is known once all that follows it is. -/
theorem Heights.cons {below : List Nat} (h : Heights r known) (ha : lookup a known = none)
    (hbelow : (r.next a).map (lookup · known) = below.map some) :
    Heights r ((a, 1 + below.foldl max 0) :: known) := by
  obtain ⟨hle, hmax⟩ := foldl_max_spec below
  have hkept {b : α} {m : Nat} (hb : lookup b known = some m) :
      lookup b ((a, 1 + below.foldl max 0) :: known) = some m := lookup_cons_of_new ha hb _
  have hmem {b : α} (hb : b ∈ r.next a) : ∃ m ∈ below, lookup b known = some m := by
    have hb : lookup b known ∈ below.map some := hbelow ▸ List.mem_map_of_mem hb
    obtain ⟨m, hm, heq⟩ := List.mem_map.mp hb
    exact ⟨m, hm, heq.symm⟩
  refine ⟨fun b n hb => ?_, fun b n hb => ?_⟩
  · rcases lookup_cons_eq_some_iff.mp hb with ⟨rfl, rfl⟩ | ⟨_, hb⟩
    · intro b hb
      obtain ⟨m, hm, hlookup⟩ := hmem hb
      have hlt : m < 1 + below.foldl max 0 := by
        have := hle m hm
        omega
      exact ⟨m, hkept hlookup, hlt⟩
    · intro b' hb'
      obtain ⟨m, hm, hlt⟩ := h.below b n hb b' hb'
      exact ⟨m, hkept hm, hlt⟩
  · rcases lookup_cons_eq_some_iff.mp hb with ⟨rfl, rfl⟩ | ⟨_, hb⟩
    · rcases hmax with ⟨_, hzero⟩ | hmax
      · exact .inl (by rw [hzero])
      · have hmax : some (below.foldl max 0) ∈ (r.next a).map (lookup · known) :=
          hbelow ▸ List.mem_map_of_mem hmax
        obtain ⟨b, hb, hlookup⟩ := List.mem_map.mp hmax
        exact .inr ⟨b, hb, _, hkept hlookup, Nat.add_comm _ _⟩
    · refine (h.attained b n hb).imp_right fun ⟨b', hb', m, hm, hn⟩ => ⟨b', hb', m, hkept hm, hn⟩

theorem leads_to_next (hin : ∀ i ∈ inside, ∀ b ∈ a :: as, Relation.TransGen (fun a b => b ∈ r.next a) i b) :
    ∀ i ∈ a :: inside, ∀ b ∈ r.next a, Relation.TransGen (fun a b => b ∈ r.next a) i b :=
  List.forall_mem_cons.mpr ⟨fun _ hb => .single hb, fun i hi _ hb => (hin i hi a List.mem_cons_self).tail hb⟩

/-- The search finds heights where nothing leads back. It keeps those that are known and finds none of a member
that it is inside of. -/
theorem heights?_exact (hr : ∀ a, ¬Relation.TransGen (fun a b => b ∈ r.next a) a a) (hk : Heights r known)
    (hin : ∀ i ∈ inside, ∀ a ∈ as, Relation.TransGen (fun a b => b ∈ r.next a) i a) :
    ∃ found known', r.heights? inside known as = some (found, known') ∧ Heights r known' ∧
      as.map (lookup · known') = found.map some ∧
      (∀ a n, lookup a known = some n → lookup a known' = some n) ∧
      ∀ i ∈ inside, lookup i known' = lookup i known := by
  induction inside, known, as using heights?.induct r with
  | case1 inside known => exact ⟨[], known, by rw [heights?], hk, rfl, fun _ _ h => h, fun _ _ => rfl⟩
  | case2 inside known a as n ha ih =>
    obtain ⟨found, known', hrest, hk', hall, hkept, hsame⟩ := ih hk fun i hi b hb => hin i hi b (.tail _ hb)
    refine ⟨n :: found, known', by rw [heights?, ha]; simp [hrest], hk', ?_, hkept, hsame⟩
    rw [List.map_cons, List.map_cons, hall, hkept a n ha]
  | case3 inside known a as ha hinside => exact absurd (hin a hinside a List.mem_cons_self) (hr a)
  | case4 inside known a as ha hinside hnone ih =>
    obtain ⟨_, _, hsome, _⟩ := ih hk (leads_to_next hin)
    rw [hnone] at hsome
    cases hsome
  | case5 inside known a as ha hinside below known₁ hsome n ih₁ ih₂ =>
    obtain ⟨_, _, hinner, hk₁, hall₁, hkept₁, hsame₁⟩ := ih₁ hk (leads_to_next hin)
    rw [hsome] at hinner
    cases hinner
    have hnew : lookup a known₁ = none := (hsame₁ a List.mem_cons_self).trans ha
    obtain ⟨found, known', hrest, hk', hall, hkept, hsame⟩ :=
      ih₂ (hk₁.cons hnew hall₁) fun i hi b hb => hin i hi b (.tail _ hb)
    have ha' : lookup a known' = some n := hkept a n (by rw [lookup_cons, if_pos rfl])
    refine ⟨n :: found, known', ?_, hk', ?_, fun b m hb => ?_, fun i hi => ?_⟩
    · rw [heights?]
      simp only [ha, hinside, hsome, if_false]
      simp [hrest, n]
    · rw [List.map_cons, List.map_cons, hall, ha']
    · exact hkept b m (lookup_cons_of_new hnew (hkept₁ b m hb) n)
    · have hne : a ≠ i := fun h => hinside (h ▸ hi)
      rw [hsame i hi, lookup_cons, if_neg hne]
      exact hsame₁ i (List.mem_cons_of_mem _ hi)

end

end Relation

namespace Components.Exact

open TraversalSdk.Relation (componentOf exits condensed)

variable {r : Relation String} {table : List (String × List String)} {a b u v : String}
  {component other : List String}

/-- What is in no row leads nowhere. -/
theorem eq_of_reaches (h : Exact r table) (ha : lookup a table = none) (hab : r.Reaches a b) : a = b := by
  rcases Relation.ReflTransGen.cases_head hab with rfl | ⟨c, hc, _⟩
  · rfl
  · obtain ⟨kids, hrow, _⟩ := Relation.exists_row_of_next hc
    have hkey : a ∈ table.map (·.1) := (h.domain a).mpr ⟨_, hrow, .inl rfl⟩
    exact absurd hkey (lookup_eq_none_iff.mp ha)

/-- The component of a member holds what it reaches and is reached from. -/
theorem mem_componentOf (h : Exact r table) :
    b ∈ componentOf table a ↔ r.Reaches a b ∧ r.Reaches b a := by
  rw [componentOf]
  cases hl : lookup a table with
  | none =>
    rw [Option.getD_none, List.mem_singleton]
    constructor
    · rintro rfl
      exact ⟨.refl, .refl⟩
    · exact fun hab => (h.eq_of_reaches hl hab.1).symm
  | some members =>
    rw [Option.getD_some, h.component a members (mem_of_lookup hl) b]
    refine ⟨?_, .inr⟩
    rintro (rfl | hab)
    · exact ⟨.refl, .refl⟩
    · exact hab

theorem componentOf_eq_iff (h : Exact r table) :
    componentOf table a = componentOf table b ↔ r.Reaches a b ∧ r.Reaches b a := by
  constructor
  · intro heq
    have hb : b ∈ componentOf table b := h.mem_componentOf.mpr ⟨.refl, .refl⟩
    rw [← heq] at hb
    exact h.mem_componentOf.mp hb
  · intro hab
    cases ha : lookup a table with
    | none => rw [h.eq_of_reaches ha hab.1]
    | some members =>
      cases hb : lookup b table with
      | none => rw [h.eq_of_reaches hb hab.2]
      | some others =>
        have hmembers : b ∈ members := (h.component a _ (mem_of_lookup ha) b).mpr (.inr hab)
        have hothers : b ∈ others := (h.component b _ (mem_of_lookup hb) b).mpr (.inl rfl)
        obtain ⟨_, _, honly⟩ := h.partition b (List.mem_map_of_mem (mem_of_lookup hb))
        rw [componentOf, componentOf, ha, hb, Option.getD_some, Option.getD_some,
          honly members ⟨List.mem_map_of_mem (mem_of_lookup ha), hmembers⟩,
          honly others ⟨List.mem_map_of_mem (mem_of_lookup hb), hothers⟩]

/-- Components lead where their members lead out of them. -/
theorem next_condensed : (r.condensed table).next component =
    if component ∈ table.map (·.2) then r.exits table component else [] := by
  rw [Relation.next, condensed, lookup_map_pair]
  by_cases hmem : component ∈ table.map (·.2) <;> simp [hmem]

/-- Only components lead on. -/
theorem exists_componentOf (h : Exact r table) (hnext : other ∈ (r.condensed table).next component) :
    ∃ a, componentOf table a = component := by
  rw [next_condensed] at hnext
  split at hnext
  · next hmem =>
    obtain ⟨⟨a, _⟩, ha, rfl⟩ := List.mem_map.mp hmem
    exact ⟨a, by rw [componentOf, lookup_of_mem h.once ha, Option.getD_some]⟩
  · cases hnext

/-- A component leads to another one if a step from one of its members leads there and nothing leads back. -/
theorem mem_exits (h : Exact r table) : other ∈ r.exits table (componentOf table a) ↔
    ∃ u v, r.Reaches a u ∧ r.Reaches u a ∧ v ∈ r.next u ∧ ¬r.Reaches v u ∧ componentOf table v = other := by
  rw [exits, mem_distinct, List.mem_filter, List.mem_map]
  simp only [List.mem_flatMap, h.mem_componentOf, decide_eq_true_eq]
  constructor
  · rintro ⟨⟨v, ⟨u, ⟨hau, hua⟩, hv⟩, rfl⟩, hne⟩
    refine ⟨u, v, hau, hua, hv, fun hvu => hne (h.componentOf_eq_iff.mpr ⟨?_, ?_⟩), rfl⟩
    · exact hvu.trans hua
    · exact hau.tail hv
  · rintro ⟨u, v, hau, hua, hv, hvu, rfl⟩
    refine ⟨⟨v, ⟨u, ⟨hau, hua⟩, hv⟩, rfl⟩, fun heq => hvu ?_⟩
    exact (h.componentOf_eq_iff.mp heq).1.trans hau

/-- From a component on, steps lead out of it that do not lead back. -/
theorem mem_next_condensed (h : Exact r table) : other ∈ (r.condensed table).next (componentOf table a) ↔
    ∃ u v, r.Reaches a u ∧ r.Reaches u a ∧ v ∈ r.next u ∧ ¬r.Reaches v u ∧ componentOf table v = other := by
  rw [← h.mem_exits, next_condensed]
  split
  · exact Iff.rfl
  · next hmem =>
    -- what is in no row is no component of the table, and has no steps
    have ha : lookup a table = none := by
      cases hl : lookup a table with
      | none => rfl
      | some members =>
        rw [componentOf, hl, Option.getD_some] at hmem
        exact absurd (List.mem_map.mpr ⟨_, mem_of_lookup hl, rfl⟩) hmem
    refine ⟨fun hnil => absurd hnil List.not_mem_nil, fun hexit => ?_⟩
    obtain ⟨u, v, hau, _, hv, hvu, _⟩ := h.mem_exits.mp hexit
    obtain rfl := h.eq_of_reaches ha hau
    obtain rfl := h.eq_of_reaches ha (hau.tail hv)
    exact absurd hau hvu

theorem condensed_acyclic (h : Exact r table) (component : List String) :
    ¬Relation.TransGen (fun c d => d ∈ (r.condensed table).next c) component component := by
  -- components come with members, and none of those further on reaches back
  have hchain {c d : List String} (hcd : Relation.TransGen (fun c d => d ∈ (r.condensed table).next c) c d) :
      ∀ a, componentOf table a = c → ∃ b, componentOf table b = d ∧ r.Reaches a b ∧ ¬r.Reaches b a := by
    induction hcd with
    | single hd =>
      rintro a rfl
      obtain ⟨u, v, hau, hua, hv, hvu, rfl⟩ := h.mem_next_condensed.mp hd
      exact ⟨v, rfl, hau.tail hv, fun hva => hvu (hva.trans hau)⟩
    | tail _ hd ih =>
      intro a ha
      obtain ⟨b, rfl, hab, hba⟩ := ih a ha
      obtain ⟨u, v, hbu, _, hv, _, rfl⟩ := h.mem_next_condensed.mp hd
      have hbv : r.Reaches b v := hbu.tail hv
      exact ⟨v, rfl, hab.trans hbv, fun hva => hba (hbv.trans hva)⟩
  intro hcycle
  obtain ⟨c, hc, _⟩ := Relation.TransGen.head'_iff.mp hcycle
  obtain ⟨a, rfl⟩ := h.exists_componentOf hc
  obtain ⟨b, heq, _, hba⟩ := hchain hcycle a rfl
  exact hba (h.componentOf_eq_iff.mp heq).1

end Components.Exact

end TraversalSdk
