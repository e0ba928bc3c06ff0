import Mathlib.Data.List.Permutation
import Mathlib.Data.Set.Card
import TraversalSdk.Proofs.CondensedHeights

namespace TraversalSdk.Relation

variable {r r' : Relation String} {level : String → Option Nat} {table : List (String × List String)}
  {known : List (List String × Nat)} {p q : List String} {a b : String} {n : Nat}

def classOf (r : Relation String) (a : String) : Set String := {b | r.Reaches a b ∧ r.Reaches b a}

structure PathFrom (r : Relation String) (a : String) (p : List String) : Prop where
  starts : p.head? = some a
  steps : p.IsChain fun a b => b ∈ r.next a

/-- The number of classes that a path visits. -/
noncomputable def classes (r : Relation String) (p : List String) : Nat :=
  (r.classOf '' {a | a ∈ p}).ncard

/-- The depth of a member: the classes on a path from it, as many as can be, and what follows it directly. -/
structure IsDepth (r : Relation String) (a : String) (d : Depth) : Prop where
  levels : IsGreatest {k | ∃ p, r.PathFrom a p ∧ r.classes p = k} d.levels
  children : d.children = (r.next a).toFinset.card

theorem classOf_eq_iff : r.classOf a = r.classOf b ↔ r.Reaches a b ∧ r.Reaches b a := by
  constructor
  · intro heq
    have hb : b ∈ r.classOf b := ⟨.refl, .refl⟩
    rwa [← heq] at hb
  · rintro ⟨hab, hba⟩
    ext c
    exact ⟨fun ⟨hac, hca⟩ => ⟨hba.trans hac, hca.trans hab⟩, fun ⟨hbc, hcb⟩ => ⟨hab.trans hbc, hcb.trans hba⟩⟩

theorem finite_classes (p : List String) : (r.classOf '' {a | a ∈ p}).Finite := p.finite_toSet.image _

theorem image_classOf_cons :
    r.classOf '' {b | b ∈ a :: p} = insert (r.classOf a) (r.classOf '' {b | b ∈ p}) := by
  rw [← Set.image_insert_eq]
  congr 1
  ext b
  exact List.mem_cons

theorem classes_singleton : r.classes [a] = 1 := by simp [classes]

theorem classes_mono (h : p ⊆ q) : r.classes p ≤ r.classes q :=
  Set.ncard_le_ncard (Set.image_mono fun _ ha => h ha) (finite_classes q)

theorem classes_cons_le : r.classes (a :: p) ≤ r.classes p + 1 := by
  rw [classes, image_classOf_cons]
  exact Set.ncard_insert_le _ _

/-- A path that comes from a class to the same class visits as many classes as before. -/
theorem classes_cons_same (hb : b ∈ p) (h : r.classOf a = r.classOf b) : r.classes (a :: p) = r.classes p := by
  rw [classes, image_classOf_cons, Set.insert_eq_of_mem, classes]
  exact ⟨b, hb, h.symm⟩

/-- A path leaves a class once and for all, so coming from a class it does not meet adds one. -/
theorem classes_cons_new (h : ∀ b ∈ p, r.classOf a ≠ r.classOf b) :
    r.classes (a :: p) = r.classes p + 1 := by
  rw [classes, image_classOf_cons, Set.ncard_insert_of_notMem _ (finite_classes p), classes]
  rintro ⟨b, hb, heq⟩
  exact h b hb heq.symm

namespace PathFrom

theorem single : r.PathFrom a [a] := ⟨rfl, .singleton a⟩

/-- All that a path passes is reached from its start. -/
theorem reaches (h : r.PathFrom a p) (hb : b ∈ p) : r.Reaches a b := by
  obtain ⟨rest, rfl⟩ : ∃ rest, p = a :: rest := List.head?_eq_some_iff.mp h.starts
  exact h.steps.induction (r.Reaches a) _ (fun _ _ hxy hx => hx.tail hxy) (fun _ => .refl) b hb

/-- A path goes on with one from where a step from its end leads. -/
theorem append {u v : String} (hau : r.Reaches a u) (huv : v ∈ r.next u) (hq : r.PathFrom v q) :
    ∃ p, r.PathFrom a (a :: p ++ q) := by
  obtain ⟨p, hsteps, hlast⟩ := List.exists_isChain_cons_of_relationReflTransGen hau
  refine ⟨p, rfl, hsteps.append hq.steps fun x hx y hy => ?_⟩
  rw [List.getLast?_eq_some_getLast (List.cons_ne_nil _ _), hlast] at hx
  rw [hq.starts] at hy
  cases hx
  cases hy
  exact huv

end PathFrom

/-- Levels of members, which go down where a step leaves a class, and by one somewhere unless they are 1. -/
structure Leveled (r : Relation String) (level : String → Option Nat) : Prop where
  same : ∀ a b, r.Reaches a b → r.Reaches b a → level a = level b
  below : ∀ a n, level a = some n → ∀ b ∈ r.next a, ¬r.Reaches b a → ∃ m, level b = some m ∧ m < n
  attained : ∀ a n, level a = some n → n = 1 ∨ ∃ u v m, r.Reaches a u ∧ r.Reaches u a ∧ v ∈ r.next u ∧
    ¬r.Reaches v u ∧ level v = some m ∧ n = m + 1

namespace Leveled

/-- A step goes down by levels just if it cannot be undone. -/
theorem step (h : r.Leveled level) (ha : level a = some n) (hb : b ∈ r.next a) :
    ∃ m, level b = some m ∧ m ≤ n ∧ (m < n ↔ ¬r.Reaches b a) := by
  by_cases hba : r.Reaches b a
  · have hsame : level a = level b := h.same a b (.step hb .refl) hba
    exact ⟨n, hsame ▸ ha, Nat.le_refl n, by simp [hba]⟩
  · obtain ⟨m, hm, hlt⟩ := h.below a n ha b hb hba
    exact ⟨m, hm, Nat.le_of_lt hlt, by simp [hba, hlt]⟩

theorem one_le (h : r.Leveled level) (ha : level a = some n) : 1 ≤ n := by
  rcases h.attained a n ha with rfl | ⟨_, _, m, _, _, _, _, _, rfl⟩
  · exact Nat.le_refl 1
  · exact Nat.le_add_left 1 m

/-- A member that occurs in no row is left by no step. -/
theorem absent (h : r.Leveled level) (ha : level a = some n) (hm : a ∉ r.members) : n = 1 := by
  have hnone : r.next a = [] := by
    refine List.eq_nil_iff_forall_not_mem.mpr fun b hb => hm ?_
    obtain ⟨kids, hrow, _⟩ := exists_row_of_next hb
    exact mem_distinct.mpr (List.mem_flatMap.mpr ⟨_, hrow, List.mem_cons_self⟩)
  refine (h.attained a n ha).resolve_right ?_
  rintro ⟨u, v, _, hau, _, huv, _⟩
  rcases Relation.ReflTransGen.cases_head hau with rfl | ⟨b, hb, _⟩
  · simp [hnone] at huv
  · simp [hnone] at hb

/-- No path visits more classes than its start has levels. -/
theorem classes_le (h : r.Leveled level) (hp : r.PathFrom a p) (ha : level a = some n) :
    r.classes p ≤ n := by
  induction p generalizing a n with
  | nil => cases hp.starts
  | cons x p ih =>
    obtain rfl : x = a := Option.some.inj hp.starts
    cases p with
    | nil =>
      rw [classes_singleton]
      exact h.one_le ha
    | cons b p =>
      have hb : b ∈ r.next x := hp.steps.rel
      obtain ⟨m, hm, hle, hlt⟩ := h.step ha hb
      have hrest : r.classes (b :: p) ≤ m := ih ⟨rfl, hp.steps.of_cons⟩ hm
      by_cases hback : r.Reaches b x
      · rw [classes_cons_same List.mem_cons_self (classOf_eq_iff.mpr ⟨.step hb .refl, hback⟩)]
        exact hrest.trans hle
      · have hmn := hlt.mpr hback
        have hcons : r.classes (x :: b :: p) ≤ r.classes (b :: p) + 1 := classes_cons_le
        omega

/-- Some path visits as many: within the class to where a step goes down by one level, and on from there. -/
theorem exists_path (h : r.Leveled level) (ha : level a = some n) :
    ∃ p, r.PathFrom a p ∧ n ≤ r.classes p := by
  induction n using Nat.strong_induction_on generalizing a with
  | _ n ih =>
    rcases h.attained a n ha with rfl | ⟨u, v, m, hau, hua, huv, hvu, hm, rfl⟩
    · exact ⟨[a], .single, by rw [classes_singleton]⟩
    · obtain ⟨q, hq, hmq⟩ := ih m (Nat.lt_succ_self m) hm
      obtain ⟨p, hpath⟩ := PathFrom.append hau huv hq
      have hnew : ∀ b ∈ q, r.classOf a ≠ r.classOf b := by
        intro b hb heq
        have hba : r.Reaches b a := (classOf_eq_iff.mp heq).2
        exact hvu (((hq.reaches hb).trans hba).trans hau)
      refine ⟨_, hpath, ?_⟩
      calc m + 1 ≤ r.classes q + 1 := Nat.succ_le_succ hmq
        _ = r.classes (a :: q) := (classes_cons_new hnew).symm
        _ ≤ r.classes (a :: p ++ q) := classes_mono (by simp)

/-- The level of a member is the greatest number of classes that a path from it visits. -/
theorem isGreatest (h : r.Leveled level) (ha : level a = some n) :
    IsGreatest {k | ∃ p, r.PathFrom a p ∧ r.classes p = k} n := by
  constructor
  · obtain ⟨p, hp, hle⟩ := h.exists_path ha
    exact ⟨p, hp, Nat.le_antisymm (h.classes_le hp ha) hle⟩
  · rintro _ ⟨p, hp, rfl⟩
    exact h.classes_le hp ha

end Leveled

/-- Heights of components are levels of their members. -/
theorem Heights.leveled (h : Components.Exact r table) (hk : Heights (r.condensed table) known) :
    r.Leveled fun a => lookup (componentOf table a) known where
  same := fun a b hab hba => by rw [h.componentOf_eq_iff.mpr ⟨hab, hba⟩]
  below := fun a n ha b hb hba =>
    hk.below _ n ha _ (h.mem_next_condensed.mpr ⟨a, b, .refl, .refl, hb, hba, rfl⟩)
  attained := fun a n ha => by
    refine (hk.attained _ n ha).imp_right fun ⟨c, hc, m, hm, hn⟩ => ?_
    obtain ⟨u, v, hau, hua, huv, hvu, rfl⟩ := h.mem_next_condensed.mp hc
    exact ⟨u, v, m, hau, hua, huv, hvu, hm, hn⟩

/-- The search shows for each name its level. -/
theorem depths?_eq (r : Relation String) (named : List String) : ∃ level, r.Leveled level ∧
    (∀ a ∈ named, ∃ n, level a = some n) ∧
    r.depths? named =
      some ((textSet named).map fun a => (a, ⟨(level a).getD 0, (distinct (r.next a)).length⟩)) := by
  obtain ⟨table, htable, _, hexact⟩ := Components.components_exact r
  obtain ⟨found, known, hfound, hheights, hall, _⟩ :=
    heights?_exact hexact.condensed_acyclic .nil fun i (hi : i ∈ []) c
      (_ : c ∈ (textSet named).map (componentOf table)) => absurd hi List.not_mem_nil
  rw [List.map_map] at hall
  refine ⟨_, hheights.leveled hexact, fun a ha => ?_, ?_⟩
  · have hmem : lookup (componentOf table a) known ∈ found.map some :=
      hall ▸ List.mem_map_of_mem (mem_textSet.mpr ha)
    obtain ⟨n, _, hn⟩ := List.mem_map.mp hmem
    exact ⟨n, hn.symm⟩
  · have hvalues : found = (textSet named).map fun a => (lookup (componentOf table a) known).getD 0 := by
      have hmap := congrArg (List.map (Option.getD · 0)) hall
      simpa [Function.comp_def] using hmap.symm
    rw [depths?, htable]
    simp only [Option.bind_eq_bind, Option.bind_some, hfound, Option.pure_def]
    rw [hvalues, List.zipWith_map_right, List.zipWith_self]

theorem length_distinct (l : List String) : (distinct l).length = l.toFinset.card := by
  rw [← List.toFinset_card_of_nodup (nodup_distinct l)]
  congr 1
  ext a
  simp

/-- No member has two depths. -/
theorem IsDepth.unique {d d' : Depth} (h : r.IsDepth a d) (h' : r.IsDepth a d') : d = d' := by
  have hlevels : d.levels = d'.levels := h.levels.unique h'.levels
  have hchildren : d.children = d'.children := h.children.trans h'.children.symm
  cases d
  cases d'
  simp_all

/-- Only the steps of a relation count, not how its rows list them. -/
theorem IsDepth.congr {d : Depth} (hr : ∀ a b, b ∈ r'.next a ↔ b ∈ r.next a) (h : r'.IsDepth a d) :
    r.IsDepth a d := by
  have hsteps : (fun a b => b ∈ r'.next a) = fun a b => b ∈ r.next a := by
    funext a b
    exact propext (hr a b)
  have hreaches : r'.Reaches = r.Reaches := by
    funext a b
    simp only [Reaches, hr]
  have hpaths : ∀ p, r'.PathFrom a p ↔ r.PathFrom a p := fun p =>
    ⟨fun h => ⟨h.starts, hsteps ▸ h.steps⟩, fun h => ⟨h.starts, hsteps ▸ h.steps⟩⟩
  have hclasses : r'.classes = r.classes := by
    funext p
    simp only [classes, funext fun a => show r'.classOf a = r.classOf a by rw [classOf, classOf, hreaches]]
  have hchildren : (r'.next a).toFinset = (r.next a).toFinset := by
    ext b
    rw [List.mem_toFinset, List.mem_toFinset, hr]
  have hlevels := h.levels
  simp only [hpaths, hclasses] at hlevels
  exact ⟨hlevels, hchildren ▸ h.children⟩

/-- A table of the depths of given names. -/
structure Depths (r : Relation String) (named : List String) (table : List (String × Depth)) : Prop where
  names : table.map (·.1) = textSet named
  depth : ∀ row ∈ table, r.IsDepth row.1 row.2
  /-- A name that the relation does not mention is a level by itself. -/
  absent : ∀ row ∈ table, row.1 ∉ r.members → row.2.levels = 1
  cyclic : ∀ row ∈ table, ∀ other ∈ table, r.Reaches row.1 other.1 → r.Reaches other.1 row.1 →
    row.2.levels = other.2.levels
  /-- A step goes down unless there is a way back. -/
  step : ∀ row ∈ table, ∀ kid ∈ table, kid.1 ∈ r.next row.1 →
    kid.2.levels ≤ row.2.levels ∧ (kid.2.levels < row.2.levels ↔ ¬r.Reaches kid.1 row.1)

/-- The search for depths never fails, and what it finds are the depths. -/
theorem depths?_spec (r : Relation String) (named : List String) :
    ∃ table, r.depths? named = some table ∧ r.Depths named table := by
  obtain ⟨level, hlevel, hall, heq⟩ := r.depths?_eq named
  have hrow : ∀ row ∈ (textSet named).map fun a =>
      (a, (⟨(level a).getD 0, (distinct (r.next a)).length⟩ : Depth)),
      level row.1 = some row.2.levels ∧ row.2.children = (r.next row.1).toFinset.card := by
    intro row hmem
    obtain ⟨a, ha, rfl⟩ := List.mem_map.mp hmem
    obtain ⟨n, hn⟩ := hall a (mem_textSet.mp ha)
    exact ⟨by simp [hn], length_distinct _⟩
  refine ⟨_, heq, ?_, fun row hmem => ?_, fun row hmem hm => ?_, fun row hmem other hother hab hba => ?_,
    fun row hmem kid hkid hstep => ?_⟩
  · rw [List.map_map]
    exact List.map_id _
  · obtain ⟨hlevels, hchildren⟩ := hrow row hmem
    exact ⟨hlevel.isGreatest hlevels, hchildren⟩
  · exact hlevel.absent (hrow row hmem).1 hm
  · have hsame := hlevel.same _ _ hab hba
    rw [(hrow row hmem).1, (hrow other hother).1] at hsame
    exact Option.some.inj hsame
  · obtain ⟨m, hm, hle⟩ := hlevel.step (hrow row hmem).1 hstep
    rw [(hrow kid hkid).1] at hm
    cases hm
    exact hle

theorem eq_of_keys {l l' : List (String × Depth)} (hkeys : l.map (·.1) = l'.map (·.1))
    (hvalues : ∀ row ∈ l, ∀ row' ∈ l', row.1 = row'.1 → row.2 = row'.2) : l = l' := by
  refine List.ext_getElem (by simpa using congrArg List.length hkeys) fun i hi hi' => ?_
  have hkey : l[i].1 = l'[i].1 := by
    have hget := List.getElem_of_eq hkeys (by simpa using hi)
    simpa using hget
  exact Prod.ext hkey (hvalues _ (List.getElem_mem hi) _ (List.getElem_mem hi') hkey)

/-- Tables of depths depend on the steps and on the set of names alone. -/
theorem Depths.unique {table table' : List (String × Depth)} {named named' : List String}
    (hr : ∀ a b, b ∈ r'.next a ↔ b ∈ r.next a) (hn : ∀ a, a ∈ named' ↔ a ∈ named)
    (h : r.Depths named table) (h' : r'.Depths named' table') : table' = table := by
  refine eq_of_keys ?_ fun row' hrow' row hrow heq => ?_
  · rw [h'.names, h.names, textSet_congr hn]
  · exact ((h'.depth row' hrow').congr hr).unique (heq ▸ h.depth row hrow)

/-- The search for depths gives a result for every relation and all names. The result depends on the steps of the
relation and on which names are given, and not on the order of either. -/
theorem depths_exact (r : Relation String) (named : List String) :
    r.depths? named = some (r.depths named) ∧ r.Depths named (r.depths named) ∧
      ∀ (r' : Relation String) (named' : List String), (∀ a b, b ∈ r'.next a ↔ b ∈ r.next a) →
        (∀ a, a ∈ named' ↔ a ∈ named) → r'.depths named' = r.depths named := by
  have hspec : ∀ (r : Relation String) (named : List String),
      r.depths? named = some (r.depths named) ∧ r.Depths named (r.depths named) := by
    intro r named
    obtain ⟨table, htable, hdepths⟩ := r.depths?_spec named
    rw [depths, htable]
    exact ⟨rfl, hdepths⟩
  exact ⟨(hspec r named).1, (hspec r named).2, fun r' named' hr hn =>
    Depths.unique hr hn (hspec r named).2 (hspec r' named').2⟩

/-- Two members around each other, what they lead to, and a name that the relation does not mention. -/
theorem depths_exact_reordered :
    (⟨[("a", ["b"]), ("b", ["a", "c"])]⟩ : Relation String).depths ["a", "c", "x"] =
      [("a", ⟨2, 1⟩), ("c", ⟨1, 0⟩), ("x", ⟨1, 0⟩)] ∧
    (⟨[("b", ["c", "a"]), ("a", ["b"])]⟩ : Relation String).depths ["x", "c", "a"] =
      [("a", ⟨2, 1⟩), ("c", ⟨1, 0⟩), ("x", ⟨1, 0⟩)] := by
  have hdepths : (⟨[("a", ["b"]), ("b", ["a", "c"])]⟩ : Relation String).depths ["a", "c", "x"] =
      [("a", ⟨2, 1⟩), ("c", ⟨1, 0⟩), ("x", ⟨1, 0⟩)] := by
    cbv
  refine ⟨hdepths, ((depths_exact _ _).2.2 _ _ (fun a b => ?_) fun a => ?_).trans hdepths⟩
  · by_cases ha : "a" = a
    · subst ha
      simp [next, lookup]
    · by_cases hb : "b" = a
      · subst hb
        simp [next, lookup, or_comm]
      · simp [next, lookup, ha, hb]
  · simp only [List.mem_cons, List.not_mem_nil]
    tauto

end TraversalSdk.Relation
