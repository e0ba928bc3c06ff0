import Mathlib.Logic.Relation
import TraversalSdk.NodeType.Catalogue
import TraversalSdk.Proofs.SortedLists

namespace TraversalSdk.Catalogue

variable {c : Catalogue} {r s : NodeRef} {seen found pending : List NodeRef}

def Lists (c : Catalogue) (r s : NodeRef) : Prop :=
  ∃ d ∈ c.descriptors, d.ref = r ∧ ∃ subtypes, d.subtypes = some subtypes ∧ s ∈ subtypes

theorem mem_refs : r ∈ c.refs ↔ ∃ d ∈ c.descriptors, d.ref = r := List.mem_map

theorem get?_eq_some {d : Descriptor} (hd : d ∈ c.descriptors) : c.get? d.ref = some d :=
  find?_key c.nodup hd

theorem mem_of_get? {d : Descriptor} (h : c.get? r = some d) : d ∈ c.descriptors ∧ d.ref = r :=
  ⟨List.mem_of_find?_eq_some h, by simpa using List.find?_some h⟩

theorem isSupertype_ref {d : Descriptor} (hd : d ∈ c.descriptors) :
    c.isSupertype d.ref = d.isSupertype := by
  simp [isSupertype, get?_eq_some hd]

theorem isSupertype_eq_true_iff :
    c.isSupertype r = true ↔ ∃ d ∈ c.descriptors, d.ref = r ∧ d.isSupertype = true := by
  constructor
  · intro h
    unfold isSupertype at h
    cases hd : c.get? r with
    | none => simp [hd] at h
    | some d =>
      obtain ⟨hm, href⟩ := mem_of_get? hd
      exact ⟨d, hm, href, by simpa [hd] using h⟩
  · rintro ⟨d, hd, rfl, hs⟩
    rw [isSupertype_ref hd, hs]

theorem isSupertype_eq_isSome (c : Catalogue) (r : NodeRef) : c.isSupertype r = (c.subtypes? r).isSome := by
  unfold isSupertype subtypes?
  cases c.get? r <;> rfl

/-- A type stands for itself just if it has no subtypes that are listed. -/
theorem isSupertype_eq_false_iff : c.isSupertype r = false ↔ c.subtypes? r = none := by
  rw [isSupertype_eq_isSome, Option.isSome_eq_false_iff, Option.isNone_iff_eq_none]

theorem lists_iff : c.Lists r s ↔ ∃ subtypes, c.subtypes? r = some subtypes ∧ s ∈ subtypes := by
  constructor
  · intro h
    obtain ⟨d, hd, rfl, subtypes, hsub, hs⟩ := h
    exact ⟨subtypes, Option.bind_eq_some_iff.mpr ⟨d, get?_eq_some hd, hsub⟩, hs⟩
  · intro h
    obtain ⟨subtypes, hsub, hs⟩ := h
    obtain ⟨d, hget, hd⟩ := Option.bind_eq_some_iff.mp hsub
    obtain ⟨hmem, href⟩ := mem_of_get? hget
    exact ⟨d, hmem, href, subtypes, hd, hs⟩

/-- What a supertype lists are the members of its declaration. -/
theorem lists_iff_members : c.Lists r s ↔ ∃ d ∈ c.descriptors, d.ref = r ∧ s ∈ d.members := by
  refine exists_congr fun d => and_congr_right fun _ => and_congr_right fun _ => ?_
  cases hsub : d.subtypes <;> simp [Descriptor.members, hsub]

/-- Whatever is found stands for itself, and a pending type leads to it. -/
theorem expandFrom_sound (h : s ∈ c.expandFrom seen found pending) :
    s ∈ found ∨ (c.isSupertype s = false ∧ ∃ a ∈ pending, Relation.ReflTransGen c.Lists a s) := by
  fun_induction expandFrom c seen found pending with
  | case1 => exact .inl h
  | case2 seen found r pending _ ih =>
    refine (ih h).imp_right fun hs => ?_
    obtain ⟨hself, a, ha, hchain⟩ := hs
    exact ⟨hself, a, List.mem_cons_of_mem _ ha, hchain⟩
  | case3 seen found r pending _ hnone ih =>
    rcases ih h with hfound | ⟨hself, a, ha, hchain⟩
    · rcases List.mem_cons.mp hfound with rfl | hfound
      · exact .inr ⟨isSupertype_eq_false_iff.mpr hnone, s, List.mem_cons_self, .refl⟩
      · exact .inl hfound
    · exact .inr ⟨hself, a, List.mem_cons_of_mem _ ha, hchain⟩
  | case4 seen found r pending _ subtypes hsome ih =>
    refine (ih h).imp_right fun hs => ?_
    obtain ⟨hself, a, ha, hchain⟩ := hs
    rcases List.mem_append.mp ha with ha | ha
    · have hlists : c.Lists r a := lists_iff.mpr ⟨subtypes, hsome, List.mem_reverse.mp ha⟩
      exact ⟨hself, r, List.mem_cons_self, .head hlists hchain⟩
    · exact ⟨hself, a, List.mem_cons_of_mem _ ha, hchain⟩

/-- What holds between the types that have been looked at and those that are pending. -/
structure Apart (c : Catalogue) (seen found pending : List NodeRef) : Prop where
  ahead : ∀ a ∈ seen, ∀ b, c.Lists a b → b ∈ seen ∨ b ∈ pending
  kept : ∀ a ∈ seen, c.isSupertype a = false → a ∈ found

/-- Looking at a pending type moves it to those that have been looked at. -/
theorem mem_moved {a : NodeRef} (h : a ∈ seen ∨ a ∈ r :: pending) : a ∈ r :: seen ∨ a ∈ pending := by
  rcases h with h | h
  · exact .inl (List.mem_cons_of_mem _ h)
  · rcases List.mem_cons.mp h with rfl | h
    · exact .inl List.mem_cons_self
    · exact .inr h

theorem mem_skipped {a : NodeRef} (hr : r ∈ seen) (h : a ∈ seen ∨ a ∈ r :: pending) :
    a ∈ seen ∨ a ∈ pending := by
  rcases mem_moved h with h | h
  · rcases List.mem_cons.mp h with rfl | h
    · exact .inl hr
    · exact .inl h
  · exact .inr h

namespace Apart

/-- A type that has been looked at can be passed over. -/
theorem skip (h : Apart c seen found (r :: pending)) (hr : r ∈ seen) : Apart c seen found pending :=
  ⟨fun a ha b hab => mem_skipped hr (h.ahead a ha b hab), h.kept⟩

/-- A type without subtypes is found. -/
theorem keep (h : Apart c seen found (r :: pending)) (hr : c.subtypes? r = none) :
    Apart c (r :: seen) (r :: found) pending := by
  refine ⟨fun a ha b hab => ?_, fun a ha hself => ?_⟩
  · rcases List.mem_cons.mp ha with rfl | ha
    · obtain ⟨subtypes, hsome, _⟩ := lists_iff.mp hab
      rw [hr] at hsome
      cases hsome
    · exact mem_moved (h.ahead a ha b hab)
  · rcases List.mem_cons.mp ha with rfl | ha
    · exact List.mem_cons_self
    · exact List.mem_cons_of_mem _ (h.kept a ha hself)

/-- A supertype makes way for its subtypes. -/
theorem unfold {subtypes : List NodeRef} (h : Apart c seen found (r :: pending))
    (hr : c.subtypes? r = some subtypes) :
    Apart c (r :: seen) found (subtypes.reverse ++ pending) := by
  refine ⟨fun a ha b hab => ?_, fun a ha hself => ?_⟩
  · rcases List.mem_cons.mp ha with rfl | ha
    · obtain ⟨listed, hsome, hb⟩ := lists_iff.mp hab
      rw [hr] at hsome
      cases hsome
      exact .inr (List.mem_append_left _ (List.mem_reverse.mpr hb))
    · exact (mem_moved (h.ahead a ha b hab)).imp_right (List.mem_append_right _)
  · rcases List.mem_cons.mp ha with rfl | ha
    · rw [isSupertype_eq_false_iff, hr] at hself
      cases hself
    · exact h.kept a ha hself

/-- With nothing pending, whatever a type that has been looked at leads to has been looked at. -/
theorem closed (h : Apart c seen found []) {a : NodeRef} (ha : a ∈ seen)
    (hchain : Relation.ReflTransGen c.Lists a s) : s ∈ seen := by
  induction hchain with
  | refl => exact ha
  | tail _ hlists ih => exact (h.ahead _ ih _ hlists).resolve_right List.not_mem_nil

end Apart

/-- Nothing that stands for itself is missed. -/
theorem expandFrom_complete (h : Apart c seen found pending) {a : NodeRef} (ha : a ∈ seen ∨ a ∈ pending)
    (hchain : Relation.ReflTransGen c.Lists a s) (hself : c.isSupertype s = false) :
    s ∈ c.expandFrom seen found pending := by
  fun_induction expandFrom c seen found pending with
  | case1 seen found => exact h.kept s (h.closed (ha.resolve_right List.not_mem_nil) hchain) hself
  | case2 seen found r pending hr ih => exact ih (h.skip hr) (mem_skipped hr ha)
  | case3 seen found r pending _ hnone ih => exact ih (h.keep hnone) (mem_moved ha)
  | case4 seen found r pending _ subtypes hsome ih =>
    exact ih (h.unfold hsome) ((mem_moved ha).imp_right (List.mem_append_right _))

/-- A type expands to what chains of listed subtypes lead to, supertypes apart. -/
theorem mem_expand :
    s ∈ c.expand r ↔ Relation.ReflTransGen c.Lists r s ∧ c.isSupertype s = false := by
  rw [expand, NodeRef.mem_set]
  constructor
  · intro h
    obtain ⟨hself, a, ha, hchain⟩ := (expandFrom_sound h).resolve_left List.not_mem_nil
    rw [List.mem_singleton.mp ha] at hchain
    exact ⟨hchain, hself⟩
  · intro h
    have hstart : Apart c [] [] [r] := ⟨nofun, nofun⟩
    exact expandFrom_complete hstart (.inr List.mem_cons_self) h.1 h.2

theorem mem_expandAll {rs : List NodeRef} : s ∈ c.expandAll rs ↔ ∃ r ∈ rs, s ∈ c.expand r := by
  simp [expandAll]

/-- Expansions are sets: they are equal where their members are. -/
theorem expand_congr {c' : Catalogue} {r' : NodeRef} (h : ∀ s, s ∈ c.expand r ↔ s ∈ c'.expand r') :
    c.expand r = c'.expand r' := by
  refine NodeRef.set_congr fun s => ?_
  rw [← NodeRef.mem_set, ← NodeRef.mem_set (l := c'.expandFrom [] [] [r'])]
  exact h s

/-- A type that stands for itself leads nowhere. -/
theorem eq_of_chain (hchain : Relation.ReflTransGen c.Lists r s) (hself : c.isSupertype r = false) :
    s = r := by
  rcases hchain.cases_head with rfl | ⟨a, hlists, _⟩
  · rfl
  · obtain ⟨subtypes, hsome, _⟩ := lists_iff.mp hlists
    rw [isSupertype_eq_false_iff, hsome] at hself
    cases hself

/-- A type in an expansion expands to itself. -/
theorem expand_self (h : s ∈ c.expand r) : c.expand s = [s] := by
  obtain ⟨_, hself⟩ := mem_expand.mp h
  have hmem (a : NodeRef) : a ∈ c.expand s ↔ a = s := by
    rw [mem_expand]
    constructor
    · intro ha
      exact eq_of_chain ha.1 hself
    · intro ha
      rw [ha]
      exact ⟨.refl, hself⟩
  have hperm : (c.expand s).Perm [s] :=
    (List.perm_ext_iff_of_nodup (NodeRef.nodup_set _) (List.nodup_singleton s)).mpr fun a =>
      (hmem a).trans List.mem_singleton.symm
  exact List.perm_singleton.mp hperm

/-- Supertypes that contain each other expand to the same types. -/
theorem expand_eq_of_chains (hrs : Relation.ReflTransGen c.Lists r s)
    (hsr : Relation.ReflTransGen c.Lists s r) : c.expand r = c.expand s := by
  refine expand_congr fun a => ?_
  rw [mem_expand, mem_expand]
  exact and_congr_left fun _ => ⟨hsr.trans, hrs.trans⟩

theorem pairwise_supertypesOf (c : Catalogue) (s : NodeRef) : (c.supertypesOf s).Pairwise (· ≤ ·) :=
  List.pairwise_map.mpr ((pairwise_sortOn _ _).filter _)

/-- The supertypes of a type are those that expand to it. -/
theorem supertypesOf_perm (c : Catalogue) (s : NodeRef) :
    (c.supertypesOf s).Perm
      ((c.descriptors.filter fun d => d.isSupertype ∧ s ∈ c.expand d.ref).map (·.ref.type)) := by
  have hfilter : (c.descriptors.filter fun d => d.isSupertype ∧ s ∈ c.expand d.ref) =
      (c.descriptors.filter Descriptor.isSupertype).filter fun d => (c.expand d.ref).contains s := by
    rw [List.filter_filter]
    refine List.filter_congr fun d _ => ?_
    simp [Bool.and_comm]
  rw [hfilter]
  exact ((sortOn_perm _ _).filter _).map _

/-- A type stands for the types other than supertypes that a chain of listed subtypes leads to. So several types stand
for what any of them does, a type in an expansion stands for itself, supertypes that contain each other stand for the
same, and the supertypes of a type are those that it is in the expansion of. -/
structure Expands (c : Catalogue) : Prop where
  nodup : ∀ r, (c.expand r).Nodup
  mem : ∀ r s, s ∈ c.expand r ↔ Relation.ReflTransGen c.Lists r s ∧
    ¬∃ d ∈ c.descriptors, d.ref = s ∧ d.isSupertype = true
  mem_all : ∀ rs s, s ∈ c.expandAll rs ↔ ∃ r ∈ rs, s ∈ c.expand r
  self : ∀ r, ∀ s ∈ c.expand r, c.expand s = [s]
  mutual_eq : ∀ r s, Relation.ReflTransGen c.Lists r s → Relation.ReflTransGen c.Lists s r → c.expand r = c.expand s
  supertypes_sorted : ∀ s, (c.supertypesOf s).Pairwise (· ≤ ·)
  supertypes : ∀ s, (c.supertypesOf s).Perm
    ((c.descriptors.filter fun d => d.isSupertype ∧ s ∈ c.expand d.ref).map (·.ref.type))

/-- Types are expanded exactly, in every catalogue. -/
theorem expand_exact (c : Catalogue) : c.Expands := by
  refine ⟨fun r => NodeRef.nodup_set _, fun r s => ?_, fun rs s => mem_expandAll, fun r s hs => expand_self hs,
    fun r s hrs hsr => expand_eq_of_chains hrs hsr, c.pairwise_supertypesOf, c.supertypesOf_perm⟩
  rw [mem_expand, ← isSupertype_eq_true_iff, Bool.not_eq_true]

/-- Two supertypes that contain each other; only one of them lists a type that stands for itself, and that is
not declared. -/
def entwined : Catalogue where
  descriptors := [
    ⟨⟨"a", true⟩, false, false, [], none, some [⟨"b", true⟩]⟩,
    ⟨⟨"b", true⟩, false, false, [], none, some [⟨"leaf", true⟩, ⟨"a", true⟩]⟩]
  nodup := by decide

/-- Both supertypes expand to the leaf, and it is in both. -/
theorem expand_exact_entwined :
    entwined.expand ⟨"a", true⟩ = entwined.expand ⟨"b", true⟩ ∧
    entwined.expand ⟨"leaf", true⟩ = [⟨"leaf", true⟩] ∧
    (entwined.supertypesOf ⟨"leaf", true⟩).Perm ["a", "b"] := by
  have hexpands := expand_exact entwined
  have hab : entwined.Lists ⟨"a", true⟩ ⟨"b", true⟩ := ⟨_, .head _, rfl, _, rfl, .head _⟩
  have hba : entwined.Lists ⟨"b", true⟩ ⟨"a", true⟩ :=
    ⟨_, .tail _ (.head _), rfl, _, rfl, .tail _ (.head _)⟩
  have hleaf : entwined.Lists ⟨"b", true⟩ ⟨"leaf", true⟩ :=
    ⟨_, .tail _ (.head _), rfl, _, rfl, .head _⟩
  have hsame := hexpands.mutual_eq _ _ (.single hab) (.single hba)
  have hin : (⟨"leaf", true⟩ : NodeRef) ∈ entwined.expand ⟨"b", true⟩ :=
    (hexpands.mem _ _).mpr ⟨.single hleaf, by decide⟩
  have hboth : (entwined.descriptors.filter fun d =>
      d.isSupertype ∧ ⟨"leaf", true⟩ ∈ entwined.expand d.ref) = entwined.descriptors := by
    refine List.filter_eq_self.mpr (List.forall_mem_cons.mpr ⟨?_, List.forall_mem_singleton.mpr ?_⟩)
    · exact decide_eq_true ⟨rfl, hsame ▸ hin⟩
    · exact decide_eq_true ⟨rfl, hin⟩
  refine ⟨hsame, hexpands.self _ _ hin, ?_⟩
  have hperm := hexpands.supertypes ⟨"leaf", true⟩
  rwa [hboth] at hperm

end TraversalSdk.Catalogue
