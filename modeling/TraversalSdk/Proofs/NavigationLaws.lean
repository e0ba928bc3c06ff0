import TraversalSdk.Proofs.DeclaredTypes
import TraversalSdk.Proofs.EmittedGraph

namespace TraversalSdk

/-- Two members with the property stand at two positions. -/
theorem positions_of_filter {α : Type} {p : α → Bool} {l : List α} (h : 2 ≤ (l.filter p).length) :
    ∃ (i j : Nat) (a b : α), i ≠ j ∧ l[i]? = some a ∧ l[j]? = some b ∧ p a = true ∧ p b = true := by
  induction l with
  | nil => simp at h
  | cons x l ih =>
    by_cases hx : p x = true
    · rw [List.filter_cons_of_pos hx, List.length_cons] at h
      obtain ⟨y, hy⟩ := List.exists_mem_of_length_pos (Nat.le_of_succ_le_succ h)
      obtain ⟨hm, hpy⟩ := List.mem_filter.mp hy
      obtain ⟨j, hj⟩ := List.getElem?_of_mem hm
      exact ⟨0, j + 1, x, y, by omega, rfl, hj, hx, hpy⟩
    · rw [List.filter_cons_of_neg hx] at h
      obtain ⟨i, j, a, b, hij, hi, hj, ha, hb⟩ := ih h
      exact ⟨i + 1, j + 1, a, b, by omega, hi, hj, ha, hb⟩

/-- A container takes two of one type if one of its slots takes several, or if two slots take the type. -/
theorem Container.repeats_iff {k : Container} {r : NodeRef} : k.repeats r = true ↔
    (∃ s ∈ k.slots, r ∈ s.nodes ∧ s.multiple = true) ∨
    ∃ (i j : Nat) (s s' : Slot), i ≠ j ∧ k.slots[i]? = some s ∧ k.slots[j]? = some s' ∧
      r ∈ s.nodes ∧ r ∈ s'.nodes := by
  constructor
  · intro h
    rw [repeats, Bool.or_eq_true, List.any_eq_true, decide_eq_true_eq] at h
    rcases h with ⟨s, hs, hm⟩ | h
    · obtain ⟨hs, hr⟩ := List.mem_filter.mp hs
      exact .inl ⟨s, hs, by simpa using hr, hm⟩
    · obtain ⟨i, j, s, s', hij, hi, hj, hr, hr'⟩ := positions_of_filter h
      exact .inr ⟨i, j, s, s', hij, hi, hj, by simpa using hr, by simpa using hr'⟩
  · rintro (⟨s, hs, hr, hm⟩ | ⟨i, j, s, s', hij, hi, hj, hr, hr'⟩)
    · exact repeats_of_multiple hs hr hm
    · exact repeats_of_two hij hi hj hr hr'

/-- Beside a node stand the nodes of its container, and one of its own type only if the container takes two.
-/
theorem Container.mem_beside_iff {k : Container} {r s : NodeRef} :
    s ∈ k.beside r ↔ s ∈ k.nodes ∧ (s = r → k.repeats r = true) := by
  constructor
  · intro h
    refine ⟨Catalogue.mem_nodes_of_mem_beside h, fun he => ?_⟩
    unfold beside at h
    split at h
    · next hrep => exact hrep
    · exact absurd he (by simpa using (List.mem_filter.mp h).2)
  · exact fun h => mem_beside h.1 h.2

namespace Catalogue

variable {c : Catalogue} {d : Descriptor} {r s : NodeRef}

def Holds (c : Catalogue) (d : Descriptor) (r : NodeRef) : Prop := ∃ place, c.Admits d place r

/-- Whether it can hold two: in one entry that takes several, in two entries, or as extras. -/
def HoldsTwo (c : Catalogue) (d : Descriptor) (r : NodeRef) : Prop :=
  (∃ e ∈ d.entries, r ∈ c.expandAll e.spec.types ∧ e.spec.multiple = true) ∨
  (∃ i j, i ≠ j ∧ c.Admits d (some i) r ∧ c.Admits d (some j) r) ∨
  c.Admits d none r

/-- A slot stands for the entry at its position, or is the one for extras. -/
theorem admits_of_slots {i : Nat} {slot : Slot} (h : (c.slots d)[i]? = some slot) (hr : r ∈ slot.nodes) :
    c.Admits d (some i) r ∧ (∃ e ∈ d.entries, r ∈ c.expandAll e.spec.types ∧
      e.spec.multiple = slot.multiple) ∨ c.Admits d none r := by
  have hown (h : (d.entries.map fun e => Slot.mk e.spec.multiple (c.expandAll e.spec.types))[i]? =
      some slot) : c.Admits d (some i) r ∧ ∃ e ∈ d.entries, r ∈ c.expandAll e.spec.types ∧
        e.spec.multiple = slot.multiple := by
    rw [List.getElem?_map] at h
    obtain ⟨e, he, rfl⟩ := Option.map_eq_some_iff.mp h
    exact ⟨⟨e, he, hr⟩, e, List.mem_of_getElem? he, hr, rfl⟩
  simp only [slots] at h
  split at h
  · exact .inl (hown h)
  · next hsome =>
    rw [List.getElem?_append] at h
    split at h
    · exact .inl (hown h)
    · have hslot : slot = ⟨true, c.namedExtras⟩ := by
        simpa using List.mem_of_getElem? h
      rw [hslot] at hr
      refine .inr ⟨hr, ?_⟩
      rw [← Bool.not_eq_false, ← Descriptor.entries_eq_nil_iff]
      intro hnil
      simp [hnil] at hsome

/-- A container holds what its entries and the extras admit. -/
theorem mem_nodes_iff : r ∈ (c.container d).nodes ↔ c.Holds d r := by
  constructor
  · intro h
    obtain ⟨slot, hslot, hr⟩ := Container.mem_nodes.mp h
    obtain ⟨i, hi⟩ := List.getElem?_of_mem hslot
    rcases admits_of_slots hi hr with ⟨h, _⟩ | h
    · exact ⟨_, h⟩
    · exact ⟨_, h⟩
  · rintro ⟨place, h⟩
    exact h.mem_nodes

/-- It takes two of a type just if two can be held. -/
theorem repeats_iff : (c.container d).repeats r = true ↔ c.HoldsTwo d r := by
  rw [Container.repeats_iff]
  constructor
  · rintro (⟨slot, hslot, hr, hm⟩ | ⟨i, j, slot, slot', hij, hi, hj, hr, hr'⟩)
    · obtain ⟨i, hi⟩ := List.getElem?_of_mem hslot
      rcases admits_of_slots hi hr with ⟨_, e, he, hre, hem⟩ | h
      · exact .inl ⟨e, he, hre, hem.trans hm⟩
      · exact .inr (.inr h)
    · rcases admits_of_slots hi hr with ⟨h, _⟩ | h
      · rcases admits_of_slots hj hr' with ⟨h', _⟩ | h'
        · exact .inr (.inl ⟨i, j, hij, h, h'⟩)
        · exact .inr (.inr h')
      · exact .inr (.inr h)
  · rintro (⟨e, he, hr, hm⟩ | ⟨i, j, hij, ⟨e, he, hr⟩, e', he', hr'⟩ | h)
    · obtain ⟨i, hi⟩ := List.getElem?_of_mem he
      exact .inl ⟨_, List.mem_of_getElem? (slots_getElem? hi), hr, hm⟩
    · exact .inr ⟨i, j, _, _, hij, slots_getElem? he, slots_getElem? he', hr, hr'⟩
    · exact .inl ⟨_, extras_slot h.1 h.2, h.1, rfl⟩

theorem HoldsTwo.holds (h : c.HoldsTwo d r) : c.Holds d r := by
  rcases h with ⟨e, he, hr, _⟩ | ⟨i, _, _, h, _⟩ | h
  · obtain ⟨i, hi⟩ := List.getElem?_of_mem he
    exact ⟨some i, e, hi, hr⟩
  · exact ⟨_, h⟩
  · exact ⟨_, h⟩

theorem mem_containers_holding {k : Container} :
    k ∈ c.containers.filter (·.holds r) ↔ ∃ d ∈ c.concrete, c.container d = k ∧ c.Holds d r := by
  simp only [mem_holding, mem_nodes_iff]

end Catalogue

namespace Graph

/-- Whether a step from a node of type `r` can land on a node of a type, or on nothing. -/
def Lands (g : Graph) (step : Direction) (r : NodeRef) (x : Option NodeRef) : Prop :=
  ∃ l, g.landing? r step = some l ∧ x ∈ l.targets

variable {c : Catalogue} {start : Option String} {d : Descriptor} {r t : NodeRef} {x : Option NodeRef}

section

variable (hd : d ∈ c.concrete)

include hd

theorem lands_concrete {step : Direction} : Lands ⟨c.concrete.map (rowFor c start)⟩ step d.ref x ↔
    x ∈ ((rowFor c start d).landing step).targets := by
  rw [Lands, landing?_concrete hd]
  simp

/-- First children are what a node can hold. -/
theorem lands_firstChild : Lands ⟨c.concrete.map (rowFor c start)⟩ .firstChild d.ref (some r) ↔
    c.Holds d r := by
  rw [lands_concrete hd, Landing.some_mem_targets, ← Catalogue.mem_nodes_iff]
  exact NodeRef.mem_set

/-- Parents are the nodes that can hold it. -/
theorem lands_parent : Lands ⟨c.concrete.map (rowFor c start)⟩ .parent d.ref (some r) ↔
    ∃ d' ∈ c.concrete, d'.ref = r ∧ c.Holds d' d.ref := by
  rw [lands_concrete hd, Landing.some_mem_targets]
  change r ∈ NodeRef.set ((c.containers.filter (·.holds d.ref)).map Container.node) ↔ _
  rw [NodeRef.mem_set, List.mem_map]
  simp only [Catalogue.mem_containers_holding]
  constructor
  · rintro ⟨_, ⟨d', hd', rfl, h⟩, rfl⟩
    exact ⟨d', hd', rfl, h⟩
  · rintro ⟨d', hd', rfl, h⟩
    exact ⟨_, ⟨d', hd', rfl, h⟩, rfl⟩

/-- A root has no parent, and neither has a type that nothing holds. -/
theorem lands_no_parent : Lands ⟨c.concrete.map (rowFor c start)⟩ .parent d.ref none ↔
    d.ref ∈ c.rootTypes start ∨ ∀ d' ∈ c.concrete, ¬c.Holds d' d.ref := by
  rw [lands_concrete hd, Landing.none_mem_targets]
  change ((c.rootTypes start).contains d.ref || (c.containers.filter (·.holds d.ref)).isEmpty) = true ↔ _
  rw [Bool.or_eq_true, List.contains_iff_mem, List.isEmpty_iff, List.eq_nil_iff_forall_not_mem]
  simp only [Catalogue.mem_containers_holding]
  refine or_congr_right ⟨fun h d' hd' hr => h _ ⟨d', hd', rfl, hr⟩, ?_⟩
  rintro h _ ⟨d', hd', rfl, hr⟩
  exact h d' hd' hr

/-- Siblings are held by one node, and two of one type only if the node can hold two. -/
theorem lands_nextSibling : Lands ⟨c.concrete.map (rowFor c start)⟩ .nextSibling d.ref (some r) ↔
    ∃ d' ∈ c.concrete, c.Holds d' d.ref ∧ c.Holds d' r ∧ (r = d.ref → c.HoldsTwo d' d.ref) := by
  rw [lands_concrete hd, Landing.some_mem_targets]
  change r ∈ NodeRef.set ((c.containers.filter (·.holds d.ref)).flatMap (·.beside d.ref)) ↔ _
  rw [NodeRef.mem_set, List.mem_flatMap]
  simp only [Catalogue.mem_containers_holding, Container.mem_beside_iff]
  constructor
  · rintro ⟨_, ⟨d', hd', rfl, h⟩, hr, htwo⟩
    exact ⟨d', hd', h, Catalogue.mem_nodes_iff.mp hr, fun he => Catalogue.repeats_iff.mp (htwo he)⟩
  · rintro ⟨d', hd', h, hr, htwo⟩
    exact ⟨_, ⟨d', hd', rfl, h⟩, Catalogue.mem_nodes_iff.mpr hr,
      fun he => Catalogue.repeats_iff.mpr (htwo he)⟩

/-- Types that differ stand beside each other where one type holds both. -/
theorem lands_other (hne : r ≠ d.ref) :
    Lands ⟨c.concrete.map (rowFor c start)⟩ .nextSibling d.ref (some r) ↔
      ∃ d' ∈ c.concrete, c.Holds d' r ∧ c.Holds d' d.ref := by
  rw [lands_nextSibling hd]
  constructor
  · rintro ⟨d', hd', h, hr, _⟩
    exact ⟨d', hd', hr, h⟩
  · rintro ⟨d', hd', hr, h⟩
    exact ⟨d', hd', h, hr, fun he => absurd he hne⟩

theorem lands_itself : Lands ⟨c.concrete.map (rowFor c start)⟩ .nextSibling d.ref (some d.ref) ↔
    ∃ d' ∈ c.concrete, c.HoldsTwo d' d.ref := by
  rw [lands_nextSibling hd]
  constructor
  · rintro ⟨d', hd', _, _, htwo⟩
    exact ⟨d', hd', htwo rfl⟩
  · rintro ⟨d', hd', htwo⟩
    exact ⟨d', hd', htwo.holds, htwo.holds, fun _ => htwo⟩

end

/-- What holds between the rows of the graph of a closed catalogue. -/
structure Lawful (c : Catalogue) (start : Option String) (g : Graph) : Prop where
  rows : ∀ r, g.contains r = true ↔ ∃ d ∈ c.descriptors, d.ref = r ∧ d.isConcrete = true
  holds : ∀ d ∈ c.descriptors, d.isConcrete = true →
    ∀ t, g.Lands .firstChild d.ref (some t) ↔ c.Holds d t
  converse : ∀ p t, g.contains p = true → g.contains t = true →
    (g.Lands .firstChild p (some t) ↔ g.Lands .parent t (some p))
  level : ∀ t, g.contains t = true →
    g.landing? t .nextSibling = g.landing? t .previousSibling ∧ g.Lands .nextSibling t none
  symmetric : ∀ s t, g.contains s = true → g.contains t = true →
    (g.Lands .nextSibling t (some s) ↔ g.Lands .nextSibling s (some t))
  beside : ∀ s t, g.contains s = true → g.contains t = true → s ≠ t →
    (g.Lands .nextSibling t (some s) ↔
      ∃ d ∈ c.descriptors, d.isConcrete = true ∧ c.Holds d s ∧ c.Holds d t)
  twice : ∀ t, g.contains t = true → (g.Lands .nextSibling t (some t) ↔
    ∃ d ∈ c.descriptors, d.isConcrete = true ∧ c.HoldsTwo d t)
  top : ∀ t, g.contains t = true → (g.Lands .parent t none ↔
    t ∈ c.roots ∨ start = some t.type ∨ ¬∃ d ∈ c.descriptors, d.isConcrete = true ∧ c.Holds d t)
  stands : ∀ step t s, g.Lands step t (some s) →
    c.isSupertype s = false ∧ (s.named = true → g.contains s = true)

/-- The graph has a row for each concrete type. -/
theorem contains_iff : contains ⟨c.concrete.map (rowFor c start)⟩ r = true ↔
    ∃ d ∈ c.concrete, d.ref = r := by
  rw [contains, row?, List.find?_isSome]
  constructor
  · rintro ⟨row, hrow, hr⟩
    obtain ⟨d, hd, rfl⟩ := List.mem_map.mp hrow
    exact ⟨d, hd, of_decide_eq_true hr⟩
  · rintro ⟨d, hd, rfl⟩
    exact ⟨_, List.mem_map.mpr ⟨d, hd, rfl⟩, decide_eq_true rfl⟩

/-- A member of a landing can stand in a tree, so it has a row if it is named. -/
theorem lands_stands (hc : c.Closed) {step : Direction}
    (h : Lands ⟨c.concrete.map (rowFor c start)⟩ step t (some r)) : c.Stands r := by
  obtain ⟨l, hl, hr⟩ := h
  obtain ⟨d, hd, rfl, rfl⟩ := landing?_eq_some hl
  exact Catalogue.landing_stands hc start hd step r (Landing.some_mem_targets.mp hr)

theorem mem_rootTypes_iff (hd : d ∈ c.concrete) :
    d.ref ∈ c.rootTypes start ↔ d.ref ∈ c.roots ∨ start = some d.ref.type := by
  have hn := Catalogue.named_of_mem_concrete hd
  rw [Catalogue.rootTypes, List.mem_append]
  refine or_congr_right ?_
  cases start with
  | none => simp
  | some s =>
    obtain ⟨⟨type, named⟩, _⟩ := d
    simp only [Option.toList_some, List.map_cons, List.map_nil, List.mem_singleton, NodeRef.mk.injEq,
      Option.some.injEq] at hn ⊢
    exact ⟨fun h => h.1.symm, fun h => ⟨h.symm, hn⟩⟩

theorem exists_concrete {P : Descriptor → Prop} :
    (∃ d ∈ c.concrete, P d) ↔ ∃ d ∈ c.descriptors, d.isConcrete = true ∧ P d := by
  simp only [Catalogue.mem_concrete, and_assoc]

/-- A named type that stands in a tree is concrete. -/
theorem concrete_of_stands (h : c.Stands r) (hn : r.named = true) : ∃ d ∈ c.concrete, d.ref = r := by
  obtain ⟨href, hsuper⟩ := h
  obtain ⟨d, hd, rfl⟩ := Catalogue.mem_refs.mp href
  rw [Catalogue.isSupertype_ref hd] at hsuper
  exact ⟨d, Catalogue.mem_concrete.mpr ⟨hd, by simp [Descriptor.isConcrete, hn, hsuper]⟩, rfl⟩

/-- The graph of a closed catalogue is lawful: its rows are the concrete types, parents are read off the first
children, siblings are symmetric, and whether two types or two nodes of one type can stand beside each other is
told by what the entries hold. -/
theorem build_lawful (c : Catalogue) (start : Option String) (hc : c.check = .ok ()) :
    ∃ g, build c start = .ok g ∧ g.Lawful c start := by
  have hclosed := Catalogue.check_eq_ok_iff.mp hc
  refine ⟨_, build_of_check hc, ?_⟩
  constructor
  case rows =>
    intro r
    rw [contains_iff, exists_concrete]
    simp only [and_comm]
  case holds =>
    intro d hd hcon t
    exact lands_firstChild (Catalogue.mem_concrete.mpr ⟨hd, hcon⟩)
  case converse =>
    intro p t hp ht
    obtain ⟨d, hd, rfl⟩ := contains_iff.mp hp
    obtain ⟨d', hd', rfl⟩ := contains_iff.mp ht
    rw [lands_firstChild hd, lands_parent hd']
    constructor
    · exact fun h => ⟨d, hd, rfl, h⟩
    · rintro ⟨e, he, href, h⟩
      rwa [Catalogue.eq_of_ref_eq (Catalogue.mem_concrete.mp hd).1 (Catalogue.mem_concrete.mp he).1
        href.symm]
  case level =>
    intro t ht
    obtain ⟨d, hd, rfl⟩ := contains_iff.mp ht
    exact ⟨by rw [landing?_concrete hd, landing?_concrete hd]; rfl,
      (lands_concrete hd).mpr none_mem_sibling⟩
  case symmetric =>
    intro s t hs ht
    obtain ⟨d, hd, rfl⟩ := contains_iff.mp hs
    obtain ⟨d', hd', rfl⟩ := contains_iff.mp ht
    by_cases hne : d.ref = d'.ref
    · rw [hne]
    · rw [lands_other hd' hne, lands_other hd (Ne.symm hne)]
      simp only [and_comm]
  case beside =>
    intro s t _ ht hne
    obtain ⟨d, hd, rfl⟩ := contains_iff.mp ht
    rw [lands_other hd hne, exists_concrete]
  case twice =>
    intro t ht
    obtain ⟨d, hd, rfl⟩ := contains_iff.mp ht
    rw [lands_itself hd, exists_concrete]
  case top =>
    intro t ht
    obtain ⟨d, hd, rfl⟩ := contains_iff.mp ht
    rw [lands_no_parent hd, mem_rootTypes_iff hd, or_assoc, ← exists_concrete]
    simp only [not_exists, not_and]
  case stands =>
    intro step t s h
    have hs := lands_stands hclosed h
    exact ⟨hs.2, fun hn => contains_iff.mpr (concrete_of_stands hs hn)⟩

/-- In the catalogue of listings remarks are extras, so they stand in a list and beside each other. -/
theorem build_lawful_listing : listing.check = .ok () ∧ ∃ g, build listing none = .ok g ∧
    g.Lands .nextSibling ⟨"remark", true⟩ (some ⟨"remark", true⟩) ∧
    g.Lands .parent ⟨"remark", true⟩ (some ⟨"list", true⟩) ∧ g.Lands .parent ⟨"list", true⟩ none := by
  have hc : listing.check = .ok () := by cbv
  obtain ⟨g, hg, h⟩ := build_lawful listing none hc
  have hrow (i : Fin 5) (hi : listing.descriptors[i].isConcrete = true) :
      g.contains listing.descriptors[i].ref = true :=
    (h.rows _).mpr ⟨_, List.getElem_mem _, rfl, hi⟩
  have hlist : g.contains ⟨"list", true⟩ = true := hrow 0 rfl
  have hremark : g.contains ⟨"remark", true⟩ = true := hrow 3 rfl
  have hextra : listing.Admits listing.descriptors[0] none ⟨"remark", true⟩ := ⟨by decide, rfl⟩
  have hlaid : g.Lands .firstChild ⟨"list", true⟩ (some ⟨"remark", true⟩) :=
    (h.holds _ (.head _) rfl _).mpr ⟨_, hextra⟩
  exact ⟨hc, g, hg, (h.twice _ hremark).mpr ⟨_, .head _, rfl, .inr (.inr hextra)⟩,
    (h.converse _ _ hlist hremark).mp hlaid, (h.top _ hlist).mpr (.inl (by decide))⟩

end Graph

end TraversalSdk
