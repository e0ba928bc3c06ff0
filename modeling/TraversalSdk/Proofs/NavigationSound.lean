import Mathlib.Data.List.Permutation
import TraversalSdk.Proofs.ParseTree

namespace TraversalSdk

/-- Two positions with the property leave two members in the filtered list. -/
theorem two_le_filter {α : Type} {p : α → Bool} {l : List α} {i j : Nat} {a b : α} (hij : i ≠ j)
    (hi : l[i]? = some a) (hj : l[j]? = some b) (ha : p a = true) (hb : p b = true) :
    2 ≤ (l.filter p).length := by
  induction l generalizing i j with
  | nil => simp at hi
  | cons x l ih =>
    have one {k : Nat} {y : α} (hk : l[k]? = some y) (hy : p y = true) :
        1 ≤ (l.filter p).length :=
      List.length_pos_of_mem (List.mem_filter.mpr ⟨List.mem_of_getElem? hk, hy⟩)
    cases i with
    | zero =>
      cases j with
      | zero => exact absurd rfl hij
      | succ j =>
        have hx : x = a := by simpa using hi
        rw [List.filter_cons_of_pos (by rw [hx]; exact ha), List.length_cons]
        exact Nat.succ_le_succ (one (by simpa using hj) hb)
    | succ i =>
      cases j with
      | zero =>
        have hx : x = b := by simpa using hj
        rw [List.filter_cons_of_pos (by rw [hx]; exact hb), List.length_cons]
        exact Nat.succ_le_succ (one (by simpa using hi) ha)
      | succ j =>
        have h := ih (i := i) (j := j) (by omega) (by simpa using hi) (by simpa using hj)
        rw [List.filter_cons]
        split
        · rw [List.length_cons]
          omega
        · exact h

namespace Container

theorem mem_nodes {k : Container} {r : NodeRef} :
    r ∈ k.nodes ↔ ∃ s ∈ k.slots, r ∈ s.nodes := List.mem_flatMap

theorem repeats_of_multiple {k : Container} {s : Slot} {r : NodeRef} (hs : s ∈ k.slots)
    (hr : r ∈ s.nodes) (hm : s.multiple = true) : k.repeats r = true := by
  unfold repeats
  rw [Bool.or_eq_true]
  left
  exact List.any_eq_true.mpr ⟨s, List.mem_filter.mpr ⟨hs, by simpa using hr⟩, hm⟩

/-- Two slots that take a type let a container hold two of it. -/
theorem repeats_of_two {k : Container} {i j : Nat} {s s' : Slot} {r : NodeRef} (hij : i ≠ j)
    (hi : k.slots[i]? = some s) (hj : k.slots[j]? = some s') (hr : r ∈ s.nodes)
    (hr' : r ∈ s'.nodes) : k.repeats r = true := by
  have h := two_le_filter (p := fun s => s.nodes.contains r) hij hi hj (by simpa using hr)
    (by simpa using hr')
  unfold repeats
  rw [Bool.or_eq_true]
  right
  exact decide_eq_true h

/-- Any other type stands beside `r`, and `r` itself does if it repeats. -/
theorem mem_beside {k : Container} {r s : NodeRef} (hs : s ∈ k.nodes)
    (hr : s = r → k.repeats r = true) : s ∈ k.beside r := by
  unfold beside
  split
  · exact hs
  · next hn => exact List.mem_filter.mpr ⟨hs, by simpa using fun he => hn (hr he)⟩

end Container

namespace Catalogue

variable {c : Catalogue} {d : Descriptor}

def container (c : Catalogue) (d : Descriptor) : Container :=
  ⟨d.ref, c.slots d, d.entries.any (·.spec.required)⟩

theorem containers_eq (c : Catalogue) : c.containers = c.concrete.map c.container := rfl

theorem mem_concrete : d ∈ c.concrete ↔ d ∈ c.descriptors ∧ d.isConcrete = true := by
  simp [concrete]

theorem mem_holding {k : Container} {r : NodeRef} : k ∈ c.containers.filter (·.holds r) ↔
    ∃ d ∈ c.concrete, c.container d = k ∧ r ∈ (c.container d).nodes := by
  rw [containers_eq, List.mem_filter, List.mem_map]
  constructor
  · rintro ⟨⟨d, hd, rfl⟩, hr⟩
    exact ⟨d, hd, rfl, by simpa [Container.holds] using hr⟩
  · rintro ⟨d, hd, rfl, hr⟩
    exact ⟨⟨d, hd, rfl⟩, by simpa [Container.holds] using hr⟩

/-- Entries are slots at the same position. -/
theorem slots_getElem? {i : Nat} {e : Entry} (he : d.entries[i]? = some e) :
    (c.slots d)[i]? = some ⟨e.spec.multiple, c.expandAll e.spec.types⟩ := by
  have hown : (d.entries.map fun e => Slot.mk e.spec.multiple (c.expandAll e.spec.types))[i]? =
      some ⟨e.spec.multiple, c.expandAll e.spec.types⟩ := by
    simp [he]
  unfold slots
  dsimp only
  split
  · exact hown
  · obtain ⟨hi, _⟩ := List.getElem?_eq_some_iff.mp hown
    rw [List.getElem?_append_left hi]
    exact hown

theorem extras_slot {r : NodeRef} (hr : r ∈ c.namedExtras) (hd : d.hasEntries = true) :
    ⟨true, c.namedExtras⟩ ∈ c.slots d := by
  have he : d.entries ≠ [] := fun h => by simp [Descriptor.entries_eq_nil_iff.mp h] at hd
  unfold slots
  dsimp only
  rw [if_neg]
  · simp
  · simpa [he] using List.ne_nil_of_mem hr

theorem Admits.mem_nodes {place : Option Nat} {r : NodeRef} (h : c.Admits d place r) :
    r ∈ (c.container d).nodes := by
  cases place with
  | none => exact Container.mem_nodes.mpr ⟨_, extras_slot h.1 h.2, h.1⟩
  | some i =>
    obtain ⟨e, he, hr⟩ := h
    exact Container.mem_nodes.mpr ⟨_, List.mem_of_getElem? (slots_getElem? he), hr⟩

/-- Two children of one type: an extra repeats, two entries may hold one each, and a single entry that
holds both is a multiple one. -/
theorem Fits.repeats {placed : List (Option Nat × NodeRef)} (h : c.Fits d placed) {i j : Nat}
    {a b : Option Nat} {r : NodeRef} (hij : i ≠ j) (hi : placed[i]? = some (a, r))
    (hj : placed[j]? = some (b, r)) : (c.container d).repeats r = true := by
  have ha := h.admits _ (List.mem_of_getElem? hi)
  have hb := h.admits _ (List.mem_of_getElem? hj)
  cases a with
  | none => exact Container.repeats_of_multiple (extras_slot ha.1 ha.2) ha.1 rfl
  | some x =>
    cases b with
    | none => exact Container.repeats_of_multiple (extras_slot hb.1 hb.2) hb.1 rfl
    | some y =>
      obtain ⟨e, he, hr⟩ := ha
      obtain ⟨e', he', hr'⟩ := hb
      by_cases hxy : x = y
      · subst hxy
        have hm : e.spec.multiple = true := by
          by_contra hm
          have hone := h.single x e he (by simpa using hm)
          have htwo := two_le_filter (p := fun k => decide (k.1 = some x)) hij hi hj
            (by simp) (by simp)
          omega
        exact Container.repeats_of_multiple (List.mem_of_getElem? (slots_getElem? he)) hr hm
      · exact Container.repeats_of_two hxy (slots_getElem? he) (slots_getElem? he') hr hr'

/-- The place of the child at a position. -/
theorem Fits.child {placed : List (Option Nat × NodeRef)} {ts : List Tree}
    (ht : ts.map Tree.type = placed.map Prod.snd) {i : Nat} {t : Tree} (hi : ts[i]? = some t) :
    ∃ place, placed[i]? = some (place, t.type) := by
  have h : (placed.map Prod.snd)[i]? = some t.type := by rw [← ht]; simp [hi]
  rw [List.getElem?_map, Option.map_eq_some_iff] at h
  obtain ⟨⟨place, r⟩, hp, rfl⟩ := h
  exact ⟨place, hp⟩

variable {s t : Tree}

/-- A child is of a type that its parent can hold. -/
theorem Conforms.mem_nodes (h : c.Conforms s) (hd : d ∈ c.descriptors) (hc : d.isConcrete = true)
    (hr : d.ref = s.type) {i : Nat} (hi : s.children[i]? = some t) :
    t.type ∈ (c.container d).nodes := by
  obtain ⟨placed, fits, types⟩ := h.fits hd hc hr
  obtain ⟨place, hp⟩ := Fits.child types hi
  exact (fits.admits _ (List.mem_of_getElem? hp)).mem_nodes

/-- Two children stand beside each other in the container of their parent. -/
theorem Conforms.mem_beside (h : c.Conforms s) (hd : d ∈ c.descriptors) (hc : d.isConcrete = true)
    (hr : d.ref = s.type) {i j : Nat} {t' : Tree} (hij : i ≠ j) (hi : s.children[i]? = some t)
    (hj : s.children[j]? = some t') : t'.type ∈ (c.container d).beside t.type := by
  obtain ⟨placed, fits, types⟩ := h.fits hd hc hr
  obtain ⟨a, ha⟩ := Fits.child types hi
  obtain ⟨b, hb⟩ := Fits.child types hj
  apply Container.mem_beside (h.mem_nodes hd hc hr hj)
  intro he
  rw [he] at hb
  exact fits.repeats hij ha hb

/-- A node without children has a type that asks for none. -/
theorem Conforms.firstChild (h : c.Conforms s) (hd : d ∈ c.descriptors)
    (hc : d.isConcrete = true) (hr : d.ref = s.type) :
    (s.children[0]?).map Tree.type ∈ (c.container d).firstChild.targets := by
  obtain ⟨placed, fits, types⟩ := h.fits hd hc hr
  cases h0 : s.children[0]? with
  | some t =>
    have hm := h.mem_nodes hd hc hr h0
    simp [Landing.targets, Container.firstChild, hm]
  | none =>
    have hn : s.children = [] := by simpa using h0
    have hp : placed = [] := by simpa [hn] using types.symm
    have hreq : (c.container d).required = false := by
      by_contra hreq
      obtain ⟨e, he, hq⟩ := List.any_eq_true.mp (by simpa [container] using hreq)
      obtain ⟨i, hi⟩ := List.getElem?_of_mem he
      obtain ⟨k, hk, _⟩ := fits.required i e hi hq
      simp [hp] at hk
    simp [Landing.targets, Container.firstChild, hreq]

def rootTypes (c : Catalogue) (start : Option String) : List NodeRef :=
  c.roots ++ start.toList.map fun s => ⟨s, true⟩

/-- A tree has a root type at its root. -/
theorem Parses.root_mem {start : Option String} (h : c.Parses start t) :
    t.type ∈ c.rootTypes start := by
  rcases h.root with hr | ⟨s, rfl, hs⟩
  · exact List.mem_append_left _ hr
  · exact List.mem_append_right _ (by simp [hs])

end Catalogue

namespace Graph

variable {c : Catalogue} {start : Option String}

def rowFor (c : Catalogue) (start : Option String) (d : Descriptor) : Row :=
  rowOf (c.rootTypes start) c.containers (c.container d)

theorem build_of_check (hc : c.check = .ok ()) :
    build c start = .ok ⟨c.concrete.map (rowFor c start)⟩ := by
  unfold build
  rw [hc]
  simp only [bind, Except.bind, pure, Except.pure, Catalogue.containers_eq, List.map_map]
  rfl

/-- Every landing of the graph stands in the row of a concrete type. -/
theorem landing?_eq_some {ds : List Descriptor} {r : NodeRef} {step : Direction} {l : Landing}
    (h : landing? ⟨ds.map (rowFor c start)⟩ r step = some l) :
    ∃ d ∈ ds, d.ref = r ∧ l = (rowFor c start d).landing step := by
  obtain ⟨row, hrow, rfl⟩ := Option.map_eq_some_iff.mp h
  obtain ⟨d, hd, rfl⟩ := List.mem_map.mp (List.mem_of_find?_eq_some hrow)
  unfold row? at hrow
  have hr := List.find?_some hrow
  exact ⟨d, hd, by simpa [rowFor, rowOf, Catalogue.container] using hr, rfl⟩

variable {d d' : Descriptor} {s t : Tree}

theorem none_mem_parent_of_root (h : d.ref ∈ c.rootTypes start) :
    none ∈ (rowFor c start d).parent.targets := by
  simp [rowFor, rowOf, Landing.targets, Catalogue.container, h]

/-- The parent of a node is among the targets of its row. -/
theorem mem_parent (hd' : d' ∈ c.descriptors) (hc' : d'.isConcrete = true)
    (h : d.ref ∈ (c.container d').nodes) : some d'.ref ∈ (rowFor c start d).parent.targets := by
  have hm := Catalogue.mem_holding.mpr ⟨d', Catalogue.mem_concrete.mpr ⟨hd', hc'⟩, rfl, h⟩
  have hn : d'.ref ∈ (c.containers.filter (·.holds d.ref)).map Container.node :=
    List.mem_map.mpr ⟨_, hm, rfl⟩
  simpa [rowFor, rowOf, Landing.targets, Catalogue.container] using hn

theorem none_mem_sibling : none ∈ (rowFor c start d).sibling.targets := by
  simp [rowFor, rowOf, Landing.targets]

/-- So is every sibling. -/
theorem mem_sibling (hd' : d' ∈ c.descriptors) (hc' : d'.isConcrete = true)
    (h : d.ref ∈ (c.container d').nodes) {r : NodeRef}
    (hr : r ∈ (c.container d').beside d.ref) : some r ∈ (rowFor c start d).sibling.targets := by
  have hm := Catalogue.mem_holding.mpr ⟨d', Catalogue.mem_concrete.mpr ⟨hd', hc'⟩, rfl, h⟩
  have hn : r ∈ (c.containers.filter (·.holds d.ref)).flatMap (·.beside d.ref) :=
    List.mem_flatMap.mpr ⟨_, hm, hr⟩
  simpa [rowFor, rowOf, Landing.targets, Catalogue.container] using hn

/-- A node above holds this one and everything beside it. -/
theorem beside_mem (ht : c.Parses start t) {i j : Nat} {p : List Nat} (hij : i ≠ j)
    (hs : t.at? (i :: p) = some s) (hr : d.ref = s.type) :
    (t.at? (j :: p)).map Tree.type ∈ (rowFor c start d).sibling.targets := by
  obtain ⟨s', hs', hi⟩ := Tree.at?_cons hs
  have hconf := ht.conforms.at? hs'
  obtain ⟨d', hd', hc', hr'⟩ := hconf.parent hi
  rw [Tree.at?_child hs']
  cases hj : s'.children[j]? with
  | none => exact none_mem_sibling
  | some u =>
    exact mem_sibling hd' hc' (hr ▸ hconf.mem_nodes hd' hc' hr' hi)
      (hr ▸ hconf.mem_beside hd' hc' hr' hij hi hj)

/-- One step from a node of a concrete type lands where the row of the type says. -/
theorem landing_mem (ht : c.Parses start t) {p : List Nat} (hs : t.at? p = some s)
    (hd : d ∈ c.descriptors) (hc : d.isConcrete = true) (hr : d.ref = s.type) (step : Direction) :
    t.landing p step ∈ ((rowFor c start d).landing step).targets := by
  cases step with
  | firstChild =>
    have h := (ht.conforms.at? hs).firstChild hd hc hr
    rw [← Tree.at?_child hs] at h
    exact h
  | nextSibling =>
    cases p with
    | nil => exact none_mem_sibling
    | cons i p => exact beside_mem ht (by omega) hs hr
  | previousSibling =>
    match p with
    | [] | 0 :: _ => exact none_mem_sibling
    | (i + 1) :: p => exact beside_mem ht (by omega) hs hr
  | parent =>
    cases p with
    | nil =>
      apply none_mem_parent_of_root
      have he : t = s := by simpa [Tree.at?] using hs
      rw [hr, ← he]
      exact ht.root_mem
    | cons i p =>
      obtain ⟨s', hs', hi⟩ := Tree.at?_cons hs
      have hconf := ht.conforms.at? hs'
      obtain ⟨d', hd', hc', hr'⟩ := hconf.parent hi
      have hl : t.landing (i :: p) .parent = some d'.ref := by
        simp [Tree.landing, Tree.step, hs', hr']
      rw [hl]
      exact mem_parent hd' hc' (hr ▸ hconf.mem_nodes hd' hc' hr' hi)

/-- The graph is sound: a closed catalogue has one, and whatever a step from a node with a row lands
on in a parse tree, a node or nothing, is among the targets of the row. -/
theorem build_sound (c : Catalogue) (start : Option String) (hc : c.check = .ok ()) :
    ∃ g, build c start = .ok g ∧ ∀ t, c.Parses start t → ∀ p s, t.at? p = some s →
      ∀ step l, g.landing? s.type step = some l → t.landing p step ∈ l.targets := by
  refine ⟨_, build_of_check hc, ?_⟩
  intro t ht p s hs step l hl
  obtain ⟨d, hd, hr, rfl⟩ := landing?_eq_some hl
  obtain ⟨hd, hcon⟩ := Catalogue.mem_concrete.mp hd
  exact landing_mem ht hs hd hcon hr step

end Graph

/-- A list holds values and commas, at least one node; values are names, remarks stand anywhere. -/
def listing : Catalogue where
  descriptors := [
    ⟨⟨"list", true⟩, true, false, [], some ⟨true, true, [⟨"value", true⟩, ⟨",", false⟩]⟩, none⟩,
    ⟨⟨"value", true⟩, false, false, [], none, some [⟨"name", true⟩, ⟨"value", true⟩]⟩,
    ⟨⟨"name", true⟩, false, false, [], none, none⟩,
    ⟨⟨"remark", true⟩, false, true, [], none, none⟩,
    ⟨⟨",", false⟩, false, false, [], none, none⟩]
  nodup := by decide

def listingTree : Tree :=
  .node ⟨"list", true⟩
    [.node ⟨"name", true⟩ [], .node ⟨",", false⟩ [], .node ⟨"remark", true⟩ []]

theorem listing_parses : listing.Parses none listingTree where
  root := .inl (by decide)
  conforms := by
    have bare (d : Descriptor) (hd : d ∈ listing.descriptors) (hc : d.isConcrete = true)
        (he : d.hasEntries = false) : listing.Conforms (.node d.ref []) := by
      have he := Descriptor.entries_eq_nil_iff.mpr he
      exact .inner d [] [] hd hc ⟨by simp, by simp [he], by simp [he]⟩ rfl (by simp)
    refine .inner listing.descriptors[0]
      [(some 0, ⟨"name", true⟩), (some 0, ⟨",", false⟩), (none, ⟨"remark", true⟩)] _
      (by decide) rfl ⟨?_, ?_, ?_⟩ rfl ?_
    · have hentry : listing.descriptors[0].entries[0]? =
          some ⟨none, true, true, [⟨"value", true⟩, ⟨",", false⟩]⟩ := by cbv
      have hexpand : listing.expandAll [⟨"value", true⟩, ⟨",", false⟩] =
          [⟨",", false⟩, ⟨"name", true⟩] := by cbv
      have hremark : ⟨"remark", true⟩ ∈ listing.namedExtras := by decide
      simp only [List.mem_cons, List.not_mem_nil, or_false, forall_eq_or_imp, forall_eq]
      exact ⟨⟨_, hentry, by simp [hexpand]⟩, ⟨_, hentry, by simp [hexpand]⟩, hremark, rfl⟩
    · intro i e he hm
      have h : listing.descriptors[0].entries.all (·.spec.multiple) = true := by cbv
      have := List.all_eq_true.mp h e (List.mem_of_getElem? he)
      simp [hm] at this
    · intro i e he _
      have h : listing.descriptors[0].entries.length = 1 := by cbv
      obtain ⟨hi, _⟩ := List.getElem?_eq_some_iff.mp he
      have h0 : i = 0 := by omega
      exact ⟨(some 0, ⟨"name", true⟩), by simp, by rw [h0]⟩
    · simp only [List.mem_cons, List.not_mem_nil, or_false, forall_eq_or_imp, forall_eq]
      exact ⟨bare listing.descriptors[2] (by decide) rfl rfl, .leaf _ (by decide),
        bare listing.descriptors[3] (by decide) rfl rfl⟩

/-- Behind the name in the list stands its comma, and the graph says so. -/
theorem build_sound_listing : listing.check = .ok () ∧ listing.Parses none listingTree ∧
    ∃ g l, Graph.build listing none = .ok g ∧ g.landing? ⟨"name", true⟩ .nextSibling = some l ∧
      some ⟨",", false⟩ ∈ l.targets := by
  have hc : listing.check = .ok () := by cbv
  obtain ⟨g, hg, hs⟩ := Graph.build_sound listing none hc
  have hrow : ((Graph.build listing none).toOption.bind
      (·.landing? ⟨"name", true⟩ .nextSibling)).isSome = true := by cbv
  rw [hg] at hrow
  obtain ⟨l, hl⟩ := Option.isSome_iff_exists.mp hrow
  exact ⟨hc, listing_parses, g, l, hg, hl, hs listingTree listing_parses [0] _ rfl .nextSibling l hl⟩

end TraversalSdk
