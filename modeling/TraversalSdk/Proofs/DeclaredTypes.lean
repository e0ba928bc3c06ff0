import TraversalSdk.Proofs.ExpandedTypes
import TraversalSdk.Proofs.GeneratedPlan
import TraversalSdk.Proofs.RegistryNames

namespace TraversalSdk

namespace Catalogue

variable {c : Catalogue}

def Closed (c : Catalogue) : Prop := ∀ d ∈ c.descriptors, ∀ r ∈ d.references, r ∈ c.refs

/-- A declared type that can stand in a tree. -/
def Stands (c : Catalogue) (r : NodeRef) : Prop := r ∈ c.refs ∧ c.isSupertype r = false

theorem dangling_eq_nil_iff : c.dangling = [] ↔ c.Closed := by
  simp only [dangling, List.flatMap_eq_nil_iff, List.map_eq_nil_iff, List.filter_eq_nil_iff, contains,
    Bool.not_eq_true', Bool.not_eq_false, List.contains_iff_mem]
  rfl

/-- A catalogue passes its check just if it is closed. -/
theorem check_eq_ok_iff : c.check = .ok () ↔ c.Closed := by
  rw [← dangling_eq_nil_iff]
  unfold check
  cases h : c.dangling with
  | nil => simp
  | cons p ps => simp

theorem stands_of_mem_concrete {d : Descriptor} (hd : d ∈ c.concrete) : c.Stands d.ref := by
  obtain ⟨hm, hc⟩ := mem_concrete.mp hd
  simp only [Descriptor.isConcrete, Bool.and_eq_true, Bool.not_eq_true'] at hc
  exact ⟨mem_refs.mpr ⟨d, hm, rfl⟩, by rw [isSupertype_ref hm, hc.2]⟩

section

variable (h : c.Closed)

include h

/-- What a declared type expands to is declared and can stand in a tree. -/
theorem expand_stands {r : NodeRef} (hr : r ∈ c.refs) : ∀ s ∈ c.expand r, c.Stands s := by
  intro s hs
  obtain ⟨hreach, hsuper⟩ := mem_expand.mp hs
  refine ⟨?_, hsuper⟩
  induction hreach with
  | refl => exact hr
  | tail _ hlists _ =>
    obtain ⟨d, hd, _, hm⟩ := lists_iff_members.mp hlists
    exact h d hd _ (List.mem_append_right _ hm)

/-- So is what the entries of a declaration admit. -/
theorem entry_stands {d : Descriptor} (hd : d ∈ c.descriptors) {e : Entry} (he : e ∈ d.entries) :
    ∀ s ∈ c.expandAll e.spec.types, c.Stands s := by
  intro s hs
  obtain ⟨r, hr, hs⟩ := mem_expandAll.mp hs
  have href : r ∈ d.references :=
    List.mem_append_left _ (List.mem_flatMap.mpr ⟨e, he, hr⟩)
  exact expand_stands h (h d hd r href) s hs

omit h in
theorem namedExtras_stands : ∀ s ∈ c.namedExtras, c.Stands s := by
  intro s hs
  obtain ⟨he, hk⟩ := List.mem_filter.mp hs
  obtain ⟨d, hd, rfl⟩ := List.mem_map.mp he
  simp only [Bool.and_eq_true, Bool.not_eq_true'] at hk
  exact ⟨mem_refs.mpr ⟨d, (List.mem_filter.mp hd).1, rfl⟩, hk.2⟩

/-- A container holds types that can stand in a tree. -/
theorem container_stands {d : Descriptor} (hd : d ∈ c.descriptors) :
    ∀ s ∈ (c.container d).nodes, c.Stands s := by
  intro s hs
  obtain ⟨slot, hslot, hs⟩ := Container.mem_nodes.mp hs
  have hown : ∀ slot ∈ d.entries.map (fun e => Slot.mk e.spec.multiple (c.expandAll e.spec.types)),
      s ∈ slot.nodes → c.Stands s := by
    intro slot hslot hs
    obtain ⟨e, he, rfl⟩ := List.mem_map.mp hslot
    exact entry_stands h hd he s hs
  simp only [container, slots] at hslot
  split at hslot
  · exact hown slot hslot hs
  · rcases List.mem_append.mp hslot with hslot | hslot
    · exact hown slot hslot hs
    · rw [List.mem_singleton.mp hslot] at hs
      exact namedExtras_stands s hs

omit h in
theorem mem_nodes_of_mem_beside {k : Container} {r s : NodeRef} (hs : s ∈ k.beside r) :
    s ∈ k.nodes := by
  unfold Container.beside at hs
  split at hs
  · exact hs
  · exact (List.mem_filter.mp hs).1

/-- Every step from a concrete type lands on types that stand in trees. -/
theorem landing_stands (start : Option String) {d : Descriptor} (hd : d ∈ c.concrete)
    (step : Direction) : ∀ s ∈ ((Graph.rowFor c start d).landing step).nodes, c.Stands s := by
  have hparents : ∀ k ∈ c.containers.filter (·.holds d.ref), ∃ d' ∈ c.concrete, k = c.container d' := by
    intro k hk
    rw [containers_eq] at hk
    obtain ⟨d', hd', rfl⟩ := List.mem_map.mp (List.mem_filter.mp hk).1
    exact ⟨d', hd', rfl⟩
  have hsibling : ∀ s ∈ (Graph.rowFor c start d).sibling.nodes, c.Stands s := by
    intro s hs
    obtain ⟨k, hk, hs⟩ := List.mem_flatMap.mp (NodeRef.mem_set.mp hs)
    obtain ⟨d', hd', rfl⟩ := hparents k hk
    exact container_stands h (mem_concrete.mp hd').1 s (mem_nodes_of_mem_beside hs)
  intro s hs
  cases step with
  | firstChild => exact container_stands h (mem_concrete.mp hd).1 s (NodeRef.mem_set.mp hs)
  | nextSibling => exact hsibling s hs
  | previousSibling => exact hsibling s hs
  | parent =>
    obtain ⟨k, hk, rfl⟩ := List.mem_map.mp (NodeRef.mem_set.mp hs)
    obtain ⟨d', hd', rfl⟩ := hparents k hk
    exact stands_of_mem_concrete hd'

end

end Catalogue

namespace Accessor

/-- The targets of an accessor are those that were asked for. -/
theorem targets_name {taken : List String} {ws : List Wanted} {a : Accessor}
    (h : a ∈ name taken ws) : ∃ w ∈ ws, a.targets = w.targets := by
  induction ws generalizing taken with
  | nil => cases h
  | cons w ws ih =>
    rcases List.mem_cons.mp h with rfl | h
    · exact ⟨w, List.mem_cons_self, rfl⟩
    · obtain ⟨w', hw', he⟩ := ih h
      exact ⟨w', List.mem_cons_of_mem _ hw', he⟩

/-- Accessors lead to types that stand in trees. -/
theorem plan_stands {c : Catalogue} (h : c.Closed) {d : Descriptor} (hd : d ∈ c.descriptors)
    {a : Accessor} (ha : a ∈ plan c d) : ∀ s ∈ a.targets, c.Stands s := by
  intro s hs
  obtain ⟨w, hw, he⟩ := targets_name ha
  rw [he] at hs
  rcases List.mem_append.mp hw with hw | hw
  · obtain ⟨f, hf, rfl⟩ := List.mem_map.mp hw
    have hentry : (⟨some f.1, f.2⟩ : Entry) ∈ d.entries :=
      List.mem_append_left _ (List.mem_map.mpr ⟨f, hf, rfl⟩)
    exact Catalogue.entry_stands h hd hentry s hs
  · obtain ⟨spec, hspec, hw⟩ := List.mem_flatMap.mp hw
    obtain ⟨r, hr, rfl⟩ := List.mem_map.mp hw
    rw [List.mem_singleton.mp hs]
    have hentry : (⟨none, spec⟩ : Entry) ∈ d.entries :=
      List.mem_append_right _ (List.mem_map.mpr ⟨spec, hspec, rfl⟩)
    exact Catalogue.entry_stands h hd hentry r (List.mem_filter.mp hr).1

end Accessor

/-- If nothing fails for a member, nothing fails for the list. -/
theorem mapM_isOk {ε α β : Type} {f : α → Except ε β} {l : List α}
    (h : ∀ a ∈ l, ∃ b, f a = .ok b) : ∃ l', l.mapM f = .ok l' := by
  induction l with
  | nil => exact ⟨[], rfl⟩
  | cons a l ih =>
    obtain ⟨b, hb⟩ := h a List.mem_cons_self
    obtain ⟨l', hl'⟩ := ih fun x hx => h x (List.mem_cons_of_mem _ hx)
    refine ⟨b :: l', ?_⟩
    rw [List.mapM_cons]
    exact bind_eq_ok.mpr ⟨b, hb, bind_eq_ok.mpr ⟨l', hl', rfl⟩⟩

namespace Blueprint

variable {b : Built}

/-- Declared types have names. -/
theorem title_isOk {r : NodeRef} (h : r ∈ b.catalogue.refs) :
    ∃ t, title b (.ofCatalogue b.catalogue) r = .ok t := by
  obtain ⟨n, hn⟩ := Registry.get?_isSome h
  exact ⟨⟨r, n⟩, by simp [title, hn]⟩

theorem titles_isOk {rs : List NodeRef} (h : ∀ r ∈ rs, r ∈ b.catalogue.refs) :
    ∃ ts, rs.mapM (title b (.ofCatalogue b.catalogue)) = .ok ts :=
  mapM_isOk fun r hr => title_isOk (h r hr)

section

variable (h : b.catalogue.Closed)

include h

/-- All that is looked up for a concrete type is found. -/
theorem concreteNode_isOk {start : Option String} {d : Descriptor} (hd : d ∈ b.catalogue.concrete) :
    ∃ n, concreteNode b.catalogue (title b (.ofCatalogue b.catalogue))
      (Graph.rowFor b.catalogue start d) d = .ok n := by
  have hm := (Catalogue.mem_concrete.mp hd).1
  obtain ⟨t, ht⟩ := title_isOk (b := b) (Catalogue.mem_refs.mpr ⟨d, hm, rfl⟩)
  obtain ⟨as, has⟩ := mapM_isOk (l := Accessor.plan b.catalogue d)
    (f := accessor (title b (.ofCatalogue b.catalogue))) fun a ha => by
      obtain ⟨ts, hts⟩ := titles_isOk (b := b) fun s hs => (Accessor.plan_stands h hm ha s hs).1
      exact ⟨⟨a, ts⟩, bind_eq_ok.mpr ⟨ts, hts, rfl⟩⟩
  obtain ⟨ms, hms⟩ := mapM_isOk (l := Direction.all)
    (f := move (title b (.ofCatalogue b.catalogue)) (Graph.rowFor b.catalogue start d))
    fun step _ => by
      obtain ⟨ts, hts⟩ := titles_isOk (b := b) fun s hs =>
        (Catalogue.landing_stands h start hd step s hs).1
      exact ⟨_, bind_eq_ok.mpr ⟨ts, hts, rfl⟩⟩
  exact ⟨_, bind_eq_ok.mpr ⟨t, ht, bind_eq_ok.mpr ⟨as, has, bind_eq_ok.mpr ⟨ms, hms, rfl⟩⟩⟩⟩

/-- All members of a supertype have names. -/
theorem group_isOk {d : Descriptor} (hd : d ∈ b.catalogue.descriptors) :
    ∃ g, group b.catalogue (title b (.ofCatalogue b.catalogue)) d = .ok g := by
  have href : d.ref ∈ b.catalogue.refs := Catalogue.mem_refs.mpr ⟨d, hd, rfl⟩
  obtain ⟨t, ht⟩ := title_isOk (b := b) href
  obtain ⟨ts, hts⟩ := titles_isOk (b := b) fun s hs => (Catalogue.expand_stands h href s hs).1
  exact ⟨_, bind_eq_ok.mpr ⟨t, ht, bind_eq_ok.mpr ⟨ts, hts, rfl⟩⟩⟩

omit h in
/-- The root type, if there is one, is a concrete type. -/
theorem rootType?_mem {c : Catalogue} {start s : String} (hs : rootType? c start = some s) :
    ∃ d ∈ c.concrete, d.ref = ⟨s, true⟩ := by
  have hmem : s ∈ c.concrete.map (·.ref.type) := by
    unfold rootType? at hs
    dsimp only at hs
    split at hs
    · next root rest he =>
      cases hs
      have hroot : s ∈ sortTexts ((c.roots.map NodeRef.type).filter
          (c.concrete.map (·.ref.type)).contains) := by
        rw [he]
        exact List.mem_cons_self
      exact List.contains_iff_mem.mp (List.mem_filter.mp (mem_sortOn.mp hroot)).2
    · split at hs
      · next hc =>
        cases hs
        exact List.contains_iff_mem.mp hc
      · cases hs
  obtain ⟨d, hd, rfl⟩ := List.mem_map.mp hmem
  have hc := (Catalogue.mem_concrete.mp hd).2
  simp only [Descriptor.isConcrete, Bool.and_eq_true] at hc
  exact ⟨d, hd, by rw [← hc.1]⟩

/-- A grammar with a rule and a closed catalogue has a plan. -/
theorem ofBuilt?_isOk {start : String} (hstart : b.grammar.startRule = .ok start)
    (spaceName : String) : ∃ plan, ofBuilt? b spaceName = .ok plan := by
  have hmem (d : Descriptor) (hd : d ∈ b.catalogue.descriptors) : d.ref ∈ b.catalogue.refs :=
    Catalogue.mem_refs.mpr ⟨d, hd, rfl⟩
  have hgraph : Graph.build b.catalogue (some start) =
      .ok ⟨b.catalogue.concrete.map (Graph.rowFor b.catalogue (some start))⟩ :=
    Graph.build_of_check (Catalogue.check_eq_ok_iff.mpr h)
  have hroot : ∃ root, (rootType? b.catalogue start).mapM
      (fun s => title b (.ofCatalogue b.catalogue) ⟨s, true⟩) = .ok root := by
    cases hs : rootType? b.catalogue start with
    | none => exact ⟨none, rfl⟩
    | some s =>
      obtain ⟨d, hd, href⟩ := rootType?_mem hs
      obtain ⟨t, ht⟩ := title_isOk (b := b) (hmem d (Catalogue.mem_concrete.mp hd).1)
      rw [href] at ht
      exact ⟨some t, by simp [ht, Functor.map, Except.map]⟩
  obtain ⟨root, hroot⟩ := hroot
  obtain ⟨declared, hdeclared⟩ := titles_isOk (b := b) fun r hr => hr
  obtain ⟨concrete, hconcrete⟩ := mapM_isOk
    (l := (b.catalogue.concrete.map (Graph.rowFor b.catalogue (some start))).zip b.catalogue.concrete)
    (f := fun p => concreteNode b.catalogue (title b (.ofCatalogue b.catalogue)) p.1 p.2)
    fun p hp => by
      rw [zip_rowFor] at hp
      obtain ⟨d, hd, rfl⟩ := List.mem_map.mp hp
      exact concreteNode_isOk h hd
  obtain ⟨groups, hgroups⟩ := mapM_isOk (l := b.catalogue.supertypes)
    (f := group b.catalogue (title b (.ofCatalogue b.catalogue))) fun d hd =>
      group_isOk h (List.mem_filter.mp (mem_sortOn.mp hd)).1
  obtain ⟨tokens, htokens⟩ : ∃ tokens, (b.catalogue.anonymous.map Descriptor.ref).mapM
      (title b (.ofCatalogue b.catalogue)) = .ok tokens :=
    titles_isOk fun r hr => by
      obtain ⟨d, hd, rfl⟩ := List.mem_map.mp hr
      exact hmem d (List.mem_filter.mp (mem_sortOn.mp hd)).1
  exact ⟨_, bind_eq_ok.mpr ⟨start, hstart, bind_eq_ok.mpr ⟨_, hgraph, bind_eq_ok.mpr ⟨root, hroot,
    bind_eq_ok.mpr ⟨declared, hdeclared, bind_eq_ok.mpr ⟨concrete, hconcrete, bind_eq_ok.mpr
      ⟨groups, hgroups, bind_eq_ok.mpr ⟨tokens, htokens, rfl⟩⟩⟩⟩⟩⟩⟩⟩

end

end Blueprint

end TraversalSdk
