import TraversalSdk.Proofs.EmittedGraph
import TraversalSdk.Proofs.MatchedLists
import TraversalSdk.Proofs.DeclaredTypes

namespace TraversalSdk

theorem optionRel_iff {α β : Type} {R : α → β → Prop} {o : Option α} {o' : Option β} :
    Option.Rel R o o' ↔ o = none ∧ o' = none ∨ ∃ a a', o = some a ∧ o' = some a' ∧ R a a' := by
  constructor
  · intro h
    cases h with
    | none => exact .inl ⟨rfl, rfl⟩
    | some hr => exact .inr ⟨_, _, rfl, rfl, hr⟩
  · rintro (⟨rfl, rfl⟩ | ⟨a, a', rfl, rfl, hr⟩)
    · exact .none
    · exact .some hr

theorem optionRel_flip {α β : Type} {R : α → β → Prop} {o : Option α} {o' : Option β}
    (h : Option.Rel R o o') : Option.Rel (fun b a => R a b) o' o := by
  cases h with
  | none => exact .none
  | some hr => exact .some hr

theorem optionRel_imp {α β : Type} {R R' : α → β → Prop} {o : Option α} {o' : Option β}
    (h : Option.Rel R o o') (hR : ∀ a b, R a b → R' a b) : Option.Rel R' o o' := by
  cases h with
  | none => exact .none
  | some hr => exact .some (hR _ _ hr)

structure ChildSpec.Similar (s s' : ChildSpec) : Prop where
  multiple : s.multiple = s'.multiple
  required : s.required = s'.required
  types : s.types.Perm s'.types

theorem ChildSpec.Similar.symm {s s' : ChildSpec} (h : s.Similar s') : s'.Similar s :=
  ⟨h.multiple.symm, h.required.symm, h.types.symm⟩

/-- Declarations that differ in the order of their fields, and in the order of the types that their
entries and they themselves list. -/
structure Descriptor.Similar (d d' : Descriptor) : Prop where
  ref : d.ref = d'.ref
  root : d.root = d'.root
  extra : d.extra = d'.extra
  fields : Matched (fun f f' => f.1 = f'.1 ∧ f.2.Similar f'.2) d.fields d'.fields
  nodup : (d.fields.map Prod.fst).Nodup
  children : Option.Rel ChildSpec.Similar d.children d'.children
  subtypes : Option.Rel List.Perm d.subtypes d'.subtypes

structure Entry.Similar (e e' : Entry) : Prop where
  name : e.name = e'.name
  spec : e.spec.Similar e'.spec

namespace Descriptor.Similar

variable {d d' : Descriptor} (h : d.Similar d')

include h

theorem symm : d'.Similar d where
  ref := h.ref.symm
  root := h.root.symm
  extra := h.extra.symm
  fields := h.fields.flip.imp fun _ _ hf => ⟨hf.1.symm, hf.2.symm⟩
  nodup := (h.fields.map_perm fun _ _ hf => hf.1).nodup_iff.mp h.nodup
  children := optionRel_imp (optionRel_flip h.children) fun _ _ hs => hs.symm
  subtypes := optionRel_imp (optionRel_flip h.subtypes) fun _ _ hs => hs.symm

theorem isSupertype : d.isSupertype = d'.isSupertype := by
  unfold Descriptor.isSupertype
  rcases optionRel_iff.mp h.subtypes with ⟨hn, hn'⟩ | ⟨ms, ms', hs, hs', _⟩
  · rw [hn, hn']
  · rw [hs, hs']
    rfl

theorem isConcrete : d.isConcrete = d'.isConcrete := by
  rw [Descriptor.isConcrete, Descriptor.isConcrete, h.ref, h.isSupertype]

theorem members : d.members.Perm d'.members := by
  unfold Descriptor.members
  rcases optionRel_iff.mp h.subtypes with ⟨hn, hn'⟩ | ⟨ms, ms', hs, hs', hperm⟩
  · rw [hn, hn']
  · rw [hs, hs']
    exact hperm

theorem sorted_fields : List.Forall₂ (fun f f' => f.1 = f'.1 ∧ f.2.Similar f'.2)
    (sortOn Prod.fst d.fields) (sortOn Prod.fst d'.fields) :=
  h.fields.sorted (fun _ _ hf => hf.1) h.nodup

theorem entries : List.Forall₂ Entry.Similar d.entries d'.entries := by
  unfold Descriptor.entries
  refine List.rel_append ?_ ?_
  · rw [List.forall₂_map_left_iff, List.forall₂_map_right_iff]
    exact h.sorted_fields.imp fun f f' hf => ⟨congrArg some hf.1, hf.2⟩
  · rcases optionRel_iff.mp h.children with ⟨hn, hn'⟩ | ⟨s, s', hs, hs', hsim⟩
    · rw [hn, hn']
      exact .nil
    · rw [hs, hs']
      exact .cons ⟨rfl, hsim⟩ .nil

theorem references {r : NodeRef} (hr : r ∈ d.references) : r ∈ d'.references := by
  rcases List.mem_append.mp hr with hr | hr
  · obtain ⟨e, he, hr⟩ := List.mem_flatMap.mp hr
    obtain ⟨e', he', hs⟩ := exists_right h.entries he
    exact List.mem_append_left _ (List.mem_flatMap.mpr ⟨e', he', hs.spec.types.mem_iff.mp hr⟩)
  · exact List.mem_append_right _ (h.members.mem_iff.mp hr)

end Descriptor.Similar

def Catalogue.Similar (c c' : Catalogue) : Prop :=
  Matched Descriptor.Similar c.descriptors c'.descriptors

namespace Catalogue

variable {c c' : Catalogue}

/-- Among types of one kind no text repeats. -/
theorem nodup_types {p : Descriptor → Bool} (kind : Bool)
    (hp : ∀ d, p d = true → d.ref.named = kind) :
    ((c.descriptors.filter p).map (·.ref.type)).Nodup := by
  have hrefs : (c.descriptors.filter p).Pairwise fun d e => d.ref ≠ e.ref :=
    List.pairwise_map.mp (c.nodup.sublist (List.filter_sublist.map _))
  refine List.pairwise_map.mpr (hrefs.imp_of_mem fun {d e} hd he hne htype => hne ?_)
  have hkind := (hp d (List.mem_filter.mp hd).2).trans (hp e (List.mem_filter.mp he).2).symm
  change NodeRef.mk _ _ = NodeRef.mk _ _
  rw [htype, hkind]

namespace Similar

variable (h : c.Similar c')

include h

theorem symm : c'.Similar c := h.flip.imp fun _ _ hd => hd.symm

theorem refs_perm : c.refs.Perm c'.refs := h.map_perm fun _ _ hd => hd.ref

theorem closed (hc : c.Closed) : c'.Closed := by
  intro d' hd' r hr
  obtain ⟨d, hd, hs⟩ := h.exists_left hd'
  exact h.refs_perm.mem_iff.mp (hc d hd r (hs.symm.references hr))

theorem isSupertype_eq (r : NodeRef) : c.isSupertype r = c'.isSupertype r := by
  have himp {c c' : Catalogue} (h : c.Similar c') (hr : c.isSupertype r = true) :
      c'.isSupertype r = true := by
    obtain ⟨d, hd, href, hs⟩ := isSupertype_eq_true_iff.mp hr
    obtain ⟨d', hd', hsim⟩ := h.exists_right hd
    exact isSupertype_eq_true_iff.mpr ⟨d', hd', hsim.ref.symm.trans href, hsim.isSupertype ▸ hs⟩
  exact Bool.eq_iff_iff.mpr ⟨himp h, himp h.symm⟩

/-- Types expand to the same types whatever the order of declarations. -/
theorem expand_eq (r : NodeRef) : c.expand r = c'.expand r := by
  have hlists {c c' : Catalogue} (h : c.Similar c') (a b : NodeRef) (hab : c.Lists a b) : c'.Lists a b := by
    obtain ⟨d, hd, href, hm⟩ := lists_iff_members.mp hab
    obtain ⟨d', hd', hs⟩ := h.exists_right hd
    exact lists_iff_members.mpr ⟨d', hd', hs.ref.symm.trans href, hs.members.mem_iff.mp hm⟩
  refine expand_congr fun s => ?_
  rw [mem_expand, mem_expand, h.isSupertype_eq]
  exact and_congr_left fun _ => ⟨Relation.ReflTransGen.mono (hlists h) r s,
    Relation.ReflTransGen.mono (hlists h.symm) r s⟩

theorem expandAll_eq {rs rs' : List NodeRef} (hrs : rs.Perm rs') :
    c.expandAll rs = c'.expandAll rs' := by
  refine NodeRef.set_congr fun s => ?_
  simp only [List.mem_flatMap, h.expand_eq, hrs.mem_iff]

/-- Types have the same names whatever the order of declarations. -/
theorem registry_eq : Registry.ofCatalogue c = Registry.ofCatalogue c' := by
  unfold Registry.ofCatalogue Naming.Space.assign
  rw [NodeRef.sorted_eq_of_perm (h.refs_perm.filter NodeRef.named),
    NodeRef.sorted_eq_of_perm (h.refs_perm.filter fun r => !r.named)]

/-- The view of concrete types is sorted by names that do not repeat, so it is the same for both. -/
theorem concrete : List.Forall₂ Descriptor.Similar c.concrete c'.concrete := by
  refine (Matched.filter h fun _ _ hd => hd.isConcrete).sorted (fun _ _ hd => by rw [hd.ref]) ?_
  refine nodup_types true fun d hd => ?_
  simp only [Descriptor.isConcrete, Bool.and_eq_true] at hd
  exact hd.1

theorem anonymous_refs : c.anonymous.map Descriptor.ref = c'.anonymous.map Descriptor.ref := by
  have hsorted : List.Forall₂ Descriptor.Similar c.anonymous c'.anonymous := by
    refine (Matched.filter h fun _ _ hd => by rw [hd.ref]).sorted (fun _ _ hd => by rw [hd.ref]) ?_
    exact nodup_types false fun d hd => by simpa using hd
  exact forall₂_map_eq hsorted fun _ _ hd => hd.ref

theorem supertypes_perm :
    (c.supertypes.map Descriptor.ref).Perm (c'.supertypes.map Descriptor.ref) := by
  have hperm := (Matched.filter h fun _ _ hd => hd.isSupertype).map_perm fun _ _ hd => hd.ref
  exact ((sortOn_perm _ _).map _).trans (hperm.trans ((sortOn_perm _ _).map _).symm)

/-- A named supertype and an anonymous one of the same text may change places, but not their texts. -/
theorem supertypes_types : c.supertypes.map (·.ref.type) = c'.supertypes.map (·.ref.type) := by
  have hsorted (c : Catalogue) : c.supertypes.map (·.ref.type) =
      sortTexts ((c.descriptors.filter Descriptor.isSupertype).map (·.ref.type)) :=
    map_sortOn fun _ _ => rfl
  rw [hsorted, hsorted]
  exact sortTexts_eq_of_perm
    ((Matched.filter h fun _ _ hd => hd.isSupertype).map_perm fun _ _ hd => by rw [hd.ref])

theorem roots_perm : c.roots.Perm c'.roots :=
  (Matched.filter h fun _ _ hd => hd.root).map_perm fun _ _ hd => hd.ref

theorem namedExtras_perm : c.namedExtras.Perm c'.namedExtras := by
  have hextras : c.extras.Perm c'.extras :=
    (Matched.filter h fun _ _ hd => hd.extra).map_perm fun _ _ hd => hd.ref
  unfold namedExtras
  simp only [h.isSupertype_eq]
  exact hextras.filter _

theorem rootType?_eq (start : String) :
    Blueprint.rootType? c start = Blueprint.rootType? c' start := by
  have hnames : c.concrete.map (·.ref.type) = c'.concrete.map (·.ref.type) :=
    forall₂_map_eq h.concrete fun _ _ hd => by rw [hd.ref]
  have hroots := sortTexts_eq_of_perm ((h.roots_perm.map NodeRef.type).filter
    (c'.concrete.map (·.ref.type)).contains)
  unfold Blueprint.rootType?
  simp only [hnames, hroots]

/-- The accessors of a type. -/
theorem accessors_eq {d d' : Descriptor} (hd : d.Similar d') :
    Accessor.plan c d = Accessor.plan c' d' := by
  have hfields : (sortOn Prod.fst d.fields).map (Accessor.wantedField c) =
      (sortOn Prod.fst d'.fields).map (Accessor.wantedField c') := by
    refine forall₂_map_eq hd.sorted_fields fun f f' hf => ?_
    simp only [Accessor.wantedField, hf.1, hf.2.multiple, h.expandAll_eq hf.2.types]
  have hchildren : d.children.toList.flatMap (Accessor.wantedChildren c) =
      d'.children.toList.flatMap (Accessor.wantedChildren c') := by
    rcases optionRel_iff.mp hd.children with ⟨hn, hn'⟩ | ⟨s, s', hs, hs', hsim⟩
    · rw [hn, hn']
      rfl
    · rw [hs, hs']
      simp only [Option.toList_some, List.flatMap_cons, List.flatMap_nil, Accessor.wantedChildren,
        hsim.multiple, h.expandAll_eq hsim.types]
  rw [Accessor.plan, hfields, hchildren, Accessor.plan]

end Similar

end Catalogue

structure Slot.Similar (s s' : Slot) : Prop where
  multiple : s.multiple = s'.multiple
  nodes : s.nodes.Perm s'.nodes

structure Container.Similar (k k' : Container) : Prop where
  node : k.node = k'.node
  slots : List.Forall₂ Slot.Similar k.slots k'.slots
  required : k.required = k'.required

theorem contains_congr {l l' : List NodeRef} (h : l.Perm l') (r : NodeRef) :
    l.contains r = l'.contains r := by
  rw [Bool.eq_iff_iff, List.contains_iff_mem, List.contains_iff_mem, h.mem_iff]

theorem isEmpty_congr {α β : Type} {l : List α} {l' : List β} (h : l.length = l'.length) :
    l.isEmpty = l'.isEmpty := by
  rw [Bool.eq_iff_iff, List.isEmpty_iff_length_eq_zero, List.isEmpty_iff_length_eq_zero, h]

namespace Container.Similar

variable {k k' : Container} (h : k.Similar k')

include h

theorem nodes_perm : k.nodes.Perm k'.nodes := by
  have hslots := h.slots
  unfold Container.nodes
  generalize k.slots = ss at hslots
  generalize k'.slots = ss' at hslots
  induction hslots with
  | nil => exact .refl _
  | cons hs _ ih => exact hs.nodes.append ih

theorem holds_eq (r : NodeRef) : k.holds r = k'.holds r := contains_congr h.nodes_perm r

theorem repeats_eq (r : NodeRef) : k.repeats r = k'.repeats r := by
  have hholding := List.rel_filter (p := fun s : Slot => s.nodes.contains r)
    (q := fun s : Slot => s.nodes.contains r)
    (fun s s' hs => by simp only [contains_congr hs.nodes r]) h.slots
  unfold Container.repeats
  simp only [forall₂_any_eq hholding fun _ _ hs => hs.multiple, hholding.length_eq]

theorem firstChild_eq : k.firstChild = k'.firstChild := by
  unfold Container.firstChild
  rw [NodeRef.set_congr fun _ => h.nodes_perm.mem_iff, isEmpty_congr h.slots.length_eq, h.required]

theorem beside_perm (r : NodeRef) : (k.beside r).Perm (k'.beside r) := by
  unfold Container.beside
  rw [h.repeats_eq]
  split
  · exact h.nodes_perm
  · exact h.nodes_perm.filter _

end Container.Similar

/-- A row holds sets, so it is the same for both. -/
theorem Graph.rowOf_eq {roots roots' : List NodeRef} {ks ks' : List Container} {k k' : Container}
    (hroots : roots.Perm roots') (hks : List.Forall₂ Container.Similar ks ks') (hk : k.Similar k') :
    rowOf roots ks k = rowOf roots' ks' k' := by
  have hparents := List.rel_filter (p := fun p : Container => p.holds k.node)
    (q := fun p : Container => p.holds k'.node)
    (fun p p' hp => by simp only [hp.holds_eq, hk.node]) hks
  unfold rowOf
  dsimp only
  rw [hk.firstChild_eq, contains_congr hroots, isEmpty_congr hparents.length_eq,
    forall₂_map_eq hparents fun _ _ hp => hp.node]
  have hbeside : NodeRef.set ((ks.filter (·.holds k.node)).flatMap (·.beside k.node)) =
      NodeRef.set ((ks'.filter (·.holds k'.node)).flatMap (·.beside k'.node)) := by
    refine NodeRef.set_congr fun r => ?_
    simp only [List.mem_flatMap]
    constructor
    · rintro ⟨p, hp, hr⟩
      obtain ⟨p', hp', hs⟩ := exists_right hparents hp
      exact ⟨p', hp', hk.node ▸ (hs.beside_perm _).mem_iff.mp hr⟩
    · rintro ⟨p', hp', hr⟩
      obtain ⟨p, hp, hs⟩ := exists_left hparents hp'
      exact ⟨p, hp, (hs.beside_perm _).mem_iff.mpr (hk.node ▸ hr)⟩
  rw [hbeside, hk.node]

namespace Catalogue.Similar

variable {c c' : Catalogue} (h : c.Similar c')

include h

theorem container {d d' : Descriptor} (hd : d.Similar d') :
    (c.container d).Similar (c'.container d') where
  node := hd.ref
  slots := by
    have hown : d.entries.map (fun e => Slot.mk e.spec.multiple (c.expandAll e.spec.types)) =
        d'.entries.map fun e => Slot.mk e.spec.multiple (c'.expandAll e.spec.types) :=
      forall₂_map_eq hd.entries fun _ _ he => by
        rw [he.spec.multiple, h.expandAll_eq he.spec.types]
    have hrefl (ss : List Slot) : List.Forall₂ Slot.Similar ss ss :=
      List.forall₂_same.mpr fun _ _ => ⟨rfl, .refl _⟩
    unfold Catalogue.container slots
    dsimp only
    rw [hown, isEmpty_congr h.namedExtras_perm.length_eq]
    split
    · exact hrefl _
    · exact List.rel_append (hrefl _) (.cons ⟨rfl, h.namedExtras_perm⟩ .nil)
  required := forall₂_any_eq hd.entries fun _ _ he => he.spec.required

theorem rowFor_eq (start : Option String) {d d' : Descriptor} (hd : d.Similar d') :
    Graph.rowFor c start d = Graph.rowFor c' start d' := by
  refine Graph.rowOf_eq (h.roots_perm.append_right _) ?_ (h.container hd)
  rw [containers_eq, containers_eq, List.forall₂_map_left_iff, List.forall₂_map_right_iff]
  exact h.concrete.imp fun _ _ hd => h.container hd

end Catalogue.Similar

end TraversalSdk
