import TraversalSdk.Analysis.Containment
import TraversalSdk.Proofs.NavigationLaws
import TraversalSdk.Proofs.Reachability
import TraversalSdk.Relation

namespace TraversalSdk

/-- In a relation with one row for each member, what follows a member is what its row lists. -/
theorem Relation.mem_next_iff {α : Type} [DecidableEq α] {r : Relation α}
    (h : (r.rows.map (·.1)).Nodup) {a b : α} : b ∈ r.next a ↔ ∃ row ∈ r.rows, row.1 = a ∧ b ∈ row.2 := by
  constructor
  · intro hb
    obtain ⟨succ, hrow, hb⟩ := exists_row_of_next hb
    exact ⟨_, hrow, rfl, hb⟩
  · rintro ⟨⟨a, succ⟩, hrow, rfl, hb⟩
    rwa [next, lookup_of_mem h hrow, Option.getD_some]

theorem pairwise_lt_textSet (l : List String) : (textSet l).Pairwise (· < ·) := by
  have hlt : ((sortOn id (distinct l)).map id).Pairwise (· < ·) :=
    pairwise_lt_sortOn (by simpa using nodup_distinct l)
  rwa [List.map_id] at hlt

namespace Catalogue

variable {c : Catalogue} {d : Descriptor} {name : String}

def children (c : Catalogue) : Relation String := ⟨c.childrenTable⟩

def parents (c : Catalogue) : Relation String := ⟨c.parentsTable⟩

def extraNames (c : Catalogue) : List String := c.namedExtras.map NodeRef.type

/-- The child names of a type are the named types that an entry of it admits. -/
theorem mem_childNames : name ∈ c.childNames d ↔ ∃ i, c.Admits d (some i) ⟨name, true⟩ := by
  rw [childNames, mem_textSet, List.mem_map]
  constructor
  · rintro ⟨⟨type, named⟩, hr, rfl⟩
    obtain ⟨hr, rfl⟩ := List.mem_filter.mp hr
    obtain ⟨t, ht, hr⟩ := mem_expandAll.mp hr
    obtain ⟨e, he, ht⟩ := List.mem_flatMap.mp ht
    obtain ⟨i, hi⟩ := List.getElem?_of_mem he
    exact ⟨i, e, hi, mem_expandAll.mpr ⟨t, ht, hr⟩⟩
  · rintro ⟨i, e, hi, hr⟩
    obtain ⟨t, ht, hr⟩ := mem_expandAll.mp hr
    have he := List.mem_of_getElem? hi
    exact ⟨_, List.mem_filter.mpr ⟨mem_expandAll.mpr ⟨t, List.mem_flatMap.mpr ⟨e, he, ht⟩, hr⟩, rfl⟩, rfl⟩

theorem mem_extraNames : name ∈ c.extraNames ↔ ⟨name, true⟩ ∈ c.namedExtras := by
  rw [extraNames, List.mem_map]
  constructor
  · rintro ⟨⟨type, named⟩, hr, rfl⟩
    have hn := (List.mem_filter.mp hr).2
    simp only [Bool.and_eq_true] at hn
    rwa [← hn.1]
  · exact fun h => ⟨_, h, rfl⟩

/-- What a type can hold by its entries is among its children; the rest are extras. -/
theorem holds_iff : c.Holds d ⟨name, true⟩ ↔
    name ∈ c.childNames d ∨ (name ∈ c.extraNames ∧ d.hasEntries = true) := by
  rw [mem_childNames, mem_extraNames]
  constructor
  · rintro ⟨_ | i, h⟩
    · exact .inr h
    · exact .inl ⟨i, h⟩
  · rintro (⟨i, h⟩ | h)
    · exact ⟨some i, h⟩
    · exact ⟨none, h⟩

theorem hasEntries_of_admits {i : Nat} {r : NodeRef} (h : c.Admits d (some i) r) : d.hasEntries = true := by
  obtain ⟨e, he, _⟩ := h
  rw [← Bool.not_eq_false, ← Descriptor.entries_eq_nil_iff]
  exact List.ne_nil_of_mem (List.mem_of_getElem? he)

theorem pairwise_childrenTable (c : Catalogue) : (c.childrenTable.map (·.1)).Pairwise (· < ·) := by
  have hkeys : ((c.descriptors.filter Descriptor.isConcrete).map (·.ref.type)).Nodup :=
    ((sortOn_perm _ _).map _).nodup_iff.mp c.nodup_concrete_types
  have hsub : (c.childrenTable.map (·.1)).Sublist (c.concrete.map (·.ref.type)) := by
    have hrows := (List.filter_sublist (l := c.concrete.map fun d => (d.ref.type, c.childNames d))
      (p := fun row => !row.2.isEmpty)).map Prod.fst
    rwa [List.map_map] at hrows
  exact (pairwise_lt_sortOn hkeys).sublist hsub

theorem nodup_children (c : Catalogue) : (c.children.rows.map (·.1)).Nodup :=
  c.pairwise_childrenTable.imp fun h => String.ne_of_lt h

theorem mem_childrenTable {row : String × List String} : row ∈ c.childrenTable ↔
    ∃ d ∈ c.concrete, (d.ref.type, c.childNames d) = row ∧ c.childNames d ≠ [] := by
  rw [childrenTable, List.mem_filter, List.mem_map]
  constructor
  · rintro ⟨⟨d, hd, rfl⟩, hne⟩
    exact ⟨d, hd, rfl, by simpa using hne⟩
  · rintro ⟨d, hd, rfl, hne⟩
    exact ⟨⟨d, hd, rfl⟩, by simpa using hne⟩

theorem mem_children {parent : String} : name ∈ c.children.next parent ↔
    ∃ d ∈ c.concrete, d.ref.type = parent ∧ name ∈ c.childNames d := by
  rw [Relation.mem_next_iff c.nodup_children]
  constructor
  · rintro ⟨row, hrow, hp, hn⟩
    obtain ⟨d, hd, rfl, _⟩ := mem_childrenTable.mp hrow
    exact ⟨d, hd, hp, hn⟩
  · rintro ⟨d, hd, hp, hn⟩
    exact ⟨_, mem_childrenTable.mpr ⟨d, hd, rfl, List.ne_nil_of_mem hn⟩, hp, hn⟩

theorem mem_reversed {rows : List (String × List String)} {row : String × List String} :
    row ∈ reversed rows ↔ ∃ name, (∃ r ∈ rows, name ∈ r.2) ∧
      (name, textSet ((rows.filter fun r => r.2.contains name).map (·.1))) = row := by
  simp only [reversed, List.mem_map, mem_textSet, List.mem_flatMap]

theorem pairwise_reversed (rows : List (String × List String)) :
    ((reversed rows).map (·.1)).Pairwise (· < ·) := by
  have hkeys : (reversed rows).map (·.1) = textSet (rows.flatMap (·.2)) := by
    rw [reversed, List.map_map]
    exact List.map_id _
  rw [hkeys]
  exact pairwise_lt_textSet _

/-- The table of parents is the table of children, read backwards. -/
theorem mem_parents {parent : String} : parent ∈ c.parents.next name ↔
    ∃ d ∈ c.concrete, d.ref.type = parent ∧ name ∈ c.childNames d := by
  have hn : (c.parents.rows.map (·.1)).Nodup :=
    (pairwise_reversed c.childrenTable).imp fun h => String.ne_of_lt h
  have hlists : (∃ row ∈ c.childrenTable, row.1 = parent ∧ name ∈ row.2) ↔
      ∃ d ∈ c.concrete, d.ref.type = parent ∧ name ∈ c.childNames d :=
    (Relation.mem_next_iff c.nodup_children).symm.trans mem_children
  rw [Relation.mem_next_iff hn, ← hlists]
  constructor
  · rintro ⟨_, hrow, rfl, hp⟩
    obtain ⟨name, _, rfl⟩ := mem_reversed.mp hrow
    obtain ⟨r, hr, rfl⟩ := List.mem_map.mp (mem_textSet.mp hp)
    obtain ⟨hr, hc⟩ := List.mem_filter.mp hr
    exact ⟨r, hr, rfl, List.contains_iff_mem.mp hc⟩
  · rintro ⟨r, hr, rfl, hm⟩
    refine ⟨_, mem_reversed.mpr ⟨name, ⟨r, hr, hm⟩, rfl⟩, rfl, mem_textSet.mpr ?_⟩
    exact List.mem_map_of_mem (List.mem_filter.mpr ⟨hr, List.contains_iff_mem.mpr hm⟩)

theorem ne_nil_of_mem_parentsTable {row : String × List String} (h : row ∈ c.parentsTable) :
    row.2 ≠ [] := by
  obtain ⟨name, ⟨r, hr, hm⟩, rfl⟩ := mem_reversed.mp h
  have hmem : r.1 ∈ textSet ((c.childrenTable.filter fun r => r.2.contains name).map (·.1)) :=
    mem_textSet.mpr (List.mem_map_of_mem (List.mem_filter.mpr ⟨hr, List.contains_iff_mem.mpr hm⟩))
  exact List.ne_nil_of_mem hmem

/-- What holds between the tables of a closed catalogue and its graph. -/
structure Agrees (c : Catalogue) (g : Graph) : Prop where
  converse : ∀ p k, k ∈ c.children.next p ↔ p ∈ c.parents.next k
  firstChild : ∀ d ∈ c.descriptors, d.isConcrete = true → ∀ name,
    g.Lands .firstChild d.ref (some ⟨name, true⟩) ↔
      d.hasEntries = true ∧ (name ∈ c.children.next d.ref.type ∨ name ∈ c.extraNames)
  parent : ∀ d ∈ c.descriptors, d.isConcrete = true → ∀ name,
    (∃ named, g.Lands .parent d.ref (some ⟨name, named⟩)) ↔
      name ∈ c.parents.next d.ref.type ∨ (d.ref.type ∈ c.extraNames ∧
        ∃ d' ∈ c.descriptors, d'.isConcrete = true ∧ d'.hasEntries = true ∧ d'.ref.type = name)
  sorted : (c.childrenTable.map (·.1)).Pairwise (· < ·) ∧ (c.parentsTable.map (·.1)).Pairwise (· < ·)
  filled : ∀ row ∈ c.childrenTable ++ c.parentsTable, row.2 ≠ []

/-- The children of a concrete type are those filed under its name. -/
theorem mem_children_concrete (hd : d ∈ c.concrete) :
    name ∈ c.children.next d.ref.type ↔ name ∈ c.childNames d := by
  rw [mem_children]
  constructor
  · rintro ⟨d', hd', htype, hn⟩
    rwa [← List.inj_on_of_nodup_map c.nodup_concrete_types hd' hd htype]
  · exact fun hn => ⟨d, hd, rfl, hn⟩

/-- For every closed catalogue the tables and the graph agree: the tables are converse, sorted and without empty
rows; the named first children of a concrete type are its children and, if it has any entry, the extras; its
parents are those of the table and, for an extra, every concrete type with an entry. -/
theorem containment_agrees (c : Catalogue) (start : Option String) (hc : c.check = .ok ()) :
    ∃ g, Graph.build c start = .ok g ∧ c.Agrees g := by
  refine ⟨_, Graph.build_of_check hc, ?_⟩
  constructor
  case converse =>
    intro p k
    rw [mem_children, mem_parents]
  case firstChild =>
    intro d hd hcon name
    have hd := mem_concrete.mpr ⟨hd, hcon⟩
    rw [Graph.lands_firstChild hd, holds_iff, mem_children_concrete hd]
    constructor
    · rintro (hn | ⟨hn, he⟩)
      · obtain ⟨i, hi⟩ := mem_childNames.mp hn
        exact ⟨hasEntries_of_admits hi, .inl hn⟩
      · exact ⟨he, .inr hn⟩
    · rintro ⟨he, hn | hn⟩
      · exact .inl hn
      · exact .inr ⟨hn, he⟩
  case parent =>
    intro d hd hcon name
    have hd := mem_concrete.mpr ⟨hd, hcon⟩
    have href : d.ref = ⟨d.ref.type, true⟩ := by rw [← named_of_mem_concrete hd]
    simp only [Graph.lands_parent hd, mem_parents, ← Graph.exists_concrete]
    rw [href]
    simp only [holds_iff]
    constructor
    · rintro ⟨named, d', hd', hr, hn | ⟨hn, he⟩⟩
      · exact .inl ⟨d', hd', congrArg NodeRef.type hr, hn⟩
      · exact .inr ⟨hn, d', hd', he, congrArg NodeRef.type hr⟩
    · rintro (⟨d', hd', htype, hn⟩ | ⟨hn, d', hd', he, htype⟩)
      · exact ⟨d'.ref.named, d', hd', by rw [← htype], .inl hn⟩
      · exact ⟨d'.ref.named, d', hd', by rw [← htype], .inr ⟨hn, he⟩⟩
  case sorted => exact ⟨c.pairwise_childrenTable, pairwise_reversed _⟩
  case filled =>
    intro row hrow
    rcases List.mem_append.mp hrow with hrow | hrow
    · obtain ⟨d, _, rfl, hne⟩ := mem_childrenTable.mp hrow
      exact hne
    · exact ne_nil_of_mem_parentsTable hrow

/-- In the catalogue of listings a remark is a first child of a list, but no child of it in the tables. -/
theorem containment_agrees_listing : listing.check = .ok () ∧ ∃ g, Graph.build listing none = .ok g ∧
    "list" ∈ listing.parents.next "name" ∧ g.Lands .firstChild ⟨"list", true⟩ (some ⟨"name", true⟩) ∧
    "remark" ∉ listing.children.next "list" ∧
    g.Lands .firstChild ⟨"list", true⟩ (some ⟨"remark", true⟩) := by
  have hc : listing.check = .ok () := by cbv
  obtain ⟨g, hg, h⟩ := containment_agrees listing none hc
  have hchildren : listing.children.next "list" = ["name"] := by cbv
  have hname : "name" ∈ listing.children.next "list" := by simp [hchildren]
  have hremark : "remark" ∉ listing.children.next "list" := by simp [hchildren]
  have hextra : "remark" ∈ listing.extraNames := mem_extraNames.mpr (by decide)
  have hfirst := h.firstChild listing.descriptors[0] (.head _) rfl
  exact ⟨hc, g, hg, (h.converse _ _).mp hname, (hfirst _).mpr ⟨rfl, .inl hname⟩, hremark,
    (hfirst _).mpr ⟨rfl, .inr hextra⟩⟩

end Catalogue

end TraversalSdk
