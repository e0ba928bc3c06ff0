import Mathlib.Data.List.Pairwise
import TraversalSdk.Proofs.FreeNames

namespace TraversalSdk

structure NodeNames.Apart (a b : NodeNames) : Prop where
  module : a.module ≠ b.module
  snake : a.snake ≠ b.snake
  pascal : a.pascal ≠ b.pascal

theorem NodeNames.Apart.symm {a b : NodeNames} (h : a.Apart b) : b.Apart a :=
  ⟨h.module.symm, h.snake.symm, h.pascal.symm⟩

namespace Naming

structure Taken.Avoids (t : Taken) (n : NodeNames) : Prop where
  module : n.module ∉ t.modules
  snake : n.snake ∉ t.snakes
  pascal : n.pascal ∉ t.pascals

namespace Space

variable (space : Space)

theorem avoids_of_isFree {t : Taken} {s : Stem} (h : t.isFree s = true) :
    t.Avoids (space.names s) := by
  simp only [Taken.isFree, Bool.and_eq_true, Bool.not_eq_true', List.contains_eq_mem,
    decide_eq_false_iff_not] at h
  exact ⟨h.1.1, h.1.2, h.2⟩

/-- The stem that is found for a type is free. -/
theorem find_isFree (t : Taken) (type : String) : t.isFree (t.find (sanitize type)) = true := by
  obtain ⟨_, _, hf, _⟩ := t.find_firstFree (sanitize_plain type)
  exact hf

theorem assignFrom_fst (t : Taken) (rs : List NodeRef) :
    (space.assignFrom t rs).map Prod.fst = rs := by
  induction rs generalizing t with
  | nil => rfl
  | cons r rs ih => simp [assignFrom, ih]

/-- Every name is a candidate for the sanitised type. -/
theorem assignFrom_origin {t : Taken} {rs : List NodeRef} {p : NodeRef × NodeNames}
    (h : p ∈ space.assignFrom t rs) :
    ∃ k, p.2 = space.names (Stem.of (candidate (sanitize p.1.type) k)) := by
  induction rs generalizing t with
  | nil => simp [assignFrom] at h
  | cons r rs ih =>
    rcases List.mem_cons.mp h with rfl | h
    · obtain ⟨k, hk, _⟩ := t.find_firstFree (sanitize_plain r.type)
      exact ⟨k, by simp only [hk]⟩
    · exact ih h

/-- Names that are given avoid all that are in use. -/
theorem assignFrom_avoids {t : Taken} {rs : List NodeRef} {p : NodeRef × NodeNames}
    (h : p ∈ space.assignFrom t rs) : t.Avoids p.2 := by
  induction rs generalizing t with
  | nil => simp [assignFrom] at h
  | cons r rs ih =>
    rcases List.mem_cons.mp h with rfl | h
    · exact space.avoids_of_isFree (find_isFree t r.type)
    · have ht := ih h
      exact ⟨fun hm => ht.module (List.mem_cons_of_mem _ hm),
        fun hm => ht.snake (List.mem_cons_of_mem _ hm),
        fun hm => ht.pascal (List.mem_cons_of_mem _ hm)⟩

/-- A name that is given goes into use, so no later one meets it. -/
theorem assignFrom_apart (t : Taken) (rs : List NodeRef) :
    (space.assignFrom t rs).Pairwise fun p q => p.2.Apart q.2 := by
  induction rs generalizing t with
  | nil => exact .nil
  | cons r rs ih =>
    refine List.pairwise_cons.mpr ⟨fun q hq => ?_, ih _⟩
    have ht := space.assignFrom_avoids hq
    exact ⟨fun he => ht.module (by rw [← he]; exact List.mem_cons_self),
      fun he => ht.snake (by rw [← he]; exact List.mem_cons_self),
      fun he => ht.pascal (by rw [← he]; exact List.mem_cons_self)⟩

/-- No two types of a name space meet in a name. -/
theorem assign_apart {rs : List NodeRef} {p q : NodeRef × NodeNames} (hp : p ∈ space.assign rs)
    (hq : q ∈ space.assign rs) (hne : p.1 ≠ q.1) : p.2.Apart q.2 := by
  have : Std.Symm fun p q : NodeRef × NodeNames => p.2.Apart q.2 := ⟨fun _ _ h => h.symm⟩
  exact (space.assignFrom_apart _ _).forall hp hq fun he => hne (congrArg Prod.fst he)

theorem mem_fst_assign {rs : List NodeRef} {p : NodeRef × NodeNames} (h : p ∈ space.assign rs) :
    p.1 ∈ rs := by
  have hm : p.1 ∈ (space.assign rs).map Prod.fst := List.mem_map.mpr ⟨p, h, rfl⟩
  rw [assign, assignFrom_fst] at hm
  exact NodeRef.mem_sorted.mp hm

end Space

end Naming

namespace Registry
open Naming

variable {c : Catalogue} {r s : NodeRef} {n m : NodeNames}

def spaceOf (r : NodeRef) : Space := if r.named then namedSpace else anonymousSpace

/-- The names of a type come from its name space, where only types of its kind stand. -/
theorem mem_assign (h : (ofCatalogue c).get? r = some n) :
    (r, n) ∈ (spaceOf r).assign (c.refs.filter fun s => s.named == r.named) := by
  have hm := mem_of_lookup h
  rcases List.mem_append.mp hm with hm | hm
  · have hr : r.named = true := (List.mem_filter.mp (namedSpace.mem_fst_assign hm)).2
    simpa [spaceOf, hr] using hm
  · have hr : r.named = false := by
      simpa using (List.mem_filter.mp (anonymousSpace.mem_fst_assign hm)).2
    simpa [spaceOf, hr] using hm

theorem get?_isSome (h : r ∈ c.refs) : ∃ n, (ofCatalogue c).get? r = some n := by
  have hkey : r ∈ (ofCatalogue c).names.map Prod.fst := by
    simp only [ofCatalogue, List.map_append, Space.assign, Space.assignFrom_fst, List.mem_append,
      NodeRef.mem_sorted, List.mem_filter, h, true_and]
    cases r.named <;> simp
  obtain ⟨p, hp, rfl⟩ := List.mem_map.mp hkey
  have hs : ((ofCatalogue c).names.find? fun q => q.1 = p.1).isSome = true :=
    List.find?_isSome.mpr ⟨p, hp, by simp⟩
  obtain ⟨q, hq⟩ := Option.isSome_iff_exists.mp hs
  exact ⟨q.2, by simp [get?, lookup, hq]⟩

/-- Every name is spelled after a candidate for the type. -/
theorem names_eq (h : (ofCatalogue c).get? r = some n) :
    ∃ k, n = (spaceOf r).names (Stem.of (candidate (sanitize r.type) k)) :=
  (spaceOf r).assignFrom_origin (mem_assign h)

/-- No two declared types of one kind share a name, in any of its forms. -/
theorem apart (hr : (ofCatalogue c).get? r = some n) (hs : (ofCatalogue c).get? s = some m)
    (hne : r ≠ s) (hk : r.named = s.named) : n.Apart m := by
  have hs := mem_assign hs
  rw [← hk, show spaceOf s = spaceOf r by simp [spaceOf, hk]] at hs
  exact (spaceOf r).assign_apart (mem_assign hr) hs hne

theorem className_eq (h : (ofCatalogue c).get? r = some n) :
    n.className = n.pascal ++ if r.named then "Node" else "Token" := by
  have hnode : Casing.pascal "node" = "Node" := by decide
  have htoken : Casing.pascal "token" = "Token" := by decide
  obtain ⟨k, rfl⟩ := names_eq h
  cases hr : r.named <;> simp [spaceOf, hr, Space.names, namedSpace, anonymousSpace, hnode, htoken]

theorem pascal_chars (h : (ofCatalogue c).get? r = some n) :
    ∀ d ∈ n.pascal.toList, isNameChar d = true := by
  obtain ⟨k, rfl⟩ := names_eq h
  have hplain := candidate_plain (sanitize_plain r.type) k
  simp only [Space.names, Stem.pascal_of hplain]
  exact nameStyle_pascal.chars_isNameChar hplain.chars

/-- A guard's name has underscores, so it is no keyword and stays as it is. -/
theorem guard_eq (h : (ofCatalogue c).get? r = some n) :
    n.guard = "is_" ++ n.snake ++ if r.named then "_node" else "_token" := by
  obtain ⟨k, rfl⟩ := names_eq h
  have hk (s : String) : isKeyword ("is_" ++ s) = false := not_keyword_of_underscore (by simp)
  cases hr : r.named <;>
    simp [spaceOf, hr, Space.names, namedSpace, anonymousSpace, safeIdentifier, String.append_assoc,
      hk]

theorem append_ne_append {a b x y : String} (hx : x.toList.getLast? ≠ none)
    (hxy : x.toList.getLast? ≠ y.toList.getLast?) (hy : y.toList.getLast? ≠ none) :
    a ++ x ≠ b ++ y := by
  intro h
  have hlast := congrArg (fun s : String => s.toList.getLast?) h
  cases hl : x.toList.getLast? with
  | none => exact hx hl
  | some d =>
    cases hl' : y.toList.getLast? with
    | none => exact hy hl'
    | some e =>
      simp only [String.toList_append, List.getLast?_append, hl, hl', Option.some_or] at hlast
      exact hxy (by rw [hl, hl', hlast])

/-- Types of two kinds differ in any name that ends with its kind. -/
theorem ne_of_kinds {a b x y : String} (hk : r.named ≠ s.named)
    (hx : x.toList.getLast? ≠ none) (hxy : x.toList.getLast? ≠ y.toList.getLast?)
    (hy : y.toList.getLast? ≠ none) :
    (a ++ if r.named then x else y) ≠ b ++ if s.named then x else y := by
  cases hr : r.named <;> cases hs : s.named
  · exact absurd (hr.trans hs.symm) hk
  · exact append_ne_append hy hxy.symm hx
  · exact append_ne_append hx hxy hy
  · exact absurd (hr.trans hs.symm) hk

/-- No two types share a class, whatever their kinds. -/
theorem className_ne (hr : (ofCatalogue c).get? r = some n) (hs : (ofCatalogue c).get? s = some m)
    (hne : r ≠ s) : n.className ≠ m.className := by
  rw [className_eq hr, className_eq hs]
  by_cases hk : r.named = s.named
  · rw [hk]
    exact fun h => (apart hr hs hne hk).pascal ((String.append_left_inj _).mp h)
  · exact ne_of_kinds hk (by decide) (by decide) (by decide)

/-- No two types share a guard. -/
theorem guard_ne (hr : (ofCatalogue c).get? r = some n) (hs : (ofCatalogue c).get? s = some m)
    (hne : r ≠ s) : n.guard ≠ m.guard := by
  rw [guard_eq hr, guard_eq hs]
  by_cases hk : r.named = s.named
  · rw [hk]
    intro h
    have hsnake := (String.append_right_inj _).mp ((String.append_left_inj _).mp h)
    exact (apart hr hs hne hk).snake hsnake
  · exact ne_of_kinds hk (by decide) (by decide) (by decide)

def fixedClasses : List String := ["SyntaxNode", "TreeCursor", "AnonymousCursor", "RawTreeCursor"]

/-- Names that keep off the reserved ones and off the fixed classes. -/
structure KeepsOff (r : NodeRef) (n : NodeNames) : Prop where
  module : n.module ∉ (spaceOf r).modules
  pascal : n.pascal ∉ (spaceOf r).pascals
  classes : r.named = true →
    n.pascal ++ "Node" ∉ fixedClasses ∧ n.pascal ++ "Cursor" ∉ fixedClasses

/-- Names that are given keep off the reserved ones. -/
theorem keepsOff (h : (ofCatalogue c).get? r = some n) : KeepsOff r n := by
  have ht := (spaceOf r).assignFrom_avoids (mem_assign h)
  refine ⟨ht.module, ht.pascal, fun hr => ?_⟩
  have hp : n.pascal ∉ ["Anonymous", "RawTree", "Syntax", "Tree"] := by
    have hp := ht.pascal
    simpa [spaceOf, hr, namedSpace] using hp
  have off {x e fixed : String} (hx : x ∉ ["Anonymous", "RawTree", "Syntax", "Tree"])
      (hf : fixed ∈ ["Anonymous", "RawTree", "Syntax", "Tree"]) : x ++ e ≠ fixed ++ e :=
    fun h => hx ((String.append_left_inj e).mp h ▸ hf)
  have apart (x y : String) : x ++ "Node" ≠ y ++ "Cursor" :=
    append_ne_append (by decide) (by decide) (by decide)
  have node : n.pascal ++ "Node" ∉ fixedClasses := by
    intro hm
    simp only [fixedClasses, List.mem_cons, List.not_mem_nil, or_false] at hm
    rcases hm with hm | hm | hm | hm
    · exact off hp (by decide : "Syntax" ∈ _) hm
    · exact apart _ "Tree" hm
    · exact apart _ "Anonymous" hm
    · exact apart _ "RawTree" hm
  have cursor : n.pascal ++ "Cursor" ∉ fixedClasses := by
    intro hm
    simp only [fixedClasses, List.mem_cons, List.not_mem_nil, or_false] at hm
    rcases hm with hm | hm | hm | hm
    · exact apart "Syntax" _ hm.symm
    · exact off hp (by decide : "Tree" ∈ _) hm
    · exact off hp (by decide : "Anonymous" ∈ _) hm
    · exact off hp (by decide : "RawTree" ∈ _) hm
  exact ⟨node, cursor⟩

/-- Naming a catalogue is free of collisions. The search for a free name ends at the first free
candidate, whatever is in use; every declared type has names, off the reserved ones and the fixed
classes; types of one kind differ in all forms, and any two types in their classes and guards. -/
theorem collision_free (c : Catalogue) :
    (∀ (t : Taken) (type : String), t.FirstFree (sanitize type) (t.find (sanitize type))) ∧
    (∀ r ∈ c.refs, ∃ n, (ofCatalogue c).get? r = some n ∧ KeepsOff r n) ∧
    ∀ r s n m, (ofCatalogue c).get? r = some n → (ofCatalogue c).get? s = some m → r ≠ s →
      n.className ≠ m.className ∧ n.guard ≠ m.guard ∧ (r.named = s.named → n.Apart m) := by
  refine ⟨fun t type => t.find_firstFree (sanitize_plain type), fun r hr => ?_, ?_⟩
  · obtain ⟨n, hn⟩ := get?_isSome hr
    exact ⟨n, hn, keepsOff hn⟩
  · intro r s n m hr hs hne
    exact ⟨className_ne hr hs hne, guard_ne hr hs hne, apart hr hs hne⟩

def twins : Catalogue where
  descriptors := [
    ⟨⟨"foo", true⟩, false, false, [], none, none⟩,
    ⟨⟨"Foo", true⟩, false, false, [], none, none⟩]
  nodup := by decide

theorem collision_free_twins : ∃ n m, (ofCatalogue twins).get? ⟨"foo", true⟩ = some n ∧
    (ofCatalogue twins).get? ⟨"Foo", true⟩ = some m ∧ n.className ≠ m.className ∧ n.Apart m := by
  obtain ⟨_, hnames, hapart⟩ := collision_free twins
  obtain ⟨n, hn, _⟩ := hnames ⟨"foo", true⟩ (by decide)
  obtain ⟨m, hm, _⟩ := hnames ⟨"Foo", true⟩ (by decide)
  obtain ⟨hclass, _, hforms⟩ := hapart _ _ n m hn hm (by decide)
  exact ⟨n, m, hn, hm, hclass, hforms rfl⟩

end Registry

end TraversalSdk
