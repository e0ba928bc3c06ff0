import TraversalSdk.Proofs.AccessorNames
import TraversalSdk.Proofs.LegibleStatements
import TraversalSdk.Proofs.PlannedFiles

namespace TraversalSdk

namespace Source
open Naming

/-- A name that is no reserved word. -/
structure IsWord (name : String) : Prop extends IsName name where
  keyword : isKeyword name = false

theorem IsWord.ne_keyword {name word : String} (h : IsWord name) (hw : isKeyword word = true) :
    name ≠ word := by
  rintro rfl
  rw [h.keyword] at hw
  cases hw

theorem IsWord.leading {name : String} (h : IsWord name) : name ∉ leadingWords := by
  intro hm
  have hall : ∀ w ∈ leadingWords, isKeyword w = true := by decide
  exact h.ne_keyword (hall name hm) rfl

theorem importable_of_words {names : List String} (hne : names ≠ []) (h : ∀ s ∈ names, IsWord s) :
    Importable names :=
  ⟨hne, fun s hs => (h s hs).toIsName, fun hm => (h _ hm).ne_keyword (by decide) rfl⟩

theorem isWord_of_usable {name : String} (h : Usable name) : IsWord name := by
  refine ⟨⟨?_, h.chars⟩, h.2⟩
  rintro rfl
  exact absurd h.1 (by decide)

end Source

open Source Naming

namespace Titled.IsNamed

variable {c : Catalogue} {t : Titled} (h : t.IsNamed c)

include h

theorem module_word : IsWord t.names.module := isWord_of_usable (Registry.module_usable h)

theorem guard_word : IsWord t.names.guard := isWord_of_usable (Registry.guard_usable h)

/-- The package of tokens stands next to the named types, so none of their modules has its name. -/
theorem module_ne_anonymous (hn : t.ref.named = true) : t.names.module ≠ "anonymous" := by
  have hfree := (Registry.keepsOff h).module
  intro he
  simp [Registry.spaceOf, hn, namedSpace, he] at hfree

/-- A type has its names only once. -/
theorem eq_of_ref {u : Titled} (hu : u.IsNamed c) (hr : t.ref = u.ref) : t = u := by
  obtain ⟨r, n⟩ := t
  obtain ⟨s, m⟩ := u
  cases hr
  cases Option.some.inj (h.symm.trans hu)
  rfl

theorem className_word : IsWord t.names.className := by
  have hne : t.names.className ≠ "" := by
    intro he
    have hlength := congrArg (fun s : String => s.toList.length) he
    rw [Registry.className_eq h] at hlength
    cases hr : t.ref.named <;> simp [hr] at hlength
  refine ⟨⟨hne, h.className_chars⟩, ?_⟩
  rw [Registry.className_eq h]
  cases t.ref.named
  · exact not_keyword_of_ending token_ending.keywords
  · exact not_keyword_of_ending node_ending.keywords

/-- Classes are told from other names by their last letter. -/
theorem className_ne_of_last {s : String}
    (hs : s.toList.getLast? ≠ some 'e' ∧ s.toList.getLast? ≠ some 'n') : t.names.className ≠ s := by
  rintro rfl
  rw [Registry.className_eq h] at hs
  cases hr : t.ref.named <;> simp [hr] at hs

theorem className_ne_all : t.names.className ≠ "__all__" := h.className_ne_of_last (by decide)

theorem cursorClass_name : IsName t.cursorClass := by
  refine ⟨fun he => ?_, h.cursorClass_chars⟩
  have hlength := t.length_cursorClass
  rw [he] at hlength
  exact absurd hlength (by decide)

theorem navigatorClass_name (hn : t.ref.named = true) : IsName t.navigatorClass := by
  have hclass : t.navigatorClass = t.names.pascal ++ "Navigator" := by
    simp [navigatorClass, hn]
  rw [hclass]
  constructor
  · intro he
    have hlength := congrArg (fun s : String => s.toList.length) he
    simp at hlength
  · rw [String.toList_append, List.forall_mem_append]
    exact ⟨Registry.pascal_chars h, List.all_eq_true.mp (by decide)⟩

theorem unbroken_navigatorClass : Unbroken t.navigatorClass := by
  cases hn : t.ref.named with
  | true => exact (h.navigatorClass_name hn).unbroken
  | false =>
    rw [navigatorClass, hn]
    exact unbroken_ofList (by decide)

/-- What another module of the package imports a type from. -/
theorem source_module : IsSource t.module := by
  have hpackage : IsSource "anonymous." := isSource_ofList (by decide)
  rw [module]
  split
  · exact h.module_word.source
  · exact hpackage.append h.module_word.source

end Titled.IsNamed

namespace Accessor

theorem unbroken_stem {taken : List String} {ws : List Wanted} :
    ∀ a ∈ name taken ws, Unbroken a.stem :=
  fun a ha => unbroken_of_nameChars (isMethodName_stems a ha).led.chars

end Accessor

open Sdk in
structure ConcreteNode.Worded (c : Catalogue) (n : ConcreteNode) : Prop where
  title : n.title.IsNamed c
  named : n.title.ref.named = true
  spelled : Spelled n
  stems : ∀ a ∈ n.accessors, Unbroken a.accessor.stem
  targets : ∀ a ∈ n.accessors, ∀ t ∈ a.targets, t.IsNamed c

structure Blueprint.Worded (c : Catalogue) (plan : Blueprint) : Prop where
  concrete : ∀ n ∈ plan.concrete, n.Worded c
  groups : ∀ g ∈ plan.groups, g.title.IsNamed c
  members : ∀ g ∈ plan.groups, ∀ t ∈ g.members, t.IsNamed c
  tokens : ∀ t ∈ plan.tokens, t.IsNamed c
  root : ∀ t ∈ plan.root, t.IsNamed c

namespace Blueprint

variable {b : Built} {plan : Blueprint}

theorem accessor_ok {registry : Registry} {a : Accessor} {ta : TitledAccessor}
    (h : accessor (title b registry) a = .ok ta) :
    ta.accessor = a ∧ ∀ t ∈ ta.targets, registry.get? t.ref = some t.names := by
  obtain ⟨ts, hts, h⟩ := bind_eq_ok.mp h
  cases h
  exact ⟨rfl, (titles_ok hts).named⟩

theorem concreteNode_worded {c : Catalogue} {row : Row} {d : Descriptor} {n : ConcreteNode}
    (hd : d ∈ c.concrete) (h : concreteNode c (title b (.ofCatalogue c)) row d = .ok n) :
    n.Worded c := by
  have hplans := concreteNode_ok h
  obtain ⟨t, ht, h⟩ := bind_eq_ok.mp h
  obtain ⟨as, has, h⟩ := bind_eq_ok.mp h
  obtain ⟨ms, _, h⟩ := bind_eq_ok.mp h
  cases h
  have haccessors : ∀ a ∈ as, ∃ a' ∈ Accessor.plan c d,
      accessor (title b (.ofCatalogue c)) a' = .ok a := fun a ha => exists_left (mapM_ok has) ha
  refine ⟨Sdk.isNamed_title hplans, ?_, Sdk.spelled_of_plans hplans, fun a ha => ?_, fun a ha => ?_⟩
  · rw [hplans.ref]
    exact Catalogue.named_of_mem_concrete hd
  · obtain ⟨a', ha', hok⟩ := haccessors a ha
    rw [(accessor_ok hok).1]
    exact Accessor.unbroken_stem a' ha'
  · obtain ⟨a', _, hok⟩ := haccessors a ha
    exact (accessor_ok hok).2

/-- Every plan is made of names. -/
theorem ofBuilt?_worded {spaceName : String} (h : ofBuilt? b spaceName = .ok plan) :
    Worded b.catalogue plan := by
  have hcovers := ofBuilt?_covers h
  obtain ⟨start, _, h⟩ := bind_eq_ok.mp h
  obtain ⟨graph, hgraph, h⟩ := bind_eq_ok.mp h
  obtain ⟨root, hroot, h⟩ := bind_eq_ok.mp h
  obtain ⟨_, _, h⟩ := bind_eq_ok.mp h
  obtain ⟨concrete, hconcrete, h⟩ := bind_eq_ok.mp h
  obtain ⟨_, _, h⟩ := bind_eq_ok.mp h
  obtain ⟨_, _, h⟩ := bind_eq_ok.mp h
  cases h
  refine ⟨fun n hn => ?_, fun g hg => ?_, fun g hg => ?_, hcovers.tokens.named, fun t ht => ?_⟩
  · obtain ⟨p, hp, hok⟩ := exists_left (mapM_ok hconcrete) hn
    exact concreteNode_worded (List.of_mem_zip hp).2 hok
  · obtain ⟨d, _, hgathers⟩ := exists_left hcovers.groups hg
    rw [Titled.IsNamed, hgathers.ref]
    exact hgathers.named
  · obtain ⟨d, _, hgathers⟩ := exists_left hcovers.groups hg
    exact hgathers.members.named
  · cases hs : rootType? b.catalogue start with
    | none =>
      rw [hs] at hroot
      cases hroot
      cases ht
    | some s =>
      rw [hs] at hroot
      obtain ⟨t', ht', hroot⟩ := bind_eq_ok.mp hroot
      cases hroot
      cases ht
      obtain ⟨href, hnamed⟩ := title_ok ht'
      rw [Titled.IsNamed, href]
      exact hnamed

end Blueprint

end TraversalSdk
