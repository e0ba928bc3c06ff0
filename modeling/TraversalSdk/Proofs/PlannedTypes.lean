import TraversalSdk.Proofs.DeclaredTypes
import TraversalSdk.Proofs.SortedLists

namespace TraversalSdk

namespace Blueprint

variable {b : Built} {plan : Blueprint}

/-- A group with the names of its supertype and of everything the supertype expands to. -/
structure Gathers (c : Catalogue) (d : Descriptor) (g : Group) : Prop where
  ref : g.title.ref = d.ref
  named : (Registry.ofCatalogue c).get? d.ref = some g.title.names
  members : Titles (.ofCatalogue c) (c.expand d.ref) g.members

theorem group_ok {c : Catalogue} {d : Descriptor} {g : Group}
    (h : group c (title b (.ofCatalogue c)) d = .ok g) : Gathers c d g := by
  obtain ⟨t, ht, h⟩ := bind_eq_ok.mp h
  obtain ⟨ms, hms, h⟩ := bind_eq_ok.mp h
  cases h
  obtain ⟨href, hnamed⟩ := title_ok ht
  exact ⟨href, hnamed, titles_ok hms⟩

/-- A plan that holds every declared type, in the view it belongs to. -/
structure Covers (b : Built) (plan : Blueprint) : Prop where
  concrete : Titles (.ofCatalogue b.catalogue) (b.catalogue.concrete.map Descriptor.ref)
    (plan.concrete.map ConcreteNode.title)
  groups : List.Forall₂ (Gathers b.catalogue) b.catalogue.supertypes plan.groups
  tokens : Titles (.ofCatalogue b.catalogue) (b.catalogue.anonymous.map Descriptor.ref) plan.tokens

theorem titles_of_forall₂ {α : Type} {R : Descriptor → α → Prop} {titleOf : α → Titled}
    {registry : Registry} {ds : List Descriptor} {l : List α} (h : List.Forall₂ R ds l)
    (hR : ∀ d a, R d a → (titleOf a).ref = d.ref ∧ registry.get? d.ref = some (titleOf a).names) :
    Titles registry (ds.map Descriptor.ref) (l.map titleOf) := by
  induction h with
  | nil => exact ⟨rfl, by simp⟩
  | cons hr _ ih =>
    obtain ⟨href, hnamed⟩ := hR _ _ hr
    refine ⟨?_, List.forall_mem_cons.mpr ⟨?_, ih.named⟩⟩
    · rw [List.map_cons, List.map_cons, List.map_cons, ih.refs, href]
    · rw [href, hnamed]

/-- A plan holds every declared type, in the view it belongs to. -/
theorem ofBuilt?_covers {spaceName : String} (h : ofBuilt? b spaceName = .ok plan) :
    Covers b plan := by
  obtain ⟨_, hfollows⟩ := ofBuilt?_ok h
  obtain ⟨_, _, h⟩ := bind_eq_ok.mp h
  obtain ⟨_, _, h⟩ := bind_eq_ok.mp h
  obtain ⟨_, _, h⟩ := bind_eq_ok.mp h
  obtain ⟨_, _, h⟩ := bind_eq_ok.mp h
  obtain ⟨_, _, h⟩ := bind_eq_ok.mp h
  obtain ⟨_, hgroups, h⟩ := bind_eq_ok.mp h
  obtain ⟨_, htokens, h⟩ := bind_eq_ok.mp h
  cases h
  refine ⟨?_, (mapM_ok hgroups).imp fun _ _ h => group_ok h, titles_ok htokens⟩
  exact titles_of_forall₂ hfollows.concrete fun _ _ h => ⟨h.ref, h.named⟩

theorem Covers.group_titles (h : Covers b plan) :
    Titles (.ofCatalogue b.catalogue) (b.catalogue.supertypes.map Descriptor.ref)
      (plan.groups.map Group.title) :=
  titles_of_forall₂ h.groups fun _ _ h => ⟨h.ref, h.named⟩

end Blueprint

namespace Sdk

/-- A generated SDK comes of an accepted namespace and a plan; its files are those of the plan, in the
order of their paths, which do not repeat. -/
theorem generate_inv {b : Built} {config : Option Json} {o : Output}
    (h : generate b config = .ok o) : ∃ c plan, NamespaceConfig.ofOptional? config = .ok c ∧
      c.resolve b.name = .ok o.spaceName ∧ Blueprint.ofBuilt? b o.spaceName = .ok plan ∧
      ((artifacts b plan).map Artifact.path).Nodup ∧
      o.artifacts = sortOn Artifact.path (artifacts b plan) := by
  obtain ⟨c, hconfig, h⟩ := bind_eq_ok.mp h
  obtain ⟨spaceName, hspace, h⟩ := bind_eq_ok.mp h
  obtain ⟨plan, hplan, h⟩ := bind_eq_ok.mp h
  obtain ⟨files, hfiles, h⟩ := bind_eq_ok.mp h
  cases h
  obtain ⟨hnodup, rfl⟩ := collect_ok hfiles
  exact ⟨c, plan, hconfig, hspace, hplan, hnodup, rfl⟩

end Sdk

end TraversalSdk
