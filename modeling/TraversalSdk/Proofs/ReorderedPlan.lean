import TraversalSdk.Proofs.PlannedFiles
import TraversalSdk.Proofs.ReorderedTypes

namespace TraversalSdk

/-- The same grammar but for the order of its declarations; the first rule stays where it is. -/
structure Built.Similar (b b' : Built) : Prop where
  name : b.name = b'.name
  start : b.grammar.startRule = b'.grammar.startRule
  rules : b.grammar.rules.Perm b'.grammar.rules
  nodup : (b.grammar.rules.map Prod.fst).Nodup
  catalogue : b.catalogue.Similar b'.catalogue
  parser : b.parser = b'.parser

theorem Built.Similar.symm {b b' : Built} (h : b.Similar b') : b'.Similar b where
  name := h.name.symm
  start := h.start.symm
  rules := h.rules.symm
  nodup := (h.rules.map _).nodup_iff.mp h.nodup
  catalogue := h.catalogue.symm
  parser := h.parser.symm

namespace Blueprint

variable {b b' : Built} {plan : Blueprint}

/-- Types are called the same whatever the order of their declarations. -/
theorem title_similar (h : b.Similar b') :
    title b (.ofCatalogue b.catalogue) = title b' (.ofCatalogue b'.catalogue) := by
  funext r
  unfold title
  rw [h.catalogue.registry_eq, h.name]

theorem concreteNode_similar {c c' : Catalogue} (h : c.Similar c') {d d' : Descriptor}
    (hd : d.Similar d') (find : NodeRef → Except Failure Titled) (row : Row) :
    concreteNode c find row d = concreteNode c' find row d' := by
  unfold concreteNode
  rw [hd.ref, h.accessors_eq hd]

/-- Supertypes of one text can stand in another order in the plan, and nothing else can. -/
theorem group_similar {c c' : Catalogue} (h : c.Similar c') (find : NodeRef → Except Failure Titled)
    {gs : List Group} (hgs : c.supertypes.mapM (group c find) = .ok gs) :
    ∃ gs', c'.supertypes.mapM (group c' find) = .ok gs' ∧ gs.Perm gs' := by
  -- a group depends on the identity of its supertype alone
  let ofRef (c : Catalogue) (r : NodeRef) : Except Failure Group := do
    return ⟨← find r, ← (c.expand r).mapM find⟩
  have hofRef : ofRef c = ofRef c' := by
    funext r
    simp only [ofRef, h.expand_eq]
  have hmap (c : Catalogue) :
      c.supertypes.mapM (group c find) = (c.supertypes.map Descriptor.ref).mapM (ofRef c) := by
    rw [List.mapM_map]
    rfl
  rw [hmap, hofRef] at hgs
  rw [hmap]
  exact mapM_perm h.supertypes_perm hgs

theorem sequences_similar (h : b.Similar b') :
    sortOn Prod.fst (TraversalSdk.sequences b.grammar.rules) =
      sortOn Prod.fst (TraversalSdk.sequences b'.grammar.rules) := by
  refine sortOn_eq_of_perm ((h.rules.map _).filter _) (List.Nodup.sublist ?_ h.nodup)
  have hkeys : (b.grammar.rules.map fun r => (r.1, r.2.unwrapped.sequenceMembers)).map Prod.fst =
      b.grammar.rules.map Prod.fst := by
    rw [List.map_map]
    rfl
  rw [← hkeys]
  exact List.filter_sublist.map _

/-- The plans of both differ at most in the order of the groups. -/
theorem ofBuilt?_similar (h : b.Similar b') {spaceName : String}
    (hplan : ofBuilt? b spaceName = .ok plan) : ∃ declared groups,
      ofBuilt? b' spaceName = .ok { plan with declared := declared, groups := groups } ∧
      plan.groups.Perm groups := by
  obtain ⟨start, hstart, hplan⟩ := bind_eq_ok.mp hplan
  obtain ⟨g, hg, hplan⟩ := bind_eq_ok.mp hplan
  obtain ⟨root, hroot, hplan⟩ := bind_eq_ok.mp hplan
  obtain ⟨declared, hdeclared, hplan⟩ := bind_eq_ok.mp hplan
  obtain ⟨concrete, hconcrete, hplan⟩ := bind_eq_ok.mp hplan
  obtain ⟨groups, hgroups, hplan⟩ := bind_eq_ok.mp hplan
  obtain ⟨tokens, htokens, hplan⟩ := bind_eq_ok.mp hplan
  cases hplan
  have hclosed := check_of_build hg
  rw [Graph.build_of_check hclosed] at hg
  cases hg
  have hrows : b.catalogue.concrete.map (Graph.rowFor b.catalogue (some start)) =
      b'.catalogue.concrete.map (Graph.rowFor b'.catalogue (some start)) :=
    forall₂_map_eq h.catalogue.concrete fun _ _ hd => h.catalogue.rowFor_eq _ hd
  have hgraph : Graph.build b'.catalogue (some start) =
      .ok ⟨b.catalogue.concrete.map (Graph.rowFor b.catalogue (some start))⟩ := by
    have hclosed' := h.catalogue.closed (Catalogue.check_eq_ok_iff.mp hclosed)
    rw [hrows, Graph.build_of_check (Catalogue.check_eq_ok_iff.mpr hclosed')]
  rw [title_similar h] at hroot hdeclared hconcrete hgroups htokens
  rw [h.catalogue.rootType?_eq] at hroot
  rw [h.catalogue.anonymous_refs] at htokens
  obtain ⟨declared', hdeclared', _⟩ := mapM_perm h.catalogue.refs_perm hdeclared
  obtain ⟨groups', hgroups', hperm⟩ := group_similar h.catalogue _ hgroups
  have hconcrete' : ((b.catalogue.concrete.map (Graph.rowFor b.catalogue (some start))).zip
      b'.catalogue.concrete).mapM (fun p => concreteNode b'.catalogue
        (title b' (.ofCatalogue b'.catalogue)) p.1 p.2) = .ok concrete := by
    rw [← hconcrete, hrows, zip_rowFor, ← hrows, zip_rowFor]
    refine (mapM_congr_forall₂ (R := fun p p' => p.1 = p'.1 ∧ p.2.Similar p'.2) ?_ ?_).symm
    · rw [List.forall₂_map_left_iff, List.forall₂_map_right_iff]
      exact h.catalogue.concrete.imp fun _ _ hd => ⟨h.catalogue.rowFor_eq _ hd, hd⟩
    · rintro ⟨row, d⟩ ⟨_, d'⟩ ⟨rfl, hd⟩
      exact concreteNode_similar h.catalogue hd _ row
  refine ⟨declared', groups', ?_, hperm⟩
  refine bind_eq_ok.mpr ⟨start, h.start ▸ hstart, bind_eq_ok.mpr ⟨_, hgraph, bind_eq_ok.mpr ⟨root,
    hroot, bind_eq_ok.mpr ⟨declared', hdeclared', bind_eq_ok.mpr ⟨concrete, hconcrete',
    bind_eq_ok.mpr ⟨groups', hgroups', bind_eq_ok.mpr ⟨tokens, htokens, ?_⟩⟩⟩⟩⟩⟩⟩
  rw [← h.name, ← sequences_similar h]
  rfl

/-- In sorted order only the texts of supertypes are seen. -/
theorem groups_types {plan plan' : Blueprint} (h : b.Similar b') (hplan : Covers b plan)
    (hplan' : Covers b' plan') :
    plan.groups.map (·.title.ref.type) = plan'.groups.map (·.title.ref.type) := by
  have htypes {b : Built} {plan : Blueprint} (h : Covers b plan) :
      plan.groups.map (·.title.ref.type) = b.catalogue.supertypes.map (·.ref.type) := by
    have hrefs := congrArg (List.map NodeRef.type) h.group_titles.refs
    simp only [List.map_map] at hrefs
    exact hrefs
  rw [htypes hplan, htypes hplan', h.catalogue.supertypes_types]

end Blueprint

namespace Sdk
open Source

variable {b b' : Built}

theorem titleExports_perm {ts ts' : List Titled} (h : ts.Perm ts') :
    titleExports ts = titleExports ts' :=
  sortTexts_eq_of_perm (h.flatMap_right _)

/-- A module that passes on node types does not show their order. -/
theorem barrel_perm (grammar summary : String) {ts ts' : List Titled} (h : ts.Perm ts')
    (hn : (ts.map (·.names.module)).Nodup) (constants : List (String × List String)) :
    barrel grammar summary ts constants = barrel grammar summary ts' constants := by
  have hsorted : sortOn (·.names.module) ts = sortOn (·.names.module) ts' := sortOn_eq_of_perm h hn
  have hexports : sortTexts (ts.flatMap (fun t => [t.names.className, t.names.guard])
      ++ constants.map (·.1)) = sortTexts (ts'.flatMap (fun t => [t.names.className, t.names.guard])
      ++ constants.map (·.1)) :=
    sortTexts_eq_of_perm ((h.flatMap_right _).append_right _)
  rw [barrel, barrel, hsorted, hexports]

section

variable {plan : Blueprint} {declared : List Titled} {groups : List Group}
  (hperm : plan.groups.Perm groups)

include hperm

theorem titles_perm : (plan.concrete.map ConcreteNode.title ++ plan.groups.map Group.title).Perm
    (plan.concrete.map ConcreteNode.title ++ groups.map Group.title) :=
  (hperm.map _).append_left _

/-- Nor does the root. -/
theorem rootModule_perm :
    rootModule plan = rootModule { plan with declared := declared, groups := groups } := by
  have himports : rootImports plan =
      rootImports { plan with declared := declared, groups := groups } := by
    simp only [rootImports, titleExports_perm (titles_perm hperm)]
  simp only [rootModule, rootAlias?, rootNames, himports]

theorem nodesBarrel_perm
    (htypes : plan.groups.map (·.title.ref.type) = groups.map (·.title.ref.type))
    (hn : ((plan.concrete.map ConcreteNode.title ++ plan.groups.map Group.title).map
      (·.names.module)).Nodup) :
    nodesBarrel plan = nodesBarrel { plan with declared := declared, groups := groups } := by
  rw [nodesBarrel, nodesBarrel, htypes, barrel_perm _ _ (titles_perm hperm) hn]

/-- The modules are the same, those of groups perhaps in another order. -/
theorem modules_perm
    (htypes : plan.groups.map (·.title.ref.type) = groups.map (·.title.ref.type))
    (hn : ((plan.concrete.map ConcreteNode.title ++ plan.groups.map Group.title).map
      (·.names.module)).Nodup) :
    (modules plan).Perm (modules { plan with declared := declared, groups := groups }) := by
  have hnodes : (nodeModules plan).Perm
      (nodeModules { plan with declared := declared, groups := groups }) := by
    have hbarrel : nodesBarrel plan =
        nodesBarrel { plan with declared := declared, groups := groups } :=
      nodesBarrel_perm hperm htypes hn
    unfold nodeModules
    rw [hbarrel]
    exact (((hperm.map _).append_left _).append_right _).append_right _
  have hroot : rootModule plan = rootModule { plan with declared := declared, groups := groups } :=
    rootModule_perm hperm
  unfold modules
  rw [hroot]
  exact (hnodes.append_left _).append_right _

end

theorem nodup_titles {plan : Blueprint} (h : Blueprint.Covers b plan)
    (hn : ((artifacts b plan).map Artifact.path).Nodup) :
    ((plan.concrete.map ConcreteNode.title ++ plan.groups.map Group.title).map
      (·.names.module)).Nodup := by
  have hconcrete := titles_modules h.concrete id
  have hgroups := titles_modules h.group_titles id
  rw [paths_artifacts h, nodup_plannedPaths_iff, ← Catalogue.nodup_listed_modules_iff,
    Catalogue.listed, List.map_append] at hn
  simp only [id] at hconcrete hgroups
  rwa [List.map_append, hconcrete, hgroups]

/-- A file is found just if it is one of the plan. -/
theorem get?_eq_some_iff {plan : Blueprint} {o : Output}
    (hn : ((artifacts b plan).map Artifact.path).Nodup)
    (ho : o.artifacts = sortOn Artifact.path (artifacts b plan)) {path : String} {x : Content} :
    o.get? path = some x ↔ ⟨path, x⟩ ∈ artifacts b plan := by
  have hsorted : (o.artifacts.map Artifact.path).Nodup := by
    rw [ho]
    exact ((sortOn_perm _ _).map _).nodup_iff.mpr hn
  rw [Output.get?, Option.map_eq_some_iff]
  constructor
  · rintro ⟨a, ha, rfl⟩
    obtain rfl : a.path = path := by simpa using List.find?_some ha
    have hm := List.mem_of_find?_eq_some ha
    rw [ho] at hm
    exact mem_sortOn.mp hm
  · intro hm
    have hm' : ⟨path, x⟩ ∈ o.artifacts := by
      rw [ho]
      exact mem_sortOn.mpr hm
    exact ⟨⟨path, x⟩, find?_key hsorted hm', rfl⟩

/-- Of the documents only the parser is the same for both. -/
theorem mem_documents_similar (h : b.Similar b') {path : String} {x : Content}
    (hgrammar : path ≠ "__artifacts__/grammar.json")
    (hnodeTypes : path ≠ "__artifacts__/node-types.json") (hm : ⟨path, x⟩ ∈ documents b) :
    ⟨path, x⟩ ∈ documents b' := by
  rcases List.mem_append.mp hm with hm | hm
  · rcases List.mem_pair.mp hm with hm | hm
    · cases hm
      exact absurd rfl hgrammar
    · cases hm
      exact absurd rfl hnodeTypes
  · rw [h.parser] at hm
    exact List.mem_append_right _ hm

/-- Both generate the same files, the two documents apart. -/
theorem generate_similar (h : b.Similar b') {config : Option Json} {o : Output}
    (ho : generate b config = .ok o) : ∃ o', generate b' config = .ok o' ∧ o.paths = o'.paths ∧
      ∀ path, path ≠ "__artifacts__/grammar.json" → path ≠ "__artifacts__/node-types.json" →
        o.get? path = o'.get? path := by
  obtain ⟨conf, plan, hconfig, hspace, hplan, hn, hfiles⟩ := generate_inv ho
  obtain ⟨declared, groups, hplan', hperm⟩ := Blueprint.ofBuilt?_similar h hplan
  have hcovers := Blueprint.ofBuilt?_covers hplan
  have hcovers' := Blueprint.ofBuilt?_covers hplan'
  have hmodules : (modules plan).Perm (modules { plan with declared := declared, groups := groups }) :=
    modules_perm hperm (Blueprint.groups_types h hcovers hcovers') (nodup_titles hcovers hn)
  have hsources := (hmodules.map fun m => Artifact.mk m.1 (.text m.2.text)).cons ⟨"py.typed", .text ""⟩
  have hpaths : ((artifacts b plan).map Artifact.path).Perm
      ((artifacts b' { plan with declared := declared, groups := groups }).map Artifact.path) := by
    rw [artifacts, artifacts, List.map_append, List.map_append, paths_documents, paths_documents,
      documentPaths, documentPaths, h.parser]
    exact (hsources.map _).append_right _
  have hn' := hpaths.nodup_iff.mp hn
  have hgenerate := generate_eq_ok hconfig (h.name ▸ hspace) hplan' (firstRepeated?_eq_none_iff.mpr hn')
  refine ⟨_, hgenerate, ?_, fun path hgrammar hnodeTypes => ?_⟩
  · have hsorted (l : List Artifact) :
        (sortOn Artifact.path l).map Artifact.path = sortTexts (l.map Artifact.path) :=
      map_sortOn fun _ _ => rfl
    rw [Output.paths, Output.paths, hfiles, hsorted, hsorted, sortTexts_eq_of_perm hpaths]
  · ext x
    rw [get?_eq_some_iff hn hfiles, get?_eq_some_iff hn' rfl, artifacts, artifacts, List.mem_append,
      List.mem_append]
    exact or_congr hsources.mem_iff ⟨mem_documents_similar h hgrammar hnodeTypes,
      mem_documents_similar h.symm hgrammar hnodeTypes⟩

end Sdk

end TraversalSdk
