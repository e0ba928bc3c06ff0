import TraversalSdk.Proofs.EmittedGraph
import TraversalSdk.Proofs.PlannedTypes
import TraversalSdk.Proofs.UsableNames

namespace TraversalSdk

namespace Catalogue

variable (c : Catalogue)

def moduleOf (r : NodeRef) : String := ((Registry.ofCatalogue c).get? r).elim "" NodeNames.module

/-- An anonymous supertype and a named type with one module name. A supertype stands beside the named types,
but its name is free in the name space of tokens only. -/
def SharesModule : Prop :=
  ∃ d ∈ c.descriptors, ∃ e ∈ c.descriptors, d.isSupertype = true ∧ d.ref.named = false ∧
    e.ref.named = true ∧ c.moduleOf d.ref = c.moduleOf e.ref

variable {c}

/-- Where all supertypes are named, no module is shared. -/
theorem not_sharesModule (h : ∀ d ∈ c.descriptors, d.isSupertype = true → d.ref.named = true) :
    ¬c.SharesModule := by
  rintro ⟨d, hd, _, _, hsuper, hanonymous, _⟩
  rw [h d hd hsuper] at hanonymous
  cases hanonymous

theorem moduleOf_eq {r : NodeRef} {n : NodeNames} (h : (Registry.ofCatalogue c).get? r = some n) :
    c.moduleOf r = n.module := by
  simp [moduleOf, h]

theorem named_moduleOf {r : NodeRef} (h : r ∈ c.refs) :
    ∃ n, (Registry.ofCatalogue c).get? r = some n ∧ c.moduleOf r = n.module := by
  obtain ⟨n, hn⟩ := Registry.get?_isSome h
  exact ⟨n, hn, moduleOf_eq hn⟩

theorem slash_not_mem_moduleOf {r : NodeRef} (h : r ∈ c.refs) : '/' ∉ (c.moduleOf r).toList := by
  obtain ⟨n, hn, he⟩ := named_moduleOf h
  rw [he]
  intro hm
  exact absurd ((Registry.module_usable hn).chars _ hm) (by decide)

theorem moduleOf_ne_init {r : NodeRef} (h : r ∈ c.refs) : c.moduleOf r ≠ "__init__" := by
  obtain ⟨n, hn, he⟩ := named_moduleOf h
  have hfree := (Registry.keepsOff hn).module
  rw [he]
  rintro hi
  rw [hi] at hfree
  cases hr : r.named <;>
    simp [Registry.spaceOf, hr, Naming.namedSpace, Naming.anonymousSpace] at hfree

/-- Types of one kind have modules of their own. -/
theorem ref_eq_of_moduleOf {r s : NodeRef} (hr : r ∈ c.refs) (hs : s ∈ c.refs)
    (hk : r.named = s.named) (h : c.moduleOf r = c.moduleOf s) : r = s := by
  obtain ⟨n, hn, hrn⟩ := named_moduleOf hr
  obtain ⟨m, hm, hsm⟩ := named_moduleOf hs
  by_contra hne
  exact (Registry.apart hn hm hne hk).module (by rw [← hrn, ← hsm, h])

theorem nodup_view (p : Descriptor → Bool) :
    ((sortOn (·.ref.type) (c.descriptors.filter p)).map Descriptor.ref).Nodup := by
  have hperm := (sortOn_perm (·.ref.type) (c.descriptors.filter p)).map Descriptor.ref
  exact hperm.nodup_iff.mpr (c.nodup.sublist (List.filter_sublist.map _))

theorem mem_supertypes {d : Descriptor} :
    d ∈ c.supertypes ↔ d ∈ c.descriptors ∧ d.isSupertype = true := by
  simp [supertypes]

theorem mem_anonymous {d : Descriptor} :
    d ∈ c.anonymous ↔ d ∈ c.descriptors ∧ d.ref.named = false := by
  simp [anonymous]

def listed (c : Catalogue) : List Descriptor := c.concrete ++ c.supertypes

theorem mem_listed {d : Descriptor} :
    d ∈ c.listed ↔ d ∈ c.descriptors ∧ (d.ref.named = true ∨ d.isSupertype = true) := by
  rw [listed, List.mem_append, mem_concrete, mem_supertypes, ← and_or_left, Descriptor.isConcrete]
  cases d.ref.named <;> cases d.isSupertype <;> simp

theorem nodup_listed : c.listed.Nodup := by
  refine List.nodup_append.mpr ⟨.of_map _ c.nodup_concrete, .of_map _ (nodup_view _), ?_⟩
  rintro d hd _ he rfl
  have hc := (mem_concrete.mp hd).2
  simp [Descriptor.isConcrete, (mem_supertypes.mp he).2] at hc

/-- The modules of the listed types repeat just where an anonymous supertype meets a named type. -/
theorem nodup_listed_modules_iff :
    (c.listed.map fun d => c.moduleOf d.ref).Nodup ↔ ¬c.SharesModule := by
  constructor
  · rintro hn ⟨d, hd, e, he, hsuper, hanonymous, hnamed, hsame⟩
    have hde : d = e := List.inj_on_of_nodup_map hn (mem_listed.mpr ⟨hd, .inr hsuper⟩)
      (mem_listed.mpr ⟨he, .inl hnamed⟩) hsame
    rw [hde, hnamed] at hanonymous
    cases hanonymous
  · intro hn
    refine c.nodup_listed.map_on fun d hd e he hsame => ?_
    obtain ⟨hd, hkd⟩ := mem_listed.mp hd
    obtain ⟨he, hke⟩ := mem_listed.mp he
    cases hd' : d.ref.named <;> cases he' : e.ref.named
    case false.true =>
      have hsuper : d.isSupertype = true := by simpa [hd'] using hkd
      exact absurd ⟨d, hd, e, he, hsuper, hd', he', hsame⟩ hn
    case true.false =>
      have hsuper : e.isSupertype = true := by simpa [he'] using hke
      exact absurd ⟨e, he, d, hd, hsuper, he', hd', hsame.symm⟩ hn
    all_goals
      have href := ref_eq_of_moduleOf (mem_refs.mpr ⟨d, hd, rfl⟩) (mem_refs.mpr ⟨e, he, rfl⟩)
        (hd'.trans he'.symm) hsame
      exact List.inj_on_of_nodup_map c.nodup hd he href

theorem nodup_anonymous_modules : (c.anonymous.map fun d => c.moduleOf d.ref).Nodup := by
  refine (List.Nodup.of_map _ (nodup_view _)).map_on fun d hd e he hsame => ?_
  obtain ⟨hd, hkd⟩ := mem_anonymous.mp hd
  obtain ⟨he, hke⟩ := mem_anonymous.mp he
  have href := ref_eq_of_moduleOf (mem_refs.mpr ⟨d, hd, rfl⟩) (mem_refs.mpr ⟨e, he, rfl⟩)
    (hkd.trans hke.symm) hsame
  exact List.inj_on_of_nodup_map c.nodup hd he href

end Catalogue

namespace Sdk

def ownPaths : List String := ["py.typed", "__init__.py", "types.py", "errors.py", "utils.py",
  "anonymous_nodes.py", "navigator.py"]

def cursorPaths : List String := ["cursor/__init__.py", "cursor/conditionals.py",
  "cursor/cursor.py", "cursor/maps.py"]

def documentPaths (b : Built) : List String :=
  ["__artifacts__/grammar.json", "__artifacts__/node-types.json"]
  ++ b.parser.toList.map fun _ => "__artifacts__/parser.wasm"

/-- The files of the node types: one for each named concrete type and each supertype, one for each
anonymous type, and both barrels. -/
def nodePaths (c : Catalogue) : List String :=
  (c.concrete ++ c.supertypes).map (fun d => "nodes/" ++ c.moduleOf d.ref ++ ".py")
  ++ c.anonymous.map (fun d => "nodes/anonymous/" ++ c.moduleOf d.ref ++ ".py")
  ++ ["nodes/__init__.py", "nodes/anonymous/__init__.py"]

def plannedPaths (b : Built) : List String :=
  ownPaths ++ nodePaths b.catalogue ++ cursorPaths ++ documentPaths b

def nodeKeys (c : Catalogue) : List String :=
  c.listed.map (fun d => c.moduleOf d.ref) ++ c.anonymous.map (fun d => "anonymous/" ++ c.moduleOf d.ref)
  ++ ["__init__", "anonymous/__init__"]

theorem nodePaths_eq (c : Catalogue) :
    nodePaths c = (nodeKeys c).map fun s => "nodes/" ++ s ++ ".py" := by
  have happend (s : String) : "nodes/anonymous/" ++ s = "nodes/" ++ ("anonymous/" ++ s) := by
    rw [← String.append_assoc]
    rfl
  simp only [nodePaths, nodeKeys, Catalogue.listed, List.map_append, List.map_map, List.map_cons,
    List.map_nil, Function.comp_def, happend]
  rfl

/-- Files of node types stand apart unless a module name is shared. -/
theorem nodup_nodeKeys_iff {c : Catalogue} : (nodeKeys c).Nodup ↔ ¬c.SharesModule := by
  rw [← Catalogue.nodup_listed_modules_iff]
  constructor
  · intro h
    exact (List.nodup_append.mp (List.nodup_append.mp h).1).1
  · intro h
    have hslash (d : Descriptor) (hd : d ∈ c.listed) :
        '/' ∉ (c.moduleOf d.ref).toList :=
      Catalogue.slash_not_mem_moduleOf
        (Catalogue.mem_refs.mpr ⟨d, (Catalogue.mem_listed.mp hd).1, rfl⟩)
    have hinit (d : Descriptor) (hd : d ∈ c.descriptors) : c.moduleOf d.ref ≠ "__init__" :=
      Catalogue.moduleOf_ne_init (Catalogue.mem_refs.mpr ⟨d, hd, rfl⟩)
    have htokens : (c.anonymous.map fun d => "anonymous/" ++ c.moduleOf d.ref).Nodup := by
      have hn := c.nodup_anonymous_modules.map (f := ("anonymous/" ++ ·)) fun s t h =>
        (String.append_right_inj _).mp h
      rwa [List.map_map] at hn
    refine List.nodup_append.mpr ⟨List.nodup_append.mpr ⟨h, htokens, ?_⟩, by decide, ?_⟩
    · rintro _ hm _ ht rfl
      obtain ⟨d, hd, he⟩ := List.mem_map.mp hm
      obtain ⟨e, _, he'⟩ := List.mem_map.mp ht
      refine hslash d hd ?_
      rw [he, ← he']
      simp
    · rintro _ hm _ hb rfl
      rcases List.mem_append.mp hm with hm | hm
      · obtain ⟨d, hd, he⟩ := List.mem_map.mp hm
        rcases List.mem_pair.mp hb with hb | hb
        · exact hinit d (Catalogue.mem_listed.mp hd).1 (he.trans hb)
        · refine hslash d hd ?_
          rw [he, hb]
          decide
      · obtain ⟨d, hd, he⟩ := List.mem_map.mp hm
        rcases List.mem_pair.mp hb with hb | hb
        · have hhead := congrArg (fun s : String => s.toList.head?) (he.trans hb)
          simp at hhead
        · have hb' : "anonymous/" ++ c.moduleOf d.ref = "anonymous/" ++ "__init__" := he.trans hb
          exact hinit d (Catalogue.mem_anonymous.mp hd).1 ((String.append_right_inj _).mp hb')

theorem plannedPaths_perm (b : Built) :
    (plannedPaths b).Perm (ownPaths ++ (cursorPaths ++ documentPaths b) ++ nodePaths b.catalogue) := by
  simp only [plannedPaths, List.append_assoc]
  refine List.Perm.append_left ownPaths ?_
  rw [← List.append_assoc cursorPaths]
  exact List.perm_append_comm

/-- The files of an SDK stand apart unless a module name is shared. -/
theorem nodup_plannedPaths_iff {b : Built} :
    (plannedPaths b).Nodup ↔ ¬b.catalogue.SharesModule := by
  have hinj : Function.Injective fun s => "nodes/" ++ s ++ ".py" := fun s t h =>
    (String.append_right_inj _).mp ((String.append_left_inj _).mp h)
  rw [(plannedPaths_perm b).nodup_iff, ← nodup_nodeKeys_iff, nodePaths_eq]
  constructor
  · intro h
    exact .of_map _ (List.nodup_append.mp h).2.1
  · intro h
    have hfixed : ∀ p ∈ ownPaths ++ (cursorPaths ++ documentPaths b),
        p.toList.take 6 ≠ "nodes/".toList := by
      cases hb : b.parser <;> simp only [documentPaths, hb, Option.toList, List.map] <;> decide
    refine List.nodup_append.mpr ⟨?_, h.map hinj, ?_⟩
    · cases hb : b.parser <;> simp only [documentPaths, hb, Option.toList, List.map] <;> decide
    · rintro p hp _ hn rfl
      obtain ⟨s, _, rfl⟩ := List.mem_map.mp hn
      refine hfixed _ hp ?_
      rw [String.append_assoc, String.toList_append]
      rfl

theorem titles_modules {c : Catalogue} {ds : List Descriptor} {ts : List Titled}
    (h : Blueprint.Titles (.ofCatalogue c) (ds.map Descriptor.ref) ts) (f : String → String) :
    ts.map (fun t => f t.names.module) = ds.map fun d => f (c.moduleOf d.ref) := by
  have hmodules : ts.map (fun t => f t.names.module) = ts.map fun t => f (c.moduleOf t.ref) :=
    List.map_congr_left fun t ht => by rw [Catalogue.moduleOf_eq (h.named t ht)]
  have hrefs := congrArg (List.map fun r => f (c.moduleOf r)) h.refs
  simp only [List.map_map, Function.comp_def] at hrefs
  rw [hmodules, hrefs]

theorem paths_documents (b : Built) : (documents b).map Artifact.path = documentPaths b := by
  rw [documents, documentPaths, List.map_append, List.map_map]
  rfl

/-- The files of a plan stand at the planned paths. -/
theorem paths_artifacts {b : Built} {plan : Blueprint} (h : Blueprint.Covers b plan) :
    (artifacts b plan).map Artifact.path = plannedPaths b := by
  have hconcrete := titles_modules h.concrete fun s => "nodes/" ++ s ++ ".py"
  have hgroups := titles_modules h.group_titles fun s => "nodes/" ++ s ++ ".py"
  have htokens := titles_modules h.tokens fun s => "nodes/anonymous/" ++ s ++ ".py"
  rw [List.map_map] at hconcrete hgroups
  have hnodes : (nodeModules plan).map Prod.fst = nodePaths b.catalogue := by
    rw [nodePaths, List.map_append, ← hconcrete, ← hgroups, ← htokens, nodeModules, List.map_append,
      List.map_append, List.map_append, List.map_map, List.map_map, List.map_map]
    rfl
  have hmodules : (modules plan).map Prod.fst =
      ownPaths.tail ++ nodePaths b.catalogue ++ cursorPaths := by
    rw [modules, List.map_append, List.map_append, hnodes]
    rfl
  rw [artifacts, List.map_append, List.map_cons, List.map_map, paths_documents]
  change "py.typed" :: (modules plan).map Prod.fst ++ documentPaths b = plannedPaths b
  rw [hmodules]
  rfl

/-- Where two files have one path, generation tells the first of these paths. -/
theorem generate_eq_sharedPath {b : Built} {config : Option Json} {conf : NamespaceConfig}
    {spaceName path : String} {plan : Blueprint}
    (hconfig : NamespaceConfig.ofOptional? config = .ok conf)
    (hspace : conf.resolve b.name = .ok spaceName)
    (hplan : Blueprint.ofBuilt? b spaceName = .ok plan)
    (hrepeated : firstRepeated? ((artifacts b plan).map Artifact.path) = some path) :
    generate b config = .error (.sharedPath path b.name) := by
  have hcollect : collect b.name (artifacts b plan) = .error (.sharedPath path b.name) := by
    rw [collect, hrepeated]
  simp [generate, hconfig, hspace, hplan, hcollect, bind, Except.bind]

/-- Where no type shares a module there is nothing to fail at. -/
theorem generate_of_apart {b : Built} {config : Option Json} {conf : NamespaceConfig}
    {spaceName : String} {plan : Blueprint}
    (hconfig : NamespaceConfig.ofOptional? config = .ok conf)
    (hspace : conf.resolve b.name = .ok spaceName)
    (hplan : Blueprint.ofBuilt? b spaceName = .ok plan) (hapart : ¬b.catalogue.SharesModule) :
    ∃ o, generate b config = .ok o ∧ o.paths.Pairwise (· < ·) ∧ o.paths.Perm (plannedPaths b) := by
  have hpaths := paths_artifacts (Blueprint.ofBuilt?_covers hplan)
  have hnodup : ((artifacts b plan).map Artifact.path).Nodup := by
    rw [hpaths]
    exact nodup_plannedPaths_iff.mpr hapart
  refine ⟨_, generate_eq_ok hconfig hspace hplan (firstRepeated?_eq_none_iff.mpr hnodup),
    pairwise_lt_sortOn hnodup, ?_⟩
  rw [← hpaths]
  exact (sortOn_perm _ _).map _

/-- Without a namespace configuration the name of the grammar makes the namespace. -/
theorem generate_standard {b : Built} {start : String} (hclosed : b.catalogue.check = .ok ())
    (hstart : b.grammar.startRule = .ok start) (hapart : ¬b.catalogue.SharesModule) :
    ∃ o, generate b none = .ok o ∧ o.paths.Perm (plannedPaths b) := by
  obtain ⟨plan, hplan⟩ :=
    Blueprint.ofBuilt?_isOk (Catalogue.check_eq_ok_iff.mp hclosed) hstart ("Treant" ++ Casing.pascal b.name)
  have hstandard : NamespaceConfig.ofOptional? none = .ok .standard := rfl
  obtain ⟨o, ho, _, hpaths⟩ := generate_of_apart hstandard (NamespaceConfig.resolve_standard _) hplan hapart
  exact ⟨o, ho, hpaths⟩

/-- From an accepted grammar with a closed catalogue generation makes just the planned files, in the
order of their paths. It fails only where an anonymous supertype has the module name of a named type:
then both would be written to one path, and that is the failure. -/
theorem generate_paths {b : Built} {config : Option Json} {conf : NamespaceConfig}
    {spaceName : String} (hrules : b.grammar.rules ≠ []) (hclosed : b.catalogue.check = .ok ())
    (hconfig : NamespaceConfig.ofOptional? config = .ok conf)
    (hspace : conf.resolve b.name = .ok spaceName) :
    (¬b.catalogue.SharesModule → ∃ o, generate b config = .ok o ∧ o.paths.Pairwise (· < ·) ∧
      o.paths.Perm (plannedPaths b)) ∧
    (b.catalogue.SharesModule → ∃ path, 2 ≤ (plannedPaths b).count path ∧
      generate b config = .error (.sharedPath path b.name)) := by
  obtain ⟨start, hstart⟩ : ∃ start, b.grammar.startRule = .ok start := by
    unfold Grammar.startRule
    cases hr : b.grammar.rules with
    | nil => exact absurd hr hrules
    | cons r rs => exact ⟨r.1, rfl⟩
  obtain ⟨plan, hplan⟩ :=
    Blueprint.ofBuilt?_isOk (Catalogue.check_eq_ok_iff.mp hclosed) hstart spaceName
  constructor
  · exact generate_of_apart hconfig hspace hplan
  · intro hshares
    cases hrepeated : firstRepeated? (plannedPaths b) with
    | none => exact absurd hshares (nodup_plannedPaths_iff.mp (nodup_of_firstRepeated? hrepeated))
    | some path =>
      refine ⟨path, two_le_count_of_firstRepeated? hrepeated, ?_⟩
      rw [← paths_artifacts (Blueprint.ofBuilt?_covers hplan)] at hrepeated
      exact generate_eq_sharedPath hconfig hspace hplan hrepeated

def homonyms : Built where
  grammar := ⟨"homonyms", [("start", .blank)], [], [], [], [], [], [], none, []⟩
  catalogue := {
    descriptors := [
      ⟨⟨"foo", false⟩, false, false, [], none, some [⟨"foo", true⟩]⟩,
      ⟨⟨"foo", true⟩, false, false, [], none, none⟩]
    nodup := by decide }
  grammarSource := ""
  nodeTypesSource := ""
  parser := none

/-- The quoting grammar has its files; the one with homonyms has a path twice and so no files. -/
theorem generate_paths_examples :
    (∃ o, generate quoting none = .ok o ∧ o.paths.Pairwise (· < ·) ∧
      o.paths.Perm (plannedPaths quoting)) ∧
    ∃ path, 2 ≤ (plannedPaths homonyms).count path ∧
      generate homonyms none = .error (.sharedPath path "homonyms") := by
  have hapart : ¬quoting.catalogue.SharesModule := Catalogue.not_sharesModule (by decide)
  have hshares : homonyms.catalogue.SharesModule := by
    refine ⟨_, List.mem_cons_self, _, List.mem_cons_of_mem _ List.mem_cons_self, rfl, rfl, rfl, ?_⟩
    decide +kernel
  have hstandard : NamespaceConfig.ofOptional? none = .ok .standard := rfl
  constructor
  · have hrules : quoting.grammar.rules ≠ [] := List.cons_ne_nil _ _
    exact (generate_paths hrules (by cbv) hstandard (NamespaceConfig.resolve_standard _)).1 hapart
  · have hrules : homonyms.grammar.rules ≠ [] := List.cons_ne_nil _ _
    exact (generate_paths hrules (by cbv) hstandard (NamespaceConfig.resolve_standard _)).2 hshares

end Sdk

end TraversalSdk
