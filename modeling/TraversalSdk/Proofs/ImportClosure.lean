import TraversalSdk.Proofs.FoundModules

namespace TraversalSdk
open Source Text Naming

/-- Names of a file whose relative imports lead somewhere and whose exports are bound. -/
structure Output.Supplies (o : Output) (path : String) (n : Names) : Prop where
  imports : ∀ i ∈ n.imports, (relative? i.1).isSome = true → o.Resolves path i
  exports : ∀ name ∈ n.exports, name ∈ n.binds

def Source.DefinesClass (text name : String) : Prop :=
  ∃ line ∈ fullLines text, ("class " ++ name ++ "(").toList <+: line

namespace Sdk

variable {b : Built} {plan : Blueprint} {o : Output} {path source : String} {m : Module}

def Served (o : Output) (path : String) (m : Module) : Prop :=
  ∀ i ∈ m.imports, (relative? i.1).isSome = true → o.Resolves path i

/-- A relative import goes up through the packages of its file, and down from there. -/
theorem resolve?_eq {packages rest : List String} {k : Nat} (hd : directory path = packages)
    (hr : relative? source = some (k, rest)) (hk : k ≤ packages.length) :
    resolve? path source = some (packages.take (packages.length - k) ++ rest) := by
  simp [resolve?, hr, hd, hk]

theorem absolute {i : String × List String} (ha : relative? i.1 = none) :
    (relative? i.1).isSome = true → o.Resolves path i := by
  rw [ha]
  simp

/-- A module without relative imports gets all that it imports. -/
theorem served_of_absolute (imports : List (String × List String)) (hm : m.imports = imports)
    (ha : ∀ i ∈ imports, relative? i.1 = none) : Served o path m := by
  rw [Served, hm]
  exact fun i hi => absolute (ha i hi)

namespace Holds

variable (h : Holds b plan o) (hname : Unbroken plan.grammar)

include h hname

theorem binds_text (hm : (path, m) ∈ modules plan) {name : String} (hb : name ∈ m.binds) :
    name ∈ (readNames m.text).binds := by
  rw [h.names_text hname hm, Module.names_eq]
  exact List.mem_flatMap.mpr ⟨_, List.mem_cons_of_mem _ List.mem_cons_self, hb⟩

/-- An import resolves if its names lead to a module that binds what is imported. -/
theorem resolves {names imported : List String} {target : String} (hl : Leads plan o names target m)
    (hs : resolve? path source = some names) (hne : target ≠ path)
    (hb : ∀ name ∈ imported, name ∈ m.binds) : o.Resolves path (source, imported) :=
  ⟨names, (target, m.text), hs, hl.found, fun name hm =>
    .inl ⟨hne, h.binds_text hname hl.planned (hb name hm)⟩⟩

theorem resolves_types {imported : List String} (hs : resolve? path source = some ["types"])
    (hne : "types.py" ≠ path)
    (hi : ∀ name ∈ imported, name ∈ ["RawTreeCursor", "SyntaxNode", "SyntaxTree"]) :
    o.Resolves path (source, imported) := by
  have hbinds : ∀ name ∈ ["RawTreeCursor", "SyntaxNode", "SyntaxTree"],
      name ∈ treeTypes.flatMap Stmt.binds := by decide
  exact h.resolves hname h.leads_types hs hne fun name hm => hbinds name (hi name hm)

theorem served_utils : Served o "utils.py" (utilsModule plan) := by
  have himports : (utilsModule plan).imports = [(".types", ["SyntaxNode"])] := rfl
  rw [Served, himports, List.forall_mem_singleton]
  exact fun _ => h.resolves_types hname (by decide) (by decide) (by decide)

/-- The module of a type gets the protocol of nodes that it imports. -/
theorem served_own {t : Titled}
    (hs : resolve? path ((if t.ref.named then ".." else "...") ++ "types") = some ["types"])
    (hne : "types.py" ≠ path) (grammar : String) : Served o path (ownModule grammar t) := by
  rw [Served, imports_ownModule, List.forall_mem_cons, List.forall_mem_singleton]
  exact ⟨absolute (by decide), fun _ => h.resolves_types hname hs hne (by decide)⟩

theorem served_concrete {n : ConcreteNode} (hn : n ∈ plan.concrete) (grammar : String) :
    Served o (nodePath n.title) (ownModule grammar n.title) := by
  have hworded := h.worded.concrete n hn
  refine h.served_own hname ?_ (ne_nodePath (by decide) _).1 grammar
  rw [hworded.named]
  exact resolve?_eq (directory_nodes hworded.title.module_word.toIsName)
    (by decide : relative? "..types" = some (1, ["types"])) le_rfl

theorem served_token {t : Titled} (ht : t ∈ plan.tokens) (grammar : String) :
    Served o (tokenPath t) (ownModule grammar t) := by
  refine h.served_own hname ?_ (ne_nodePath (by decide) _).2 grammar
  rw [h.named_of_mem_tokens ht]
  exact resolve?_eq (directory_anonymous (h.worded.tokens t ht).module_word.toIsName)
    (by decide : relative? "...types" = some (2, ["types"])) le_rfl

/-- A group imports each of its members from the module that is the member's own. -/
theorem resolves_member {g : Group} (hg : g ∈ plan.groups) {t : Titled} (ht : t ∈ g.members) :
    o.Resolves (nodePath g.title) ("." ++ t.module, [t.names.className]) := by
  have hdirectory := directory_nodes (h.worded.groups g hg).module_word.toIsName
  have hmodule := (h.worded.members g hg t ht).module_word.toIsName
  have hbinds : ∀ name ∈ [t.names.className], name ∈ (ownModule plan.grammar t).binds := by
    rw [binds_ownModule]
    simp
  have hfirst : (groupModule plan.grammar g).imports.head? ≠
      some ("typing", ["Final", "Literal", "Protocol", "TypeGuard"]) := by
    rw [imports_groupModule]
    simp
  rcases h.member_planned hg ht with ⟨hnamed, n, hn, rfl⟩ | ⟨hnamed, htoken⟩
  · have hplanned := planned_concrete hn
    have hsource : relative? ("." ++ n.title.module) = some (0, [n.title.names.module]) := by
      rw [Titled.module, hnamed]
      exact relative?_beside hmodule
    exact h.resolves hname
      (h.leads_node hplanned hmodule ((h.worded.concrete n hn).title.module_ne_anonymous hnamed))
      (resolve?_eq hdirectory hsource (Nat.zero_le _))
      (h.own_path_ne hplanned (planned_group hg) hfirst) hbinds
  · have hsource : relative? ("." ++ t.module) = some (0, ["anonymous", t.names.module]) := by
      rw [Titled.module, hnamed]
      exact relative?_within (isName_ofList (by decide)) hmodule 0 (by simp)
    exact h.resolves hname (h.leads_token htoken)
      (resolve?_eq hdirectory hsource (Nat.zero_le _))
      (h.own_path_ne (planned_token htoken) (planned_group hg) hfirst) hbinds

/-- The module of a group gets the classes and the guards of its members. -/
theorem served_group {g : Group} (hg : g ∈ plan.groups) :
    Served o (nodePath g.title) (groupModule plan.grammar g) := by
  rw [Served, imports_groupModule, List.forall_mem_cons, List.forall_mem_cons, List.forall_mem_map]
  refine ⟨absolute (by decide), fun _ => ?_, fun t ht _ => ?_⟩
  · refine h.resolves_types hname ?_ (ne_nodePath (by decide) _).1 (by decide)
    exact resolve?_eq (directory_nodes (h.worded.groups g hg).module_word.toIsName)
      (by decide : relative? "..types" = some (1, ["types"])) le_rfl
  · exact h.resolves_member hname hg (mem_sortOn.mp ht)

/-- The package of nodes gets all that it passes on. -/
theorem served_nodesBarrel : Served o "nodes/__init__.py" (nodesBarrel plan) := by
  rw [Served, nodesBarrel, imports_barrel, List.forall_mem_cons, List.forall_mem_map]
  refine ⟨absolute (by decide), fun t ht _ => ?_⟩
  have hlisted := mem_sortOn.mp ht
  obtain ⟨target, m, hleads, hne, hclass, hguard⟩ := h.listed_leads hlisted
  have hmodule := (h.listed_named t hlisted).module_word.toIsName
  refine h.resolves hname hleads ?_ hne (List.forall_mem_cons.mpr
    ⟨hclass, List.forall_mem_singleton.mpr hguard⟩)
  exact resolve?_eq (by decide : directory "nodes/__init__.py" = ["nodes"])
    (relative?_beside hmodule) (Nat.zero_le _)

theorem served_anonymousBarrel : Served o "nodes/anonymous/__init__.py" (anonymousBarrel plan) := by
  have hdirectory : directory "nodes/anonymous/__init__.py" = ["nodes", "anonymous"] := by decide
  have hbarrel := h.leads_anonymous.planned
  rw [Served, anonymousBarrel, imports_barrel, List.forall_mem_cons, List.forall_mem_map]
  refine ⟨absolute (by decide), fun t ht _ => ?_⟩
  have htoken := mem_sortOn.mp ht
  refine h.resolves hname (h.leads_token htoken) ?_
    (h.own_path_ne (planned_token htoken) hbarrel ?_) ?_
  · exact resolve?_eq hdirectory
      (relative?_beside (h.worded.tokens t htoken).module_word.toIsName) (Nat.zero_le _)
  · rw [anonymousBarrel, imports_barrel]
    simp
  · rw [binds_ownModule]
    simp

theorem resolves_cursorBase {imported : List String}
    (hs : resolve? path source = some ["cursor", "cursor"]) (hne : "cursor/cursor.py" ≠ path)
    (hi : ∀ name ∈ imported, name ∈ ["AnonymousCursor", "TreeCursor", "cursor_class", "from_tree", "wrap"]) :
    o.Resolves path (source, imported) := by
  have hbinds : ∀ name ∈ ["AnonymousCursor", "TreeCursor", "cursor_class", "from_tree", "wrap"],
      name ∈ cursorBase.flatMap Stmt.binds := by decide
  exact h.resolves hname h.leads_cursorBase hs hne fun name hm => hbinds name (hi name hm)

theorem served_cursorBase : Served o "cursor/cursor.py" (cursorModule plan) := by
  have himports : (cursorModule plan).imports =
      [("typing", ["ClassVar"]), ("..types", ["RawTreeCursor", "SyntaxNode", "SyntaxTree"])] := rfl
  rw [Served, himports, List.forall_mem_cons, List.forall_mem_singleton]
  exact ⟨absolute (by decide),
    fun _ => h.resolves_types hname (by decide) (by decide) (by decide)⟩

/-- The class of a concrete node is imported from the module of the node. -/
theorem resolves_class {n : ConcreteNode} (hn : n ∈ plan.concrete)
    (hs : resolve? path source = some ["nodes", n.title.names.module])
    (hpath : path.toList.take 6 ≠ "nodes/".toList) :
    o.Resolves path (source, [n.title.names.className]) := by
  have hworded := h.worded.concrete n hn
  refine h.resolves hname (h.leads_node (planned_concrete hn) hworded.title.module_word.toIsName
    (hworded.title.module_ne_anonymous hworded.named)) hs (ne_nodePath hpath _).1.symm ?_
  rw [binds_ownModule]
  simp

/-- The cursor classes get the classes of the nodes that they wrap. -/
theorem served_conditionals : Served o "cursor/conditionals.py" (conditionalsModule plan) := by
  have hdirectory : directory "cursor/conditionals.py" = ["cursor"] := by decide
  rw [Served, imports_conditionalsModule, List.forall_mem_append, List.forall_mem_cons,
    List.forall_mem_cons, List.forall_mem_map, List.forall_mem_singleton]
  refine ⟨⟨absolute (by decide), absolute (by decide), fun n hn _ => ?_⟩, fun _ =>
    h.resolves_cursorBase hname (by decide) (by decide) (by decide)⟩
  have hmodule := (h.worded.concrete n hn).title.module_word.toIsName
  have hsource : relative? ("..nodes." ++ n.title.names.module) =
      some (1, ["nodes", n.title.names.module]) :=
    relative?_within (isName_ofList (by decide)) hmodule 1 (by simp)
  exact h.resolves_class hname hn (resolve?_eq hdirectory hsource le_rfl) (by decide)

theorem served_cursorBarrel : Served o "cursor/__init__.py" (cursorBarrel plan) := by
  rw [Served, imports_cursorBarrel, cursorImports, List.forall_mem_cons, List.forall_mem_cons,
    List.forall_mem_singleton]
  exact ⟨fun _ =>
      h.resolves hname h.leads_conditionals (by decide) (by decide) (cursorClasses_bound plan),
    fun _ => h.resolves_cursorBase hname (by decide) (by decide) (by decide),
    fun _ => h.resolves hname h.leads_maps (by decide) (by decide) (mapsExports_bound plan)⟩

theorem served_navigator : Served o "navigator.py" (navigatorModule plan) := by
  have herrors : ∀ name ∈ ["NavigationExpectationError"],
      name ∈ expectationErrors.flatMap Stmt.binds := by decide
  have hdirectory : directory "navigator.py" = [] := by decide
  rw [Served, imports_navigatorModule, List.forall_mem_append, List.forall_mem_append,
    List.forall_mem_cons, List.forall_mem_cons, List.forall_mem_cons, List.forall_mem_singleton,
    List.forall_mem_map, List.forall_mem_singleton]
  refine ⟨⟨⟨absolute (by decide), absolute (by decide), absolute (by decide), fun _ =>
    h.resolves hname h.leads_errors (by decide) (by decide) herrors⟩, fun n hn _ => ?_⟩, fun _ =>
    h.resolves_types hname (by decide) (by decide) (by decide)⟩
  have hmodule := (h.worded.concrete n hn).title.module_word.toIsName
  have hsource : relative? (".nodes." ++ n.title.names.module) =
      some (0, ["nodes", n.title.names.module]) :=
    relative?_within (isName_ofList (by decide)) hmodule 0 (by simp)
  exact h.resolves_class hname hn (resolve?_eq hdirectory hsource le_rfl) (by decide)

theorem resolves_rootImports : ∀ i ∈ rootImports plan, o.Resolves "__init__.py" i := by
  have herrors : ∀ name ∈ ["NavigationErrorContext", "NavigationExpectationError"],
      name ∈ expectationErrors.flatMap Stmt.binds := by decide
  have hutils : ∀ name ∈ ["find_child_by_type", "find_children_by_type", "node_text"],
      name ∈ nodeSearch.flatMap Stmt.binds := by decide
  simp only [rootImports, List.forall_mem_cons, List.not_mem_nil, false_implies, implies_true,
    and_true]
  refine ⟨h.resolves hname h.leads_tokens (by decide) (by decide) ?_,
    h.resolves hname h.leads_cursor (by decide) (by decide) ?_,
    h.resolves hname h.leads_errors (by decide) (by decide) herrors,
    h.resolves hname h.leads_navigator (by decide) (by decide) ?_,
    h.resolves hname h.leads_nodes (by decide) (by decide) titleExports_bound,
    h.resolves hname h.leads_anonymous (by decide) (by decide) titleExports_bound,
    h.resolves_types hname (by decide) (by decide) (by decide),
    h.resolves hname h.leads_utils (by decide) (by decide) hutils⟩
  · rw [binds_tokensModule]
    decide
  · have hclasses : "CURSOR_CLASSES" ∈
        sortTexts ("CURSOR_CLASSES" :: plan.concrete.map (·.title.cursorClass)) :=
      mem_sortOn.mpr List.mem_cons_self
    rw [binds_cursorBarrel]
    simp [cursorImports, mapsExports, hclasses]
  · rw [binds_navigatorModule]
    simp

/-- The root gets all that it passes on. -/
theorem served_root : Served o "__init__.py" (rootModule plan) := by
  rw [Served, imports_rootModule, List.forall_mem_cons, List.forall_mem_cons, List.forall_mem_cons]
  refine ⟨absolute (by decide), absolute (by decide), fun _ => ?_, fun i hi _ =>
    h.resolves_rootImports hname i (List.mem_filter.mp hi).1⟩
  have hfound : ∀ name ∈ ["cursor", "navigator", "nodes"], (o.module? [name]).isSome = true := by
    simp [h.leads_cursor.found, h.leads_navigator.found, h.leads_nodes.found]
  exact ⟨[], _, by decide, h.leads_root.found, fun name hm => .inr (hfound name hm)⟩

/-- So every module of a plan gets all that it imports. -/
theorem served_modules : ∀ p ∈ modules plan, Served o p.1 p.2 := by
  have htypes : Served o "types.py" (typesModule plan) :=
    served_of_absolute (treeTypes.filterMap Stmt.imported?) rfl (by decide)
  have herrors : Served o "errors.py" (errorsModule plan) :=
    served_of_absolute (expectationErrors.filterMap Stmt.imported?) rfl (by decide)
  have htokens : Served o "anonymous_nodes.py" (tokensModule plan) :=
    served_of_absolute [("typing", ["Final", "Literal", "Never", "TypeAlias", "TypeGuard"])] rfl
      (by decide)
  have hmaps : Served o "cursor/maps.py" (mapsModule plan) :=
    served_of_absolute [("collections.abc", ["Mapping"]), ("types", ["MappingProxyType"]),
      ("typing", ["Final"])] rfl (by decide)
  simp only [modules, nodeModules, cursorModules, List.forall_mem_append, List.forall_mem_map,
    List.forall_mem_cons, List.not_mem_nil, false_implies, implies_true, and_true]
  exact ⟨⟨⟨h.served_root hname, htypes, herrors, h.served_utils hname, htokens,
      h.served_navigator hname⟩,
    ⟨⟨fun n hn => h.served_concrete hname hn _, fun g hg => h.served_group hname hg⟩,
      fun t ht => h.served_token hname ht _⟩,
    h.served_nodesBarrel hname, h.served_anonymousBarrel hname⟩,
    h.served_cursorBarrel hname, h.served_conditionals hname, h.served_cursorBase hname, hmaps⟩

/-- What is read in the text of a module is supplied. -/
theorem supplies (hm : (path, m) ∈ modules plan) : o.Supplies path (readNames m.text) := by
  have hheading : ∀ i ∈ headingNames.imports, relative? i.1 = none := by decide
  rw [h.names_text hname hm, Module.names_eq]
  constructor
  · intro i hi
    rcases List.mem_append.mp hi with hi | hi
    · exact absolute (hheading i hi)
    · exact h.served_modules hname _ hm i (by simpa using hi)
  · intro name he
    have hexport : name ∈ m.exports := by simpa [Names.join, headingNames] using he
    exact List.mem_append_right _ (by simpa using bindsExports_modules plan _ hm name hexport)

/-- The module of a type defines the class of the type. -/
theorem definesClass {t : Titled} (hm : (path, ownModule plan.grammar t) ∈ modules plan) :
    DefinesClass (ownModule plan.grammar t).text t.names.className := by
  obtain ⟨hgrammar, hlegible⟩ := legible_modules h.worded _ hm
  have hfirst : "class " ++ t.names.className ++ "(_SyntaxNode, Protocol)" ++ ":" ∈
      (ownModule plan.grammar t).lines := by
    refine List.mem_append_right _ (List.mem_flatMap.mpr
      ⟨.define t.names.className (protocolSteps t), by simp [ownModule], ?_⟩)
    rw [← lineAt_zero (_ ++ ":")]
    exact List.mem_cons_self
  rw [DefinesClass, fullLines_text (unbroken_lines (hgrammar ▸ hname) hlegible)]
  refine ⟨_, List.mem_filter.mpr ⟨List.mem_map.mpr ⟨_, hfirst, rfl⟩, by simp⟩, ?_⟩
  exact ⟨"_SyntaxNode, Protocol):".toList, by simp⟩

/-- A group has the class of each of its members from the module that defines the class. -/
theorem group_imports {d : Descriptor} (hd : d ∈ b.catalogue.supertypes) :
    ∃ text, o.get? ("nodes/" ++ b.catalogue.moduleOf d.ref ++ ".py") = some (.text text) ∧
      ∀ r ∈ b.catalogue.expand d.ref, ∃ n target,
        (Registry.ofCatalogue b.catalogue).get? r = some n ∧
        ((if r.named then "." else ".anonymous.") ++ n.module, [n.className]) ∈
          (readNames text).imports ∧
        o.get? ((if r.named then "nodes/" else "nodes/anonymous/") ++ n.module ++ ".py") =
          some (.text target) ∧ DefinesClass target n.className := by
  obtain ⟨g, hg, hgathers⟩ := exists_right h.covers.groups hd
  have hmodule : nodePath g.title = "nodes/" ++ b.catalogue.moduleOf d.ref ++ ".py" := by
    rw [nodePath, Catalogue.moduleOf_eq hgathers.named]
  refine ⟨_, hmodule ▸ h.get?_eq (module_mem (planned_group hg)), fun r hr => ?_⟩
  rw [← hgathers.members.refs] at hr
  obtain ⟨t, ht, rfl⟩ := List.mem_map.mp hr
  have himport : ("." ++ t.module, [t.names.className]) ∈
      (readNames (groupModule plan.grammar g).text).imports := by
    rw [h.names_text hname (planned_group hg), Module.names_eq, imports_groupModule]
    refine List.mem_append_right _ (List.mem_append_left _ ?_)
    exact List.mem_cons_of_mem _ (List.mem_cons_of_mem _
      (List.mem_map.mpr ⟨t, mem_sortOn.mpr ht, rfl⟩))
  refine ⟨t.names, (ownModule plan.grammar t).text, h.worded.members g hg t ht, ?_⟩
  rcases h.member_planned hg ht with ⟨hnamed, n, hn, rfl⟩ | ⟨hnamed, htoken⟩
  · rw [Titled.module, hnamed] at himport
    rw [hnamed]
    exact ⟨himport, h.get?_eq (module_mem (planned_concrete hn)),
      h.definesClass hname (planned_concrete hn)⟩
  · rw [Titled.module, hnamed] at himport
    rw [hnamed]
    exact ⟨himport, h.get?_eq (module_mem (planned_token htoken)),
      h.definesClass hname (planned_token htoken)⟩

end Holds

/-- A generated SDK imports nothing that it lacks, in so far as the name of its grammar stands on one
line: in every source file the relative imports lead to files that bind what is imported, or to packages
with such modules, and whatever is exported is bound. The module of a supertype has the class of each
member from the module that defines it, among the named types or among the tokens. -/
theorem generate_imports_resolve {config : Option Json} (hname : Unbroken b.name)
    (h : generate b config = .ok o) :
    (∀ path text, ".py".toList <:+ path.toList → o.get? path = some (.text text) →
      o.Supplies path (readNames text)) ∧
    ∀ d ∈ b.catalogue.supertypes,
      ∃ text, o.get? ("nodes/" ++ b.catalogue.moduleOf d.ref ++ ".py") = some (.text text) ∧
        ∀ r ∈ b.catalogue.expand d.ref, ∃ n target,
          (Registry.ofCatalogue b.catalogue).get? r = some n ∧
          ((if r.named then "." else ".anonymous.") ++ n.module, [n.className]) ∈
            (readNames text).imports ∧
          o.get? ((if r.named then "nodes/" else "nodes/anonymous/") ++ n.module ++ ".py") =
            some (.text target) ∧ DefinesClass target n.className := by
  obtain ⟨plan, hholds, hgrammar⟩ := generate_holds h
  rw [← hgrammar] at hname
  constructor
  · intro path text hpath hget
    obtain ⟨m, hm, rfl⟩ := hholds.module_of_get? hpath hget
    exact hholds.supplies hname hm
  · exact fun d hd => hholds.group_imports hname hd

def literals : Built where
  grammar := ⟨"literals", [("start", .blank)], [], [], [], [], [], [], none, []⟩
  catalogue := {
    descriptors := [
      ⟨⟨"literal", true⟩, false, false, [], none, some [⟨"number", true⟩, ⟨"null", false⟩]⟩,
      ⟨⟨"number", true⟩, false, false, [], none, none⟩,
      ⟨⟨"null", false⟩, false, false, [], none, none⟩]
    nodup := by decide }
  grammarSource := ""
  nodeTypesSource := ""
  parser := none

theorem ofCatalogue_literals : (Registry.ofCatalogue literals.catalogue).names =
    [(⟨"literal", true⟩, ⟨"literal", "literal", "Literal", "LiteralNode", "is_literal_node"⟩),
      (⟨"number", true⟩, ⟨"number", "number", "Number", "NumberNode", "is_number_node"⟩),
      (⟨"null", false⟩, ⟨"null", "null", "Null", "NullToken", "is_null_token"⟩)] := by
  have hnamed : NodeRef.sorted (literals.catalogue.refs.filter NodeRef.named) =
      [⟨"literal", true⟩, ⟨"number", true⟩] := by cbv
  have htokens : NodeRef.sorted (literals.catalogue.refs.filter fun r => !r.named) =
      [⟨"null", false⟩] := by cbv
  rw [Registry.ofCatalogue, Space.assign, Space.assign, hnamed, htokens]
  decide +kernel

theorem generate_literals : ∃ o, generate literals none = .ok o := by
  have hapart : ¬literals.catalogue.SharesModule := Catalogue.not_sharesModule (by decide)
  have hstart : literals.grammar.startRule = .ok "start" := rfl
  obtain ⟨o, ho, _⟩ := generate_standard (by cbv) hstart hapart
  exact ⟨o, ho⟩

/-- The module of literals has the class of numbers from the module next to it and the class of the
null token from the package of tokens. -/
theorem generate_imports_resolve_literals : ∃ o text target, generate literals none = .ok o ∧
    o.get? "nodes/literal.py" = some (.text text) ∧
    o.Supplies "nodes/literal.py" (readNames text) ∧
    (".number", ["NumberNode"]) ∈ (readNames text).imports ∧
    (".anonymous.null", ["NullToken"]) ∈ (readNames text).imports ∧
    o.get? "nodes/anonymous/null.py" = some (.text target) ∧ DefinesClass target "NullToken" := by
  obtain ⟨o, ho⟩ := generate_literals
  have hname : Unbroken literals.name := (by decide : Unbroken "literals")
  obtain ⟨hsupplies, hgroups⟩ := generate_imports_resolve hname ho
  have hfound {r : NodeRef} {n : NodeNames}
      (hn : lookup r (Registry.ofCatalogue literals.catalogue).names = some n) :
      (Registry.ofCatalogue literals.catalogue).get? r = some n := hn
  rw [ofCatalogue_literals] at hfound
  have hexpand : literals.catalogue.expand ⟨"literal", true⟩ =
      [⟨"null", false⟩, ⟨"number", true⟩] := by cbv
  obtain ⟨text, hget, hmembers⟩ :=
    hgroups _ (Catalogue.mem_supertypes.mpr ⟨List.mem_cons_self, rfl⟩)
  rw [Catalogue.moduleOf_eq (hfound rfl)] at hget
  rw [hexpand, List.forall_mem_cons, List.forall_mem_singleton] at hmembers
  obtain ⟨⟨n, target, hn, himport, htarget, hclass⟩, ⟨k, _, hk, himport', _⟩⟩ := hmembers
  cases hn.symm.trans (hfound rfl)
  cases hk.symm.trans (hfound rfl)
  exact ⟨o, text, target, ho, hget, hsupplies _ _ (by decide) hget, himport', himport, htarget,
    hclass⟩

end Sdk

end TraversalSdk
