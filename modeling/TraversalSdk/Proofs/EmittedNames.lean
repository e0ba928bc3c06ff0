import Mathlib.Data.List.Basic
import TraversalSdk.Sdk.Generate

namespace TraversalSdk.Sdk
open Source

theorem flatMap_nothing {α β : Type} (l : List α) : l.flatMap (fun _ => ([] : List β)) = [] :=
  List.flatMap_eq_nil_iff.mpr fun _ _ => rfl

def BindsExports (m : Module) : Prop := ∀ name ∈ m.exports, name ∈ m.binds

theorem bindsExports_types (plan : Blueprint) : BindsExports (typesModule plan) :=
  (by decide : ∀ name ∈ treeTypes.flatMap Stmt.exported, name ∈ treeTypes.flatMap Stmt.binds)

theorem bindsExports_errors (plan : Blueprint) : BindsExports (errorsModule plan) :=
  (by decide : ∀ name ∈ expectationErrors.flatMap Stmt.exported,
    name ∈ expectationErrors.flatMap Stmt.binds)

theorem bindsExports_utils (plan : Blueprint) : BindsExports (utilsModule plan) :=
  (by decide : ∀ name ∈ nodeSearch.flatMap Stmt.exported, name ∈ nodeSearch.flatMap Stmt.binds)

theorem bindsExports_cursorBase (plan : Blueprint) : BindsExports (cursorModule plan) :=
  (by decide : ∀ name ∈ cursorBase.flatMap Stmt.exported, name ∈ cursorBase.flatMap Stmt.binds)

theorem binds_tokensModule (plan : Blueprint) : (tokensModule plan).binds =
    ["Final", "Literal", "Never", "TypeAlias", "TypeGuard"] ++
      TokenCategory.all.map TokenCategory.typeAlias ++
      TokenCategory.all.map TokenCategory.constant ++ ["ANONYMOUS_TYPES", "categorize"] ++
      TokenCategory.all.map TokenCategory.guard := rfl

theorem bindsExports_tokens (plan : Blueprint) : BindsExports (tokensModule plan) := by
  have hall : ∀ name ∈ TokenCategory.all.flatMap (fun k => [k.typeAlias, k.constant, k.guard]) ++
      ["ANONYMOUS_TYPES", "categorize"],
      name ∈ ["Final", "Literal", "Never", "TypeAlias", "TypeGuard"] ++
        TokenCategory.all.map TokenCategory.typeAlias ++
        TokenCategory.all.map TokenCategory.constant ++ ["ANONYMOUS_TYPES", "categorize"] ++
        TokenCategory.all.map TokenCategory.guard := by decide
  have hexports : (tokensModule plan).exports = tokenExports := List.append_nil _
  rw [BindsExports, hexports, binds_tokensModule]
  exact fun name hm => hall name (mem_sortOn.mp hm)

theorem binds_mapsModule (plan : Blueprint) : (mapsModule plan).binds =
    ["Mapping", "MappingProxyType", "Final"] ++ Direction.all.map Direction.constant ++
      ["TRANSITIONS", "SEQUENCES", "can_navigate"] := rfl

theorem mapsExports_bound (plan : Blueprint) :
    ∀ name ∈ mapsExports, name ∈ (mapsModule plan).binds := by
  rw [binds_mapsModule]
  decide

theorem bindsExports_maps (plan : Blueprint) : BindsExports (mapsModule plan) :=
  mapsExports_bound plan

theorem imports_ownModule (grammar : String) (t : Titled) : (ownModule grammar t).imports =
    [("typing", ["Final", "Literal", "Protocol", "TypeGuard"]),
      ((if t.ref.named then ".." else "...") ++ "types", ["SyntaxNode"])] := rfl

theorem binds_ownModule (grammar : String) (t : Titled) : (ownModule grammar t).binds =
    ["Final", "Literal", "Protocol", "TypeGuard", "_SyntaxNode", "TYPE", t.names.className,
      t.names.guard] := rfl

/-- The module of a type binds all that it exports. -/
theorem bindsExports_own (grammar : String) (t : Titled) : BindsExports (ownModule grammar t) := by
  have hexports : (ownModule grammar t).exports = ["TYPE", t.names.className, t.names.guard] := rfl
  rw [BindsExports, hexports, binds_ownModule]
  simp

/-- A group imports the classes and the guards of its members, each from the module of the member. -/
theorem imports_groupModule (grammar : String) (g : Group) : (groupModule grammar g).imports =
    ("typing", ["Final", "Never", "TypeAlias", "TypeGuard"]) :: ("..types", ["SyntaxNode"]) ::
      (sortOn Titled.module g.members).map fun t => ("." ++ t.module, [t.names.className]) := by
  simp [Module.imports, groupModule, exporting, Stmt.imported?, List.filterMap_cons,
    List.filterMap_map, Function.comp_def]

theorem binds_groupModule (grammar : String) (g : Group) : (groupModule grammar g).binds =
    ["Final", "Never", "TypeAlias", "TypeGuard", "_SyntaxNode"] ++
      (sortOn Titled.module g.members).map (·.names.className) ++
      ["TYPES", "_MEMBERS", g.title.names.className, g.title.names.guard] := by
  simp [Module.binds, groupModule, exporting, Stmt.binds, List.flatMap_map, ← List.map_eq_flatMap]

theorem bindsExports_group (grammar : String) (g : Group) :
    BindsExports (groupModule grammar g) := by
  have hexports : (groupModule grammar g).exports =
      ["TYPES", g.title.names.className, g.title.names.guard] := by
    simp [Module.exports, groupModule, exporting, Stmt.exported, List.flatMap_map]
  rw [BindsExports, hexports, binds_groupModule]
  simp

theorem imports_barrel (grammar summary : String) (titles : List Titled)
    (constants : List (String × List String)) : (barrel grammar summary titles constants).imports =
    ("typing", ["Final"]) :: (sortOn (·.names.module) titles).map fun t =>
      ("." ++ t.names.module, [t.names.className, t.names.guard]) := by
  simp [Module.imports, barrel, exporting, Stmt.imported?, List.filterMap_cons, List.filterMap_map,
    Function.comp_def]

theorem binds_barrel (grammar summary : String) (titles : List Titled)
    (constants : List (String × List String)) : (barrel grammar summary titles constants).binds =
    "Final" ::
      (sortOn (·.names.module) titles).flatMap (fun t => [t.names.className, t.names.guard]) ++
      constants.map Prod.fst := by
  simp [Module.binds, barrel, exporting, Stmt.binds, List.flatMap_map, ← List.map_eq_flatMap]

theorem title_bound {grammar summary : String} {titles : List Titled}
    {constants : List (String × List String)} {t : Titled} (ht : t ∈ titles) :
    t.names.className ∈ (barrel grammar summary titles constants).binds ∧
      t.names.guard ∈ (barrel grammar summary titles constants).binds := by
  have hpair : ∀ name ∈ [t.names.className, t.names.guard],
      name ∈ (barrel grammar summary titles constants).binds := by
    intro name hm
    rw [binds_barrel]
    exact List.mem_append_left _ (List.mem_cons_of_mem _
      (List.mem_flatMap.mpr ⟨t, mem_sortOn.mpr ht, hm⟩))
  exact ⟨hpair _ List.mem_cons_self, hpair _ (List.mem_cons_of_mem _ List.mem_cons_self)⟩

/-- A list of node types exports names that it imports. -/
theorem titleExports_bound {grammar summary : String} {titles : List Titled}
    {constants : List (String × List String)} :
    ∀ name ∈ titleExports titles, name ∈ (barrel grammar summary titles constants).binds := by
  intro name hm
  obtain ⟨t, ht, hm⟩ := List.mem_flatMap.mp (mem_sortOn.mp hm)
  rcases List.mem_pair.mp hm with rfl | rfl
  · exact (title_bound ht).1
  · exact (title_bound ht).2

theorem bindsExports_barrel (grammar summary : String) (titles : List Titled)
    (constants : List (String × List String)) :
    BindsExports (barrel grammar summary titles constants) := by
  have hexports : (barrel grammar summary titles constants).exports =
      sortTexts (titles.flatMap (fun t => [t.names.className, t.names.guard]) ++
        constants.map (·.1)) := by
    simp [Module.exports, barrel, exporting, Stmt.exported, List.flatMap_map, flatMap_nothing]
  intro name hm
  rw [hexports] at hm
  rcases List.mem_append.mp (mem_sortOn.mp hm) with hm | hm
  · exact titleExports_bound name (mem_sortOn.mpr hm)
  · rw [binds_barrel]
    exact List.mem_append_right _ hm

/-- The cursor classes import what they wrap and what they are made from. -/
theorem imports_conditionalsModule (plan : Blueprint) : (conditionalsModule plan).imports =
    ("types", ["MappingProxyType"]) :: ("typing", ["ClassVar", "Final"]) ::
      (plan.concrete.map fun n =>
        ("..nodes." ++ n.title.names.module, [n.title.names.className])) ++
      [(".cursor", ["AnonymousCursor", "TreeCursor", "wrap"])] := by
  simp [Module.imports, conditionalsModule, Stmt.imported?, List.filterMap_cons,
    List.filterMap_map, List.filterMap_flatMap, Function.comp_def]

theorem binds_conditionalsModule (plan : Blueprint) : (conditionalsModule plan).binds =
    ["MappingProxyType", "ClassVar", "Final"] ++
      (plan.concrete.map (·.title.names.className)) ++ ["AnonymousCursor", "TreeCursor", "wrap"] ++
      plan.concrete.map (·.title.cursorClass) ++ ["CURSOR_CLASSES"] := by
  simp [Module.binds, conditionalsModule, Stmt.binds, List.flatMap_map, List.flatMap_assoc,
    ← List.map_eq_flatMap]

theorem cursorClasses_bound (plan : Blueprint) :
    ∀ name ∈ sortTexts ("CURSOR_CLASSES" :: plan.concrete.map (·.title.cursorClass)),
      name ∈ (conditionalsModule plan).binds := by
  intro name hm
  rw [binds_conditionalsModule]
  rcases List.mem_cons.mp (mem_sortOn.mp hm) with rfl | hm
  · simp
  · exact List.mem_append_left _ (List.mem_append_right _ hm)

theorem bindsExports_conditionals (plan : Blueprint) : BindsExports (conditionalsModule plan) := by
  have hexports : (conditionalsModule plan).exports =
      sortTexts ("CURSOR_CLASSES" :: "wrap" :: plan.concrete.map (·.title.cursorClass)) := by
    simp [Module.exports, conditionalsModule, Stmt.exported, List.flatMap_map, List.flatMap_assoc,
      flatMap_nothing]
  intro name hm
  rw [hexports] at hm
  rcases List.mem_cons.mp (mem_sortOn.mp hm) with rfl | hm
  · exact cursorClasses_bound plan _ (mem_sortOn.mpr List.mem_cons_self)
  · rcases List.mem_cons.mp hm with rfl | hm
    · rw [binds_conditionalsModule]
      simp
    · exact cursorClasses_bound plan _ (mem_sortOn.mpr (List.mem_cons_of_mem _ hm))

theorem imports_cursorBarrel (plan : Blueprint) :
    (cursorBarrel plan).imports = cursorImports plan := by
  simp [Module.imports, cursorBarrel, exporting, Stmt.imported?, List.filterMap_cons,
    List.filterMap_map, Function.comp_def]

theorem binds_cursorBarrel (plan : Blueprint) :
    (cursorBarrel plan).binds = (cursorImports plan).flatMap Prod.snd := by
  simp [Module.binds, cursorBarrel, exporting, Stmt.binds, List.flatMap_map]

theorem bindsExports_cursorBarrel (plan : Blueprint) : BindsExports (cursorBarrel plan) := by
  have hexports : (cursorBarrel plan).exports =
      sortTexts ((cursorImports plan).flatMap Prod.snd) := by
    simp [Module.exports, cursorBarrel, exporting, Stmt.exported, List.flatMap_map, flatMap_nothing]
  intro name hm
  rw [hexports] at hm
  rw [binds_cursorBarrel]
  exact mem_sortOn.mp hm

theorem imports_navigatorModule (plan : Blueprint) : (navigatorModule plan).imports =
    [("collections.abc", ["Mapping", "Sequence"]), ("types", ["MappingProxyType"]),
      ("typing", ["Any", "ClassVar", "Final", "Generic", "TypeVar"]),
      (".errors", ["NavigationExpectationError"])] ++
      (plan.concrete.map fun n => (".nodes." ++ n.title.names.module, [n.title.names.className])) ++
      [(".types", ["SyntaxNode", "SyntaxTree"])] := by
  have hbase : (navigatorBase ++ navigatorWrap).filterMap Stmt.imported? = [] := rfl
  rw [List.filterMap_append, List.append_eq_nil_iff] at hbase
  simp [Module.imports, navigatorModule, Stmt.imported?, List.filterMap_cons, List.filterMap_map,
    List.filterMap_flatMap, Function.comp_def, hbase]

theorem binds_navigatorModule (plan : Blueprint) : (navigatorModule plan).binds =
    ["Mapping", "Sequence", "MappingProxyType", "Any", "ClassVar", "Final", "Generic", "TypeVar",
      "NavigationExpectationError"] ++ plan.concrete.map (·.title.names.className) ++
      ["SyntaxNode", "SyntaxTree", "N", "Navigator"] ++
      plan.concrete.map (·.title.navigatorClass) ++ ["NAVIGATORS", "ROOT_TYPE", "wrap", "create"] := by
  have hbase : navigatorBase.flatMap Stmt.binds = ["N", "Navigator"] := rfl
  have hwrap : navigatorWrap.flatMap Stmt.binds = ["wrap"] := rfl
  simp [Module.binds, navigatorModule, Stmt.binds, List.flatMap_map, List.flatMap_assoc,
    ← List.map_eq_flatMap, hbase, hwrap]

theorem bindsExports_navigator (plan : Blueprint) : BindsExports (navigatorModule plan) := by
  have hbase : navigatorBase.flatMap Stmt.exported = [] := rfl
  have hwrap : navigatorWrap.flatMap Stmt.exported = [] := rfl
  have hexports : (navigatorModule plan).exports =
      ["NAVIGATORS", "Navigator", "ROOT_TYPE", "create", "wrap"] ++
        sortTexts (plan.concrete.map (·.title.navigatorClass)) := by
    simp [Module.exports, navigatorModule, Stmt.exported, List.flatMap_map, List.flatMap_assoc,
      flatMap_nothing, hbase, hwrap]
  rw [BindsExports, hexports, binds_navigatorModule, List.forall_mem_append]
  refine ⟨by simp, fun name hm => ?_⟩
  exact List.mem_append_left _ (List.mem_append_right _ (mem_sortOn.mp hm))

theorem imports_rootModule (plan : Blueprint) : (rootModule plan).imports =
    ("pathlib", ["Path"]) :: ("typing", ["Final"]) :: (".", ["cursor", "navigator", "nodes"]) ::
      (rootImports plan).filter fun i => !i.2.isEmpty := by
  simp [Module.imports, rootModule, Stmt.imported?, List.filterMap_cons, List.filterMap_map,
    List.filterMap_flatMap, Function.comp_def, flatMap_nothing]

/-- The root binds what it passes on and the modules of the package. -/
theorem binds_rootModule (plan : Blueprint) : (rootModule plan).binds =
    (rootAlias? plan).toList.map (fun _ => "sys") ++
      ["Path", "Final", "cursor", "navigator", "nodes"] ++
      ((rootImports plan).filter fun i => !i.2.isEmpty).flatMap Prod.snd ++
      ["NAMESPACE", "GRAMMAR_NAME", "ARTIFACTS_DIR"] ++ (rootAlias? plan).toList := by
  simp [Module.binds, rootModule, Stmt.binds, List.flatMap_map, List.flatMap_assoc,
    ← List.map_eq_flatMap]

theorem bindsExports_root (plan : Blueprint) : BindsExports (rootModule plan) := by
  have hexports : (rootModule plan).exports =
      sortTexts (rootNames plan ++ (rootAlias? plan).toList) := by
    simp [Module.exports, rootModule, Stmt.exported, List.flatMap_map, List.flatMap_assoc,
      flatMap_nothing]
  have hfixed : ∀ name ∈ ["ARTIFACTS_DIR", "GRAMMAR_NAME", "NAMESPACE", "cursor", "navigator",
      "nodes"], name ∈ ["cursor", "navigator", "nodes"] ∨
        name ∈ ["NAMESPACE", "GRAMMAR_NAME", "ARTIFACTS_DIR"] := by decide
  intro name hm
  rw [hexports] at hm
  rw [binds_rootModule]
  simp only [List.mem_append]
  rcases List.mem_append.mp (mem_sortOn.mp hm) with hm | hm
  · rcases List.mem_append.mp hm with hm | hm
    · rcases hfixed name hm with hm | hm
      · exact .inl (.inl (.inl (.inr (List.mem_cons_of_mem _ (List.mem_cons_of_mem _ hm)))))
      · exact .inl (.inr hm)
    · obtain ⟨i, hi, hm⟩ := List.mem_flatMap.mp hm
      have hne : (!i.2.isEmpty) = true := by simpa using List.ne_nil_of_mem hm
      exact .inl (.inl (.inr (List.mem_flatMap.mpr ⟨i, List.mem_filter.mpr ⟨hi, hne⟩, hm⟩)))
  · exact .inr hm

/-- Every module of a plan binds what it exports. -/
theorem bindsExports_modules (plan : Blueprint) : ∀ p ∈ modules plan, BindsExports p.2 := by
  simp only [modules, nodeModules, cursorModules, List.forall_mem_append, List.forall_mem_map,
    List.forall_mem_cons, List.not_mem_nil, false_implies, implies_true, and_true]
  exact ⟨⟨⟨bindsExports_root plan, bindsExports_types plan, bindsExports_errors plan,
    bindsExports_utils plan, bindsExports_tokens plan, bindsExports_navigator plan⟩,
    ⟨⟨fun _ _ => bindsExports_own _ _, fun _ _ => bindsExports_group _ _⟩,
      fun _ _ => bindsExports_own _ _⟩,
    bindsExports_barrel _ _ _ _, bindsExports_barrel _ _ _ _⟩,
    bindsExports_cursorBarrel plan, bindsExports_conditionals plan, bindsExports_cursorBase plan,
    bindsExports_maps plan⟩

end TraversalSdk.Sdk
