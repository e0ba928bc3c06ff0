import TraversalSdk.Proofs.EmittedNames
import TraversalSdk.Proofs.ImportedModules

namespace TraversalSdk.Sdk
open Source Text Naming

variable {b : Built} {plan : Blueprint} {o : Output} {path : String} {m : Module}

/-- A module of a plan that is found by its names. Each name leads to one module, but that a token which
groups others may be called like the package of tokens, and then the package is found. -/
structure Leads (plan : Blueprint) (o : Output) (names : List String) (path : String) (m : Module) :
    Prop where
  planned : (path, m) ∈ modules plan
  found : o.module? names = some (path, m.text)

theorem planned_own {p : String × Module}
    (hp : p ∈ [("__init__.py", rootModule plan), ("types.py", typesModule plan),
      ("errors.py", errorsModule plan), ("utils.py", utilsModule plan),
      ("anonymous_nodes.py", tokensModule plan), ("navigator.py", navigatorModule plan)]) :
    p ∈ modules plan :=
  List.mem_append_left _ (List.mem_append_left _ hp)

theorem planned_cursor {p : String × Module} (hp : p ∈ cursorModules plan) : p ∈ modules plan :=
  List.mem_append_right _ hp

theorem planned_node {p : String × Module} (hp : p ∈ nodeModules plan) : p ∈ modules plan :=
  List.mem_append_left _ (List.mem_append_right _ hp)

/-- Every concrete type has its module. -/
theorem planned_concrete {n : ConcreteNode} (hn : n ∈ plan.concrete) :
    (nodePath n.title, ownModule plan.grammar n.title) ∈ modules plan :=
  planned_node (List.mem_append_left _ (List.mem_append_left _ (List.mem_append_left _
    (List.mem_map.mpr ⟨n, hn, rfl⟩))))

/-- Every supertype has its module. -/
theorem planned_group {g : Group} (hg : g ∈ plan.groups) :
    (nodePath g.title, groupModule plan.grammar g) ∈ modules plan :=
  planned_node (List.mem_append_left _ (List.mem_append_left _ (List.mem_append_right _
    (List.mem_map.mpr ⟨g, hg, rfl⟩))))

/-- Every token has its module. -/
theorem planned_token {t : Titled} (ht : t ∈ plan.tokens) :
    (tokenPath t, ownModule plan.grammar t) ∈ modules plan :=
  planned_node (List.mem_append_left _ (List.mem_append_right _ (List.mem_map.mpr ⟨t, ht, rfl⟩)))

theorem planned_barrel {p : String × Module} (hp : p ∈ [("nodes/__init__.py", nodesBarrel plan),
    ("nodes/anonymous/__init__.py", anonymousBarrel plan)]) : p ∈ modules plan :=
  planned_node (List.mem_append_right _ hp)

namespace Holds

variable (h : Holds b plan o)

include h

/-- A package is there if its first module is planned. -/
theorem package_isSome {names : List String} (hpath : packagePath names = path)
    (hm : (path, m) ∈ modules plan) : (o.text? (packagePath names)).isSome = true := by
  rw [hpath, h.text?_module hm]
  rfl

theorem root_isSome : (o.text? (packagePath [])).isSome = true :=
  h.package_isSome (by decide : _ = "__init__.py") (planned_own List.mem_cons_self)

theorem nodes_isSome : (o.text? (packagePath ["nodes"])).isSome = true :=
  h.package_isSome (by decide : _ = "nodes/__init__.py") (planned_barrel List.mem_cons_self)

theorem anonymous_isSome : (o.text? (packagePath ["nodes", "anonymous"])).isSome = true :=
  h.package_isSome (by decide : _ = "nodes/anonymous/__init__.py")
    (planned_barrel (List.mem_cons_of_mem _ List.mem_cons_self))

theorem cursor_isSome : (o.text? (packagePath ["cursor"])).isSome = true :=
  h.package_isSome (by decide : _ = "cursor/__init__.py") (planned_cursor List.mem_cons_self)

/-- The packages around a module next to the barrel of all nodes. -/
theorem around_nodes (name : String) :
    ∀ k < ["nodes", name].length, (o.text? (packagePath (["nodes", name].take k))).isSome = true
  | 0, _ => h.root_isSome
  | 1, _ => h.nodes_isSome

theorem around_tokens (name : String) : ∀ k < ["nodes", "anonymous", name].length,
    (o.text? (packagePath (["nodes", "anonymous", name].take k))).isSome = true
  | 0, _ => h.root_isSome
  | 1, _ => h.nodes_isSome
  | 2, _ => h.anonymous_isSome

theorem around_cursors (name : String) :
    ∀ k < ["cursor", name].length, (o.text? (packagePath (["cursor", name].take k))).isSome = true
  | 0, _ => h.root_isSome
  | 1, _ => h.cursor_isSome

theorem around_own (name : String) :
    ∀ k < [name].length, (o.text? (packagePath ([name].take k))).isSome = true
  | 0, _ => h.root_isSome

/-- The names of a package lead to its first module. -/
theorem leads_package {names : List String} (hpath : packagePath names = path)
    (haround : ∀ k < names.length, (o.text? (packagePath (names.take k))).isSome = true)
    (hm : (path, m) ∈ modules plan) : Leads plan o names path m := by
  subst hpath
  exact ⟨hm, h.package_found haround hm⟩

/-- The names of a module lead to it if no package has its name. -/
theorem leads_module {names : List String} (hpath : modulePath names = path)
    (haround : ∀ k < names.length, (o.text? (packagePath (names.take k))).isSome = true)
    (hno : packagePath names ∉ plannedPaths b) (hm : (path, m) ∈ modules plan) :
    Leads plan o names path m := by
  subst hpath
  exact ⟨hm, h.module_found haround hno hm⟩

theorem leads_root : Leads plan o [] "__init__.py" (rootModule plan) :=
  h.leads_package (by decide) (by simp) (planned_own List.mem_cons_self)

theorem leads_nodes : Leads plan o ["nodes"] "nodes/__init__.py" (nodesBarrel plan) :=
  h.leads_package (by decide) (h.around_own _) (planned_barrel List.mem_cons_self)

theorem leads_anonymous :
    Leads plan o ["nodes", "anonymous"] "nodes/anonymous/__init__.py" (anonymousBarrel plan) :=
  h.leads_package (by decide) (h.around_nodes _)
    (planned_barrel (List.mem_cons_of_mem _ List.mem_cons_self))

theorem leads_cursor : Leads plan o ["cursor"] "cursor/__init__.py" (cursorBarrel plan) :=
  h.leads_package (by decide) (h.around_own _) (planned_cursor List.mem_cons_self)

theorem leads_own {name : String} (hpath : modulePath [name] = path)
    (hnodes : (packagePath [name]).toList.take 6 ≠ "nodes/".toList)
    (hfixed : packagePath [name] ∉ fixedPaths) (hm : (path, m) ∈ modules plan) :
    Leads plan o [name] path m :=
  h.leads_module hpath (h.around_own _) (not_planned_of_fixed hnodes hfixed) hm

theorem leads_cursors {name : String} (hpath : modulePath ["cursor", name] = path)
    (hnodes : (packagePath ["cursor", name]).toList.take 6 ≠ "nodes/".toList)
    (hfixed : packagePath ["cursor", name] ∉ fixedPaths) (hm : (path, m) ∈ modules plan) :
    Leads plan o ["cursor", name] path m :=
  h.leads_module hpath (h.around_cursors _) (not_planned_of_fixed hnodes hfixed) hm

theorem leads_types : Leads plan o ["types"] "types.py" (typesModule plan) :=
  h.leads_own (by decide) (by decide) (by decide) (planned_own (.tail _ (.head _)))

theorem leads_cursorBase :
    Leads plan o ["cursor", "cursor"] "cursor/cursor.py" (cursorModule plan) :=
  h.leads_cursors (by decide) (by decide) (by decide)
    (planned_cursor (.tail _ (.tail _ (.head _))))

theorem leads_conditionals : Leads plan o ["cursor", "conditionals"] "cursor/conditionals.py"
    (conditionalsModule plan) :=
  h.leads_cursors (by decide) (by decide) (by decide) (planned_cursor (.tail _ (.head _)))

theorem leads_maps : Leads plan o ["cursor", "maps"] "cursor/maps.py" (mapsModule plan) :=
  h.leads_cursors (by decide) (by decide) (by decide)
    (planned_cursor (.tail _ (.tail _ (.tail _ (.head _)))))

theorem leads_errors : Leads plan o ["errors"] "errors.py" (errorsModule plan) :=
  h.leads_own (by decide) (by decide) (by decide) (planned_own (.tail _ (.tail _ (.head _))))

theorem leads_utils : Leads plan o ["utils"] "utils.py" (utilsModule plan) :=
  h.leads_own (by decide) (by decide) (by decide)
    (planned_own (.tail _ (.tail _ (.tail _ (.head _)))))

theorem leads_tokens : Leads plan o ["anonymous_nodes"] "anonymous_nodes.py" (tokensModule plan) :=
  h.leads_own (by decide) (by decide) (by decide)
    (planned_own (.tail _ (.tail _ (.tail _ (.tail _ (.head _))))))

theorem leads_navigator : Leads plan o ["navigator"] "navigator.py" (navigatorModule plan) :=
  h.leads_own (by decide) (by decide) (by decide)
    (planned_own (.tail _ (.tail _ (.tail _ (.tail _ (.tail _ (.head _)))))))

/-- A node type is found by the name of its module, unless this is the name of the package of tokens. -/
theorem leads_node {t : Titled} (hm : (nodePath t, m) ∈ modules plan) (hn : IsName t.names.module)
    (hne : t.names.module ≠ "anonymous") :
    Leads plan o ["nodes", t.names.module] (nodePath t) m :=
  h.leads_module (modulePath_nodes _) (h.around_nodes _) (package_not_planned hn hne) hm

/-- A token is found in the package of tokens. -/
theorem leads_token {t : Titled} (ht : t ∈ plan.tokens) :
    Leads plan o ["nodes", "anonymous", t.names.module] (tokenPath t) (ownModule plan.grammar t) :=
  h.leads_module (modulePath_anonymous _) (h.around_tokens _)
    (anonymousPackage_not_planned (h.worded.tokens t ht).module_word.toIsName) (planned_token ht)

end Holds

/-- A file that is no file of a node type stands elsewhere. -/
theorem ne_nodePath {s : String} (hs : s.toList.take 6 ≠ "nodes/".toList) (t : Titled) :
    s ≠ nodePath t ∧ s ≠ tokenPath t := by
  constructor <;> rintro rfl <;> exact hs (by simp [nodePath, tokenPath])

namespace Holds

variable (h : Holds b plan o)

include h

/-- A path has one module. -/
theorem module_unique {m' : Module} (hm : (path, m) ∈ modules plan)
    (hm' : (path, m') ∈ modules plan) : m = m' := by
  have hpaths : ((modules plan).map Prod.fst).Nodup := by
    have hsub : ((modules plan).map Prod.fst).Sublist
        ((Sdk.artifacts b plan).map Artifact.path) := by
      rw [Sdk.artifacts, List.map_append, List.map_cons, List.map_map]
      exact ((List.Sublist.refl _).cons _).trans (List.sublist_append_left _ _)
    exact h.nodup.sublist hsub
  exact Option.some.inj ((lookup_of_mem hpaths hm).symm.trans (lookup_of_mem hpaths hm'))

/-- A type of the plan is known by its reference. -/
theorem concrete_of_ref {t : Titled} (ht : t.IsNamed b.catalogue)
    (hr : t.ref ∈ b.catalogue.concrete.map Descriptor.ref) : ∃ n ∈ plan.concrete, n.title = t := by
  rw [← h.covers.concrete.refs, List.map_map] at hr
  obtain ⟨n, hn, href⟩ := List.mem_map.mp hr
  exact ⟨n, hn, Titled.IsNamed.eq_of_ref (h.worded.concrete n hn).title ht href⟩

theorem token_of_ref {t : Titled} (ht : t.IsNamed b.catalogue)
    (hr : t.ref ∈ b.catalogue.anonymous.map Descriptor.ref) : t ∈ plan.tokens := by
  rw [← h.covers.tokens.refs] at hr
  obtain ⟨u, hu, href⟩ := List.mem_map.mp hr
  rwa [← Titled.IsNamed.eq_of_ref (h.worded.tokens u hu) ht href]

theorem named_of_mem_tokens {t : Titled} (ht : t ∈ plan.tokens) : t.ref.named = false := by
  have href : t.ref ∈ b.catalogue.anonymous.map Descriptor.ref := by
    rw [← h.covers.tokens.refs]
    exact List.mem_map.mpr ⟨t, ht, rfl⟩
  obtain ⟨d, hd, he⟩ := List.mem_map.mp href
  rw [← he]
  exact (Catalogue.mem_anonymous.mp hd).2

/-- A member of a group is a concrete node or a token. -/
theorem member_planned {g : Group} (hg : g ∈ plan.groups) {t : Titled} (ht : t ∈ g.members) :
    (t.ref.named = true ∧ ∃ n ∈ plan.concrete, n.title = t) ∨
      (t.ref.named = false ∧ t ∈ plan.tokens) := by
  have hnamed := h.worded.members g hg t ht
  obtain ⟨d, hd, hgathers⟩ := exists_left h.covers.groups hg
  have hstands : b.catalogue.Stands t.ref := by
    refine Catalogue.expand_stands h.closed (Catalogue.mem_refs.mpr ⟨d, ?_, rfl⟩) t.ref ?_
    · exact (Catalogue.mem_supertypes.mp hd).1
    · rw [← hgathers.members.refs]
      exact List.mem_map.mpr ⟨t, ht, rfl⟩
  obtain ⟨e, he, href⟩ := Catalogue.mem_refs.mp hstands.1
  have hplain := hstands.2
  rw [← href, Catalogue.isSupertype_ref he] at hplain
  rw [← href]
  cases hr : e.ref.named with
  | true =>
    refine .inl ⟨rfl, h.concrete_of_ref hnamed (href ▸ List.mem_map.mpr ⟨e, ?_, rfl⟩)⟩
    exact Catalogue.mem_concrete.mpr ⟨he, by simp [Descriptor.isConcrete, hr, hplain]⟩
  | false =>
    refine .inr ⟨rfl, h.token_of_ref hnamed (href ▸ List.mem_map.mpr ⟨e, ?_, rfl⟩)⟩
    exact Catalogue.mem_anonymous.mpr ⟨he, hr⟩

/-- The module of a type has a path of its own. -/
theorem own_path_ne {t : Titled} {target : String}
    (ht : (target, ownModule plan.grammar t) ∈ modules plan) (hm : (path, m) ∈ modules plan)
    (hfirst : m.imports.head? ≠ some ("typing", ["Final", "Literal", "Protocol", "TypeGuard"])) :
    target ≠ path := by
  rintro rfl
  rw [← h.module_unique ht hm] at hfirst
  exact hfirst rfl

theorem listed_named : ∀ t ∈ plan.concrete.map ConcreteNode.title ++ plan.groups.map Group.title,
    t.IsNamed b.catalogue := by
  rw [List.forall_mem_append, List.forall_mem_map, List.forall_mem_map]
  exact ⟨fun n hn => (h.worded.concrete n hn).title, h.worded.groups⟩

/-- A type with a module next to the barrel of all nodes. A token that groups others may have the name
of the package of tokens, and then the package is found first; it has the names of all tokens. -/
theorem listed_leads {t : Titled}
    (ht : t ∈ plan.concrete.map ConcreteNode.title ++ plan.groups.map Group.title) :
    ∃ target m, Leads plan o ["nodes", t.names.module] target m ∧ target ≠ "nodes/__init__.py" ∧
      t.names.className ∈ m.binds ∧ t.names.guard ∈ m.binds := by
  have hbarrel := h.leads_nodes.planned
  rcases List.mem_append.mp ht with ht | ht
  · obtain ⟨n, hn, rfl⟩ := List.mem_map.mp ht
    have hworded := h.worded.concrete n hn
    have hplanned := planned_concrete hn
    refine ⟨_, _, h.leads_node hplanned hworded.title.module_word.toIsName
      (hworded.title.module_ne_anonymous hworded.named), h.own_path_ne hplanned hbarrel ?_, ?_⟩
    · rw [nodesBarrel, imports_barrel]
      simp
    · rw [binds_ownModule]
      simp
  · obtain ⟨g, hg, rfl⟩ := List.mem_map.mp ht
    have hplanned := planned_group hg
    have hnamed := h.worded.groups g hg
    by_cases hmodule : g.title.names.module = "anonymous"
    · have htoken : g.title ∈ plan.tokens := by
        obtain ⟨d, hd, hgathers⟩ := exists_left h.covers.groups hg
        refine h.token_of_ref hnamed (List.mem_map.mpr ⟨d, ?_, hgathers.ref.symm⟩)
        refine Catalogue.mem_anonymous.mpr ⟨(Catalogue.mem_supertypes.mp hd).1, ?_⟩
        rw [← hgathers.ref]
        cases hr : g.title.ref.named with
        | true => exact absurd hmodule (hnamed.module_ne_anonymous hr)
        | false => rfl
      rw [hmodule]
      exact ⟨_, _, h.leads_anonymous, by decide, title_bound htoken⟩
    · refine ⟨_, _, h.leads_node hplanned hnamed.module_word.toIsName hmodule, ?_, ?_⟩
      · intro hpath
        have hsame := congrArg (·.imports.head?) (h.module_unique (hpath ▸ hplanned) hbarrel)
        simp [imports_groupModule, nodesBarrel, imports_barrel] at hsame
      · rw [binds_groupModule]
        simp

end Holds

end TraversalSdk.Sdk
