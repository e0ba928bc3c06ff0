import TraversalSdk.Proofs.LegibleModules

namespace TraversalSdk

namespace Source
open Text

def directory (path : String) : List String :=
  ((pieces '/' path.toList).map String.ofList).dropLast

/-- How many packages a relative import goes up, and the names that it goes down. A leading dot stands for the
package of the importing file, each further one for the package around it. -/
def relative? (source : String) : Option (Nat × List String) :=
  match source.toList.takeWhile (· == '.'), source.toList.dropWhile (· == '.') with
  | [], _ => none
  | _ :: dots, [] => some (dots.length, [])
  | _ :: dots, rest => some (dots.length, (pieces '.' rest).map String.ofList)

/-- The names, from the root of the SDK, that a relative import in a file leads to. -/
def resolve? (path source : String) : Option (List String) :=
  (relative? source).bind fun p =>
    let packages := directory path
    if p.1 ≤ packages.length then some (packages.take (packages.length - p.1) ++ p.2) else none

def packagePath (names : List String) : String := "/".intercalate (names ++ ["__init__.py"])

def modulePath (names : List String) : String := "/".intercalate names ++ ".py"

end Source

open Source

namespace Output

variable (o : Output)

def text? (path : String) : Option String :=
  (o.get? path).bind fun
    | .text s => some s
    | .binary _ => none

/-- The file that names lead to, with its text. A package comes before a module of the same name, and the
packages on the way have to exist. -/
def module? (names : List String) : Option (String × String) :=
  if (List.range names.length).all fun k => (o.text? (packagePath (names.take k))).isSome then
    match o.text? (packagePath names) with
    | some text => some (packagePath names, text)
    | none => (o.text? (modulePath names)).map (Prod.mk (modulePath names))
  else none

/-- A relative import of a file leads to another file of the SDK that binds the imported names, or to a
package with submodules of these names. -/
def Resolves (path : String) (i : String × List String) : Prop :=
  ∃ names target, resolve? path i.1 = some names ∧ o.module? names = some target ∧
    ∀ name ∈ i.2, target.1 ≠ path ∧ name ∈ (readNames target.2).binds ∨
      (o.module? (names ++ [name])).isSome = true

end Output

namespace Source
open Text Naming

/-- The dots of an import are counted, and its words are the names behind them. -/
theorem relative?_eq {source : String} {k : Nat} {rest : List Char}
    (h : source.toList = List.replicate (k + 1) '.' ++ rest) (hrest : ∃ c cs, rest = c :: cs ∧ c ≠ '.') :
    relative? source = some (k, (pieces '.' rest).map String.ofList) := by
  obtain ⟨c, cs, rfl, hc⟩ := hrest
  have hdots : ∀ d ∈ List.replicate (k + 1) '.', (d == '.') = true := by
    intro d hd
    rw [(List.mem_replicate.mp hd).2]
    rfl
  have hstop : (c == '.') = false := beq_false_of_ne hc
  have htake : (List.replicate (k + 1) '.' ++ c :: cs).takeWhile (· == '.') =
      List.replicate (k + 1) '.' := by
    rw [List.takeWhile_append_of_pos hdots, List.takeWhile_cons, hstop]
    simp
  have hdrop : (List.replicate (k + 1) '.' ++ c :: cs).dropWhile (· == '.') = c :: cs := by
    rw [List.dropWhile_append_of_pos hdots, List.dropWhile_cons, hstop]
    simp
  rw [relative?, h, htake, hdrop, List.replicate_succ]
  simp

theorem IsName.head {name : String} (h : IsName name) :
    ∃ c cs, name.toList = c :: cs ∧ c ≠ '.' := by
  cases hs : name.toList with
  | nil => exact absurd (String.toList_eq_nil_iff.mp hs) h.ne
  | cons c cs =>
    refine ⟨c, cs, rfl, ?_⟩
    rintro rfl
    have hdot : '.' ∉ name.toList := h.free (by decide)
    exact hdot (by rw [hs]; exact List.mem_cons_self)

theorem pieces_name {name : String} (h : IsName name) {separator : Char}
    (hs : isNameChar separator = false) : pieces separator name.toList = [name.toList] :=
  pieces_unbroken (h.free hs)

/-- A module next to the importing file. -/
theorem relative?_beside {name : String} (h : IsName name) :
    relative? ("." ++ name) = some (0, [name]) := by
  rw [relative?_eq (by simp : _ = List.replicate (0 + 1) '.' ++ name.toList) h.head,
    pieces_name h (by decide)]
  simp

/-- A module in a package next to the importing file or around it. -/
theorem relative?_within {package name : String} (hp : IsName package) (h : IsName name) (k : Nat)
    {source : String}
    (hs : source.toList = List.replicate (k + 1) '.' ++ (package.toList ++ '.' :: name.toList)) :
    relative? source = some (k, [package, name]) := by
  obtain ⟨c, cs, hc, hdot⟩ := hp.head
  rw [relative?_eq hs ⟨c, _, by rw [hc, List.cons_append], hdot⟩, pieces_append,
    pieces_name hp (by decide), pieces_name h (by decide)]
  simp

theorem pieces_within {package rest : String} (h : '/' ∉ package.toList) :
    pieces '/' (package ++ "/" ++ rest).toList = package.toList :: pieces '/' rest.toList := by
  have hpath : (package ++ "/" ++ rest).toList = package.toList ++ '/' :: rest.toList := by simp
  rw [hpath, pieces_append, pieces_unbroken h]
  rfl

/-- The directory of a path within a package is that package and the rest of the directory. -/
theorem directory_within {package path : String} (h : '/' ∉ package.toList) :
    directory (package ++ "/" ++ path) = package :: directory path := by
  rw [directory, pieces_within h, List.map_cons, String.ofList_toList, List.dropLast_cons_of_ne_nil, ← directory]
  exact List.map_eq_nil_iff.not.mpr (pieces_ne_nil '/' path.toList)

theorem directory_module {name : String} (h : IsName name) : directory (name ++ ".py") = [] := by
  have hfile : '/' ∉ (name ++ ".py").toList := by
    rw [String.toList_append, List.mem_append, not_or]
    exact ⟨h.free (by decide), by decide⟩
  rw [directory, pieces_unbroken hfile]
  rfl

theorem directory_nodes {name : String} (h : IsName name) : directory ("nodes/" ++ name ++ ".py") = ["nodes"] := by
  have hpath : "nodes/" ++ name ++ ".py" = "nodes" ++ "/" ++ (name ++ ".py") := by
    rw [← String.toList_inj]
    simp
  rw [hpath, directory_within (by decide), directory_module h]

theorem directory_anonymous {name : String} (h : IsName name) :
    directory ("nodes/anonymous/" ++ name ++ ".py") = ["nodes", "anonymous"] := by
  have hpath : "nodes/anonymous/" ++ name ++ ".py" = "nodes" ++ "/" ++ ("anonymous" ++ "/" ++ (name ++ ".py")) := by
    rw [← String.toList_inj]
    simp
  rw [hpath, directory_within (by decide), directory_within (by decide), directory_module h]

theorem modulePath_nodes (name : String) : modulePath ["nodes", name] = "nodes/" ++ name ++ ".py" := by
  rw [← String.toList_inj]
  simp [modulePath]

theorem modulePath_anonymous (name : String) :
    modulePath ["nodes", "anonymous", name] = "nodes/anonymous/" ++ name ++ ".py" := by
  rw [← String.toList_inj]
  simp [modulePath]

end Source

namespace Sdk
open Text Naming

structure Holds (b : Built) (plan : Blueprint) (o : Output) : Prop where
  covers : Blueprint.Covers b plan
  worded : plan.Worded b.catalogue
  closed : b.catalogue.Closed
  nodup : ((artifacts b plan).map Artifact.path).Nodup
  artifacts : o.artifacts = sortOn Artifact.path (artifacts b plan)

/-- A generated SDK holds the files of its plan. -/
theorem generate_holds {b : Built} {config : Option Json} {o : Output}
    (h : generate b config = .ok o) : ∃ plan, Holds b plan o ∧ plan.grammar = b.name := by
  obtain ⟨_, plan, _, _, hplan, hnodup, hartifacts⟩ := generate_inv h
  obtain ⟨_, hfollows⟩ := Blueprint.ofBuilt?_ok hplan
  exact ⟨plan, ⟨Blueprint.ofBuilt?_covers hplan, Blueprint.ofBuilt?_worded hplan,
    Catalogue.check_eq_ok_iff.mp hfollows.closed, hnodup, hartifacts⟩, hfollows.grammar⟩

namespace Holds

variable {b : Built} {plan : Blueprint} {o : Output} (h : Holds b plan o)

include h

/-- Every file of the plan is found under its path. -/
theorem get?_eq {a : Artifact} (ha : a ∈ Sdk.artifacts b plan) : o.get? a.path = some a.content := by
  have hsorted : ((sortOn Artifact.path (Sdk.artifacts b plan)).map Artifact.path).Nodup :=
    ((sortOn_perm _ _).map _).nodup_iff.mpr h.nodup
  rw [Output.get?, h.artifacts, find?_key hsorted (mem_sortOn.mpr ha)]
  rfl

theorem mem_of_get? {path : String} {content : Content} (hget : o.get? path = some content) :
    (⟨path, content⟩ : Artifact) ∈ Sdk.artifacts b plan := by
  obtain ⟨a, ha, rfl⟩ := Option.map_eq_some_iff.mp hget
  have hpath : a.path = path := by simpa using List.find?_some ha
  have hmem := List.mem_of_find?_eq_some ha
  rw [h.artifacts] at hmem
  rw [← hpath]
  exact mem_sortOn.mp hmem

theorem text?_module {path : String} {m : Module} (hm : (path, m) ∈ modules plan) :
    o.text? path = some m.text := by
  have hget := h.get?_eq (module_mem hm)
  rw [Output.text?, hget]
  rfl

theorem text?_eq_none {path : String} (hpath : path ∉ plannedPaths b) : o.text? path = none := by
  rw [Output.text?]
  cases hget : o.get? path with
  | none => rfl
  | some content =>
    refine absurd ?_ hpath
    rw [← paths_artifacts h.covers]
    exact List.mem_map.mpr ⟨_, h.mem_of_get? hget, rfl⟩

/-- The source files of an SDK are the modules of its plan. -/
theorem module_of_get? {path text : String} (hpath : ".py".toList <:+ path.toList)
    (hget : o.get? path = some (.text text)) : ∃ m, (path, m) ∈ modules plan ∧ text = m.text := by
  have hmem := h.mem_of_get? hget
  rw [Sdk.artifacts, List.mem_append, List.mem_cons] at hmem
  have hends (s : String) (hs : ¬ ".py".toList <:+ s.toList) : path ≠ s := by
    rintro rfl
    exact hs hpath
  rcases hmem with (he | hm) | hd
  · exact absurd (Artifact.mk.inj he).1 (hends _ (by decide))
  · obtain ⟨p, hp, he⟩ := List.mem_map.mp hm
    obtain ⟨rfl, hcontent⟩ := Artifact.mk.inj he
    exact ⟨p.2, hp, (Content.text.inj hcontent).symm⟩
  · have hdocument : path ∈ documentPaths b := by
      rw [← paths_documents]
      exact List.mem_map.mpr ⟨_, hd, rfl⟩
    cases hb : b.parser <;>
      simp only [documentPaths, hb, Option.toList, List.map, List.append_nil, List.cons_append,
        List.nil_append, List.mem_cons, List.not_mem_nil, or_false] at hdocument
    · rcases hdocument with he | he <;> exact absurd he (hends _ (by decide))
    · rcases hdocument with he | he | he <;> exact absurd he (hends _ (by decide))

/-- The names that the text of a module imports, binds and exports are those of its data. -/
theorem names_text (hname : Unbroken plan.grammar) {path : String} {m : Module}
    (hm : (path, m) ∈ modules plan) :
    readNames m.text = Names.join [headingNames, m.names] := by
  obtain ⟨hgrammar, hlegible⟩ := legible_modules h.worded _ hm
  exact readNames_text (by rw [hgrammar]; exact hname) hlegible

omit h in
/-- Where the packages on the way exist, a package comes before a module. -/
theorem module?_of_packages {names : List String}
    (hpackages : ∀ k < names.length, (o.text? (packagePath (names.take k))).isSome = true) :
    o.module? names = match o.text? (packagePath names) with
      | some text => some (packagePath names, text)
      | none => (o.text? (modulePath names)).map (Prod.mk (modulePath names)) :=
  if_pos (by simpa using hpackages)

/-- Names lead to a package if there is one. -/
theorem package_found {names : List String} {m : Module}
    (hpackages : ∀ k < names.length, (o.text? (packagePath (names.take k))).isSome = true)
    (hm : (packagePath names, m) ∈ modules plan) :
    o.module? names = some (packagePath names, m.text) := by
  rw [module?_of_packages hpackages, h.text?_module hm]

/-- Names lead to a module if no package has its name. -/
theorem module_found {names : List String} {m : Module}
    (hpackages : ∀ k < names.length, (o.text? (packagePath (names.take k))).isSome = true)
    (hno : packagePath names ∉ plannedPaths b) (hm : (modulePath names, m) ∈ modules plan) :
    o.module? names = some (modulePath names, m.text) := by
  rw [module?_of_packages hpackages, h.text?_eq_none hno, h.text?_module hm]
  rfl

end Holds

variable {b : Built}

def fixedPaths : List String := ownPaths ++ cursorPaths ++ ["__artifacts__/grammar.json",
  "__artifacts__/node-types.json", "__artifacts__/parser.wasm"]

/-- A path outside of the package of nodes is planned only if it is one of the fixed ones. -/
theorem not_planned_of_fixed {path : String} (hnodes : path.toList.take 6 ≠ "nodes/".toList)
    (hfixed : path ∉ fixedPaths) : path ∉ plannedPaths b := by
  intro hm
  simp only [fixedPaths, List.mem_append, not_or] at hfixed
  rw [plannedPaths, List.mem_append, List.mem_append, List.mem_append] at hm
  rcases hm with ((hm | hm) | hm) | hm
  · exact hfixed.1.1 hm
  · rw [nodePaths_eq] at hm
    obtain ⟨s, _, rfl⟩ := List.mem_map.mp hm
    refine hnodes ?_
    rw [String.append_assoc, String.toList_append]
    rfl
  · exact hfixed.1.2 hm
  · refine hfixed.2 ?_
    rw [documentPaths, List.mem_append] at hm
    rcases hm with hm | hm
    · exact List.mem_append_left ["__artifacts__/parser.wasm"] hm
    · obtain ⟨_, _, rfl⟩ := List.mem_map.mp hm
      simp

theorem not_planned_of_key {key : String} (hkey : key ∉ nodeKeys b.catalogue) :
    "nodes/" ++ key ++ ".py" ∉ plannedPaths b := by
  intro hm
  rw [(plannedPaths_perm b).mem_iff, List.mem_append] at hm
  rcases hm with hm | hm
  · have htake : ∀ p ∈ ownPaths ++ (cursorPaths ++ documentPaths b),
        p.toList.take 6 ≠ "nodes/".toList := by
      cases hb : b.parser <;> simp only [documentPaths, hb, Option.toList, List.map] <;> decide
    refine htake _ hm ?_
    rw [String.append_assoc, String.toList_append]
    rfl
  · rw [nodePaths_eq] at hm
    obtain ⟨s, hs, he⟩ := List.mem_map.mp hm
    have hsame := (String.append_right_inj _).mp ((String.append_left_inj _).mp he)
    exact hkey (hsame ▸ hs)

/-- A key is a module name, or one behind the package of tokens. -/
theorem pieces_nodeKeys {c : Catalogue} {key : String} (hkey : key ∈ nodeKeys c) :
    ∃ name : List Char, pieces '/' key.toList = [name] ∨
      pieces '/' key.toList = ["anonymous".toList, name] := by
  have hmodule (d : Descriptor) (hd : d ∈ c.descriptors) :
      pieces '/' (c.moduleOf d.ref).toList = [(c.moduleOf d.ref).toList] :=
    pieces_unbroken (Catalogue.slash_not_mem_moduleOf (Catalogue.mem_refs.mpr ⟨d, hd, rfl⟩))
  have hanonymous : '/' ∉ "anonymous".toList := by decide
  have hwithin (name : String) : pieces '/' ("anonymous/" ++ name).toList =
      "anonymous".toList :: pieces '/' name.toList := pieces_within hanonymous
  simp only [nodeKeys, List.mem_append, List.mem_map, List.mem_cons, List.not_mem_nil, or_false] at hkey
  rcases hkey with (⟨d, hd, rfl⟩ | ⟨d, hd, rfl⟩) | rfl | rfl
  · exact ⟨_, .inl (hmodule d (Catalogue.mem_listed.mp hd).1)⟩
  · exact ⟨_, .inr (by rw [hwithin, hmodule d (Catalogue.mem_anonymous.mp hd).1])⟩
  · exact ⟨_, .inl rfl⟩
  · exact ⟨_, .inr rfl⟩

/-- No node type makes a package of its own, but that one may be called like the package of tokens. -/
theorem package_not_planned {name : String} (hn : IsName name) (hne : name ≠ "anonymous") :
    packagePath ["nodes", name] ∉ plannedPaths b := by
  have hpath : packagePath ["nodes", name] = "nodes/" ++ (name ++ "/" ++ "__init__") ++ ".py" := by
    rw [← String.toList_inj]
    simp [packagePath]
  have hpieces : pieces '/' (name ++ "/" ++ "__init__").toList = [name.toList, "__init__".toList] := by
    rw [pieces_within (hn.free (by decide))]
    rfl
  rw [hpath]
  refine not_planned_of_key fun hkey => ?_
  obtain ⟨s, hs | hs⟩ := pieces_nodeKeys hkey <;> rw [hpieces] at hs
  · cases hs
  · exact hne (String.toList_inj.mp (List.cons.inj hs).1)

theorem anonymousPackage_not_planned {name : String} (hn : IsName name) :
    packagePath ["nodes", "anonymous", name] ∉ plannedPaths b := by
  have hpath : packagePath ["nodes", "anonymous", name] =
      "nodes/" ++ ("anonymous" ++ "/" ++ (name ++ "/" ++ "__init__")) ++ ".py" := by
    rw [← String.toList_inj]
    simp [packagePath]
  have hpieces : pieces '/' ("anonymous" ++ "/" ++ (name ++ "/" ++ "__init__")).toList =
      ["anonymous".toList, name.toList, "__init__".toList] := by
    rw [pieces_within (by decide), pieces_within (hn.free (by decide))]
    rfl
  rw [hpath]
  refine not_planned_of_key fun hkey => ?_
  obtain ⟨s, hs | hs⟩ := pieces_nodeKeys hkey <;> rw [hpieces] at hs <;> cases hs

end Sdk

end TraversalSdk
