import TraversalSdk.Proofs.CursorReading
import TraversalSdk.Proofs.EmittedTables
import TraversalSdk.Proofs.GeneratedPlan
import TraversalSdk.Proofs.RegistryNames

namespace TraversalSdk

namespace Titled
open Naming

variable {c : Catalogue} {t u : Titled}

def IsNamed (c : Catalogue) (t : Titled) : Prop :=
  (Registry.ofCatalogue c).get? t.ref = some t.names

namespace IsNamed

/-- Names of cursor classes have no blank, so unions of them can be taken apart again. -/
theorem cursorClass_chars (h : t.IsNamed c) : ∀ d ∈ t.cursorClass.toList, isNameChar d = true := by
  unfold cursorClass
  split
  · rw [String.toList_append, List.forall_mem_append]
    exact ⟨Registry.pascal_chars h, List.all_eq_true.mp (by decide)⟩
  · exact List.all_eq_true.mp (by decide)

theorem className_chars (h : t.IsNamed c) :
    ∀ d ∈ t.names.className.toList, isNameChar d = true := by
  rw [Registry.className_eq h, String.toList_append, List.forall_mem_append]
  refine ⟨Registry.pascal_chars h, ?_⟩
  cases t.ref.named <;> exact List.all_eq_true.mp (by decide)

end IsNamed

theorem length_cursorClass (t : Titled) : 6 ≤ t.cursorClass.toList.length := by
  have hcursor : "Cursor".toList.length = 6 := by decide
  have hanonymous : "AnonymousCursor".toList.length = 15 := by decide
  unfold cursorClass
  split
  · rw [String.toList_append, List.length_append, hcursor]
    omega
  · omega

/-- No class is called like the words that stand for no class. -/
theorem cursorClass_ne (t : Titled) : t.cursorClass ≠ "Never" ∧ t.cursorClass ≠ "None" := by
  have hlen := t.length_cursorClass
  constructor <;> intro he <;> rw [he] at hlen <;> exact absurd hlen (by decide)

/-- The shared cursor class is that of tokens. -/
theorem IsNamed.cursorClass_eq_anonymous_iff (h : t.IsNamed c) :
    t.cursorClass = "AnonymousCursor" ↔ t.ref.named = false := by
  cases hn : t.ref.named with
  | false => simp [cursorClass, hn]
  | true =>
    have hoff := ((Registry.keepsOff h).classes hn).2
    simp only [cursorClass, hn, if_true, Bool.true_eq_false, iff_false]
    exact fun he => hoff (by rw [he]; decide)

/-- Named types with one cursor class are one type. -/
theorem IsNamed.ref_eq (ht : t.IsNamed c) (hu : u.IsNamed c) (hnt : t.ref.named = true)
    (hnu : u.ref.named = true) (he : t.cursorClass = u.cursorClass) : t.ref = u.ref := by
  by_contra hne
  have hapart := Registry.apart ht hu hne (hnt.trans hnu.symm)
  simp only [cursorClass, hnt, hnu, if_true] at he
  exact hapart.pascal ((String.append_left_inj _).mp he)

end Titled

namespace Catalogue

variable {c : Catalogue}

theorem named_of_mem_concrete {d : Descriptor} (h : d ∈ c.concrete) : d.ref.named = true := by
  have hc := (mem_concrete.mp h).2
  simp only [Descriptor.isConcrete, Bool.and_eq_true] at hc
  exact hc.1

theorem nodup_concrete (c : Catalogue) : (c.concrete.map Descriptor.ref).Nodup := by
  have hperm := (sortOn_perm (·.ref.type) (c.descriptors.filter Descriptor.isConcrete)).map
    Descriptor.ref
  exact hperm.nodup_iff.mpr (c.nodup.sublist (List.filter_sublist.map _))

theorem nodup_concrete_types (c : Catalogue) : (c.concrete.map (·.ref.type)).Nodup := by
  have hrefs := List.pairwise_map.mp c.nodup_concrete
  refine List.pairwise_map.mpr (hrefs.imp_of_mem fun ha hb hne he => hne ?_)
  have hkind := (named_of_mem_concrete ha).trans (named_of_mem_concrete hb).symm
  change NodeRef.mk _ _ = NodeRef.mk _ _
  rw [he, hkind]

end Catalogue

namespace Graph

variable {c : Catalogue} {start : Option String}

/-- The landing of a concrete type is the one in its row. -/
theorem landing?_concrete {d : Descriptor} (hd : d ∈ c.concrete) (step : Direction) :
    landing? ⟨c.concrete.map (rowFor c start)⟩ d.ref step =
      some ((rowFor c start d).landing step) := by
  have hnodes : ((c.concrete.map (rowFor c start)).map Row.node).Nodup := by
    rw [List.map_map]
    exact c.nodup_concrete
  have hrow := find?_key hnodes (List.mem_map.mpr ⟨d, hd, rfl⟩)
  rw [landing?, row?]
  exact (congrArg (Option.map _) hrow).trans rfl

end Graph

namespace Landing

@[simp]
theorem some_mem_targets {l : Landing} {r : NodeRef} : some r ∈ l.targets ↔ r ∈ l.nodes := by
  cases h : l.nowhere <;> simp [targets, h]

@[simp]
theorem none_mem_targets {l : Landing} : none ∈ l.targets ↔ l.nowhere = true := by
  cases h : l.nowhere <;> simp [targets, h]

/-- Names that tell a landing: a text for every type of the text, `none` for no node. -/
structure Named (l : Landing) (names : List (Option String)) : Prop where
  name : ∀ s, some s ∈ names ↔ ∃ named, some ⟨s, named⟩ ∈ l.targets
  nowhere : none ∈ names ↔ none ∈ l.targets

theorem named_names (l : Landing) : l.Named l.names where
  name s := by
    rw [names, mem_distinct, List.mem_map]
    constructor
    · rintro ⟨x, hx, he⟩
      obtain ⟨r, rfl, rfl⟩ := Option.map_eq_some_iff.mp he
      exact ⟨r.named, hx⟩
    · rintro ⟨named, hm⟩
      exact ⟨_, hm, rfl⟩
  nowhere := by
    rw [names, mem_distinct, List.mem_map]
    constructor
    · rintro ⟨x, hx, he⟩
      rwa [Option.map_eq_none_iff.mp he] at hx
    · exact fun hm => ⟨none, hm, rfl⟩

/-- Cursor classes that tell a landing: one for every concrete type, a shared one for all tokens, and
`None` for no node. -/
structure Typed (c : Catalogue) (l : Landing) (classes : List String) : Prop where
  nodup : classes.Nodup
  cursor : ∀ d ∈ c.concrete, ∃ n, (Registry.ofCatalogue c).get? d.ref = some n ∧
    (n.pascal ++ "Cursor" ∈ classes ↔ some d.ref ∈ l.targets)
  anonymous : "AnonymousCursor" ∈ classes ↔ ∃ s, some ⟨s, false⟩ ∈ l.targets
  nowhere : "None" ∈ classes ↔ none ∈ l.targets

end Landing

section

open Blueprint Source

variable {c : Catalogue} {ts : List Titled} {rs : List NodeRef} {optional : Bool}
  (h : Titles (.ofCatalogue c) rs ts)

include h

/-- The class of a concrete type stands for this type alone. -/
theorem cursorClass_mem_iff {u : Titled} (hu : u.IsNamed c) (hn : u.ref.named = true) :
    u.cursorClass ∈ unionMembers (ts.map Titled.cursorClass) optional ↔ u.ref ∈ rs := by
  rw [mem_unionMembers, ← h.refs, List.mem_map, List.mem_map]
  constructor
  · rintro (⟨t, ht, he⟩ | ⟨_, he⟩)
    · have hnamed : t.ref.named = true := by
        cases htn : t.ref.named with
        | true => rfl
        | false =>
          have hanonymous := ((Titled.IsNamed.cursorClass_eq_anonymous_iff (h.named t ht)).mpr htn)
          rw [he, hu.cursorClass_eq_anonymous_iff, hn] at hanonymous
          cases hanonymous
      exact ⟨t, ht, Titled.IsNamed.ref_eq (h.named t ht) hu hnamed hn he⟩
    · exact absurd he u.cursorClass_ne.2
  · rintro ⟨t, ht, he⟩
    have hsame : t = u := by
      have hnames := h.named t ht
      rw [he, hu] at hnames
      cases t
      cases u
      cases hnames
      cases he
      rfl
    exact .inl ⟨t, ht, by rw [hsame]⟩

/-- A union holds the shared class of tokens just if a token is among the types. -/
theorem anonymous_mem_iff :
    "AnonymousCursor" ∈ unionMembers (ts.map Titled.cursorClass) optional ↔
      ∃ s, NodeRef.mk s false ∈ rs := by
  rw [mem_unionMembers, ← h.refs]
  simp only [List.mem_map]
  constructor
  · rintro (⟨t, ht, he⟩ | ⟨_, he⟩)
    · have hn := (Titled.IsNamed.cursorClass_eq_anonymous_iff (h.named t ht)).mp he
      exact ⟨t.ref.type, t, ht, by rw [← hn]⟩
    · exact absurd he (by decide)
  · rintro ⟨s, t, ht, he⟩
    exact .inl ⟨t, ht, by rw [Titled.cursorClass, he]; rfl⟩

omit h in
/-- No class stands in a union twice, although all tokens share one. -/
theorem nodup_unionMembers : (unionMembers (ts.map Titled.cursorClass) optional).Nodup := by
  have hnone : "None" ∉ distinct (ts.map Titled.cursorClass) := by
    rw [mem_distinct, List.mem_map]
    rintro ⟨t, _, he⟩
    exact t.cursorClass_ne.2 he
  cases optional with
  | false => simpa [unionMembers] using nodup_distinct (ts.map Titled.cursorClass)
  | true =>
    rw [unionMembers, List.nodup_append]
    refine ⟨nodup_distinct _, by simp, ?_⟩
    rintro s hs _ hn rfl
    rw [List.mem_singleton.mp hn] at hs
    exact hnone hs

end

open Blueprint Source

/-- The classes of a move tell the landing that the move follows. -/
theorem Landing.typed_move {c : Catalogue} {row : Row} {m : Move}
    (h : Goes (.ofCatalogue c) row m) : (row.landing m.direction).Typed c
      (unionMembers (m.targets.map Titled.cursorClass) m.nowhere) where
  nodup := nodup_unionMembers
  cursor d hd := by
    have hn := Catalogue.named_of_mem_concrete hd
    obtain ⟨n, hget⟩ := Registry.get?_isSome
      (List.mem_map.mpr ⟨d, (Catalogue.mem_concrete.mp hd).1, rfl⟩)
    have hclass : (Titled.mk d.ref n).cursorClass = n.pascal ++ "Cursor" := by
      simp [Titled.cursorClass, hn]
    refine ⟨n, hget, ?_⟩
    rw [← hclass, Landing.some_mem_targets]
    exact cursorClass_mem_iff h.titles hget hn
  anonymous := by
    simp only [Landing.some_mem_targets]
    exact anonymous_mem_iff h.titles
  nowhere := by
    rw [mem_unionMembers, Landing.none_mem_targets, h.nowhere]
    constructor
    · rintro (hm | ⟨hn, _⟩)
      · obtain ⟨t, _, he⟩ := List.mem_map.mp hm
        exact absurd he t.cursorClass_ne.2
      · exact hn
    · exact fun hn => .inr ⟨hn, rfl⟩

namespace Sdk

/-- A text whose tables hold a graph: for every direction one row for each concrete type, which tells the
landing of the type, and the child sequences of the grammar. Tables are read line by line: the last line that
assigns to the name of a table begins it, whatever else stands in the text. -/
structure TablesCarry (b : Built) (g : Graph) (text : String) : Prop where
  reach : ∀ step, ∃ rows, readReach? step text = some rows ∧
    rows.map Prod.fst = b.catalogue.concrete.map (·.ref.type) ∧
    ∀ d ∈ b.catalogue.concrete, ∃ l names, g.landing? d.ref step = some l ∧
      lookup d.ref.type rows = some names ∧ l.Named names
  sequences : readSequences? text = some (sortOn Prod.fst (TraversalSdk.sequences b.grammar.rules))

/-- A text whose cursor classes hold a graph: the class of every concrete type has a method for every
direction, and the type that the method returns tells the landing. Classes are read line by line as well: a
class by its header, and in its body the last method of a name. -/
def ClassesCarry (b : Built) (g : Graph) (text : String) : Prop :=
  ∀ d ∈ b.catalogue.concrete, ∀ step, ∃ n l classes,
    (Registry.ofCatalogue b.catalogue).get? d.ref = some n ∧ g.landing? d.ref step = some l ∧
    readMove? (n.pascal ++ "Cursor") step.method text = some classes ∧ l.Typed b.catalogue classes

variable {b : Built} {start : String} {plan : Blueprint}

theorem landing?_of_follows (h : Follows b start plan) {d : Descriptor}
    (hd : d ∈ b.catalogue.concrete) (step : Direction) : plan.graph.landing? d.ref step =
      some ((Graph.rowFor b.catalogue (some start) d).landing step) := by
  rw [h.graph]
  exact Graph.landing?_concrete hd step

/-- The module of tables holds the graph of the plan. -/
theorem tablesCarry_mapsModule (h : Follows b start plan) :
    TablesCarry b plan.graph (mapsModule plan).text where
  reach step := by
    have htable : plan.graph.table step = b.catalogue.concrete.map fun d =>
        (d.ref.type, ((Graph.rowFor b.catalogue (some start) d).landing step).names) := by
      rw [h.graph, Graph.table, List.map_map]
      rfl
    have hkeys : (plan.graph.table step).map Prod.fst =
        b.catalogue.concrete.map (·.ref.type) := by
      rw [htable, List.map_map]
      rfl
    refine ⟨_, readReach?_text plan step, hkeys, fun d hd => ?_⟩
    have hrow : (d.ref.type, ((Graph.rowFor b.catalogue (some start) d).landing step).names) ∈
        plan.graph.table step := by
      rw [htable]
      exact List.mem_map.mpr ⟨d, hd, rfl⟩
    have hnodup : ((plan.graph.table step).map Prod.fst).Nodup := by
      rw [hkeys]
      exact b.catalogue.nodup_concrete_types
    exact ⟨_, _, landing?_of_follows h hd step, lookup_of_mem hnodup hrow, Landing.named_names _⟩
  sequences := by rw [readSequences?_text, h.sequences]

theorem isNamed_title {c : Catalogue} {row : Row} {d : Descriptor} {n : ConcreteNode}
    (h : Plans (.ofCatalogue c) row d n) : n.title.IsNamed c := by
  rw [Titled.IsNamed, h.ref]
  exact h.named

theorem spelled_of_plans {c : Catalogue} {row : Row} {d : Descriptor} {n : ConcreteNode}
    (h : Plans (.ofCatalogue c) row d n) : Spelled n where
  className := unbroken_of_nameChars (isNamed_title h).className_chars
  cursor := (isNamed_title h).cursorClass_chars
  targets m hm t ht :=
    ⟨Titled.IsNamed.cursorClass_chars ((h.goes m hm).titles.named t ht), t.cursorClass_ne.1⟩
  directions := h.directions

/-- The names in the types of a plan are made of name characters. -/
theorem spelled_of_follows (h : Follows b start plan) : ∀ n ∈ plan.concrete, Spelled n := by
  intro n hn
  obtain ⟨_, _, hplans⟩ := exists_left h.concrete hn
  exact spelled_of_plans hplans

theorem map_ref_concrete (h : Follows b start plan) :
    plan.concrete.map (·.title.ref) = b.catalogue.concrete.map Descriptor.ref := by
  have hrefs : List.Forall₂ Eq (plan.concrete.map (·.title.ref))
      (b.catalogue.concrete.map Descriptor.ref) := by
    rw [List.forall₂_map_left_iff, List.forall₂_map_right_iff]
    exact h.concrete.flip.imp fun _ _ hplans => hplans.ref
  rwa [List.forall₂_eq_eq_eq] at hrefs

/-- Every concrete type has a cursor class of its own. -/
theorem nodup_cursorClass (h : Follows b start plan) :
    (plan.concrete.map (·.title.cursorClass)).Nodup := by
  have hrefs := b.catalogue.nodup_concrete
  rw [← map_ref_concrete h] at hrefs
  have hinfo : ∀ n ∈ plan.concrete, n.title.IsNamed b.catalogue ∧ n.title.ref.named = true := by
    intro n hn
    obtain ⟨d, hd, hplans⟩ := exists_left h.concrete hn
    exact ⟨isNamed_title hplans, by rw [hplans.ref]; exact Catalogue.named_of_mem_concrete hd⟩
  refine List.pairwise_map.mpr ((List.pairwise_map.mp hrefs).imp_of_mem ?_)
  intro n n' hn hn' hne he
  exact hne (Titled.IsNamed.ref_eq (hinfo n hn).1 (hinfo n' hn').1 (hinfo n hn).2 (hinfo n' hn').2 he)

/-- The module of cursor classes holds the graph of the plan. -/
theorem classesCarry_conditionalsModule (h : Follows b start plan) :
    ClassesCarry b plan.graph (conditionalsModule plan).text := by
  intro d hd step
  obtain ⟨n, hn, hplans⟩ := exists_right h.concrete hd
  obtain ⟨m, hm, rfl⟩ : ∃ m ∈ n.moves, m.direction = step := by
    have hstep : step ∈ n.moves.map Move.direction := by
      rw [hplans.directions]
      cases step <;> decide
    exact List.mem_map.mp hstep
  have hclass : n.title.cursorClass = n.title.names.pascal ++ "Cursor" := by
    simp [Titled.cursorClass, hplans.ref, Catalogue.named_of_mem_concrete hd]
  have hread := readMove?_text (spelled_of_follows h) (nodup_cursorClass h) hn hm
  rw [hclass] at hread
  exact ⟨_, _, _, hplans.named, landing?_of_follows h hd _, hread,
    Landing.typed_move (hplans.goes m hm)⟩

/-- Both texts of a generated SDK hold the graph that is built of its catalogue, whatever the types are
called. What is read are the lines of the tables and of the classes, whatever surrounds them; that the rest of
a text is sound source is not said here. -/
theorem generate_carries_graph {config : Option Json} {o : Output}
    (h : generate b config = .ok o) : ∃ start g maps classes,
      b.grammar.startRule = .ok start ∧ Graph.build b.catalogue (some start) = .ok g ∧
      o.get? "cursor/maps.py" = some (.text maps) ∧
      o.get? "cursor/conditionals.py" = some (.text classes) ∧
      TablesCarry b g maps ∧ ClassesCarry b g classes := by
  obtain ⟨start, plan, hfollows, hfiles⟩ := generate_ok h
  have hmaps : ("cursor/maps.py", mapsModule plan) ∈ modules plan :=
    List.mem_append_right _ (by simp [cursorModules])
  have hclasses : ("cursor/conditionals.py", conditionalsModule plan) ∈ modules plan :=
    List.mem_append_right _ (by simp [cursorModules])
  have hbuild : Graph.build b.catalogue (some start) = .ok plan.graph := by
    rw [hfollows.graph]
    exact Graph.build_of_check hfollows.closed
  exact ⟨start, plan.graph, _, _, hfollows.starts, hbuild, hfiles _ (module_mem hmaps),
    hfiles _ (module_mem hclasses), tablesCarry_mapsModule hfollows,
    classesCarry_conditionalsModule hfollows⟩

def quoting : Built where
  grammar := ⟨"quoting", [("file", .blank)], [], [], [], [], [], [], none, []⟩
  catalogue := {
    descriptors := [
      ⟨⟨"file", true⟩, true, false, [], some ⟨true, true, [⟨"\"", false⟩]⟩, none⟩,
      ⟨⟨"\"", false⟩, false, false, [], none, none⟩]
    nodup := by decide }
  grammarSource := ""
  nodeTypesSource := ""
  parser := none

def quotingFile : Titled :=
  ⟨⟨"file", true⟩, ⟨"file", "file", "File", "FileNode", "is_file_node"⟩⟩

def quotingToken : Titled :=
  ⟨⟨"\"", false⟩, ⟨"quote", "quote", "Quote", "QuoteToken", "is_quote_token"⟩⟩

def quotingPlan : Blueprint where
  grammar := "quoting"
  spaceName := "TreantQuoting"
  root := some quotingFile
  declared := [quotingFile, quotingToken]
  concrete := [⟨quotingFile, [], [⟨.firstChild, [quotingToken], false⟩, ⟨.nextSibling, [], true⟩,
    ⟨.previousSibling, [], true⟩, ⟨.parent, [], true⟩]⟩]
  groups := []
  tokens := [quotingToken]
  graph := ⟨[⟨quotingFile.ref, ⟨[quotingToken.ref], false⟩, ⟨[], true⟩, ⟨[], true⟩⟩]⟩
  sequences := []

theorem ofCatalogue_quoting : Registry.ofCatalogue quoting.catalogue =
    ⟨[(quotingFile.ref, quotingFile.names), (quotingToken.ref, quotingToken.names)]⟩ := by
  have hnames : (Registry.ofCatalogue quoting.catalogue).names =
      [(quotingFile.ref, quotingFile.names), (quotingToken.ref, quotingToken.names)] := by
    decide +kernel
  exact congrArg Registry.mk hnames

theorem build_quoting : Graph.build quoting.catalogue (some "file") = .ok quotingPlan.graph := by
  cbv

theorem ofBuilt?_quoting : ofBuilt? quoting "TreantQuoting" = .ok quotingPlan := by
  have hstart : quoting.grammar.startRule = .ok "file" := rfl
  have hroot : rootType? quoting.catalogue "file" = some "file" := by decide +kernel
  refine bind_eq_ok.mpr ⟨_, hstart, bind_eq_ok.mpr ⟨_, build_quoting, ?_⟩⟩
  simp only [ofCatalogue_quoting, hroot, Option.mapM_some]
  cbv

/-- The grammar has an SDK. -/
theorem generate_quoting : generate quoting none = .ok ⟨"TreantQuoting", "quoting",
    sortOn Artifact.path (artifacts quoting quotingPlan)⟩ := by
  have hspace : NamespaceConfig.standard.resolve "quoting" = .ok "TreantQuoting" := by
    have hname : "Treant" ++ Casing.pascal "quoting" = "TreantQuoting" := by decide +kernel
    rw [NamespaceConfig.resolve_standard, hname]
  have hpaths : firstRepeated? ((artifacts quoting quotingPlan).map Artifact.path) = none := by
    decide +kernel
  exact generate_eq_ok rfl hspace ofBuilt?_quoting hpaths

/-- The file begins with its quote, in the table and in the class of its cursor. -/
theorem generate_carries_graph_quoting : ∃ o maps classes rows names members,
    generate quoting none = .ok o ∧
    o.get? "cursor/maps.py" = some (.text maps) ∧
    o.get? "cursor/conditionals.py" = some (.text classes) ∧
    readReach? .firstChild maps = some rows ∧ lookup "file" rows = some names ∧
    some "\"" ∈ names ∧ none ∉ names ∧
    readMove? "FileCursor" "goto_first_child" classes = some members ∧
    "AnonymousCursor" ∈ members ∧ "None" ∉ members := by
  obtain ⟨start, g, maps, classes, hstart, hbuild, hmaps, hclasses, htables, hcarried⟩ :=
    generate_carries_graph generate_quoting
  have hfile : quoting.grammar.startRule = .ok "file" := rfl
  cases hstart.symm.trans hfile
  cases hbuild.symm.trans build_quoting
  obtain ⟨d, hd, href⟩ : ∃ d ∈ quoting.catalogue.concrete, d.ref = quotingFile.ref := by
    decide +kernel
  have hland : quotingPlan.graph.landing? d.ref .firstChild =
      some ⟨[quotingToken.ref], false⟩ := by
    rw [href]
    cbv
  have htype : d.ref.type = "file" := by rw [href]; rfl
  obtain ⟨rows, hrows, _, hrow⟩ := htables.reach .firstChild
  obtain ⟨l, names, hl, hlookup, hnamed⟩ := hrow d hd
  cases hl.symm.trans hland
  rw [htype] at hlookup
  obtain ⟨n, l, members, hnames, hl, hread, htyped⟩ := hcarried d hd .firstChild
  cases hl.symm.trans hland
  have hfileNames : (Registry.ofCatalogue quoting.catalogue).get? d.ref =
      some quotingFile.names := by
    rw [href, ofCatalogue_quoting]
    rfl
  cases hnames.symm.trans hfileNames
  have hin : some quotingToken.ref ∈ Landing.targets ⟨[quotingToken.ref], false⟩ := by decide
  have hout : none ∉ Landing.targets ⟨[quotingToken.ref], false⟩ := by decide
  exact ⟨_, maps, classes, rows, names, members, generate_quoting, hmaps, hclasses, hrows, hlookup,
    (hnamed.name _).mpr ⟨_, hin⟩, fun h => hout (hnamed.nowhere.mp h), hread,
    htyped.anonymous.mpr ⟨_, hin⟩, fun h => hout (htyped.nowhere.mp h)⟩

end Sdk

end TraversalSdk
