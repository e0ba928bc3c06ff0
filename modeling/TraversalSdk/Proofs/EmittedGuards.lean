import TraversalSdk.Proofs.GuardReading
import TraversalSdk.Proofs.ImportClosure

namespace TraversalSdk

open Source

namespace Output

variable (o : Output) (c : Catalogue) (r : NodeRef)

def source? : Option (NodeNames × String) := do
  let names ← (Registry.ofCatalogue c).get? r
  let text ← o.text? ((if r.named then "nodes/" else "nodes/anonymous/") ++ names.module ++ ".py")
  return (names, text)

/-- Whether the guard of a type accepts a node, or no node. The guard is read line by line: its definition by
the header, and in it the last line that returns, whatever else stands in the module. -/
def accepts? (node : Option NodeRef) : Option Bool := do
  let (names, text) ← o.source? c r
  Sdk.accepts? names.guard text node

variable {o c r}

theorem source?_eq {names : NodeNames} {text : String}
    (hnames : (Registry.ofCatalogue c).get? r = some names)
    (htext : o.text? ((if r.named then "nodes/" else "nodes/anonymous/") ++ names.module ++ ".py") =
      some text) : o.source? c r = some (names, text) := by
  rw [source?, hnames, Option.bind_eq_bind, Option.bind_some, htext]
  rfl

/-- The guard of a type is found in the module of the type. -/
theorem accepts?_eq {names : NodeNames} {text : String} (h : o.source? c r = some (names, text))
    (node : Option NodeRef) : o.accepts? c r node = Sdk.accepts? names.guard text node := by
  rw [accepts?, h]
  rfl

end Output

/-- The source of the module of a group says what a supertype stands for: its constants list the members
and their types, and its class is the union of the classes of the members. -/
structure Catalogue.Spells (c : Catalogue) (r : NodeRef) (names : NodeNames) (text : String) : Prop where
  members : readSet? Value.ref? "_MEMBERS" text = some (c.expand r)
  types : readSet? Value.text? "TYPES" text = some (distinct ((c.expand r).map NodeRef.type))
  union : ∃ rs classes, rs.Perm (c.expand r) ∧
    (lastAssigned? names.className text).map unionNames = some classes ∧
    List.Forall₂ (fun s cls => ∃ n, (Registry.ofCatalogue c).get? s = some n ∧ n.className = cls) rs classes
  never : lastAssigned? names.className text = some "Never".toList ↔ c.expand r = []

namespace Sdk
open Text Naming

variable {c : Catalogue}

theorem isName_types : IsName "TYPES" := isName_ofList (by decide)

theorem isName_members : IsName "_MEMBERS" := isName_ofList (by decide)

theorem declares_final {name : String} (h : IsName name) : Declares name "Final" :=
  ⟨h, by decide, isAnnotation_final.unbroken, isAnnotation_final.chars⟩

section

variable {name : String} (h : IsName name)

include h

theorem passes_protocol (t : Titled) (hne : name ≠ "class") :
    (Stmt.define t.names.className (protocolSteps t)).Passes name := by
  apply passes_block h "class" (t.names.className.toList ++ "(_SyntaxNode, Protocol)".toList)
  · simp
  · exact List.all_eq_true.mp (by decide)
  · exact hne.symm

theorem passes_guard (t : Titled) (summary test : String) (hne : name ≠ "def") :
    (Stmt.define t.names.guard (guardSteps t summary test)).Passes name := by
  apply passes_block h "def" (t.names.guard.toList ++
    ("(node: _SyntaxNode | None) -> TypeGuard[".toList ++ (t.names.className.toList ++ [']'])))
  · simp
  · exact List.all_eq_true.mp (by decide)
  · exact hne.symm

end

/-- The statements of the module of one type up to its constant, and those behind it. -/
theorem stmts_own (grammar : String) (t : Titled) : ∃ before,
    (ownModule grammar t).stmts = before ++ .assign "TYPE" "Final" (.text t.ref.type) ::
      (([.gap 2, .define t.names.className (protocolSteps t), .gap 2,
        .define t.names.guard (guardSteps t (ownSummary t) (ownTest t))] : List Stmt)
        ++ exporting ["TYPE", t.names.className, t.names.guard]) :=
  ⟨(ownModule grammar t).stmts.take 4, rfl⟩

/-- The module of a type says how the type is called. -/
theorem readConstant?_own {t : Titled} (h : t.IsNamed c) (grammar : String) :
    readConstant? "TYPE" (ownModule grammar t).text = some (.text t.ref.type) := by
  obtain ⟨before, hstmts⟩ := stmts_own grammar t
  have hm : (ownModule grammar t).EndsInExports := by
    rw [← List.cons_append, ← List.append_assoc] at hstmts
    exact endsInExports hstmts
  refine readConstant?_text hm (legible_ownModule h grammar) (declares_final isName_type) hstmts ?_ rfl
  refine List.forall_mem_append.mpr ⟨?_, passes_exporting isName_type (by decide) _⟩
  simp only [List.forall_mem_cons, List.not_mem_nil, false_implies, implies_true, and_true]
  exact ⟨(isName_type.spares_gap 2).target, passes_protocol isName_type t (by decide),
    (isName_type.spares_gap 2).target, passes_guard isName_type t _ _ (by decide)⟩

/-- The guard of a concrete type or a token accepts this type alone. -/
theorem accepts?_own {t : Titled} (h : t.IsNamed c) (grammar : String) (node : Option NodeRef) :
    accepts? t.names.guard (ownModule grammar t).text node = some (decide (node = some t.ref)) := by
  have hstmts : (ownModule grammar t).stmts = (ownModule grammar t).stmts.take 8 ++
      .define t.names.guard (guardSteps t (ownSummary t) (ownTest t)) ::
        exporting ["TYPE", t.names.className, t.names.guard] := rfl
  have hreturned := lastReturned?_text (legible_ownModule h grammar) hstmts
  rw [accepts?_eq hreturned (readTests?_own t)]
  exact allHold?_own (readConstant?_own h grammar) node

/-- The statements of the module of a group up to its constants, and those behind them. -/
theorem stmts_group (grammar : String) (g : Group) : ∃ imports,
    (groupModule grammar g).stmts = imports ++
      (([.assign "TYPES" "Final" (.frozenset (Value.texts (distinct (g.members.map (·.ref.type))))),
        .assign "_MEMBERS" "Final" (.frozenset (g.members.map memberValue)),
        .gap 1,
        .assign g.title.names.className "TypeAlias" (.expression
          (unionType ((sortOn Titled.module g.members).map (·.names.className)) false)),
        .gap 2,
        .define g.title.names.guard (guardSteps g.title
          ("Whether `node` is any member of the " ++ span g.title.ref.type ++ " supertype.")
          "(node.type, node.is_named) in _MEMBERS")] : List Stmt)
        ++ exporting ["TYPES", g.title.names.className, g.title.names.guard]) := by
  refine ⟨([.importNames "typing" ["Final", "Never", "TypeAlias", "TypeGuard"], .gap 1,
    .importAs "..types" "SyntaxNode" "_SyntaxNode"] : List Stmt) ++ (sortOn Titled.module g.members).map
      (fun t => .importNames ("." ++ t.module) [t.names.className]) ++ [.gap 2], ?_⟩
  rw [groupModule]
  simp only [List.append_assoc, List.cons_append, List.nil_append]

section

variable {g : Group} (h : g.title.IsNamed c) (hm : ∀ t ∈ g.members, t.IsNamed c) (grammar : String)

theorem endsInExports_group (grammar : String) (g : Group) : (groupModule grammar g).EndsInExports := by
  obtain ⟨imports, hstmts⟩ := stmts_group grammar g
  rw [← List.append_assoc] at hstmts
  exact endsInExports hstmts

include h

theorem declares_className : Declares g.title.names.className "TypeAlias" :=
  ⟨h.className_word.toIsName, by decide, isAnnotation_typeAlias.unbroken, isAnnotation_typeAlias.chars⟩

/-- What stands behind the constants of a group assigns to no other name than that of its class. -/
theorem passes_alias {name : String} (hn : IsName name) (hne : g.title.names.className ≠ name)
    (hwords : name ≠ "def" ∧ name ≠ "__all__") (value : Value) (summary test : String)
    (names : List String) :
    ∀ s ∈ ([.gap 1, .assign g.title.names.className "TypeAlias" value, .gap 2,
      .define g.title.names.guard (guardSteps g.title summary test)] : List Stmt) ++ exporting names,
      s.Passes name := by
  refine List.forall_mem_append.mpr ⟨?_, passes_exporting hn hwords.2 names⟩
  simp only [List.forall_mem_cons, List.not_mem_nil, false_implies, implies_true, and_true]
  exact ⟨(hn.spares_gap 1).target, passes_assign (declares_className h) hne value,
    (hn.spares_gap 2).target, passes_guard hn g.title summary test hwords.1⟩

include hm

/-- The types that a group lists are those of its members. -/
theorem readTypes?_group : readSet? Value.text? "TYPES" (groupModule grammar g).text =
    some (distinct (g.members.map (·.ref.type))) := by
  obtain ⟨imports, hstmts⟩ := stmts_group grammar g
  have hne := h.className_ne_of_last (s := "TYPES") (by decide)
  have hconstant : readConstant? "TYPES" (groupModule grammar g).text =
      some (.frozenset ((distinct (g.members.map (·.ref.type))).map .text)) := by
    apply readConstant?_text (endsInExports_group grammar g) (legible_groupModule h hm grammar)
      (declares_final isName_types) hstmts
    · exact List.forall_mem_cons.mpr ⟨passes_assign (declares_final isName_members) (by decide) _,
        passes_alias h isName_types hne (by decide) _ _ _ _⟩
    · exact Value.areLiteral_iff.mpr (List.forall_mem_map.mpr fun _ _ => rfl)
  exact readSet?_eq hconstant fun _ => rfl

/-- So are the members that it lists, each with its kind. -/
theorem readMembers?_group : readSet? Value.ref? "_MEMBERS" (groupModule grammar g).text =
    some (g.members.map Titled.ref) := by
  obtain ⟨imports, hstmts⟩ := stmts_group grammar g
  have hne := h.className_ne_of_last (s := "_MEMBERS") (by decide)
  rw [List.cons_append, List.append_cons] at hstmts
  have hconstant : readConstant? "_MEMBERS" (groupModule grammar g).text = some (.frozenset
      ((g.members.map Titled.ref).map fun r => .tuple [.text r.type, .flag r.named])) := by
    rw [List.map_map]
    apply readConstant?_text (endsInExports_group grammar g) (legible_groupModule h hm grammar)
      (declares_final isName_members) hstmts
    · exact passes_alias h isName_members hne (by decide) _ _ _ _
    · exact Value.areLiteral_iff.mpr (List.forall_mem_map.mpr fun _ _ => rfl)
  exact readSet?_eq hconstant fun _ => rfl

/-- The type of a group is the union of the classes of its members. -/
theorem lastAssigned?_group : lastAssigned? g.title.names.className (groupModule grammar g).text =
    some (unionType ((sortOn Titled.module g.members).map (·.names.className)) false).toList := by
  obtain ⟨imports, hstmts⟩ := stmts_group grammar g
  have hclass := h.className_word.toIsName
  rw [List.cons_append, List.cons_append, List.cons_append, List.append_cons, List.append_cons,
    List.append_cons] at hstmts
  refine lastAssigned?_text (endsInExports_group grammar g) (legible_groupModule h hm grammar)
    (declares_className h) hstmts ?_
  refine List.forall_mem_append.mpr ⟨?_, passes_exporting hclass h.className_ne_all _⟩
  simp only [List.forall_mem_cons, List.not_mem_nil, false_implies, implies_true, and_true]
  exact ⟨(hclass.spares_gap 2).target,
    passes_guard hclass g.title _ _ (h.className_ne_of_last (by decide))⟩

/-- The guard of a group accepts its members alone. -/
theorem accepts?_group (node : Option NodeRef) :
    accepts? g.title.names.guard (groupModule grammar g).text node =
      some (decide (∃ r ∈ g.members.map Titled.ref, node = some r)) := by
  obtain ⟨imports, hstmts⟩ := stmts_group grammar g
  simp only [List.cons_append, List.nil_append] at hstmts
  rw [List.append_cons, List.append_cons, List.append_cons, List.append_cons, List.append_cons] at hstmts
  have hreturned := lastReturned?_text (legible_groupModule h hm grammar) hstmts
  rw [accepts?_eq hreturned readTests?_group]
  exact allHold?_group (readMembers?_group h hm grammar) node

end

/-- Types that differ have classes that differ. -/
theorem nodup_classNames {ts : List Titled} (h : ∀ t ∈ ts, t.IsNamed c) (hn : (ts.map Titled.ref).Nodup) :
    (ts.map (·.names.className)).Nodup := by
  refine List.pairwise_map.mpr ((List.pairwise_map.mp hn).imp_of_mem fun ht hu hne => ?_)
  exact Registry.className_ne (h _ ht) (h _ hu) hne

/-- The union of a group holds the classes of its members, each once. -/
theorem unionNames_classes {ts : List Titled} (h : ∀ t ∈ ts, t.IsNamed c)
    (hn : (ts.map Titled.ref).Nodup) :
    unionNames (unionType (ts.map (·.names.className)) false).toList = ts.map (·.names.className) := by
  rw [unionNames_unionType, unionMembers, distinct_eq_self (nodup_classNames h hn)]
  · exact List.append_nil _
  · rw [List.forall_mem_map]
    intro t ht
    exact ⟨(h t ht).className_word.toIsName.free (by decide), (h t ht).className_ne_of_last (by decide)⟩

section

variable {d : Descriptor} {g : Group} (h : Blueprint.Gathers c d g) (grammar : String)

include h

theorem title_isNamed : g.title.IsNamed c := by
  rw [Titled.IsNamed, h.ref]
  exact h.named

/-- The module of a group spells out what its supertype stands for. -/
theorem spells_group : c.Spells d.ref g.title.names (groupModule grammar g).text := by
  have htitle := title_isNamed h
  have hmembers := h.members.named
  have hrefs := h.members.refs
  have hassigned := lastAssigned?_group htitle hmembers grammar
  generalize hsorted : sortOn Titled.module g.members = ts at hassigned
  have hts : ∀ t ∈ ts, t.IsNamed c := by
    intro t ht
    rw [← hsorted] at ht
    exact hmembers t (mem_sortOn.mp ht)
  have hperm : (ts.map Titled.ref).Perm (c.expand d.ref) := by
    rw [← hrefs, ← hsorted]
    exact (sortOn_perm _ _).map _
  have hunion := unionNames_classes hts (hperm.nodup_iff.mpr (NodeRef.nodup_set _))
  constructor
  case members => rw [readMembers?_group htitle hmembers, hrefs]
  case types =>
    rw [readTypes?_group htitle hmembers, ← hrefs, List.map_map]
    rfl
  case union =>
    refine ⟨ts.map Titled.ref, ts.map (·.names.className), hperm, ?_, ?_⟩
    · rw [hassigned, Option.map_some, hunion]
    · rw [List.forall₂_map_left_iff, List.forall₂_map_right_iff, List.forall₂_same]
      exact fun t ht => ⟨t.names, hts t ht, rfl⟩
  case never =>
    rw [hassigned, Option.some.injEq]
    constructor
    · intro hnever
      rw [hnever] at hunion
      have hnone : ts = [] := List.map_eq_nil_iff.mp (hunion.symm.trans (if_pos rfl))
      rw [hnone] at hperm
      exact List.nil_perm.mp hperm
    · intro hnone
      rw [hnone] at hperm
      rw [List.map_eq_nil_iff.mp (List.perm_nil.mp hperm)]
      rfl

end

namespace Holds

variable {b : Built} {plan : Blueprint} {o : Output} (h : Holds b plan o)

include h

/-- A concrete type or a token has a module of its own, and its guard accepts it alone. -/
theorem accepts?_ref {r : NodeRef} (hr : r ∈ b.catalogue.refs)
    (hown : r.named = true → b.catalogue.isSupertype r = false) (node : Option NodeRef) :
    o.accepts? b.catalogue r node = some (decide (node = some r)) := by
  obtain ⟨names, hnames⟩ := Registry.get?_isSome hr
  obtain ⟨d, hd, href⟩ := Catalogue.mem_refs.mp hr
  have ht : Titled.IsNamed b.catalogue ⟨r, names⟩ := hnames
  have hsource : o.source? b.catalogue r = some (names, (ownModule plan.grammar ⟨r, names⟩).text) := by
    refine Output.source?_eq hnames ?_
    cases hkind : r.named with
    | true =>
      have hconcrete : d ∈ b.catalogue.concrete := by
        refine Catalogue.mem_concrete.mpr ⟨hd, ?_⟩
        rw [Descriptor.isConcrete, ← Catalogue.isSupertype_ref hd, href, hown hkind, hkind]
        rfl
      obtain ⟨n, hn, htitle⟩ := h.concrete_of_ref ht (List.mem_map.mpr ⟨d, hconcrete, href⟩)
      have htext := h.text?_module (planned_concrete hn)
      rwa [htitle] at htext
    | false =>
      have hanonymous : d ∈ b.catalogue.anonymous :=
        Catalogue.mem_anonymous.mpr ⟨hd, by rw [href, hkind]⟩
      exact h.text?_module (planned_token (h.token_of_ref ht (List.mem_map.mpr ⟨d, hanonymous, href⟩)))
  rw [Output.accepts?_eq hsource]
  exact accepts?_own ht plan.grammar node

/-- A supertype has a module of its own that spells it out, and its guard accepts its members alone. -/
theorem accepts?_supertype {d : Descriptor} (hd : d ∈ b.catalogue.supertypes)
    (hnamed : d.ref.named = true) :
    (∃ names text, o.source? b.catalogue d.ref = some (names, text) ∧
      b.catalogue.Spells d.ref names text) ∧
    ∀ node, o.accepts? b.catalogue d.ref node =
      some (decide (∃ r ∈ b.catalogue.expand d.ref, node = some r)) := by
  obtain ⟨g, hg, hgathers⟩ := exists_right h.covers.groups hd
  have hsource : o.source? b.catalogue d.ref =
      some (g.title.names, (groupModule plan.grammar g).text) := by
    refine Output.source?_eq hgathers.named ?_
    rw [hnamed]
    exact h.text?_module (planned_group hg)
  refine ⟨⟨_, _, hsource, spells_group hgathers plan.grammar⟩, fun node => ?_⟩
  rw [Output.accepts?_eq hsource, ← hgathers.members.refs]
  exact accepts?_group (title_isNamed hgathers) hgathers.members.named plan.grammar node

end Holds

/-- For every SDK that is generated: the module of a named supertype spells out what the supertype expands to.
Its guard accepts just these types, which is what the guards of its members accept together; the guard of any
other type accepts this type alone, so no two of them accept one node. Constants, unions and guards are read
line by line, whatever surrounds them; that the rest of a module is sound source is not said here. -/
theorem guards_exact {b : Built} {config : Option Json} {o : Output} (h : generate b config = .ok o) :
    (∀ d ∈ b.catalogue.supertypes, d.ref.named = true →
      (∃ names text, o.source? b.catalogue d.ref = some (names, text) ∧
        b.catalogue.Spells d.ref names text) ∧
      (∀ node, o.accepts? b.catalogue d.ref node =
        some (decide (∃ r ∈ b.catalogue.expand d.ref, node = some r))) ∧
      ∀ r, o.accepts? b.catalogue d.ref (some r) = some true ↔
        ∃ s ∈ b.catalogue.expand d.ref, o.accepts? b.catalogue s (some r) = some true) ∧
    (∀ d ∈ b.catalogue.concrete ++ b.catalogue.anonymous, ∀ node,
      o.accepts? b.catalogue d.ref node = some (decide (node = some d.ref))) ∧
    ∀ d ∈ b.catalogue.concrete ++ b.catalogue.anonymous,
      ∀ e ∈ b.catalogue.concrete ++ b.catalogue.anonymous, ∀ node,
        o.accepts? b.catalogue d.ref node = some true →
        o.accepts? b.catalogue e.ref node = some true → d = e := by
  obtain ⟨plan, hplan, _⟩ := generate_holds h
  have hown : ∀ d ∈ b.catalogue.concrete ++ b.catalogue.anonymous, d ∈ b.catalogue.descriptors ∧
      ∀ node, o.accepts? b.catalogue d.ref node = some (decide (node = some d.ref)) := by
    intro d hd
    rcases List.mem_append.mp hd with hd | hd
    · have hstands := Catalogue.stands_of_mem_concrete hd
      exact ⟨(Catalogue.mem_concrete.mp hd).1, hplan.accepts?_ref hstands.1 fun _ => hstands.2⟩
    · obtain ⟨hd, htoken⟩ := Catalogue.mem_anonymous.mp hd
      refine ⟨hd, hplan.accepts?_ref (Catalogue.mem_refs.mpr ⟨d, hd, rfl⟩) fun hnamed => ?_⟩
      rw [htoken] at hnamed
      cases hnamed
  refine ⟨fun d hd hnamed => ?_, fun d hd => (hown d hd).2, fun d hd e he node hnode hnode' => ?_⟩
  · obtain ⟨hspells, haccepts⟩ := hplan.accepts?_supertype hd hnamed
    refine ⟨hspells, haccepts, fun r => ?_⟩
    have href := Catalogue.mem_refs.mpr ⟨d, (Catalogue.mem_supertypes.mp hd).1, rfl⟩
    have hmember : ∀ s ∈ b.catalogue.expand d.ref,
        o.accepts? b.catalogue s (some r) = some (decide (some r = some s)) := by
      intro s hs
      have hstands := Catalogue.expand_stands hplan.closed href s hs
      exact hplan.accepts?_ref hstands.1 (fun _ => hstands.2) (some r)
    rw [haccepts, Option.some.injEq, decide_eq_true_iff]
    refine exists_congr fun s => and_congr_right fun hs => ?_
    rw [hmember s hs]
    exact decide_eq_true_iff.symm.trans (Option.some_inj (b := true)).symm
  · obtain ⟨hd, haccepts⟩ := hown d hd
    obtain ⟨he, haccepts'⟩ := hown e he
    rw [haccepts, Option.some.injEq, decide_eq_true_iff] at hnode
    rw [haccepts', Option.some.injEq, decide_eq_true_iff] at hnode'
    have href : d.ref = e.ref := Option.some.inj (hnode.symm.trans hnode')
    have hfound := Catalogue.get?_eq_some he
    rw [← href, Catalogue.get?_eq_some hd] at hfound
    exact Option.some.inj hfound

/-- The guard of literals accepts the null token, as its own guard does, and no node of this name. -/
theorem guards_exact_literals : ∃ o, generate literals none = .ok o ∧
    o.accepts? literals.catalogue ⟨"literal", true⟩ (some ⟨"null", false⟩) = some true ∧
    o.accepts? literals.catalogue ⟨"null", false⟩ (some ⟨"null", false⟩) = some true ∧
    o.accepts? literals.catalogue ⟨"literal", true⟩ (some ⟨"null", true⟩) = some false := by
  obtain ⟨o, ho⟩ := generate_literals
  obtain ⟨hgroups, hown, _⟩ := guards_exact ho
  have hfound : literals.catalogue.expandFrom [] [] [⟨"literal", true⟩] =
      [⟨"number", true⟩, ⟨"null", false⟩] := by cbv
  have hmember (r : NodeRef) : r ∈ literals.catalogue.expand ⟨"literal", true⟩ ↔
      r ∈ [(⟨"number", true⟩ : NodeRef), ⟨"null", false⟩] := by
    rw [Catalogue.expand, NodeRef.mem_set, hfound]
  obtain ⟨_, haccepts, _⟩ :=
    hgroups _ (Catalogue.mem_supertypes.mpr ⟨List.mem_cons_self, rfl⟩) rfl
  have htoken := hown _ (List.mem_append_right _ (Catalogue.mem_anonymous.mpr
    ⟨.tail _ (.tail _ (.head _)), rfl⟩))
  refine ⟨o, ho, ?_, htoken _, ?_⟩
  · rw [haccepts]
    simp only [hmember]
    decide
  · rw [haccepts]
    simp only [hmember]
    decide

end Sdk

end TraversalSdk
