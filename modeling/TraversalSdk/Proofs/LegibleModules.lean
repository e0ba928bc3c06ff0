import TraversalSdk.Proofs.WordedPlans

namespace TraversalSdk.Sdk
open Source Text Naming

variable {c : Catalogue} {plan : Blueprint}

theorem isName_type : IsName "TYPE" := isName_ofList (by decide)

theorem isAnnotation_final : IsAnnotation "Final" := isAnnotation_ofList (by decide)

theorem isAnnotation_typeAlias : IsAnnotation "TypeAlias" := isAnnotation_ofList (by decide)

/-- A set of texts stands on one line, whatever the texts are. -/
theorem unbroken_texts (texts : List String) : Unbroken (Value.frozenset (Value.texts texts)).source := by
  refine unbroken_source _ (Value.areLiteral_iff.mpr ?_)
  rw [Value.texts, List.forall_mem_map]
  exact fun _ _ => rfl

/-- The list of exports is legible. -/
theorem legible_exporting (names : List String) : ∀ s ∈ exporting names, s.Legible := by
  rw [exporting, List.forall_mem_cons, List.forall_mem_singleton]
  exact ⟨legible_gap 2, legible_exportTuple names⟩

section

variable {t : Titled} (h : t.IsNamed c)

include h

/-- An import of a class is legible, since the class has a name. -/
theorem legible_classImport {source : String} (hs : IsSource source) :
    (Stmt.importNames source [t.names.className]).Legible :=
  legible_importNames hs (importable_of_words (by simp)
    (List.forall_mem_singleton.mpr h.className_word))

theorem legible_titleImport {source : String} (hs : IsSource source) :
    (Stmt.importNames source [t.names.className, t.names.guard]).Legible :=
  legible_importNames hs (importable_of_words (by simp) (List.forall_mem_cons.mpr
    ⟨h.className_word, List.forall_mem_singleton.mpr h.guard_word⟩))

/-- The protocol of a type is legible. -/
theorem legible_protocol : (Stmt.define t.names.className (protocolSteps t)).Legible := by
  have hclass := h.className_word.toIsName
  have hheader : Unbroken ("class " ++ t.names.className ++ "(_SyntaxNode, Protocol)") :=
    (Unbroken.append (by decide) hclass.unbroken).append (unbroken_ofList (by decide))
  have htype : Unbroken ("def type(self) -> Literal[" ++ literal t.ref.type ++ "]: ...") :=
    (Unbroken.append (unbroken_ofList (by decide)) (unbroken_literal _)).append (by decide)
  have hnamed : Unbroken ("def is_named(self) -> Literal[" ++ (Value.flag t.ref.named).source
      ++ "]: ...") :=
    (Unbroken.append (unbroken_ofList (by decide)) (unbroken_source _ rfl)).append (by decide)
  have hproperty : Unbroken "@property" := by decide
  exact legible_block "_SyntaxNode, Protocol)".toList (.inl rfl) hclass (by simp) hheader
    ⟨trivial, trivial, hproperty, htype, trivial, hproperty, hnamed, trivial⟩

/-- A guard is legible if its test keeps to one line. -/
theorem legible_guard {summary test : String} (ht : Unbroken test) :
    (Stmt.define t.names.guard (guardSteps t summary test)).Legible := by
  have hguard := h.guard_word.toIsName
  have hheader : Unbroken ("def " ++ t.names.guard ++ "(node: _SyntaxNode | None) -> TypeGuard["
      ++ t.names.className ++ "]") :=
    (((Unbroken.append (by decide) hguard.unbroken).append (unbroken_ofList (by decide))).append
      h.className_word.unbroken).append (by decide)
  have hreturn : Unbroken ("return node is not None and " ++ test) :=
    Unbroken.append (unbroken_ofList (by decide)) ht
  exact legible_block ("node: _SyntaxNode | None) -> TypeGuard[".toList ++
    (t.names.className.toList ++ [']'])) (.inr rfl) hguard (by simp) hheader
    ⟨trivial, hreturn, trivial⟩

/-- The module of a concrete type or of a token is legible. -/
theorem legible_ownModule (grammar : String) : ∀ s ∈ (ownModule grammar t).stmts, s.Legible := by
  have htest : Unbroken (ownTest t) := by
    refine Unbroken.append ?_ (unbroken_ofList (by decide))
    split <;> exact unbroken_ofList (by decide)
  have hsource : IsSource ((if t.ref.named then ".." else "...") ++ "types") := by
    refine IsSource.append ?_ (isSource_ofList (by decide))
    split <;> exact isSource_ofList (by decide)
  refine List.forall_mem_append.mpr ⟨?_, legible_exporting _⟩
  simp only [List.forall_mem_cons, List.not_mem_nil, false_implies, implies_true, and_true]
  refine ⟨?_, legible_gap 1, ?_, legible_gap 2, ?_, legible_gap 2, legible_protocol h, legible_gap 2,
    legible_guard h htest⟩
  · exact legible_importWritten (by repeat constructor) (by decide) (by decide)
  · exact legible_importAs hsource (isName_ofList (by decide)) (isName_ofList (by decide))
  · exact legible_assign isName_type isAnnotation_final (by decide) (unbroken_literal _) (by simp)

end

/-- The module of a supertype is legible. -/
theorem legible_groupModule {g : Group} (h : g.title.IsNamed c)
    (hm : ∀ t ∈ g.members, t.IsNamed c) (grammar : String) :
    ∀ s ∈ (groupModule grammar g).stmts, s.Legible := by
  have hsorted : ∀ t ∈ sortOn Titled.module g.members, t.IsNamed c :=
    fun t ht => hm t (mem_sortOn.mp ht)
  have hdot : IsSource "." := isSource_ofList (by decide)
  have hmembers : Unbroken (Value.frozenset (g.members.map memberValue)).source := by
    refine unbroken_source _ (Value.areLiteral_iff.mpr ?_)
    rw [List.forall_mem_map]
    exact fun _ _ => rfl
  have hunion : Unbroken (unionType ((sortOn Titled.module g.members).map (·.names.className)) false) := by
    refine unbroken_unionType ?_ false
    rw [List.forall_mem_map]
    exact fun t ht => (hsorted t ht).className_word.unbroken
  have himports : ∀ s ∈ (sortOn Titled.module g.members).map fun t =>
      Stmt.importNames ("." ++ t.module) [t.names.className], s.Legible := by
    rw [List.forall_mem_map]
    exact fun t ht => legible_classImport (hsorted t ht) (hdot.append (hsorted t ht).source_module)
  refine List.forall_mem_append.mpr ⟨List.forall_mem_append.mpr ⟨List.forall_mem_append.mpr
    ⟨?_, himports⟩, ?_⟩, legible_exporting _⟩
  · simp only [List.forall_mem_cons, List.not_mem_nil, false_implies, implies_true, and_true]
    refine ⟨?_, legible_gap 1, ?_⟩
    · exact legible_importWritten (by repeat constructor) (by decide) (by decide)
    · exact legible_importAs (isSource_ofList (by decide)) (isName_ofList (by decide))
        (isName_ofList (by decide))
  · simp only [List.forall_mem_cons, List.not_mem_nil, false_implies, implies_true, and_true]
    refine ⟨legible_gap 2, ?_, ?_, legible_gap 1, ?_, legible_gap 2, ?_⟩
    · exact legible_assign (isName_ofList (by decide)) isAnnotation_final (by decide)
        (unbroken_texts _) (by simp)
    · exact legible_assign (isName_ofList (by decide)) isAnnotation_final (by decide) hmembers
        (by simp)
    · refine legible_assign h.className_word.toIsName isAnnotation_typeAlias
        h.className_word.leading hunion fun he => ?_
      exact absurd he h.className_ne_all
    · exact legible_guard h (unbroken_ofList (by decide))

/-- A module that passes on node types is legible, and so are the constants that list them. -/
theorem legible_barrel {titles : List Titled} (h : ∀ t ∈ titles, t.IsNamed c)
    {constants : List (String × List String)}
    (hc : ∀ k ∈ constants, IsName k.1 ∧ k.1 ∉ "__all__" :: leadingWords) (grammar summary : String) :
    ∀ s ∈ (barrel grammar summary titles constants).stmts, s.Legible := by
  have hsorted : ∀ t ∈ sortOn (·.names.module) titles, t.IsNamed c :=
    fun t ht => h t (mem_sortOn.mp ht)
  have hdot : IsSource "." := isSource_ofList (by decide)
  have himports : ∀ s ∈ (sortOn (·.names.module) titles).map fun t =>
      Stmt.importNames ("." ++ t.names.module) [t.names.className, t.names.guard], s.Legible := by
    rw [List.forall_mem_map]
    exact fun t ht => legible_titleImport (hsorted t ht) (hdot.append (hsorted t ht).module_word.source)
  refine List.forall_mem_append.mpr ⟨List.forall_mem_append.mpr ⟨List.forall_mem_append.mpr
    ⟨List.forall_mem_append.mpr ⟨?_, himports⟩, List.forall_mem_singleton.mpr (legible_gap 2)⟩, ?_⟩,
    legible_exporting _⟩
  · rw [List.forall_mem_cons, List.forall_mem_singleton]
    exact ⟨legible_importWritten (by repeat constructor) (by decide) (by decide), legible_gap 1⟩
  · rw [List.forall_mem_map]
    intro k hk
    obtain ⟨hname, hwords⟩ := hc k hk
    obtain ⟨hall, hleading⟩ := not_or.mp (mt List.mem_cons.mpr hwords)
    exact legible_assign hname isAnnotation_final hleading (unbroken_texts _) fun he => absurd he hall

/-- The package of nodes is legible. -/
theorem legible_nodesBarrel (h : plan.Worded c) : ∀ s ∈ (nodesBarrel plan).stmts, s.Legible := by
  refine legible_barrel (c := c) (List.forall_mem_append.mpr ⟨?_, ?_⟩) ?_ _ _
  · rw [List.forall_mem_map]
    exact fun n hn => (h.concrete n hn).title
  · rw [List.forall_mem_map]
    exact h.groups
  · simp only [List.forall_mem_cons, List.not_mem_nil, false_implies, implies_true, and_true]
    exact ⟨⟨isName_ofList (by decide), by decide⟩, isName_ofList (by decide), by decide⟩

theorem legible_anonymousBarrel (h : plan.Worded c) :
    ∀ s ∈ (anonymousBarrel plan).stmts, s.Legible := by
  refine legible_barrel h.tokens ?_ _ _
  have hword : "ANONYMOUS_TYPES" ∉ "__all__" :: leadingWords := by decide
  exact List.forall_mem_singleton.mpr ⟨isName_ofList (by decide), hword⟩

/-- The fixed parts of an SDK are legible. Their lines are known, so this is checked character by character.
-/
theorem legible_treeTypes : ∀ s ∈ treeTypes, s.Legible := by
  simp only [treeTypes, List.forall_mem_cons, List.not_mem_nil, false_implies, implies_true, and_true]
  refine ⟨?_, ?_, legible_gap 2, ?_, legible_gap 2, ?_, legible_gap 2, ?_, legible_gap 2,
    legible_exportTuple _⟩
  · exact legible_importWritten (by repeat constructor) (by decide) (by decide)
  · exact legible_importWritten (by repeat constructor) (by decide) (by decide)
  all_goals exact legible_written (by repeat constructor) (by decide)

theorem legible_expectationErrors : ∀ s ∈ expectationErrors, s.Legible := by
  simp only [expectationErrors, List.forall_mem_cons, List.not_mem_nil, false_implies, implies_true,
    and_true]
  refine ⟨?_, ?_, legible_gap 2, ?_, legible_gap 2, ?_, legible_gap 2, legible_exportTuple _⟩
  · exact legible_importWritten (by repeat constructor) (by decide) (by decide)
  · exact legible_importWritten (by repeat constructor) (by decide) (by decide)
  all_goals exact legible_written (by repeat constructor) (by decide)

theorem legible_nodeSearch : ∀ s ∈ nodeSearch, s.Legible := by
  simp only [nodeSearch, List.forall_mem_cons, List.not_mem_nil, false_implies, implies_true, and_true]
  refine ⟨?_, legible_gap 2, ?_, legible_gap 2, ?_, legible_gap 2, ?_, legible_gap 2,
    legible_exportTuple _⟩
  · exact legible_importWritten (by repeat constructor) (by decide) (by decide)
  all_goals exact legible_written (by repeat constructor) (by decide)

theorem legible_cursorBase : ∀ s ∈ cursorBase, s.Legible := by
  have hregistry : (Stmt.assign "_REGISTRY" "dict[str, type[TreeCursor]]"
      (.expression "\x7b\x7d")).Legible :=
    legible_assign (isName_ofList (by decide)) (isAnnotation_ofList (by decide)) (by decide)
      (unbroken_ofList (by decide)) (by simp)
  simp only [cursorBase, List.forall_mem_cons, List.not_mem_nil, false_implies, implies_true, and_true]
  refine ⟨?_, legible_gap 1, ?_, legible_gap 2, hregistry, legible_gap 2, ?_, legible_gap 2, ?_,
    legible_gap 2, ?_, legible_gap 2, ?_, legible_gap 2, ?_, legible_gap 2, legible_exportTuple _⟩
  · exact legible_importWritten (by repeat constructor) (by decide) (by decide)
  · exact legible_importWritten (by repeat constructor) (by decide) (by decide)
  all_goals exact legible_written (by repeat constructor) (by decide)

theorem legible_navigatorBase : ∀ s ∈ navigatorBase, s.Legible := by
  simp only [navigatorBase, List.forall_mem_cons, List.not_mem_nil, false_implies, implies_true,
    and_true]
  refine ⟨?_, legible_gap 2, ?_⟩
  · exact legible_assign (isName_ofList (by decide)) (isAnnotation_ofList (by decide)) (by decide)
      (unbroken_ofList (by decide)) (by simp)
  · exact legible_written (by repeat constructor) (by decide)

theorem legible_navigatorWrap : ∀ s ∈ navigatorWrap, s.Legible := by
  rw [navigatorWrap, List.forall_mem_singleton]
  exact legible_written (by repeat constructor) (by decide)

/-- The module of tables is legible, whatever the graph holds. -/
theorem legible_mapsModule (plan : Blueprint) : ∀ s ∈ (mapsModule plan).stmts, s.Legible := by
  have hliteral {rows : List (String × Value)} (h : ∀ row ∈ rows, row.2.isLiteral = true) :
      ∀ row ∈ rows, Unbroken row.2.source := fun row hrow => unbroken_source _ (h row hrow)
  have hreach (d : Direction) : (reachTable plan.graph d).Legible := by
    refine legible_table (declares_constant d).toIsName (declares_constant d).typed
      ?_ (hliteral (isLiteral_reachRows plan.graph d))
    cases d <;> decide
  have htransitions : ∀ row ∈ transitionRows, Unbroken row.2.source := by
    rw [transitionRows, List.forall_mem_map]
    exact fun d _ => (declares_constant d).toIsName.unbroken
  refine List.forall_mem_append.mpr ⟨List.forall_mem_append.mpr ⟨List.forall_mem_append.mpr ⟨?_, ?_⟩, ?_⟩,
    legible_exporting _⟩
  · simp only [List.forall_mem_cons, List.not_mem_nil, false_implies, implies_true, and_true]
    refine ⟨?_, ?_, ?_, legible_gap 2⟩
    all_goals exact legible_importWritten (by repeat constructor) (by decide) (by decide)
  · rw [List.forall_mem_flatMap]
    exact fun d _ => List.forall_mem_cons.mpr ⟨hreach d, List.forall_mem_singleton.mpr (legible_gap 1)⟩
  · simp only [List.forall_mem_cons, List.not_mem_nil, false_implies, implies_true, and_true]
    refine ⟨?_, legible_gap 1, ?_, legible_gap 2, ?_⟩
    · exact legible_table declares_transitions.toIsName declares_transitions.typed
        (by decide) htransitions
    · exact legible_table declares_sequences.toIsName declares_sequences.typed
        (by decide) (hliteral (isLiteral_sequenceRows plan.sequences))
    · exact legible_function (by decide) (by decide) ⟨trivial, unbroken_ofList (by decide),
        unbroken_ofList (by decide), trivial⟩

/-- The cursor class of a type is legible. -/
theorem legible_cursorClass {n : ConcreteNode} (h : n.Worded c) :
    (Stmt.define n.title.cursorClass (cursorClassSteps n)).Legible := by
  have hclass := h.title.cursorClass_name
  have hheader : Unbroken ("class " ++ n.title.cursorClass ++ "(TreeCursor)") :=
    (Unbroken.append (by decide) hclass.unbroken).append (by decide)
  exact legible_block "TreeCursor)".toList (.inl rfl) hclass (by simp) hheader
    (areUnbroken_classBody h.spelled)

/-- The module of cursor classes is legible. -/
theorem legible_conditionalsModule (h : plan.Worded c) :
    ∀ s ∈ (conditionalsModule plan).stmts, s.Legible := by
  have hnodes : IsSource "..nodes." := isSource_ofList (by decide)
  have hrows : ∀ row ∈ plan.concrete.map (fun n => (n.title.ref.type,
      Value.expression n.title.cursorClass)), Unbroken row.2.source := by
    rw [List.forall_mem_map]
    exact fun n hn => (h.concrete n hn).title.cursorClass_name.unbroken
  refine List.forall_mem_append.mpr ⟨List.forall_mem_append.mpr ⟨List.forall_mem_append.mpr
    ⟨List.forall_mem_append.mpr ⟨?_, ?_⟩, ?_⟩, ?_⟩, ?_⟩
  · simp only [List.forall_mem_cons, List.not_mem_nil, false_implies, implies_true, and_true]
    refine ⟨?_, ?_, legible_gap 1⟩
    all_goals exact legible_importWritten (by repeat constructor) (by decide) (by decide)
  · rw [List.forall_mem_map]
    intro n hn
    have htitle := (h.concrete n hn).title
    exact legible_classImport htitle (hnodes.append htitle.module_word.source)
  · exact List.forall_mem_singleton.mpr
      (legible_importWritten (by repeat constructor) (by decide) (by decide))
  · rw [List.forall_mem_flatMap]
    exact fun n hn => List.forall_mem_cons.mpr ⟨legible_gap 2,
      List.forall_mem_singleton.mpr (legible_cursorClass (h.concrete n hn))⟩
  · simp only [List.forall_mem_cons, List.not_mem_nil, false_implies, implies_true, and_true]
    refine ⟨legible_gap 2, ?_, legible_gap 2, legible_exportTuple _⟩
    exact legible_table declares_cursorClasses.toIsName
      declares_cursorClasses.typed (by decide) hrows

theorem legible_cursorBarrel (h : plan.Worded c) : ∀ s ∈ (cursorBarrel plan).stmts, s.Legible := by
  have hclasses : ∀ s ∈ sortTexts ("CURSOR_CLASSES" :: plan.concrete.map (·.title.cursorClass)),
      Unbroken s := by
    intro s hs
    rcases List.mem_cons.mp (mem_sortOn.mp hs) with rfl | hs
    · decide
    · obtain ⟨n, hn, rfl⟩ := List.mem_map.mp hs
      exact (h.concrete n hn).title.cursorClass_name.unbroken
  refine List.forall_mem_append.mpr ⟨?_, legible_exporting _⟩
  rw [List.forall_mem_map]
  simp only [cursorImports, List.forall_mem_cons, List.not_mem_nil, false_implies, implies_true,
    and_true]
  refine ⟨legible_importSpread (isSource_ofList (by decide)) hclasses,
    legible_importSpread (isSource_ofList (by decide)) ?_,
    legible_importSpread (isSource_ofList (by decide)) ?_⟩
  all_goals decide

/-- The alias, the constant and the guard of a category of tokens are names. -/
theorem isName_category (k : TokenCategory) :
    IsName k.typeAlias ∧ IsName k.constant ∧ IsName k.guard := by
  cases k <;> refine ⟨⟨by decide, List.all_eq_true.mp (by decide)⟩,
    ⟨by decide, List.all_eq_true.mp (by decide)⟩, by decide,
    List.all_eq_true.mp (by decide)⟩

theorem category_words (k : TokenCategory) :
    k.typeAlias ∉ "__all__" :: leadingWords ∧ k.constant ∉ "__all__" :: leadingWords := by
  cases k <;> decide

theorem unbroken_literalType (texts : List String) : Unbroken (literalType texts) := by
  unfold literalType
  split
  · decide
  · refine (Unbroken.append (by decide) (unbroken_intercalate (by decide) ?_)).append (by decide)
    rw [List.forall_mem_map]
    exact fun s _ => unbroken_literal s

/-- The guard of a category is legible. -/
theorem legible_categoryGuard (k : TokenCategory) : ∀ s ∈ categoryGuard k, s.Legible := by
  obtain ⟨halias, hconstant, hguard⟩ := isName_category k
  have hheader : Unbroken ("def " ++ k.guard ++ "(text: str) -> TypeGuard[" ++ k.typeAlias ++ "]") :=
    (((Unbroken.append (by decide) hguard.unbroken).append (by decide)).append
      halias.unbroken).append (by decide)
  have hreturn : Unbroken ("return text in " ++ k.constant) :=
    Unbroken.append (by decide) hconstant.unbroken
  rw [categoryGuard, List.forall_mem_cons, List.forall_mem_singleton]
  exact ⟨legible_gap 2, legible_block ("text: str) -> TypeGuard[".toList ++
    (k.typeAlias.toList ++ [']'])) (.inr rfl) hguard (by simp) hheader
    ⟨trivial, hreturn, trivial⟩⟩

theorem legible_categorize : (Stmt.define "categorize" categorizeSteps).Legible := by
  have hif (k : TokenCategory) : Unbroken ("if text in " ++ k.constant) ∧
      Unbroken ("return " ++ literal k.word) :=
    ⟨Unbroken.append (by decide) (isName_category k).2.1.unbroken,
      Unbroken.append (by decide) (unbroken_literal _)⟩
  refine legible_function (by decide) (by decide) ?_
  have hnone : Unbroken "return None" := by decide
  exact ⟨trivial, ⟨(hif _).1, (hif _).2, trivial⟩, ⟨(hif _).1, (hif _).2, trivial⟩,
    ⟨(hif _).1, (hif _).2, trivial⟩, hnone, trivial⟩

/-- The module of token categories is legible, whatever the tokens are. -/
theorem legible_tokensModule (plan : Blueprint) : ∀ s ∈ (tokensModule plan).stmts, s.Legible := by
  have hset : IsAnnotation "Final[frozenset[str]]" := isAnnotation_ofList (by decide)
  have hunion : Unbroken (" | ".intercalate (TokenCategory.all.map TokenCategory.constant)) := by
    refine unbroken_intercalate (by decide) ?_
    rw [List.forall_mem_map]
    exact fun k _ => (isName_category k).2.1.unbroken
  have hexports : tokenExports ≠ [] :=
    List.ne_nil_of_mem (mem_sortOn.mpr (List.mem_append_right _ List.mem_cons_self))
  simp only [tokensModule, List.forall_mem_append, List.forall_mem_map, List.forall_mem_flatMap,
    List.forall_mem_cons, List.not_mem_nil, false_implies, implies_true, and_true]
  refine ⟨⟨⟨⟨⟨⟨⟨?_, legible_gap 2⟩, fun k _ => ?_⟩, legible_gap 1⟩, fun k _ => ?_⟩, ?_, legible_gap 2,
    legible_categorize⟩, fun k _ => legible_categoryGuard k⟩, legible_gap 2, legible_exportLine hexports⟩
  · exact legible_importWritten (by repeat constructor) (by decide) (by decide)
  · obtain ⟨hall, hleading⟩ := not_or.mp (mt List.mem_cons.mpr (category_words k).1)
    exact legible_assign (isName_category k).1 isAnnotation_typeAlias hleading
      (unbroken_literalType _) fun he => absurd he hall
  · obtain ⟨hall, hleading⟩ := not_or.mp (mt List.mem_cons.mpr (category_words k).2)
    exact legible_assign (isName_category k).2.1 hset hleading (unbroken_texts _)
      fun he => absurd he hall
  · exact legible_assign (isName_ofList (by decide)) hset (by decide) hunion (by simp)

/-- A method keeps to its lines if its name, its result and its code do. -/
theorem areUnbroken_method {name result summary code : String} (hn : Unbroken name)
    (hr : Unbroken result) (hc : Unbroken code) :
    ∀ s ∈ method name result summary code, s.IsUnbroken := by
  have hheader : Unbroken ("def " ++ name ++ "(self) -> " ++ result) :=
    ((Unbroken.append (by decide) hn).append (by decide)).append hr
  have hreturn : Unbroken ("return " ++ code) := Unbroken.append (by decide) hc
  rw [← Step.areUnbroken_iff]
  exact ⟨trivial, ⟨hheader, trivial, hreturn, trivial⟩, trivial⟩

theorem unbroken_baseCall {name : String} {arguments : List String} (hn : Unbroken name)
    (ha : ∀ s ∈ arguments, Unbroken s) : Unbroken (baseCall name arguments) :=
  (((Unbroken.append (by decide) hn).append (by decide)).append
    (unbroken_intercalate (by decide) ha)).append (by decide)

theorem unbroken_expected (targets : List Titled) : Unbroken (expected targets) := by
  refine unbroken_tupleText ?_
  rw [List.forall_mem_map]
  exact fun s _ => unbroken_literal s

section

variable {a : TitledAccessor} (hs : Unbroken a.accessor.stem) (ht : ∀ t ∈ a.targets, t.IsNamed c)

include hs ht

/-- The methods of a field keep to their lines, however the field is called. -/
theorem areUnbroken_fieldSteps (field : String) : ∀ s ∈ fieldSteps a field, s.IsUnbroken := by
  have hresult : Unbroken (fieldType a) := by
    unfold fieldType
    split
    · decide
    · refine unbroken_unionType ?_ false
      rw [List.forall_mem_map]
      exact fun t hm => (ht t hm).unbroken_navigatorClass
  have hlist : Unbroken ("list[" ++ fieldType a ++ "]") :=
    (Unbroken.append (by decide) hresult).append (by decide)
  have hoptional : Unbroken (unionType [fieldType a] true) :=
    unbroken_unionType (List.forall_mem_singleton.mpr hresult) true
  have hraise : Unbroken (a.accessor.stem ++ "_or_raise") := hs.append (by decide)
  have hplace : ∀ s ∈ [literal field, literal (a.accessor.stem ++ "()")], Unbroken s :=
    List.forall_mem_cons.mpr ⟨unbroken_literal _, List.forall_mem_singleton.mpr (unbroken_literal _)⟩
  have hexpected : ∀ s ∈ [literal field, literal (a.accessor.stem ++ "()")] ++ [expected a.targets],
      Unbroken s :=
    List.forall_mem_append.mpr ⟨hplace, List.forall_mem_singleton.mpr (unbroken_expected _)⟩
  unfold fieldSteps
  dsimp only
  split
  · exact List.forall_mem_append.mpr
      ⟨areUnbroken_method hs hlist (unbroken_baseCall (by decide) hplace),
        areUnbroken_method hraise hlist (unbroken_baseCall (by decide) hexpected)⟩
  · exact List.forall_mem_append.mpr
      ⟨areUnbroken_method hs hoptional (unbroken_baseCall (by decide) hplace),
        areUnbroken_method hraise hresult (unbroken_baseCall (by decide) hexpected)⟩

theorem areUnbroken_childSteps (type : String) : ∀ s ∈ childSteps a type, s.IsUnbroken := by
  have hresult : Unbroken (" | ".intercalate (a.targets.map Titled.navigatorClass)) := by
    refine unbroken_intercalate (by decide) ?_
    rw [List.forall_mem_map]
    exact fun t hm => (ht t hm).unbroken_navigatorClass
  have hlist := (Unbroken.append (s := "list[") (by decide) hresult).append (t := "]") (by decide)
  have hplace : ∀ s ∈ [literal type, literal (a.accessor.stem ++ "()")], Unbroken s :=
    List.forall_mem_cons.mpr ⟨unbroken_literal _, List.forall_mem_singleton.mpr (unbroken_literal _)⟩
  have hraise : Unbroken (a.accessor.stem ++ "_or_raise") := hs.append (by decide)
  have hall : Unbroken (a.accessor.stem ++ "_all") := hs.append (by decide)
  unfold childSteps
  dsimp only
  refine List.forall_mem_append.mpr ⟨List.forall_mem_append.mpr
    ⟨areUnbroken_method hs (hresult.append (by decide)) (unbroken_baseCall (by decide) hplace),
      areUnbroken_method hraise hresult (unbroken_baseCall (by decide) hplace)⟩, ?_⟩
  split
  · exact areUnbroken_method hall hlist (unbroken_baseCall (by decide) hplace)
  · simp

end

/-- The navigator of a type is legible. -/
theorem legible_navigatorClass {n : ConcreteNode} (h : n.Worded c) :
    (Stmt.define n.title.navigatorClass (navigatorSteps n)).Legible := by
  have hnavigator := h.title.navigatorClass_name h.named
  have hheader : Unbroken ("class " ++ n.title.navigatorClass ++ "(Navigator[" ++
      n.title.names.className ++ "])") :=
    (((Unbroken.append (by decide) hnavigator.unbroken).append (by decide)).append
      h.title.className_word.unbroken).append (by decide)
  have htype : Unbroken ("node_type: ClassVar[str | None] = " ++ literal n.title.ref.type) :=
    Unbroken.append (unbroken_ofList (by decide)) (unbroken_literal _)
  refine legible_block ("Navigator[".toList ++ (n.title.names.className.toList ++ "])".toList))
    (.inl rfl) hnavigator (by simp) hheader (Step.areUnbroken_iff.mpr ?_)
  refine List.forall_mem_append.mpr ⟨Step.areUnbroken_iff.mp ⟨trivial, trivial, htype, trivial⟩, ?_⟩
  rw [List.forall_mem_flatMap]
  intro a ha
  unfold accessorSteps
  split
  · exact areUnbroken_fieldSteps (h.stems a ha) (h.targets a ha) _
  · exact areUnbroken_childSteps (h.stems a ha) (h.targets a ha) _

theorem legible_create {root : Option Titled} (h : ∀ t ∈ root, t.IsNamed c) :
    (Stmt.define "create" (createSteps root)).Legible := by
  have htype : Unbroken (rootType root) := by
    cases root with
    | none => exact unbroken_ofList (by decide)
    | some t => exact (h t rfl).unbroken_navigatorClass
  have hheader : Unbroken ("def create(tree: SyntaxTree) -> " ++ rootType root) :=
    Unbroken.append (unbroken_ofList (by decide)) htype
  exact legible_block ("tree: SyntaxTree) -> ".toList ++ (rootType root).toList) (.inr rfl)
    (isName_ofList (by decide)) (by simp) hheader
    ⟨trivial, unbroken_ofList (by decide), ⟨unbroken_ofList (by decide), unbroken_ofList (by decide),
      trivial⟩, unbroken_ofList (by decide), trivial⟩

/-- The module of navigators is legible. -/
theorem legible_navigatorModule (h : plan.Worded c) :
    ∀ s ∈ (navigatorModule plan).stmts, s.Legible := by
  have hnodes : IsSource ".nodes." := isSource_ofList (by decide)
  have hrows : ∀ row ∈ plan.concrete.map (fun n => (n.title.ref.type,
      Value.expression n.title.navigatorClass)), Unbroken row.2.source := by
    rw [List.forall_mem_map]
    exact fun n hn => (h.concrete n hn).title.unbroken_navigatorClass
  have hroot : Unbroken (Value.ofName? (plan.root.map (·.ref.type))).source :=
    unbroken_source _ (isLiteral_ofName? _)
  simp only [navigatorModule, List.forall_mem_append, List.forall_mem_map, List.forall_mem_flatMap,
    List.forall_mem_cons, List.not_mem_nil, false_implies, implies_true, and_true]
  refine ⟨⟨⟨⟨⟨⟨⟨⟨?_, ?_, ?_, legible_gap 1, ?_⟩, fun n hn => ?_⟩, ?_, legible_gap 2⟩,
    legible_navigatorBase⟩, fun n hn => ⟨legible_gap 2, legible_navigatorClass (h.concrete n hn)⟩⟩,
    legible_gap 2, ?_, ?_, legible_gap 2⟩, legible_navigatorWrap⟩, legible_gap 2,
    legible_create h.root, legible_gap 2, legible_exportSpread _⟩
  · exact legible_importWritten (by repeat constructor) (by decide) (by decide)
  · exact legible_importWritten (by repeat constructor) (by decide) (by decide)
  · exact legible_importWritten (by repeat constructor) (by decide) (by decide)
  · exact legible_importWritten (by repeat constructor) (by decide) (by decide)
  · have htitle := (h.concrete n hn).title
    exact legible_classImport htitle (hnodes.append htitle.module_word.source)
  · exact legible_importWritten (by repeat constructor) (by decide) (by decide)
  · exact legible_table (isName_ofList (by decide)) (isAnnotation_ofList (by decide)) (by decide) hrows
  · exact legible_assign (isName_ofList (by decide)) (isAnnotation_ofList (by decide)) (by decide) hroot
      (by simp)

theorem unbroken_titleExports {titles : List Titled} (h : ∀ t ∈ titles, t.IsNamed c) :
    ∀ s ∈ titleExports titles, Unbroken s := by
  intro s hs
  obtain ⟨t, ht, hs⟩ := List.mem_flatMap.mp (mem_sortOn.mp hs)
  rcases List.mem_pair.mp hs with rfl | rfl
  · exact (h t ht).className_word.unbroken
  · exact (h t ht).guard_word.unbroken

/-- The imports of the root are legible. -/
theorem legible_rootImports (h : plan.Worded c) :
    ∀ i ∈ rootImports plan, (Stmt.importSpread i.1 i.2).Legible := by
  have hlisted : ∀ t ∈ plan.concrete.map ConcreteNode.title ++ plan.groups.map Group.title,
      t.IsNamed c := by
    refine List.forall_mem_append.mpr ⟨?_, ?_⟩
    · rw [List.forall_mem_map]
      exact fun n hn => (h.concrete n hn).title
    · rw [List.forall_mem_map]
      exact h.groups
  simp only [rootImports, List.forall_mem_cons, List.not_mem_nil, false_implies, implies_true, and_true]
  refine ⟨?_, ?_, ?_, ?_, ?_, ?_, ?_, ?_⟩
  case refine_5 => exact legible_importSpread (isSource_ofList (by decide)) (unbroken_titleExports hlisted)
  case refine_6 => exact legible_importSpread (isSource_ofList (by decide)) (unbroken_titleExports h.tokens)
  all_goals exact legible_importSpread (isSource_ofList (by decide)) (by decide)

/-- The namespace becomes an alias of the package only if it is a word that is not taken. -/
theorem isName_alias {spaceName name : String} {taken : List String}
    (h : spaceAlias? spaceName taken = some name) : IsWord name ∧ name = spaceName ∧ name ∉ taken := by
  unfold spaceAlias? at h
  split at h
  · next hc =>
    cases h
    simp only [Bool.and_eq_true, Bool.not_eq_true', List.contains_eq_mem, decide_eq_false_iff_not] at hc
    exact ⟨isWord_of_usable ⟨hc.1.1, hc.1.2⟩, rfl, hc.2⟩
  · cases h

/-- The root of an SDK is legible. -/
theorem legible_rootModule (h : plan.Worded c) : ∀ s ∈ (rootModule plan).stmts, s.Legible := by
  have hpath : Unbroken "Path(__file__).parent / \"__artifacts__\"" := unbroken_ofList (by decide)
  have hsys : Unbroken "sys.modules[__name__]" := unbroken_ofList (by decide)
  have hplain : IsAnnotation "" := isAnnotation_ofList (by decide)
  simp only [rootModule, List.forall_mem_append, List.forall_mem_map, List.forall_mem_flatMap,
    List.forall_mem_cons, List.not_mem_nil, false_implies, implies_true, and_true]
  refine ⟨⟨⟨⟨⟨fun name _ => ?_, ?_, ?_, legible_gap 1, ?_⟩, fun i hi => ?_⟩,
    legible_gap 2, ?_, ?_, ?_⟩, fun name hname => ?_⟩, legible_gap 2, legible_exportSpread _⟩
  · exact ⟨legible_importModule (by decide), legible_gap 1⟩
  · exact legible_importWritten (by repeat constructor) (by decide) (by decide)
  · exact legible_importWritten (by repeat constructor) (by decide) (by decide)
  · exact legible_importWritten (by repeat constructor) (by decide) (by decide)
  · exact legible_rootImports h i (List.mem_filter.mp hi).1
  · exact legible_assign (isName_ofList (by decide)) isAnnotation_final (by decide)
      (unbroken_literal _) (by simp)
  · exact legible_assign (isName_ofList (by decide)) isAnnotation_final (by decide)
      (unbroken_literal _) (by simp)
  · exact legible_assign (isName_ofList (by decide)) isAnnotation_final (by decide) hpath (by simp)
  · obtain ⟨hword, _⟩ := isName_alias (Option.mem_toList.mp hname)
    -- a namespace may be called like the list of exports, but a module is no list of texts
    have hexports : readExports? "sys.modules[__name__]".toList [] = none := by decide
    exact ⟨legible_gap 1, legible_assign hword.toIsName hplain hword.leading hsys fun _ => hexports⟩

/-- Every module of a plan is legible. -/
theorem legible_modules (h : plan.Worded c) :
    ∀ p ∈ modules plan, p.2.grammar = plan.grammar ∧ ∀ s ∈ p.2.stmts, s.Legible := by
  simp only [modules, nodeModules, cursorModules, List.forall_mem_append, List.forall_mem_map,
    List.forall_mem_cons, List.not_mem_nil, false_implies, implies_true, and_true]
  refine ⟨⟨⟨⟨rfl, legible_rootModule h⟩, ⟨rfl, legible_treeTypes⟩, ⟨rfl, legible_expectationErrors⟩,
    ⟨rfl, legible_nodeSearch⟩, ⟨rfl, legible_tokensModule plan⟩, rfl, legible_navigatorModule h⟩,
    ⟨⟨fun n hn => ⟨rfl, legible_ownModule (h.concrete n hn).title _⟩,
      fun g hg => ⟨rfl, legible_groupModule (h.groups g hg) (h.members g hg) _⟩⟩,
      fun t ht => ⟨rfl, legible_ownModule (h.tokens t ht) _⟩⟩,
    ⟨rfl, legible_nodesBarrel h⟩, rfl, legible_anonymousBarrel h⟩,
    ⟨rfl, legible_cursorBarrel h⟩, ⟨rfl, legible_conditionalsModule h⟩, ⟨rfl, legible_cursorBase⟩,
    rfl, legible_mapsModule plan⟩

end TraversalSdk.Sdk
