import TraversalSdk.Sdk.Cursors
import TraversalSdk.Proofs.TableReading

namespace TraversalSdk.Source
open Text

def splitBars : List Char → List (List Char)
  | [] => [[]]
  | ' ' :: '|' :: ' ' :: rest => [] :: splitBars rest
  | c :: rest =>
    match splitBars rest with
    | piece :: others => (c :: piece) :: others
    | [] => [[c]]

def unionNames (cs : List Char) : List String :=
  if cs = "Never".toList then [] else (splitBars cs).map String.ofList

theorem splitBars_word {word : List Char} (h : ' ' ∉ word) : splitBars word = [word] := by
  induction word with
  | nil => rfl
  | cons c word ih =>
    have hc : c ≠ ' ' := fun he => h (by simp [he])
    rw [splitBars, ih fun hm => h (List.mem_cons_of_mem _ hm)]
    exact fun _ he _ => hc he

theorem splitBars_append {word : List Char} (h : ' ' ∉ word) (rest : List Char) :
    splitBars (word ++ ' ' :: '|' :: ' ' :: rest) = word :: splitBars rest := by
  induction word with
  | nil => rw [List.nil_append, splitBars]
  | cons c word ih =>
    have hc : c ≠ ' ' := fun he => h (by simp [he])
    rw [List.cons_append, splitBars, ih fun hm => h (List.mem_cons_of_mem _ hm)]
    exact fun _ he _ => hc he

/-- Words without blanks come back when they are joined by bars and split again. -/
theorem splitBars_intercalate {l : List String} (hne : l ≠ []) (h : ∀ s ∈ l, ' ' ∉ s.toList) :
    splitBars (" | ".intercalate l).toList = l.map String.toList := by
  induction l with
  | nil => exact absurd rfl hne
  | cons s l ih =>
    have hs := h s (by simp)
    cases l with
    | nil => simpa using splitBars_word hs
    | cons t l =>
      have hrest := ih (by simp) fun u hu => h u (List.mem_cons_of_mem _ hu)
      have hbar : (" | ".intercalate (s :: t :: l)).toList =
          s.toList ++ ' ' :: '|' :: ' ' :: (" | ".intercalate (t :: l)).toList := by
        simp
      rw [hbar, splitBars_append hs, hrest]
      rfl

def unionMembers (names : List String) (optional : Bool) : List String :=
  distinct names ++ if optional then ["None"] else []

theorem mem_unionMembers {names : List String} {optional : Bool} {s : String} :
    s ∈ unionMembers names optional ↔ s ∈ names ∨ optional = true ∧ s = "None" := by
  cases optional <;> simp [unionMembers]

theorem unbroken_unionType {names : List String} (h : ∀ s ∈ names, Unbroken s) (optional : Bool) :
    Unbroken (unionType names optional) := by
  have hall : ∀ s ∈ unionMembers names optional, Unbroken s := by
    intro s hs
    rcases mem_unionMembers.mp hs with hs | ⟨_, rfl⟩
    · exact h s hs
    · decide
  unfold unionType
  split
  · decide
  · next he => exact unbroken_intercalate (by decide) (by simpa [unionMembers, he] using hall)

/-- The members of a union are read back from its text. -/
theorem unionNames_unionType {names : List String} (optional : Bool)
    (h : ∀ s ∈ names, ' ' ∉ s.toList ∧ s ≠ "Never") :
    unionNames (unionType names optional).toList = unionMembers names optional := by
  have hall : ∀ s ∈ unionMembers names optional, ' ' ∉ s.toList ∧ s ≠ "Never" := by
    intro s hs
    rcases mem_unionMembers.mp hs with hs | ⟨_, rfl⟩
    · exact h s hs
    · decide
  cases hm : unionMembers names optional with
  | nil =>
    rw [unionType, ← unionMembers, hm]
    exact if_pos rfl
  | cons s l =>
    rw [hm] at hall
    have hnever : (" | ".intercalate (s :: l)).toList ≠ "Never".toList := by
      intro he
      have he := String.toList_inj.mp he
      cases l with
      | nil => exact (hall s (by simp)).2 (by simpa using he)
      | cons t l =>
        have hblank : ' ' ∈ (" | ".intercalate (s :: t :: l)).toList := by simp
        rw [he] at hblank
        exact absurd hblank (by decide)
    rw [unionType, ← unionMembers, hm, unionNames, if_neg hnever,
      splitBars_intercalate (by simp) fun u hu => (hall u hu).1,
      List.map_map]
    simp

end TraversalSdk.Source

namespace TraversalSdk.Sdk
open Source Text Naming

def classHeader (name : String) : String := "class " ++ name ++ "(TreeCursor):"

/-- Whether a line is the header of a class. -/
def header? (name : String) (line : List Char) : Option Unit :=
  if line = (classHeader name).toList then some () else none

/-- The lines below the header of a class, up to the next statement. -/
def classBody? (name text : String) : Option (List (List Char)) :=
  (lastBelow (header? name) (textLines text)).map fun p => p.2.takeWhile isInner

def returned? (method : String) (line : List Char) : Option (List Char) :=
  (line.dropPrefix? ("    def " ++ method ++ "(self) -> ").toList).bind (·.dropSuffix? [':'])

/-- The members of the type that a move of a cursor class returns. -/
def readMove? (name method text : String) : Option (List String) := do
  let body ← classBody? name text
  let (type, _) ← lastBelow (returned? method) body
  return unionNames type

def classIntro (n : ConcreteNode) : List Step :=
  [.docstring ("A cursor on a node of type " ++ span n.title.ref.type ++ "."),
    .blank 1,
    .line ("node_type: ClassVar[str | None] = " ++ literal n.title.ref.type),
    .blank 1,
    .line "@property",
    .block ("def node(self) -> " ++ n.title.names.className)
      [.line "return super().node  # type: ignore[return-value]"]]

def classBodySteps (n : ConcreteNode) : List Step := classIntro n ++ n.moves.flatMap moveSteps

def classStmts (n : ConcreteNode) : List Stmt :=
  [.gap 2, .define n.title.cursorClass (cursorClassSteps n)]

theorem lines_cursorClass (n : ConcreteNode) :
    (Stmt.define n.title.cursorClass (cursorClassSteps n)).lines =
      classHeader n.title.cursorClass :: Step.allLines 1 (classBodySteps n) := by
  simp [Stmt.lines, Stmt.steps, cursorClassSteps, Step.allLines, Step.lines, lineAt_zero,
    classHeader, classBodySteps, classIntro, String.append_assoc]

def closingStmts (b : Blueprint) : List Stmt :=
  [.gap 2,
    .table "CURSOR_CLASSES" "Final[MappingProxyType[str, type[TreeCursor]]]"
      (b.concrete.map fun n => (n.title.ref.type, .expression n.title.cursorClass)),
    .gap 2,
    .exportTuple (sortTexts
      ("CURSOR_CLASSES" :: "wrap" :: b.concrete.map (·.title.cursorClass)))]

theorem conditionalsModule_stmts (b : Blueprint) : ∃ imports,
    (conditionalsModule b).stmts = imports ++ b.concrete.flatMap classStmts ++ closingStmts b :=
  ⟨_, rfl⟩

/-- The names that the types of a class are made of. -/
structure Spelled (n : ConcreteNode) : Prop where
  className : Unbroken n.title.names.className
  cursor : ∀ c ∈ n.title.cursorClass.toList, isNameChar c = true
  targets : ∀ m ∈ n.moves, ∀ t ∈ m.targets, (∀ c ∈ t.cursorClass.toList, isNameChar c = true) ∧
    t.cursorClass ≠ "Never"
  directions : n.moves.map Move.direction = Direction.all

theorem unbroken_moveType {m : Move}
    (h : ∀ t ∈ m.targets, ∀ c ∈ t.cursorClass.toList, isNameChar c = true) :
    Unbroken (moveType m) := by
  refine unbroken_unionType ?_ m.nowhere
  rw [List.forall_mem_map]
  exact fun t ht => unbroken_of_nameChars (h t ht)

theorem unbroken_method (d : Direction) : Unbroken d.method := by
  cases d <;> decide

theorem areUnbroken_moveSteps {m : Move}
    (h : ∀ t ∈ m.targets, ∀ c ∈ t.cursorClass.toList, isNameChar c = true) :
    Step.AreUnbroken (moveSteps m) := by
  have hdef : Unbroken ("def " ++ m.direction.method ++ "(self) -> " ++ moveType m) :=
    ((Unbroken.append (by decide) (unbroken_method _)).append (by decide)).append
      (unbroken_moveType h)
  have hreturn : Unbroken ("return self._move(" ++ literal m.direction.method
      ++ ")  # type: ignore[return-value]") :=
    (Unbroken.append (by decide) (unbroken_literal _)).append (by decide)
  exact ⟨trivial, ⟨hdef, hreturn, trivial⟩, trivial⟩

/-- No line of a cursor class is broken, since its names are made of name characters. -/
theorem areUnbroken_classBody {n : ConcreteNode} (h : Spelled n) :
    Step.AreUnbroken (classBodySteps n) := by
  have htype : Unbroken ("node_type: ClassVar[str | None] = " ++ literal n.title.ref.type) :=
    Unbroken.append (by decide) (unbroken_literal _)
  have hnode : Unbroken ("def node(self) -> " ++ n.title.names.className) :=
    Unbroken.append (by decide) h.className
  have hproperty : Unbroken "@property" := by decide
  have hreturn : Unbroken "return super().node  # type: ignore[return-value]" := by decide
  have hmoves : ∀ s ∈ n.moves.flatMap moveSteps, s.IsUnbroken := by
    intro s hs
    obtain ⟨m, hm, hs⟩ := List.mem_flatMap.mp hs
    exact Step.areUnbroken_iff.mp (areUnbroken_moveSteps fun t ht => (h.targets m hm t ht).1) s hs
  rw [Step.areUnbroken_iff, classBodySteps, List.forall_mem_append]
  refine ⟨Step.areUnbroken_iff.mp ?_, hmoves⟩
  exact ⟨trivial, trivial, htype, trivial, hproperty, ⟨hnode, hreturn, trivial⟩, trivial⟩

theorem unbroken_classBody {n : ConcreteNode} (h : Spelled n) :
    ∀ l ∈ Step.allLines 1 (classBodySteps n), Unbroken l :=
  Step.unbroken_allLines (areUnbroken_classBody h) 1

theorem target_classHeader (name : String) :
    target (classHeader name).toList = "class".toList := by
  simp [target, classHeader]

theorem isName_class : IsName "class" :=
  ⟨by decide, List.all_eq_true.mp (by decide)⟩

/-- Only a line that begins with the word for classes is the header of a class. -/
theorem header?_eq_none {name : String} {line : List Char} (h : target line ≠ "class".toList) :
    header? name line = none := by
  refine if_neg fun he => h ?_
  rw [he, target_classHeader]

theorem declares_cursorClasses :
    Declares "CURSOR_CLASSES" "Final[MappingProxyType[str, type[TreeCursor]]]" :=
  ⟨⟨by decide, List.all_eq_true.mp (by decide)⟩, by decide, by decide, by decide⟩

theorem spares_closingStmts {b : Blueprint} (h : ∀ n ∈ b.concrete, Spelled n) :
    ∀ s ∈ closingStmts b, s.Spares "class" := by
  have hrows : ∀ row ∈ b.concrete.map (fun n =>
      (n.title.ref.type, Value.expression n.title.cursorClass)), Unbroken row.2.source := by
    intro row hrow
    obtain ⟨n, hn, rfl⟩ := List.mem_map.mp hrow
    exact unbroken_of_nameChars (h n hn).cursor
  intro s hs
  simp only [closingStmts, List.mem_cons, List.not_mem_nil, or_false] at hs
  rcases hs with rfl | rfl | rfl | rfl
  · exact isName_class.spares_gap 2
  · exact isName_class.spares_table declares_cursorClasses (by decide) hrows
  · exact isName_class.spares_gap 2
  · exact spares_exportTuple (by decide) _

/-- Classes of different names have different headers. -/
theorem classHeader_injective {x y : String} (h : classHeader x = classHeader y) : x = y :=
  (String.append_right_inj _).mp ((String.append_left_inj _).mp h)

theorem unbroken_classHeader {name : String} (h : Unbroken name) : Unbroken (classHeader name) :=
  (Unbroken.append (by decide) h).append (by decide)

/-- A class in lines below the header of another. -/
theorem passes_classStmts {name : String} {n : ConcreteNode} (h : Spelled n)
    (hne : n.title.cursorClass ≠ name) :
    ∀ l ∈ (classStmts n).flatMap Stmt.lines, Unbroken l ∧ header? name l.toList = none := by
  have hgap := isName_class.spares_gap 2
  simp only [classStmts, List.flatMap_cons, List.flatMap_nil, List.append_nil, lines_cursorClass,
    List.forall_mem_append, List.forall_mem_cons]
  refine ⟨fun l hl => ⟨hgap.unbroken l hl, header?_eq_none (hgap.target l hl)⟩,
    ⟨unbroken_classHeader (unbroken_of_nameChars h.cursor), if_neg fun he => ?_⟩, fun l hl => ?_⟩
  · exact hne (classHeader_injective (String.toList_inj.mp he))
  · exact ⟨unbroken_classBody h l hl,
      header?_eq_none (isName_class.target_ne_of_isInner (Step.isInner_allLines 0 _ l hl))⟩

/-- Two empty lines and a statement follow a class. -/
theorem lines_below_class (b : Blueprint) (ns : List ConcreteNode) :
    ∃ l below, (ns.flatMap classStmts ++ closingStmts b).flatMap Stmt.lines =
      "" :: "" :: l :: below ∧ isInner l.toList = false := by
  cases ns with
  | nil =>
    refine ⟨_, _, by
      simp only [List.flatMap_nil, List.nil_append, closingStmts, List.flatMap_cons, Stmt.lines_gap,
        lines_table, List.replicate_succ, List.replicate_zero, List.cons_append]
      rfl, ?_⟩
    rw [declared_toList]
    simp [isInner]
  | cons n ns =>
    refine ⟨_, _, by
      simp only [List.flatMap_cons, List.flatMap_append, classStmts, Stmt.lines_gap, lines_cursorClass,
        List.replicate_succ, List.replicate_zero, List.cons_append]
      rfl, ?_⟩
    simp [classHeader, isInner]

/-- Below the classes of other names there is no header of the wanted one. -/
theorem passes_below_class {b : Blueprint} (h : ∀ n ∈ b.concrete, Spelled n) {name : String}
    {ns : List ConcreteNode} (hns : ∀ n ∈ ns, Spelled n ∧ n.title.cursorClass ≠ name) :
    ∀ l ∈ (ns.flatMap classStmts ++ closingStmts b).flatMap Stmt.lines,
      Unbroken l ∧ header? name l.toList = none := by
  rw [List.flatMap_append, List.forall_mem_append, List.flatMap_assoc]
  constructor
  · intro l hl
    obtain ⟨n, hn, hl⟩ := List.mem_flatMap.mp hl
    exact passes_classStmts (hns n hn).1 (hns n hn).2 l hl
  · intro l hl
    obtain ⟨s, hs, hl⟩ := List.mem_flatMap.mp hl
    have hs := spares_closingStmts h s hs
    exact ⟨hs.unbroken l hl, header?_eq_none (hs.target l hl)⟩

theorem conditionalsModule_ends (b : Blueprint) : (conditionalsModule b).EndsInExports := by
  obtain ⟨imports, h⟩ := conditionalsModule_stmts b
  exact ⟨_, _, by
    rw [h, closingStmts]
    exact (List.append_assoc _ [_, _, _] [_]).symm⟩

/-- The body of a class is found by the name of the class, with the empty lines below it. -/
theorem classBody?_text {b : Blueprint} (h : ∀ n ∈ b.concrete, Spelled n)
    (hnodup : (b.concrete.map (·.title.cursorClass)).Nodup) {n : ConcreteNode}
    (hn : n ∈ b.concrete) :
    classBody? n.title.cursorClass (conditionalsModule b).text =
      some ((Step.allLines 1 (classBodySteps n)).map String.toList ++ [[], []]) := by
  obtain ⟨imports, himports⟩ := conditionalsModule_stmts b
  obtain ⟨xs, ys, hsplit, hlater⟩ := split_of_nodup hnodup hn
  obtain ⟨l, below, htail, hl⟩ := lines_below_class b ys
  have hlines : (conditionalsModule b).lines =
      (Step.allLines 0 (header (conditionalsModule b).grammar (conditionalsModule b).summary) ++
        (imports ++ xs.flatMap classStmts ++ [Stmt.gap 2]).flatMap Stmt.lines) ++
      classHeader n.title.cursorClass :: (Step.allLines 1 (classBodySteps n) ++
        (ys.flatMap classStmts ++ closingStmts b).flatMap Stmt.lines) := by
    simp only [Module.lines, himports, hsplit, List.flatMap_append, List.flatMap_cons, classStmts,
      lines_cursorClass, List.flatMap_nil, List.append_nil, List.append_assoc, List.cons_append,
      List.nil_append]
  have hbody : ∀ l' ∈ Step.allLines 1 (classBodySteps n), isInner l'.toList = true :=
    Step.isInner_allLines 0 _
  have hrest := passes_below_class h fun y hy => ⟨h y (by simp [hsplit, hy]), hlater y hy⟩
  have hpass : ∀ l' ∈ Step.allLines 1 (classBodySteps n) ++
      (ys.flatMap classStmts ++ closingStmts b).flatMap Stmt.lines,
      Unbroken l' ∧ header? n.title.cursorClass l'.toList = none := by
    refine List.forall_mem_append.mpr ⟨fun l' hl' => ⟨unbroken_classBody (h n hn) l' hl', ?_⟩, hrest⟩
    exact header?_eq_none (isName_class.target_ne_of_isInner (hbody l' hl'))
  have hfound := lastBelow_text (conditionalsModule_ends b) hlines (if_pos rfl : _ = some ())
    (List.forall_mem_cons.mpr ⟨unbroken_classHeader (unbroken_of_nameChars (h n hn).cursor),
      fun l' hl' => (hpass l' hl').1⟩)
    (fun l' hl' => (hpass l' hl').2) (header?_eq_none (by decide))
  have htake : ((Step.allLines 1 (classBodySteps n)).map String.toList ++
      ([] :: [] :: l.toList :: below.map String.toList ++ [[]])).takeWhile isInner =
      (Step.allLines 1 (classBodySteps n)).map String.toList ++ [[], []] := by
    rw [List.takeWhile_append_of_pos (by simpa using hbody)]
    simp [hl, show isInner [] = true from rfl]
  rw [classBody?, hfound, Option.map_some, htail, ← htake]
  simp

def methodLine (m : Move) : String :=
  lineAt 1 ("def " ++ m.direction.method ++ "(self) -> " ++ moveType m ++ ":")

theorem lines_moveSteps (m : Move) : ∃ s, Step.allLines 1 (moveSteps m) =
    ["", methodLine m, lineAt 2 ("return self._move(" ++ s)] := by
  refine ⟨literal m.direction.method ++ ")  # type: ignore[return-value]", ?_⟩
  simp [moveSteps, Step.allLines, Step.lines, methodLine, String.append_assoc]

theorem methodLine_toList (m : Move) : (methodLine m).toList =
    ("    def " ++ m.direction.method ++ "(self) -> ").toList ++ ((moveType m).toList ++ [':']) := by
  rw [methodLine, lineAt_toList (by simp)]
  simp

/-- What a method returns is read back from its first line. -/
theorem returned?_methodLine (m : Move) :
    returned? m.direction.method (methodLine m).toList = some (moveType m).toList := by
  have hprefix (xs ys : List Char) : (xs ++ ys).dropPrefix? xs = some ys :=
    List.dropPrefix?_append_of_beq ys (by simp)
  have hsuffix : ((moveType m).toList ++ [':']).dropSuffix? [':'] = some (moveType m).toList :=
    List.dropSuffix?_eq_some_iff.mpr ⟨[':'], rfl, by simp⟩
  rw [returned?, methodLine_toList, hprefix, Option.bind_some, hsuffix]

/-- No definition of a move begins like that of a move in another direction. -/
theorem methodStart_apart {d e : Direction} (h : d ≠ e) :
    ¬ ("    def " ++ d.method ++ "(self) -> ").toList <+:
      ("    def " ++ e.method ++ "(self) -> ").toList := by
  cases d <;> cases e <;> first
    | exact absurd rfl h
    | decide

theorem returned?_methodLine_ne {m : Move} {d : Direction} (h : m.direction ≠ d) :
    returned? d.method (methodLine m).toList = none := by
  refine Option.bind_eq_none_iff.mpr fun rest hrest => ?_
  obtain ⟨start, he, hstart⟩ := List.dropPrefix?_eq_some_iff.mp hrest
  rw [eq_of_beq hstart] at he
  have hown := List.prefix_append ("    def " ++ m.direction.method ++ "(self) -> ").toList
    ((moveType m).toList ++ [':'])
  rw [← methodLine_toList, he] at hown
  rcases List.prefix_or_prefix_of_prefix hown (List.prefix_append _ rest) with hp | hp
  · exact absurd hp (methodStart_apart h)
  · exact absurd hp (methodStart_apart h.symm)

theorem returned?_return (d : Direction) (s : String) :
    returned? d.method (lineAt 2 ("return self._move(" ++ s)).toList = none := by
  rw [returned?, lineAt_toList (by simp)]
  simp [List.dropPrefix?, List.replicate_succ]

/-- The lines of one move define no other. -/
theorem returned?_moveSteps {m : Move} {d : Direction} (h : m.direction ≠ d) :
    ∀ l ∈ Step.allLines 1 (moveSteps m), returned? d.method l.toList = none := by
  obtain ⟨s, hs⟩ := lines_moveSteps m
  rw [hs]
  simp only [List.forall_mem_cons, List.not_mem_nil, false_implies, implies_true, and_true]
  exact ⟨by simp [returned?, List.dropPrefix?], returned?_methodLine_ne h, returned?_return d s⟩

/-- Below the definition of a move stand only moves in other directions. -/
theorem lines_classBody {n : ConcreteNode} (hd : n.moves.map Move.direction = Direction.all)
    {m : Move} (hm : m ∈ n.moves) : ∃ before below,
    Step.allLines 1 (classBodySteps n) = before ++ methodLine m :: below ∧
      ∀ l ∈ below, returned? m.direction.method l.toList = none := by
  have hnodup : (n.moves.map Move.direction).Nodup := by
    rw [hd]
    decide
  obtain ⟨xs, ys, hsplit, hlater⟩ := split_of_nodup hnodup hm
  obtain ⟨s, hs⟩ := lines_moveSteps m
  refine ⟨Step.allLines 1 (classIntro n ++ xs.flatMap moveSteps) ++ [""],
    lineAt 2 ("return self._move(" ++ s) :: Step.allLines 1 (ys.flatMap moveSteps), ?_, ?_⟩
  · simp only [classBodySteps, hsplit, List.flatMap_append, List.flatMap_cons,
      Step.allLines_append, hs, List.append_assoc, List.cons_append, List.nil_append]
  · refine List.forall_mem_cons.mpr ⟨returned?_return _ s, fun l hl => ?_⟩
    rw [Step.allLines_flatMap] at hl
    obtain ⟨m', hm', hl⟩ := List.mem_flatMap.mp hl
    exact returned?_moveSteps (hlater m' hm') l hl

/-- The type of a move reads back as the classes that the move leads to. -/
theorem readMove?_text {b : Blueprint} (h : ∀ n ∈ b.concrete, Spelled n)
    (hnodup : (b.concrete.map (·.title.cursorClass)).Nodup) {n : ConcreteNode}
    (hn : n ∈ b.concrete) {m : Move} (hm : m ∈ n.moves) :
    readMove? n.title.cursorClass m.direction.method (conditionalsModule b).text =
      some (unionMembers (m.targets.map Titled.cursorClass) m.nowhere) := by
  obtain ⟨before, below, hbody, hbelow⟩ := lines_classBody (h n hn).directions hm
  have hnil : returned? m.direction.method [] = none := by simp [returned?, List.dropPrefix?]
  have hpass : ∀ l ∈ below.map String.toList ++ [[], []],
      returned? m.direction.method l = none := by
    rw [List.forall_mem_append, List.forall_mem_map]
    exact ⟨hbelow, by simp [hnil]⟩
  have hfound : lastBelow (returned? m.direction.method) (before.map String.toList ++
      (methodLine m).toList :: (below.map String.toList ++ [[], []])) =
      some ((moveType m).toList, below.map String.toList ++ [[], []]) :=
    lastBelow_append (returned?_methodLine m) hpass
  have hnames : ∀ c ∈ m.targets.map Titled.cursorClass, ' ' ∉ c.toList ∧ c ≠ "Never" := by
    rw [List.forall_mem_map]
    intro t ht
    obtain ⟨hchars, hnever⟩ := (h n hn).targets m hm t ht
    exact ⟨fun hb => (nameChar_ne (hchars _ hb)).2.1 rfl, hnever⟩
  have hlines : (Step.allLines 1 (classBodySteps n)).map String.toList ++ [[], []] =
      before.map String.toList ++
        (methodLine m).toList :: (below.map String.toList ++ [[], []]) := by
    simp [hbody]
  simp only [readMove?, classBody?_text h hnodup hn, hlines, hfound, Option.bind_eq_bind,
    Option.bind_some, Option.pure_def, moveType, unionNames_unionType m.nowhere hnames]

end TraversalSdk.Sdk
