import TraversalSdk.Proofs.NamesReading

namespace TraversalSdk.Source
open Text Naming

/-- A line that starts with a name begins a statement. -/
theorem plain_of_nameChar {c : Char} (h : isNameChar c = true) (cs : List Char) :
    goesOn (c :: cs) = false ∧ prose? (c :: cs) = none ∧ isComment (c :: cs) = false := by
  have hc := nameChar_rec (P := fun c => c != ' ' && c != ')' && c != '"' && c != '#')
    (by decide) h
  simp only [Bool.and_eq_true, bne_iff_ne] at hc
  obtain ⟨⟨⟨hblank, hparen⟩, hquote⟩, hhash⟩ := hc
  refine ⟨by simp [goesOn, hblank, hparen], ?_, by simp [isComment, hhash]⟩
  unfold prose?
  split
  · next he => exact absurd (List.cons.inj he).1 hquote
  · rfl

/-- A statement with its first line at the margin and all others below it. -/
theorem legible_of_lines {s : Stmt} {l : String} {below : List String} (hlines : s.lines = l :: below)
    (hunbroken : ∀ x ∈ l :: below, Unbroken x)
    (hstart : ∃ c cs, l.toList = c :: cs ∧ isNameChar c = true)
    (hbelow : ∀ x ∈ below, goesOn x.toList = true)
    (hreads : readStatement l.toList (full below) = s.names) : s.Legible := by
  obtain ⟨c, cs, hl, hc⟩ := hstart
  obtain ⟨hgoes, hprose, hcomment⟩ := plain_of_nameChar hc cs
  rw [← hl] at hgoes hprose hcomment
  have hfull : full s.lines = l.toList :: full below := by
    rw [hlines, ← List.singleton_append, full_append]
    simp [full, hl]
  have hrest : ∀ x ∈ full below, goesOn x = true := by
    intro x hx
    obtain ⟨y, hy, rfl⟩ := List.mem_map.mp (List.mem_filter.mp hx).1
    exact hbelow y hy
  refine ⟨by rwa [hlines], ?_, ?_, ?_⟩
  · rw [hfull]
    exact List.forall_mem_cons.mpr ⟨⟨hprose, hcomment⟩, fun x hx => plain_of_goesOn (hrest x hx)⟩
  · rw [hfull]
    simpa using hgoes
  · rw [hfull, readLines, statements_one hgoes hrest, List.map_singleton, hreads]
    simp [Names.join]

/-- A statement of one line is legible if the line reads as its names. -/
theorem legible_of_line {s : Stmt} {l : String} (hline : s.steps = [.line l]) (hunbroken : Unbroken l)
    (hstart : ∃ c cs, l.toList = c :: cs ∧ isNameChar c = true)
    (hreads : readStatement l.toList [] = s.names) : s.Legible :=
  legible_of_lines (Stmt.lines_of_line hline) (by simpa using hunbroken) hstart (by simp) hreads

theorem legible_gap (n : Nat) : (Stmt.gap n).Legible := by
  have hfull : full (Stmt.gap n).lines = [] := by simp [Stmt.lines_gap, full]
  refine ⟨fun l hl => ?_, by simp [hfull], by simp [hfull], by rw [hfull]; rfl⟩
  rw [Stmt.lines_gap] at hl
  rw [(List.mem_replicate.mp hl).2]
  decide

theorem readStatement_from (rest : List Char) (below : List (List Char)) :
    readStatement ("from ".toList ++ rest) below =
      readImport ((pieces ' ' rest).map String.ofList) below := rfl

theorem readStatement_import (rest : List Char) (below : List (List Char)) :
    readStatement ("import ".toList ++ rest) below = ⟨[], [String.ofList rest], []⟩ := rfl

def commaWords : List String → List String
  | [] => []
  | [s] => [s]
  | s :: l => (s ++ ",") :: commaWords l

/-- A list of names is cut into its words at the blanks. -/
theorem pieces_commaWords {names : List String} (hne : names ≠ [])
    (h : ∀ s ∈ names, ' ' ∉ s.toList) :
    (pieces ' ' (", ".intercalate names).toList).map String.ofList = commaWords names := by
  induction names with
  | nil => exact absurd rfl hne
  | cons s names ih =>
    have hs := h s List.mem_cons_self
    cases names with
    | nil => simp [commaWords, pieces_unbroken hs]
    | cons t names =>
      have hjoined : (", ".intercalate (s :: t :: names)).toList =
          (s.toList ++ [',']) ++ ' ' :: (", ".intercalate (t :: names)).toList := by
        simp
      rw [hjoined, pieces_append, List.map_append, ih (by simp) fun x hx => h x (List.mem_cons_of_mem _ hx),
        pieces_unbroken (by simpa using hs)]
      simp [commaWords, String.ofList_append]

theorem withoutComma_commaWords {names : List String} (h : ∀ s ∈ names, ',' ∉ s.toList) :
    (commaWords names).map withoutComma = names := by
  have hkeep (s : String) (hs : ',' ∉ s.toList) (ending : String)
      (he : ending.toList.takeWhile (· != ',') = []) : withoutComma (s ++ ending) = s := by
    have hall : ∀ c ∈ s.toList, (c != ',') = true := by
      intro c hc
      simpa using fun hm => hs (by rwa [hm] at hc)
    rw [withoutComma, String.toList_append, List.takeWhile_append_of_pos hall, he, List.append_nil,
      String.ofList_toList]
  fun_induction commaWords names with
  | case1 => rfl
  | case2 s =>
    have hs := hkeep s (h s List.mem_cons_self) "" rfl
    rw [String.append_empty] at hs
    rw [List.map_singleton, hs]
  | case3 s l _ ih =>
    rw [List.map_cons, hkeep s (h s List.mem_cons_self) "," (by decide),
      ih fun x hx => h x (List.mem_cons_of_mem _ hx)]

theorem mem_commaWords {names : List String} {word : String} (h : word ∈ commaWords names) :
    word ∈ names ∨ ',' ∈ word.toList := by
  fun_induction commaWords names with
  | case1 => cases h
  | case2 s => exact .inl h
  | case3 s l _ ih =>
    rcases List.mem_cons.mp h with rfl | h
    · exact .inr (by simp)
    · exact (ih h).imp_left (List.mem_cons_of_mem _)

/-- The words of an import are its module, a word for imports and the words of the list. -/
theorem pieces_source {source : String} (hs : ' ' ∉ source.toList) (rest : List Char) :
    (pieces ' ' (source.toList ++ (" import ".toList ++ rest))).map String.ofList =
      source :: "import" :: (pieces ' ' rest).map String.ofList := by
  have hlink : ' ' ∉ "import".toList := by decide
  have hblanks : " import ".toList ++ rest = ' ' :: ("import".toList ++ ' ' :: rest) := rfl
  rw [hblanks, pieces_append, pieces_append, pieces_unbroken hs, pieces_unbroken hlink]
  simp

structure IsSource (source : String) : Prop where
  blank : ' ' ∉ source.toList
  unbroken : Unbroken source

theorem IsSource.append {source below : String} (hs : IsSource source) (hb : IsSource below) :
    IsSource (source ++ below) := by
  refine ⟨?_, hs.unbroken.append hb.unbroken⟩
  rw [String.toList_append, List.mem_append, not_or]
  exact ⟨hs.blank, hb.blank⟩

theorem IsName.blank {name : String} (h : IsName name) : ' ' ∉ name.toList :=
  fun hm => (nameChar_ne (h.chars _ hm)).2.1 rfl

theorem IsName.unbroken {name : String} (h : IsName name) : Unbroken name := unbroken_of_nameChars h.chars

theorem IsName.source {name : String} (h : IsName name) : IsSource name := ⟨h.blank, h.unbroken⟩

/-- Names that an import can list. -/
structure Importable (names : List String) : Prop where
  ne : names ≠ []
  isName : ∀ s ∈ names, IsName s
  link : "as" ∉ names

/-- An import is read as binding the names that it lists. -/
theorem Importable.readImport {names : List String} (h : Importable names) (source : String) :
    readImport (source :: "import" :: commaWords names) [] = ⟨[(source, names)], names, []⟩ := by
  have hfree (c : Char) (hc : isNameChar c = false) : ∀ s ∈ names, c ∉ s.toList :=
    fun s hs => (h.isName s hs).free hc
  have hparen : commaWords names ≠ ["("] := by
    intro he
    rcases mem_commaWords (by rw [he]; exact List.mem_cons_self : "(" ∈ commaWords names) with hm | hm
    · exact hfree '(' (by decide) _ hm (by decide)
    · exact absurd hm (by decide)
  have hlink : (commaWords names)[1]? ≠ some "as" := by
    intro he
    rcases mem_commaWords (List.mem_of_getElem? he) with hm | hm
    · exact h.link hm
    · exact absurd hm (by decide)
  rw [Source.readImport, if_neg (by decide), if_neg hparen, if_neg hlink,
    withoutComma_commaWords (hfree ',' (by decide))]

theorem legible_importModule {name : String} (h : Unbroken name) : (Stmt.importModule name).Legible := by
  refine legible_of_line rfl (Unbroken.append (by decide) h) ?_ ?_
  · exact ⟨'i', _, by rw [String.toList_append]; rfl, by decide⟩
  · rw [String.toList_append, readStatement_import, String.ofList_toList]
    rfl

/-- An import of names is legible. -/
theorem legible_importNames {source : String} {names : List String} (hs : IsSource source)
    (hn : Importable names) : (Stmt.importNames source names).Legible := by
  have htoList : ("from " ++ source ++ " import " ++ ", ".intercalate names).toList =
      "from ".toList ++ (source.toList ++ (" import ".toList ++ (", ".intercalate names).toList)) := by
    simp only [String.toList_append, List.append_assoc]
  have hlist : Unbroken (", ".intercalate names) :=
    unbroken_intercalate (by decide) fun s hs => (hn.isName s hs).unbroken
  refine legible_of_line rfl
    (((Unbroken.append (by decide) hs.unbroken).append (by decide)).append hlist) ?_ ?_
  · exact ⟨'f', _, htoList.trans rfl, by decide⟩
  · rw [htoList, readStatement_from, pieces_source hs.blank,
      pieces_commaWords hn.ne fun s hs => (hn.isName s hs).blank, hn.readImport]
    rfl

/-- An import under another name is legible. -/
theorem legible_importAs {source name bound : String} (hs : IsSource source) (hn : IsName name)
    (hb : IsName bound) : (Stmt.importAs source name bound).Legible := by
  have htoList : ("from " ++ source ++ " import " ++ name ++ " as " ++ bound).toList =
      "from ".toList ++ (source.toList ++ (" import ".toList ++
        (name.toList ++ ' ' :: ("as".toList ++ ' ' :: bound.toList)))) := by
    simp
  refine legible_of_line rfl
    (((((Unbroken.append (by decide) hs.unbroken).append (by decide)).append hn.unbroken).append
      (by decide)).append hb.unbroken) ?_ ?_
  · exact ⟨'f', _, htoList.trans rfl, by decide⟩
  · have hwords : pieces ' ' (name.toList ++ ' ' :: ("as".toList ++ ' ' :: bound.toList)) =
        [name.toList, "as".toList, bound.toList] := by
      rw [pieces_append, pieces_append, pieces_unbroken hn.blank, pieces_unbroken hb.blank]
      rfl
    rw [htoList, readStatement_from, pieces_source hs.blank, hwords]
    simp [readImport, Stmt.names, Stmt.imported?, Stmt.binds, Stmt.exported]

def itemLine (item : String) : String := lineAt 1 (item ++ ",")

theorem lines_spread (opening : String) (items : List String) :
    Step.allLines 0 (spread opening items) = (opening ++ "(") :: (items.map itemLine ++ [")"]) := by
  have hitems : Step.allLines 1 (Step.ofLines (items.map (· ++ ","))) = items.map itemLine := by
    induction items with
    | nil => rfl
    | cons item items ih =>
      rw [List.map_cons, Step.ofLines, List.map_cons, Step.allLines, Step.lines, ← Step.ofLines, ih]
      rfl
  simp only [spread, Step.allLines, Step.lines, lineAt_zero, Nat.zero_add, hitems, List.append_nil,
    List.cons_append, List.nil_append]

theorem itemLine_toList (item : String) :
    (itemLine item).toList = (indentation 1).toList ++ (item.toList ++ [',']) := by
  rw [itemLine, lineAt_toList (by simp), String.toList_append]
  simp [indentation]

/-- The lines of a list in parentheses belong to the statement that opens it. -/
theorem goesOn_spread (items : List String) :
    ∀ x ∈ items.map itemLine ++ [")"], goesOn x.toList = true := by
  refine List.forall_mem_append.mpr ⟨?_, by decide⟩
  rw [List.forall_mem_map]
  exact fun item _ => goesOn_of_isInner (isInner_lineAt 0 _)

theorem unbroken_spread {items : List String} (h : ∀ item ∈ items, Unbroken item) :
    ∀ x ∈ items.map itemLine ++ [")"], Unbroken x := by
  refine List.forall_mem_append.mpr ⟨?_, by decide⟩
  rw [List.forall_mem_map]
  exact fun item hi => unbroken_lineAt ((h item hi).append (by decide)) 1

/-- The items of a list read back. -/
theorem spreadItems_full (items : List String) :
    spreadItems (full (items.map itemLine ++ [")"])) = items.map String.toList := by
  induction items with
  | nil => decide
  | cons item items ih =>
    have hne : (itemLine item).toList ≠ [] := by simp [itemLine_toList]
    have hfull : full ((item :: items).map itemLine ++ [")"]) =
        (itemLine item).toList :: full (items.map itemLine ++ [")"]) := by
      simp [full, hne]
    have hprefix : (itemLine item).toList.dropPrefix? (indentation 1).toList =
        some (item.toList ++ [',']) := by
      rw [itemLine_toList]
      exact List.dropPrefix?_append_of_beq _ (by simp)
    have hsuffix : (item.toList ++ [',']).dropSuffix? [','] = some item.toList :=
      List.dropSuffix?_eq_some_iff.mpr ⟨[','], rfl, by simp⟩
    rw [spreadItems] at ih ⊢
    rw [hfull, List.filterMap_cons, hprefix, Option.bind_some, hsuffix]
    simp [ih]

/-- An import that is spread over several lines is legible. -/
theorem legible_importSpread {source : String} {names : List String} (hs : IsSource source)
    (hn : ∀ s ∈ names, Unbroken s) : (Stmt.importSpread source names).Legible := by
  have htoList : ("from " ++ source ++ " import " ++ "(").toList =
      "from ".toList ++ (source.toList ++ (" import ".toList ++ ['('])) := by
    simp
  have hopen : Unbroken ("from " ++ source ++ " import " ++ "(") :=
    ((Unbroken.append (by decide) hs.unbroken).append (by decide)).append (by decide)
  refine legible_of_lines (lines_spread ("from " ++ source ++ " import ") names)
    (List.forall_mem_cons.mpr ⟨hopen, unbroken_spread hn⟩) ?_ (goesOn_spread names) ?_
  · exact ⟨'f', _, htoList.trans rfl, by decide⟩
  · have hwords : (pieces ' ' ['(']).map String.ofList = ["("] := by decide
    rw [htoList, readStatement_from, pieces_source hs.blank, hwords, readImport, if_neg (by decide),
      if_pos rfl, spreadItems_full]
    simp [Stmt.names, Stmt.imported?, Stmt.binds, Stmt.exported]

def leadingWords : List String := ["from", "import", "class", "def"]

/-- A statement that starts with no word of another kind is an assignment. -/
theorem readStatement_word {line : List Char} {name : String} (hline : target line = name.toList)
    (hname : name ∉ leadingWords) (below : List (List Char)) :
    readStatement line below = readAssignment name line below := by
  simp only [leadingWords, List.mem_cons, List.not_mem_nil, or_false, not_or] at hname
  obtain ⟨hfrom, himport, hclass, hdef⟩ := hname
  rw [readStatement, hline, String.ofList_toList, if_neg hfrom, if_neg himport,
    if_neg (not_or.mpr ⟨hclass, hdef⟩)]

section Declared

variable {name type value : String} (hn : IsName name)

include hn

/-- An assignment binds its name, unless it lists exports. -/
theorem readStatement_declared (ht : IsAnnotation type) (hw : name ∉ leadingWords)
    {below : List (List Char)}
    (hexports : name = "__all__" → readExports? value.toList below = none) :
    readStatement (declared name type ++ " = " ++ value).toList below = ⟨[], [name], []⟩ := by
  have hvalue : (if name = "__all__" then readExports? value.toList below else none) = none := by
    split
    · next h => exact hexports h
    · rfl
  have hchars : name.toList.all isNameChar = true := List.all_eq_true.mpr hn.chars
  rw [readStatement_word (target_declared hn) hw, readAssignment, assigned?_declared hn ht]
  simp only [hvalue, hchars, if_true]

theorem declared_start :
    ∃ c cs, (declared name type ++ " = " ++ value).toList = c :: cs ∧ isNameChar c = true := by
  cases hs : name.toList with
  | nil => exact absurd (String.toList_eq_nil_iff.mp hs) hn.ne
  | cons c cs =>
    have hc : c ∈ name.toList := by rw [hs]; exact List.mem_cons_self
    exact ⟨c, _, (declared_toList name type value).trans (by rw [hs, List.cons_append]),
      hn.chars c hc⟩

/-- An assignment to a name is legible. -/
theorem legible_assign (ht : IsAnnotation type) (hw : name ∉ leadingWords) {v : Value}
    (hv : Unbroken v.source)
    (hexports : name = "__all__" → readExports? v.source.toList [] = none) :
    (Stmt.assign name type v).Legible := by
  refine legible_of_line rfl
    (((unbroken_declared hn.unbroken ht.unbroken).append (by decide)).append hv)
    (declared_start hn) ?_
  · rw [readStatement_declared hn ht hw hexports]
    rfl

/-- A table is legible, whatever its rows hold, if each row keeps to its line. -/
theorem legible_table (ht : IsAnnotation type) (hw : name ∉ "__all__" :: leadingWords)
    {rows : List (String × Value)} (hr : ∀ row ∈ rows, Unbroken row.2.source) :
    (Stmt.table name type rows).Legible := by
  obtain ⟨hall, hw⟩ := not_or.mp (mt List.mem_cons.mpr hw)
  have hbody : ∀ x ∈ tableBody rows, goesOn x.toList = true := by
    cases rows with
    | nil => simp [tableBody]
    | cons row rows =>
      refine List.forall_mem_cons.mpr ⟨by decide, List.forall_mem_append.mpr ⟨?_, by decide⟩⟩
      rw [List.forall_mem_map]
      exact fun r _ => goesOn_of_isInner (isInner_lineAt 1 _)
  refine legible_of_lines (lines_table name type rows) (List.forall_mem_cons.mpr
    ⟨((unbroken_declared hn.unbroken ht.unbroken).append (by decide)).append (unbroken_tableValue rows),
      fun x hx => (hn.spares_tableBody hr x hx).1⟩) (declared_start hn) hbody ?_
  rw [readStatement_declared hn ht hw fun h => absurd h hall]
  rfl

end Declared

theorem readStatement_all (value : String) (below : List (List Char)) {names : List String}
    (h : readExports? value.toList below = some names) :
    readStatement ("__all__ = " ++ value).toList below = ⟨[], [], names⟩ := by
  have hname : IsName "__all__" := ⟨by decide, List.all_eq_true.mp (by decide)⟩
  have htype : IsAnnotation "" := ⟨by decide, by decide⟩
  have hline : "__all__ = " ++ value = declared "__all__" "" ++ " = " ++ value := by
    have hstart : declared "__all__" "" ++ " = " = "__all__ = " := by decide
    rw [hstart]
  rw [hline, readStatement_word (target_declared hname) (by decide), readAssignment,
    assigned?_declared hname htype]
  simp only [if_true, h]

theorem all_start (value : String) :
    ∃ c cs, ("__all__ = " ++ value).toList = c :: cs ∧ isNameChar c = true :=
  ⟨'_', _, by rw [String.toList_append]; rfl, by decide⟩

/-- Exports are legible in each of the forms in which they are written. -/
theorem legible_exportTuple (names : List String) : (Stmt.exportTuple names).Legible := by
  have hsource : tupleText (names.map literal) = (Value.tuple (names.map .text)).source := by
    rw [Value.source, Value.sources_eq_map, List.map_map]
    rfl
  have hliteral : (Value.tuple (names.map .text)).isLiteral = true := by
    refine Value.areLiteral_iff.mpr ?_
    rw [List.forall_mem_map]
    exact fun _ _ => rfl
  have hread := readsBack_of_isLiteral _ hliteral _ [] (Nat.le_refl _)
  rw [List.append_nil] at hread
  have hparen : (Value.tuple (names.map .text)).source.toList ≠ ['('] := by
    intro he
    have hlast := getLast?_tupleText (names.map literal)
    rw [hsource, he] at hlast
    exact absurd hlast (by decide)
  refine legible_of_line rfl
    (Unbroken.append (by decide) (by rw [hsource]; exact unbroken_source _ hliteral))
    (all_start _) ?_
  · rw [hsource]
    refine readStatement_all _ _ ?_
    rw [readExports?, if_neg hparen, hread]
    exact mapM_map_eq_some (f := textOf?) (fun _ => rfl) names

theorem legible_exportLine {names : List String} (hne : names ≠ []) :
    (Stmt.exportLine names).Legible := by
  have hitems : (", ".intercalate (names.map literal)).toList = itemsText (names.map .text) := by
    simp only [itemsText, Value.sources_eq_map, List.map_map, String.toList_intercalate]
    rfl
  have hvalue : ("(" ++ ", ".intercalate (names.map literal) ++ ",)").toList =
      '(' :: (itemsText (names.map .text) ++ [',', ')']) := by
    rw [String.toList_append, String.toList_append, hitems]
    rfl
  have hliteral : ∀ v ∈ names.map Value.text, v.isLiteral = true := by
    rw [List.forall_mem_map]
    exact fun _ _ => rfl
  obtain ⟨c, cs, hhead, hc⟩ : ∃ c cs, itemsText (names.map .text) = c :: cs ∧ c ≠ ')' := by
    cases names with
    | nil => exact absurd rfl hne
    | cons name names => exact itemsText_head rfl (names.map .text)
  have hread : readItems (itemsText (names.map .text) ++ [',', ')']).length ")"
      (itemsText (names.map .text) ++ [',', ')']) = some (names.map .text, true, []) :=
    readItems_stop rfl rfl (by simpa using hne)
      (fun v hv => readsBack_of_isLiteral v (hliteral v hv)) _ (by simp)
  have hopen : opening? ('(' :: (itemsText (names.map .text) ++ [',', ')'])) =
      some (.tuple, itemsText (names.map .text) ++ [',', ')']) := by
    rw [hhead]
    exact opening?_tuple hc _
  have htuple : tupleOf (names.map Value.text) true = .tuple (names.map .text) := by
    unfold tupleOf
    split
    · next he => cases he
    · rfl
  have hunbroken : ∀ s ∈ names.map literal, Unbroken s := by
    rw [List.forall_mem_map]
    exact fun s _ => unbroken_literal s
  have hline : Unbroken ("(" ++ ", ".intercalate (names.map literal) ++ ",)") :=
    (Unbroken.append (by decide) (unbroken_intercalate (by decide) hunbroken)).append (by decide)
  have hstep : (Stmt.exportLine names).steps =
      [.line ("__all__ = " ++ ("(" ++ ", ".intercalate (names.map literal) ++ ",)"))] := by
    have hstart : "__all__ = (" = "__all__ = " ++ "(" := by decide
    rw [Stmt.steps, hstart, String.append_assoc, String.append_assoc, String.append_assoc]
  refine legible_of_line hstep (Unbroken.append (by decide) hline) (all_start _) (readStatement_all _ _ ?_)
  have hparen : '(' :: (itemsText (names.map .text) ++ [',', ')']) ≠ ['('] := by simp
  rw [hvalue, readExports?, if_neg hparen, List.length_cons, readValue, hopen]
  simp only [Option.bind_eq_bind, Option.bind_some, hread, Option.map_some, htuple]
  exact mapM_map_eq_some (f := textOf?) (fun _ => rfl) names

theorem legible_exportSpread (names : List String) : (Stmt.exportSpread names).Legible := by
  have hitems : ∀ s ∈ names.map literal, Unbroken s := by
    rw [List.forall_mem_map]
    exact fun s _ => unbroken_literal s
  have hopen : "__all__ = " ++ "(" = "__all__ = (" := by decide
  refine legible_of_lines (lines_spread "__all__ = " (names.map literal))
    (List.forall_mem_cons.mpr ⟨by decide, unbroken_spread hitems⟩) (all_start _)
    (goesOn_spread _) ?_
  refine readStatement_all _ _ ?_
  rw [readExports?, if_pos (by decide), spreadItems_full, List.map_map]
  refine mapM_map_eq_some (fun s => ?_) names
  have hread := readsBack_text s _ [] (Nat.le_refl _)
  rw [List.append_nil] at hread
  rw [Function.comp_apply, show literal s = (Value.text s).source from rfl, hread]
  rfl

/-- A class or a function binds the name in its header. -/
theorem readStatement_kind {kind : String} (hk : kind = "class " ∨ kind = "def ") {name : String}
    (hn : IsName name) (rest : List Char) (below : List (List Char)) :
    readStatement (kind.toList ++ (name.toList ++ '(' :: rest)) below = ⟨[], [name], []⟩ := by
  have hread : readStatement (kind.toList ++ (name.toList ++ '(' :: rest)) below =
      ⟨[], [String.ofList ((name.toList ++ '(' :: rest).takeWhile isNameChar)], []⟩ := by
    rcases hk with rfl | rfl <;> rfl
  rw [hread, List.takeWhile_append_of_pos hn.chars]
  simp [show isNameChar '(' = false by decide]

/-- The header of a block names what the block defines. -/
theorem legible_block {kind name header : String} (rest : List Char) {steps : List Step}
    (hk : kind = "class " ∨ kind = "def ") (hn : IsName name)
    (hheader : header.toList = kind.toList ++ (name.toList ++ '(' :: rest))
    (hunbroken : Unbroken header) (hsteps : Step.AreUnbroken steps) :
    (Stmt.define name [.block header steps]).Legible := by
  have hline : (header ++ ":").toList = kind.toList ++ (name.toList ++ '(' :: (rest ++ [':'])) := by
    rw [String.toList_append, hheader]
    simp
  refine legible_of_lines (Stmt.lines_of_block rfl) (List.forall_mem_cons.mpr
    ⟨hunbroken.append (by decide), Step.unbroken_allLines hsteps 1⟩) ?_
    (fun x hx => goesOn_of_isInner (Step.isInner_allLines 0 steps x hx)) ?_
  · rw [hline]
    rcases hk with rfl | rfl
    · exact ⟨'c', _, rfl, by decide⟩
    · exact ⟨'d', _, rfl, by decide⟩
  · rw [hline, readStatement_kind hk hn]
    rfl

inductive Characters : List String → List (List Char) → Prop
  | nil : Characters [] []
  | cons {cs : List Char} {texts : List String} {css : List (List Char)} :
    Characters texts css → Characters (String.ofList cs :: texts) (cs :: css)

theorem Characters.map_toList {texts : List String} {css : List (List Char)}
    (h : Characters texts css) : texts.map String.toList = css := by
  induction h with
  | nil => rfl
  | cons _ ih => rw [List.map_cons, ih, String.toList_ofList]

theorem Characters.forall_mem {texts : List String} {css : List (List Char)}
    (h : Characters texts css) {P : String → Prop} (hP : ∀ cs ∈ css, P (String.ofList cs)) :
    ∀ s ∈ texts, P s := by
  intro s hs
  have hm : s.toList ∈ css := by
    rw [← h.map_toList]
    exact List.mem_map.mpr ⟨s, hs, rfl⟩
  simpa using hP _ hm

theorem unbroken_ofList {cs : List Char} (h : cs.all (!isLineEnd ·) = true) :
    Unbroken (String.ofList cs) := by
  intro c hc
  rw [String.toList_ofList] at hc
  simpa [isLineEnd] using List.all_eq_true.mp h c hc

def areName (cs : List Char) : Bool := !cs.isEmpty && cs.all isNameChar

/-- Of a written text it is checked character by character that it is a name. -/
theorem isName_ofList {cs : List Char} (h : areName cs = true) : IsName (String.ofList cs) := by
  simp only [areName, Bool.and_eq_true, Bool.not_eq_true', List.isEmpty_eq_false_iff] at h
  refine ⟨fun he => h.1 ?_, ?_⟩
  · simpa using congrArg String.toList he
  · rw [String.toList_ofList]
    exact List.all_eq_true.mp h.2

theorem isAnnotation_ofList {cs : List Char}
    (h : cs.all (fun c => c != '=' && !isLineEnd c) = true) : IsAnnotation (String.ofList cs) := by
  have hall : ∀ c ∈ cs, c ≠ '=' ∧ isLineEnd c = false := by simpa using h
  refine ⟨unbroken_ofList ?_, ?_⟩
  · simpa using fun c hc => (hall c hc).2
  · rw [String.toList_ofList]
    exact fun hm => (hall _ hm).1 rfl

theorem isSource_ofList {cs : List Char}
    (h : cs.all (fun c => c != ' ' && !isLineEnd c) = true) : IsSource (String.ofList cs) := by
  have hall : ∀ c ∈ cs, c ≠ ' ' ∧ isLineEnd c = false := by simpa using h
  refine ⟨?_, unbroken_ofList ?_⟩
  · rw [String.toList_ofList]
    exact fun hm => (hall _ hm).1 rfl
  · simpa using fun c hc => (hall c hc).2

/-- An import of fixed names. -/
theorem legible_importWritten {source : List Char} {names : List String} {css : List (List Char)}
    (h : Characters names css) (hs : source.all (fun c => c != ' ' && !isLineEnd c) = true)
    (hc : (!css.isEmpty && css.all fun cs => areName cs && cs != ['a', 's']) = true) :
    (Stmt.importNames (String.ofList source) names).Legible := by
  simp only [Bool.and_eq_true, Bool.not_eq_true', List.isEmpty_eq_false_iff, List.all_eq_true,
    bne_iff_ne] at hc
  refine legible_importNames (isSource_ofList hs) ⟨?_, h.forall_mem fun cs hcs =>
    isName_ofList (hc.2 cs hcs).1, fun hm => ?_⟩
  · rintro rfl
    exact hc.1 h.map_toList.symm
  · have has : ['a', 's'] ∈ css := by
      rw [← h.map_toList]
      exact List.mem_map.mpr ⟨"as", hm, rfl⟩
    exact (hc.2 _ has).2 rfl

/-- A function with a fixed header. -/
theorem legible_function {name rest : List Char} {steps : List Step} (hn : areName name = true)
    (hr : rest.all (!isLineEnd ·) = true) (hsteps : Step.AreUnbroken steps) :
    (Stmt.define (String.ofList name)
      [.block (String.ofList ('d' :: 'e' :: 'f' :: ' ' :: (name ++ '(' :: rest))) steps]).Legible := by
  have hname := isName_ofList hn
  have hstart : Unbroken "def " := by decide
  have hrest : Unbroken "(" := by decide
  have hheader : String.ofList ('d' :: 'e' :: 'f' :: ' ' :: (name ++ '(' :: rest)) =
      "def " ++ (String.ofList name ++ ("(" ++ String.ofList rest)) := by
    rw [← String.toList_inj]
    simp
  refine legible_block rest (.inr rfl : "def " = "class " ∨ "def " = "def ") hname (by simp) ?_ hsteps
  rw [hheader]
  exact hstart.append (hname.unbroken.append (hrest.append (unbroken_ofList hr)))

def defines (name : List Char) (css : List (List Char)) : Bool :=
  css.all (fun l => l.all (!isLineEnd ·) && (prose? l).isNone && !isComment l) &&
    ((css.filter (!·.isEmpty)).head?.all (!goesOn ·)) &&
    readLines (css.filter (!·.isEmpty)) == ⟨[], [String.ofList name], []⟩

theorem lines_ofLines (name : String) (lines : List String) :
    (Stmt.define name (Step.ofLines lines)).lines = lines := by
  induction lines with
  | nil => rfl
  | cons l ls ih =>
    rw [Stmt.lines, Stmt.steps] at ih ⊢
    rw [Step.ofLines, List.map_cons, Step.allLines, Step.lines, lineAt_zero, ← Step.ofLines, ih]
    rfl

/-- A definition in fixed lines. -/
theorem legible_written {name : List Char} {lines : List String} {css : List (List Char)}
    (h : Characters lines css) (hc : defines name css = true) :
    (Stmt.define (String.ofList name) (Step.ofLines lines)).Legible := by
  simp only [defines, Bool.and_eq_true, List.all_eq_true (l := css), Option.isNone_iff_eq_none,
    beq_iff_eq, Bool.not_eq_true'] at hc
  obtain ⟨⟨hlines, hhead⟩, hreads⟩ := hc
  have hfull : full (Stmt.define (String.ofList name) (Step.ofLines lines)).lines =
      css.filter (!·.isEmpty) := by
    rw [lines_ofLines, full, h.map_toList]
  refine ⟨?_, ?_, ?_, ?_⟩
  · rw [lines_ofLines]
    exact h.forall_mem fun cs hcs => unbroken_ofList (hlines cs hcs).1.1
  · rw [hfull]
    exact fun l hl => ⟨(hlines l (List.mem_filter.mp hl).1).1.2, (hlines l (List.mem_filter.mp hl).1).2⟩
  · rw [hfull]
    intro l hl
    rw [Option.mem_def.mp hl] at hhead
    simpa using hhead
  · rw [hfull, hreads]
    rfl

end TraversalSdk.Source
