import TraversalSdk.Proofs.HeaderReading
import TraversalSdk.Proofs.StringLiterals

namespace TraversalSdk

namespace Text

/-- A text and its lines. A boundary ends a line, a carriage return and a line feed together count as one boundary,
and what is left behind the last boundary is a line unless it is empty. -/
inductive SplitsInto : List Char → List (List Char) → Prop
  | none : SplitsInto [] []
  | last {line : List Char} (hne : line ≠ []) (hline : ∀ c ∈ line, isLineBoundary c = false) :
      SplitsInto line [line]
  | pair {line rest : List Char} {lines : List (List Char)} (hline : ∀ c ∈ line, isLineBoundary c = false)
      (h : SplitsInto rest lines) : SplitsInto (line ++ '\r' :: '\n' :: rest) (line :: lines)
  | single {line rest : List Char} {lines : List (List Char)} {boundary : Char}
      (hline : ∀ c ∈ line, isLineBoundary c = false) (hboundary : isLineBoundary boundary = true)
      (hpair : boundary = '\r' → rest.head? ≠ some '\n') (h : SplitsInto rest lines) :
      SplitsInto (line ++ boundary :: rest) (line :: lines)

/-- The lines are found in one pass, which keeps the line under way in reverse. -/
theorem splitsInto_splitLinesFrom {acc : List Char} (hacc : ∀ c ∈ acc, isLineBoundary c = false) (cs : List Char) :
    SplitsInto (acc.reverse ++ cs) (splitLinesFrom acc cs) := by
  have hline {acc : List Char} (h : ∀ c ∈ acc, isLineBoundary c = false) :
      ∀ c ∈ acc.reverse, isLineBoundary c = false := fun c hc => h c (List.mem_reverse.mp hc)
  fun_induction splitLinesFrom acc cs with
  | case1 acc h =>
    rw [List.isEmpty_iff.mp h]
    exact .none
  | case2 acc h =>
    rw [List.append_nil]
    exact .last (fun hnil => h (List.isEmpty_iff.mpr (List.reverse_eq_nil_iff.mp hnil))) (hline hacc)
  | case3 acc rest ih => exact .pair (hline hacc) (ih (List.forall_mem_nil _))
  | case4 acc c rest hpair hc ih =>
    refine .single (hline hacc) hc (fun hr hhead => ?_) (ih (List.forall_mem_nil _))
    exact hpair rest.tail hr (List.eq_cons_of_mem_head? hhead)
  | case5 acc c rest _ hc ih =>
    have hmore : ∀ d ∈ c :: acc, isLineBoundary d = false :=
      List.forall_mem_cons.mpr ⟨Bool.eq_false_iff.mpr hc, hacc⟩
    have hsplit := ih hmore
    rwa [List.reverse_cons, List.append_assoc, List.singleton_append] at hsplit

/-- The lines into which a text splits are determined. -/
theorem splitsInto_iff {cs : List Char} {lines : List (List Char)} : SplitsInto cs lines ↔ splitLines cs = lines := by
  constructor
  · intro h
    unfold splitLines
    induction h with
    | none => rfl
    | @last line hne hline =>
      have hsplit := splitLinesFrom_skip hline [] []
      rw [List.append_nil, List.append_nil] at hsplit
      rw [hsplit, splitLinesFrom, List.reverse_reverse,
        if_neg (List.isEmpty_iff.not.mpr (List.reverse_eq_nil_iff.not.mpr hne))]
    | pair hline _ ih => rw [splitLinesFrom_skip hline, splitLinesFrom, ih, List.append_nil, List.reverse_reverse]
    | single hline hboundary hpair _ ih =>
      rw [splitLinesFrom_skip hline, splitLinesFrom, if_pos hboundary, ih, List.append_nil, List.reverse_reverse]
      rintro below rfl rfl
      exact hpair rfl rfl
  · rintro rfl
    exact splitsInto_splitLinesFrom (List.forall_mem_nil _) cs

end Text

namespace Source
open Text

/-- Undoes the escapes of prose. A quote that is not escaped and a backslash that escapes anything else are
refused. -/
def unescape? : List Char → Option (List Char)
  | [] => some []
  | '\\' :: c :: rest => if c = '\\' ∨ c = '"' then (unescape? rest).map (c :: ·) else none
  | c :: rest => if c = '\\' ∨ c = '"' then none else (unescape? rest).map (c :: ·)

def blanks (depth : Nat) : List Char := List.replicate (4 * depth) ' '

def unindent? (depth : Nat) (line : List Char) : Option (List Char) :=
  if line = [] then some []
  else if blanks depth <+: line then some (line.drop (4 * depth)) else none

def innerLines? (depth : Nat) (said : List Char) : Option (List (List Char)) :=
  match pieces '\n' said with
  | [only] => some [only]
  | first :: [] :: rest =>
    if rest.getLast? = some (blanks depth) then
      (rest.dropLast.mapM (unindent? depth)).map (first :: ·)
    else none
  | _ => none

/-- Reads an indented source that is one string and nothing else. -/
def readDescription? (depth : Nat) (source : List Char) : Option (List (List Char)) := do
  let opened ← (unindent? depth source).bind prose?
  match ← readProse? opened with
  | (said, []) => innerLines? depth said
  | _ => none

/-- The lines of a text that is described; a text without lines has an empty one. -/
def describedLines (s : String) : List (List Char) :=
  match splitLines s.toList with
  | [] => [[]]
  | lines => lines

def descriptionSource (depth : Nat) (s : String) : List Char :=
  List.intercalate ['\n'] (((Step.docstring s).lines depth).map String.toList)

/-- Only escaped prose has its escapes undone: each quote and each backslash of it is part of an escape. -/
theorem unescape?_eq_some_iff {cs ds : List Char} : unescape? cs = some ds ↔ cs = proseChars ds := by
  constructor
  · intro h
    fun_induction unescape? cs generalizing ds with
    | case1 =>
      rw [← Option.some.inj h]
      rfl
    | case2 c rest hc ih =>
      obtain ⟨es, hes, rfl⟩ := Option.map_eq_some_iff.mp h
      rw [ih hes, proseChars_cons]
      rcases hc with rfl | rfl <;> rfl
    | case3 c rest hc => cases h
    | case4 c rest _ hc => cases h
    | case5 c rest _ hc ih =>
      obtain ⟨es, hes, rfl⟩ := Option.map_eq_some_iff.mp h
      obtain ⟨hslash, hquote⟩ := not_or.mp hc
      rw [ih hes, proseChars_cons, proseChar, beq_false_of_ne hslash, beq_false_of_ne hquote]
      rfl
  · rintro rfl
    induction ds with
    | nil => rfl
    | cons d ds ih =>
      rw [proseChars_cons]
      rcases proseChar_cases d with ⟨hd, he⟩ | ⟨hslash, hquote, he⟩ <;> rw [he]
      · rw [List.cons_append, List.singleton_append, unescape?, if_pos hd, ih]
        rfl
      · rw [List.singleton_append, unescape?, if_neg (not_or.mpr ⟨hslash, hquote⟩), ih]
        · rfl
        · exact fun _ _ he _ => hslash he

/-- Nothing within escaped prose closes a string. -/
theorem openQuotes_proseChars (cs rest : List Char) :
    openQuotes false (proseChars cs ++ rest) = openQuotes false rest := by
  induction cs with
  | nil => rfl
  | cons c cs ih =>
    have hchar (below : List Char) : openQuotes false (proseChar c ++ below) = openQuotes false below := by
      rcases proseChar_cases c with ⟨_, he⟩ | ⟨hslash, hquote, he⟩ <;> rw [he]
      · simp [openQuotes]
      · have hnone : (c == '\\') = false := beq_false_of_ne hslash
        simp [openQuotes, hnone, hquote]
    rw [proseChars_cons, List.append_assoc, hchar, ih]

def indentLine (depth : Nat) (line : List Char) : List Char := if line = [] then [] else blanks depth ++ line

theorem toList_lineAt (depth : Nat) (s : String) : (lineAt depth s).toList = indentLine depth s.toList := by
  unfold indentLine
  split
  · next h =>
    rw [String.toList_eq_nil_iff.mp h]
    rfl
  · next h => exact lineAt_toList h depth

theorem unindent?_indentLine (depth : Nat) (line : List Char) :
    unindent? depth (indentLine depth line) = some line := by
  unfold indentLine
  split
  · next h => rw [h, unindent?, if_pos rfl]
  · next h =>
    have hlength : 4 * depth = (blanks depth).length := List.length_replicate.symm
    rw [unindent?, if_neg (List.append_ne_nil_of_right_ne_nil _ h), if_pos (List.prefix_append _ _), hlength,
      List.drop_left]

theorem proseChars_blanks (depth : Nat) : proseChars (blanks depth) = blanks depth := by
  rw [blanks, proseChars, List.flatMap_replicate]
  simp [proseChar]

theorem proseChars_indentLine (depth : Nat) (line : List Char) :
    proseChars (indentLine depth line) = indentLine depth (proseChars line) := by
  unfold indentLine
  by_cases h : line = []
  · rw [if_pos h, if_pos (proseChars_eq_nil_iff.mpr h)]
    rfl
  · rw [if_neg h, if_neg (proseChars_eq_nil_iff.not.mpr h), proseChars_append, proseChars_blanks]

theorem describedLines_ne_nil (s : String) : describedLines s ≠ [] := by
  unfold describedLines
  split
  · exact List.cons_ne_nil _ _
  · next h => exact h

/-- No line of a description holds a line feed. -/
theorem feed_not_mem_describedLines (s : String) : ∀ l ∈ describedLines s, '\n' ∉ l := by
  unfold describedLines
  split
  · simp
  · exact not_mem_splitLinesFrom (by decide) List.not_mem_nil

/-- Lines between quotes: one line beside them, and several with an empty line behind the first and the quotes that
close them on a line of their own. -/
def quotedLines : List (List Char) → List (List Char)
  | [] => []
  | [only] => [tripleQuote.toList ++ only ++ tripleQuote.toList]
  | first :: rest => (tripleQuote.toList ++ first) :: [] :: rest ++ [tripleQuote.toList]

/-- What the string says that holds these lines at a depth. -/
def saidAt (depth : Nat) : List (List Char) → List Char
  | [] => []
  | [only] => only
  | first :: rest => List.intercalate ['\n'] (first :: [] :: rest.map (indentLine depth) ++ [blanks depth])

/-- The source of a description is its lines between quotes, each line escaped on its own. -/
theorem toList_docLines (s : String) :
    (docLines s).map String.toList = quotedLines ((describedLines s).map proseChars) := by
  unfold docLines describedLines
  rw [splitLines_proseChars]
  cases splitLines s.toList with
  | nil => simp [quotedLines, proseChars]
  | cons first rest =>
    cases rest with
    | nil => simp [quotedLines]
    | cons second rest =>
      have hlines : String.toList ∘ String.ofList ∘ proseChars = proseChars :=
        funext fun _ => String.toList_ofList
      simp [quotedLines, hlines]

/-- Indented, the source is one string, and indenting does not touch the escapes. -/
theorem descriptionSource_eq (depth : Nat) (s : String) :
    descriptionSource depth s = blanks depth ++ quoted (saidAt depth (describedLines s)) := by
  have hsource : descriptionSource depth s =
      List.intercalate ['\n'] ((quotedLines ((describedLines s).map proseChars)).map (indentLine depth)) := by
    have hline : String.toList ∘ lineAt depth = indentLine depth ∘ String.toList :=
      funext fun _ => toList_lineAt depth _
    rw [descriptionSource, Step.lines, List.map_map, hline, ← List.map_map, toList_docLines]
  have hquotes (cs : List Char) : indentLine depth (tripleQuote.toList ++ cs) =
      blanks depth ++ (tripleQuote.toList ++ cs) := if_neg (by simp [tripleQuote])
  have hclose : indentLine depth tripleQuote.toList = blanks depth ++ tripleQuote.toList :=
    if_neg (by decide)
  rw [hsource, quoted]
  cases hlines : describedLines s with
  | nil => exact absurd hlines (describedLines_ne_nil s)
  | cons first rest =>
    cases rest with
    | nil =>
      rw [List.map_singleton, quotedLines, List.map_singleton, List.intercalate_singleton, saidAt,
        List.append_assoc, hquotes]
    | cons second rest =>
      have hempty : indentLine depth [] = [] := rfl
      have hnone : proseChars [] = [] := rfl
      have hsaid : proseChars (saidAt depth (first :: second :: rest)) =
          proseChars first ++ ([] :: ((second :: rest).map proseChars).map (indentLine depth) ++
            [blanks depth]).flatMap ('\n' :: ·) := by
        have hrest : ((second :: rest).map (indentLine depth)).map proseChars =
            ((second :: rest).map proseChars).map (indentLine depth) := by
          rw [List.map_map, List.map_map]
          exact List.map_congr_left fun l _ => proseChars_indentLine depth l
        rw [saidAt, List.cons_append, intercalate_feeds, proseChars_append, proseChars_feeds, List.map_append, ← hrest,
          List.map_singleton, proseChars_blanks, List.map_cons, hnone]
        simp
      rw [hsaid, List.map_cons, quotedLines]
      · simp only [List.map_cons, List.map_append, List.cons_append, intercalate_feeds, hquotes, hclose, hempty,
          List.flatMap_append, List.flatMap_cons, List.flatMap_nil, List.append_assoc, List.append_nil,
          List.map_nil, List.nil_append]
      · simp

/-- The lines within a string are those that it holds. -/
theorem innerLines?_saidAt (depth : Nat) {lines : List (List Char)} (hne : lines ≠ [])
    (h : ∀ l ∈ lines, '\n' ∉ l) : innerLines? depth (saidAt depth lines) = some lines := by
  have hblanks : '\n' ∉ blanks depth := by simp [blanks]
  have hindent {l : List Char} (hl : '\n' ∉ l) : '\n' ∉ indentLine depth l := by
    unfold indentLine
    split
    · exact List.not_mem_nil
    · exact List.not_mem_append hblanks hl
  cases lines with
  | nil => exact absurd rfl hne
  | cons first rest =>
    obtain ⟨hfirst, hrest⟩ := List.forall_mem_cons.mp h
    cases rest with
    | nil => rw [saidAt, innerLines?, pieces_unbroken hfirst]
    | cons second rest =>
      have hunbroken : ∀ l ∈ first :: [] :: (second :: rest).map (indentLine depth) ++ [blanks depth], '\n' ∉ l := by
        rw [List.cons_append, List.cons_append, List.forall_mem_cons, List.forall_mem_cons, List.forall_mem_append]
        exact ⟨hfirst, List.not_mem_nil, List.forall_mem_map.mpr fun l hl => hindent (hrest l hl),
          List.forall_mem_singleton.mpr hblanks⟩
      rw [saidAt, innerLines?, pieces_intercalate '\n' (by simp), flatMap_pieces_unbroken hunbroken]
      · simp only [List.cons_append]
        rw [List.getLast?_concat, if_pos rfl, List.dropLast_concat, mapM_map_eq_some (unindent?_indentLine depth)]
        rfl
      · simp

/-- Reading the source gives the lines of the text again, at any depth. -/
theorem readDescription?_source (depth : Nat) (s : String) :
    readDescription? depth (descriptionSource depth s) = some (describedLines s) := by
  have hunindent : unindent? depth (blanks depth ++ quoted (saidAt depth (describedLines s))) =
      some (quoted (saidAt depth (describedLines s))) := by
    have hne : quoted (saidAt depth (describedLines s)) ≠ [] := by simp [quoted, tripleQuote]
    have hline := unindent?_indentLine depth (quoted (saidAt depth (describedLines s)))
    rwa [indentLine, if_neg hne] at hline
  have hopen (cs : List Char) : prose? (quoted cs) = some (proseChars cs ++ (tripleQuote.toList ++ [])) := by
    rw [quoted, List.append_assoc, List.append_nil]
    rfl
  rw [descriptionSource_eq, readDescription?, hunindent, Option.bind_some, hopen]
  simp only [Option.bind_eq_bind, Option.bind_some, readProse?_proseChars]
  exact innerLines?_saidAt depth (describedLines_ne_nil s) (feed_not_mem_describedLines s)

/-- Every text stays in its description, at every depth. The source of the description is its indentation and then
one string in triple quotes, with no quote in between that is not escaped and with no backslash that does not escape
a backslash or a quote; so whatever follows, the string ends where the description ends. Each of its lines is one
line of the source. Read without quotes, indentation, inserted line and escapes it has the lines into which the text
splits, or an empty one if there is none. -/
theorem description_enclosed (s : String) (depth : Nat) :
    (∃ body said, descriptionSource depth s =
        (indentation depth).toList ++ (tripleQuote.toList ++ body ++ tripleQuote.toList) ∧
      openQuotes false body = 0 ∧ unescape? body = some said ∧
      ∀ below, readProse? (body ++ (tripleQuote.toList ++ below)) = some (said, below)) ∧
    (∀ l ∈ (Step.docstring s).lines depth, Unbroken l) ∧
    (∀ lines, SplitsInto s.toList lines ↔ splitLines s.toList = lines) ∧
    readDescription? depth (descriptionSource depth s) = some (describedLines s) := by
  refine ⟨⟨proseChars (saidAt depth (describedLines s)), saidAt depth (describedLines s), ?_, ?_, ?_, ?_⟩,
    Step.unbroken_lines (by rw [Step.IsUnbroken]; trivial) depth, fun _ => splitsInto_iff,
    readDescription?_source depth s⟩
  · rw [descriptionSource_eq, quoted, indentation, String.toList_ofList]
    rfl
  · have hopen := openQuotes_proseChars (saidAt depth (describedLines s)) []
    rwa [List.append_nil] at hopen
  · exact unescape?_eq_some_iff.mpr rfl
  · exact readProse?_proseChars _

end Source

end TraversalSdk
