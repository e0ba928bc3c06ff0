import Mathlib.Data.List.TakeWhile
import TraversalSdk.Proofs.TableReading

namespace TraversalSdk.Source
open Text Naming

def fullLines (s : String) : List (List Char) :=
  (s.toList.splitOnP isLineEnd).filter (!·.isEmpty)

/-- Whether three quotes close a description; a backslash takes away the meaning of what follows. -/
def closesProse : List Char → Bool
  | '\\' :: _ :: rest => closesProse rest
  | '"' :: '"' :: '"' :: _ => true
  | _ :: rest => closesProse rest
  | [] => false

def prose? : List Char → Option (List Char)
  | '"' :: '"' :: '"' :: rest => some rest
  | _ => none

def isComment (line : List Char) : Bool := line.head? == some '#'

/-- The lines that comments and descriptions leave; the flag tells whether a description is open. -/
def statementLines : Bool → List (List Char) → List (List Char)
  | _, [] => []
  | true, l :: ls => statementLines (!closesProse l) ls
  | false, l :: ls =>
    match prose? l with
    | some rest => statementLines (!closesProse rest) ls
    | none => if isComment l then statementLines false ls else l :: statementLines false ls

/-- Whether a line belongs to the statement above it. -/
def goesOn : List Char → Bool
  | [] => true
  | c :: _ => c == ' ' || c == ')'

/-- The first line of each statement, with the lines that belong to it: what is indented below it, and the
parenthesis that closes it. -/
def statements : List (List Char) → List (List Char × List (List Char))
  | [] => []
  | l :: ls => if goesOn l then statements ls else (l, ls.takeWhile goesOn) :: statements ls

/-- What statements import, with the module that it comes from, and what they bind and export. -/
structure Names where
  imports : List (String × List String)
  binds : List String
  exports : List String
  deriving DecidableEq

def Names.none : Names := ⟨[], [], []⟩

def Names.join (l : List Names) : Names :=
  ⟨l.flatMap imports, l.flatMap binds, l.flatMap exports⟩

def Stmt.names (s : Stmt) : Names := ⟨s.imported?.toList, s.binds, s.exported⟩

def Module.names (m : Module) : Names := Names.join (m.stmts.map Stmt.names)

def spreadItems (below : List (List Char)) : List (List Char) :=
  below.filterMap fun l => (l.dropPrefix? (indentation 1).toList).bind (·.dropSuffix? [','])

def withoutComma (word : String) : String := String.ofList (word.toList.takeWhile (· != ','))

def readImport (words : List String) (below : List (List Char)) : Names :=
  match words with
  | source :: link :: names =>
    if link ≠ "import" then .none
    else if names = ["("] then
      let names := (spreadItems below).map String.ofList
      ⟨[(source, names)], names, []⟩
    else if names[1]? = some "as" then ⟨[(source, names.take 1)], names.drop 2, []⟩
    else ⟨[(source, names.map withoutComma)], names.map withoutComma, []⟩
  | _ => .none

def textOf? : Value → Option String
  | .text s => some s
  | _ => Option.none

/-- Reads a list of texts, in parentheses on its line or on the lines below. -/
def readExports? (value : List Char) (below : List (List Char)) : Option (List String) :=
  if value = ['('] then
    (spreadItems below).mapM fun item => (readValue item.length item).bind fun p => textOf? p.1
  else match readValue value.length value with
    | some (.tuple items, []) => items.mapM textOf?
    | _ => Option.none

/-- Reads an assignment; to `__all__` the exports are assigned. -/
def readAssignment (name : String) (line : List Char) (below : List (List Char)) : Names :=
  match assigned? name line with
  | some value =>
    match if name = "__all__" then readExports? value below else Option.none with
    | some names => ⟨[], [], names⟩
    | Option.none => if name.toList.all isNameChar then ⟨[], [name], []⟩ else .none
  | Option.none => .none

/-- Reads one statement by its first word. -/
def readStatement (line : List Char) (below : List (List Char)) : Names :=
  let word := String.ofList (target line)
  let rest := (line.dropWhile (· != ' ')).drop 1
  if word = "from" then readImport ((pieces ' ' rest).map String.ofList) below
  else if word = "import" then ⟨[], [String.ofList rest], []⟩
  else if word = "class" ∨ word = "def" then ⟨[], [String.ofList (rest.takeWhile isNameChar)], []⟩
  else readAssignment word line below

def readLines (ls : List (List Char)) : Names :=
  Names.join ((statements ls).map fun s => readStatement s.1 s.2)

def readNames (text : String) : Names := readLines (statementLines false (fullLines text))

def full (ls : List String) : List (List Char) := (ls.map String.toList).filter (!·.isEmpty)

theorem full_append (xs ys : List String) : full (xs ++ ys) = full xs ++ full ys := by
  simp [full]

theorem full_flatMap {α : Type} (f : α → List String) (l : List α) :
    full (l.flatMap f) = l.flatMap fun a => full (f a) := by
  induction l with
  | nil => rfl
  | cons a l ih => rw [List.flatMap_cons, full_append, ih, List.flatMap_cons]

theorem Unbroken.not_isLineEnd {s : String} (h : Unbroken s) :
    ∀ c ∈ s.toList, isLineEnd c = false :=
  fun c hc => isLineEnd_eq_false_iff.mpr (h c hc)

/-- Lines without line ends come back when they are joined and split again. -/
theorem splitOnP_intercalate {ls : List (List Char)} (hne : ls ≠ [])
    (h : ∀ l ∈ ls, ∀ c ∈ l, isLineEnd c = false) :
    (List.intercalate ['\n'] ls).splitOnP isLineEnd = ls := by
  induction ls with
  | nil => exact absurd rfl hne
  | cons l ls ih =>
    have hl := h l List.mem_cons_self
    cases ls with
    | nil => simpa using List.splitOnP_eq_singleton hl
    | cons l' ls =>
      rw [List.intercalate_cons_cons, List.append_assoc, List.singleton_append,
        List.splitOnP_append_cons_of_forall_mem hl _ (by decide),
        ih (by simp) fun x hx => h x (List.mem_cons_of_mem _ hx)]

/-- Line feeds at the end add empty lines alone. -/
theorem filter_splitOnP_feeds (cs : List Char) (k : Nat) :
    ((cs ++ List.replicate k '\n').splitOnP isLineEnd).filter (!·.isEmpty) =
      (cs.splitOnP isLineEnd).filter (!·.isEmpty) := by
  have hfeeds : ((List.replicate k '\n').splitOnP isLineEnd).filter (!·.isEmpty) = [] := by
    induction k with
    | zero => rfl
    | succ k ih =>
      rw [List.replicate_succ, ← List.nil_append ('\n' :: _),
        List.splitOnP_append_cons _ _ (by decide), List.filter_append, ih]
      rfl
  cases k with
  | zero => rw [List.replicate_zero, List.append_nil]
  | succ k =>
    rw [List.replicate_succ, List.splitOnP_append_cons _ _ (by decide), List.filter_append]
    rw [List.replicate_succ, ← List.nil_append ('\n' :: _),
      List.splitOnP_append_cons _ _ (by decide), List.filter_append] at hfeeds
    rw [(List.append_eq_nil_iff.mp hfeeds).2, List.append_nil]

theorem trimEnd_append_feeds (cs : List Char) :
    ∃ k, cs = trimEnd cs ++ List.replicate k '\n' := by
  refine ⟨(cs.reverse.takeWhile (· == '\n')).length, ?_⟩
  have hall : cs.reverse.takeWhile (· == '\n') =
      List.replicate (cs.reverse.takeWhile (· == '\n')).length '\n' :=
    List.eq_replicate_iff.mpr ⟨rfl, fun c hc => by simpa using List.all_eq_true.mp List.all_takeWhile c hc⟩
  have hsplit := congrArg List.reverse
    (List.takeWhile_append_dropWhile (p := (· == '\n')) (l := cs.reverse))
  rw [List.reverse_append, List.reverse_reverse] at hsplit
  rw [hall, List.reverse_replicate] at hsplit
  rw [trimEnd]
  exact hsplit.symm

/-- A module has the lines that were written, empty ones apart. -/
theorem fullLines_text {m : Module} (h : ∀ l ∈ m.lines, Unbroken l) :
    fullLines m.text = full m.lines := by
  have hlines : (List.intercalate ['\n'] (m.lines.map String.toList)).splitOnP isLineEnd =
      m.lines.map String.toList := by
    refine splitOnP_intercalate (by simp [Module.lines, header, Step.allLines, Step.lines]) ?_
    rw [List.forall_mem_map]
    exact fun l hl => (h l hl).not_isLineEnd
  obtain ⟨k, hk⟩ := trimEnd_append_feeds (List.intercalate ['\n'] (m.lines.map String.toList))
  have htrim := filter_splitOnP_feeds
    (trimEnd (List.intercalate ['\n'] (m.lines.map String.toList))) k
  rw [← hk, hlines] at htrim
  rw [fullLines, m.text_toList]
  exact (filter_splitOnP_feeds _ 1).trans htrim.symm

/-- Escaped prose closes no description; the quotes behind it do. -/
theorem closesProse_proseChars (cs : List Char) : closesProse (proseChars cs) = false ∧
    closesProse (proseChars cs ++ tripleQuote.toList) = true := by
  have hquotes : tripleQuote.toList = ['"', '"', '"'] := by decide
  rw [hquotes]
  induction cs with
  | nil => exact ⟨rfl, rfl⟩
  | cons c cs ih =>
    have hskip (below : List Char) :
        closesProse (proseChar c ++ below) = closesProse below := by
      rcases proseChar_cases c with ⟨_, he⟩ | ⟨hslash, hquote, he⟩ <;> rw [he]
      · rfl
      · rw [List.singleton_append, closesProse]
        · exact fun _ _ he _ => hslash he
        · exact fun _ he _ => hquote he
    rw [proseChars_cons, List.append_assoc, hskip, hskip]
    exact ih

/-- Within a description every line is passed over. -/
theorem statementLines_open {ls : List (List Char)} (h : ∀ l ∈ ls, closesProse l = false)
    (below : List (List Char)) :
    statementLines true (ls ++ below) = statementLines true below := by
  induction ls with
  | nil => rfl
  | cons l ls ih =>
    rw [List.cons_append, statementLines, h l List.mem_cons_self]
    exact ih fun x hx => h x (List.mem_cons_of_mem _ hx)

/-- A description is passed over, whatever it says. -/
theorem statementLines_docLines (s : String) (below : List (List Char)) :
    statementLines false (full (docLines s) ++ below) = statementLines false below := by
  have hescaped : ∀ l ∈ (splitLines (proseChars s.toList)).map String.ofList,
      closesProse l.toList = false ∧ closesProse (l ++ tripleQuote).toList = true := by
    rw [splitLines_proseChars, List.map_map, List.forall_mem_map]
    intro cs _
    rw [String.toList_append, Function.comp_apply, String.toList_ofList]
    exact closesProse_proseChars cs
  have hopen (l : String) : prose? (tripleQuote ++ l).toList = some l.toList := by
    rw [String.toList_append]
    rfl
  have hne (l : String) : (!(tripleQuote ++ l).toList.isEmpty) = true := by
    rw [String.toList_append]
    rfl
  unfold docLines
  split
  · rfl
  · next first he =>
    have hfirst := hescaped first (by simp [he])
    rw [String.append_assoc]
    simp only [full, List.map_singleton, List.filter_singleton, hne, List.singleton_append,
      statementLines, hopen, hfirst.2, cond_true, Bool.not_true]
  · next first rest _ he =>
    have hfirst := hescaped first (by simp [he])
    have hrest : ∀ l ∈ full rest, closesProse l = false := by
      intro l hl
      obtain ⟨x, hx, rfl⟩ := List.mem_map.mp (List.mem_filter.mp hl).1
      exact (hescaped x (by simp [he, hx])).1
    have hlines : full ((tripleQuote ++ first) :: "" :: rest ++ [tripleQuote]) ++ below =
        (tripleQuote ++ first).toList :: (full rest ++ (tripleQuote.toList :: below)) := by
      rw [full_append, ← List.singleton_append (l := "" :: rest), ← List.singleton_append (l := rest),
        full_append, full_append]
      simp only [full, List.map_singleton, List.filter_singleton, hne, cond_true]
      simp [tripleQuote]
    rw [hlines, statementLines, hopen]
    simp only [hfirst.1, Bool.not_false]
    rw [statementLines_open hrest]
    rfl

theorem goesOn_of_isInner {l : List Char} (h : isInner l = true) : goesOn l = true := by
  cases l with
  | nil => rfl
  | cons c cs =>
    have hc : (c == ' ') = true := h
    rw [goesOn, hc, Bool.true_or]

/-- A line that belongs to a statement is no comment and begins no description. -/
theorem plain_of_goesOn {l : List Char} (h : goesOn l = true) :
    prose? l = none ∧ isComment l = false := by
  cases l with
  | nil => exact ⟨rfl, rfl⟩
  | cons c cs =>
    have hc : c = ' ' ∨ c = ')' := by simpa [goesOn] using h
    rcases hc with rfl | rfl <;> exact ⟨rfl, rfl⟩

/-- Outside of comments and descriptions no line is. -/
theorem statementLines_plain {ls : List (List Char)}
    (h : ∀ l ∈ ls, prose? l = none ∧ isComment l = false) : statementLines false ls = ls := by
  induction ls with
  | nil => rfl
  | cons l ls ih =>
    obtain ⟨hprose, hcomment⟩ := h l List.mem_cons_self
    rw [statementLines, hprose]
    simp only [hcomment, Bool.false_eq_true, if_false]
    rw [ih fun x hx => h x (List.mem_cons_of_mem _ hx)]

/-- Lines that go on belong to no statement of their own. -/
theorem statements_goOn {ls : List (List Char)} (h : ∀ l ∈ ls, goesOn l = true) :
    statements ls = [] := by
  induction ls with
  | nil => rfl
  | cons l ls ih =>
    rw [statements, if_pos (h l List.mem_cons_self)]
    exact ih fun x hx => h x (List.mem_cons_of_mem _ hx)

theorem statements_one {l : List Char} {below : List (List Char)} (hl : goesOn l = false)
    (h : ∀ x ∈ below, goesOn x = true) : statements (l :: below) = [(l, below)] := by
  have htake : below.takeWhile goesOn = below := List.takeWhile_eq_self_iff.mpr h
  rw [statements, hl, statements_goOn h, htake]
  rfl

theorem takeWhile_append_of_head {xs ys : List (List Char)} (h : ∀ l ∈ ys.head?, goesOn l = false) :
    (xs ++ ys).takeWhile goesOn = xs.takeWhile goesOn := by
  induction xs with
  | nil =>
    cases ys with
    | nil => rfl
    | cons y ys =>
      rw [List.nil_append, List.takeWhile_cons, h y rfl]
      rfl
  | cons x xs ih => rw [List.cons_append, List.takeWhile_cons, List.takeWhile_cons, ih]

/-- Statements are read one after the other. -/
theorem statements_append {xs ys : List (List Char)} (h : ∀ l ∈ ys.head?, goesOn l = false) :
    statements (xs ++ ys) = statements xs ++ statements ys := by
  induction xs with
  | nil => rfl
  | cons x xs ih =>
    rw [List.cons_append, statements, statements, ih]
    split
    · rfl
    · rw [takeWhile_append_of_head h, List.cons_append]

/-- A statement whose text says what the statement does. -/
structure Stmt.Legible (s : Stmt) : Prop where
  unbroken : ∀ l ∈ s.lines, Unbroken l
  plain : ∀ l ∈ full s.lines, prose? l = none ∧ isComment l = false
  starts : ∀ l ∈ (full s.lines).head?, goesOn l = false
  reads : readLines (full s.lines) = s.names

theorem Names.join_append (xs ys : List Names) :
    join (xs ++ ys) = join [join xs, join ys] := by
  simp [join]

/-- Statements are read one after the other, if the second text begins with one. -/
theorem readLines_append {xs ys : List (List Char)} (h : ∀ l ∈ ys.head?, goesOn l = false) :
    readLines (xs ++ ys) = Names.join [readLines xs, readLines ys] := by
  rw [readLines, statements_append h, List.map_append, Names.join_append]
  rfl

theorem starts_flatMap {ss : List Stmt} (h : ∀ s ∈ ss, s.Legible) :
    ∀ l ∈ (ss.flatMap fun s => full s.lines).head?, goesOn l = false := by
  induction ss with
  | nil => simp
  | cons s ss ih =>
    intro l hl
    rw [List.flatMap_cons, List.head?_append] at hl
    cases hs : (full s.lines).head? with
    | none =>
      rw [hs] at hl
      exact ih (fun x hx => h x (List.mem_cons_of_mem _ hx)) l hl
    | some l' =>
      rw [hs] at hl
      cases hl
      exact (h s List.mem_cons_self).starts l hs

/-- Legible statements are read as what they do. -/
theorem readLines_flatMap {ss : List Stmt} (h : ∀ s ∈ ss, s.Legible) :
    readLines (ss.flatMap fun s => full s.lines) = Names.join (ss.map Stmt.names) := by
  induction ss with
  | nil => rfl
  | cons s ss ih =>
    have hrest : ∀ x ∈ ss, x.Legible := fun x hx => h x (List.mem_cons_of_mem _ hx)
    rw [List.flatMap_cons, readLines_append (starts_flatMap hrest), ih hrest,
      (h s List.mem_cons_self).reads]
    simp [Names.join]

theorem Module.names_eq (m : Module) : m.names = ⟨m.imports, m.binds, m.exports⟩ := by
  simp only [Module.names, Names.join, List.flatMap_map, Module.imports, Module.binds,
    Module.exports, List.filterMap_eq_flatMap_toList]
  rfl

def headingNames : Names := ⟨[("__future__", ["annotations"])], ["annotations"], []⟩

def commentLine (grammar : String) : String :=
  "# Generated by treant from the " ++ grammar ++ " grammar. Do not edit."

/-- A module begins with its comment, its description and the import of every module. -/
theorem lines_header (grammar summary : String) : Step.allLines 0 (header grammar summary) =
    commentLine grammar :: (docLines summary ++ ["", "from __future__ import annotations", ""]) := by
  have hdoc : (docLines summary).map (lineAt 0) = docLines summary :=
    (List.map_congr_left fun l _ => lineAt_zero l).trans (List.map_id _)
  simp only [header, Step.allLines, Step.lines, lineAt_zero, hdoc, List.replicate_succ,
    List.replicate_zero, List.append_nil, List.cons_append, List.nil_append]
  rfl

theorem isComment_commentLine (grammar : String) :
    prose? (commentLine grammar).toList = none ∧ isComment (commentLine grammar).toList = true := by
  unfold commentLine
  simp [prose?, isComment]

/-- A module of legible statements keeps to its lines if the name of its grammar does. -/
theorem unbroken_lines {m : Module} (hname : Unbroken m.grammar) (h : ∀ s ∈ m.stmts, s.Legible) :
    ∀ l ∈ m.lines, Unbroken l := by
  have hheader : Step.AreUnbroken (header m.grammar m.summary) :=
    ⟨(Unbroken.append (by decide) hname).append (by decide), trivial, trivial,
      (by decide : Unbroken "from __future__ import annotations"), trivial, trivial⟩
  exact List.forall_mem_append.mpr ⟨Step.unbroken_allLines hheader 0,
    List.forall_mem_flatMap.mpr fun s hs => (h s hs).unbroken⟩

/-- A module of legible statements reads as what its statements say. The name of its grammar has to
stand on one line: else what follows the line end is no comment any more. -/
theorem readNames_text {m : Module} (hname : Unbroken m.grammar) (h : ∀ s ∈ m.stmts, s.Legible) :
    readNames m.text = Names.join [headingNames, m.names] := by
  obtain ⟨hprose, hcomment⟩ := isComment_commentLine m.grammar
  have hfull : full m.lines = (commentLine m.grammar).toList ::
      (full (docLines m.summary) ++ (full ["", "from __future__ import annotations", ""] ++
        m.stmts.flatMap fun s => full s.lines)) := by
    have hne : (commentLine m.grammar).toList ≠ [] := fun he => by simp [isComment, he] at hcomment
    rw [Module.lines, lines_header, full_append, full_flatMap, ← List.singleton_append (x := commentLine _),
      full_append, full_append, List.append_assoc, List.append_assoc]
    simp [full, hne]
  have hplain : ∀ l ∈ m.stmts.flatMap fun s => full s.lines,
      prose? l = none ∧ isComment l = false :=
    List.forall_mem_flatMap.mpr fun s hs => (h s hs).plain
  have hheading : readLines (full ["", "from __future__ import annotations", ""]) = headingNames := by
    decide
  rw [readNames, fullLines_text (unbroken_lines hname h), hfull, statementLines, hprose]
  simp only [hcomment, if_true]
  rw [statementLines_docLines, statementLines_plain, readLines_append (starts_flatMap h), hheading,
    readLines_flatMap h, Module.names]
  exact List.forall_mem_append.mpr ⟨by decide, hplain⟩

end TraversalSdk.Source
