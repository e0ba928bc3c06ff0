import TraversalSdk.Proofs.ImportClosure

namespace TraversalSdk

namespace Text

/-- A line that does not end in a carriage return ends where it seems to end. -/
theorem normalizeNewlines_append {xs : List Char} (h : xs.getLast? ≠ some '\r') (ys : List Char) :
    normalizeNewlines (xs ++ ys) = normalizeNewlines xs ++ normalizeNewlines ys := by
  fun_induction normalizeNewlines xs with
  | case1 => rfl
  | case2 rest ih =>
    have hrest : rest.getLast? ≠ some '\r' := by
      cases rest with
      | nil => simp
      | cons c rest => simpa using h
    rw [List.cons_append, List.cons_append, normalizeNewlines, ih hrest, List.cons_append]
  | case3 c rest hpair ih =>
    have hrest : rest.getLast? ≠ some '\r' := by
      cases rest with
      | nil => simp
      | cons d rest => simpa using h
    have hfirst : ∀ below, c = '\r' → rest ++ ys = '\n' :: below → False := by
      intro below hc hbelow
      cases rest with
      | nil => exact h (by rw [hc]; rfl)
      | cons d rest => exact hpair rest hc (by rw [(List.cons.inj hbelow).1])
    rw [List.cons_append, normalizeNewlines, ih hrest, List.cons_append]
    exact hfirst

/-- No carriage return is left where all line ends are line feeds. -/
theorem carriage_not_mem_normalizeNewlines (cs : List Char) : '\r' ∉ normalizeNewlines cs := by
  fun_induction normalizeNewlines cs with
  | case1 => exact List.not_mem_nil
  | case2 rest ih => simpa using ih
  | case3 c rest _ ih =>
    intro hm
    rcases List.mem_cons.mp hm with hc | hm
    · split at hc
      · cases hc
      · next hne => exact hne (by simp [← hc])
    · exact ih hm

/-- Lines that have no carriage return are kept. -/
theorem normalizeNewlines_kept {xs : List Char} (h : '\r' ∉ xs) (ys : List Char) :
    normalizeNewlines (xs ++ ys) = xs ++ normalizeNewlines ys := by
  have hlast : xs.getLast? ≠ some '\r' := fun hl => h (List.mem_of_getLast? hl)
  rw [normalizeNewlines_append hlast, normalizeNewlines_eq_self_iff.mpr h]

end Text

namespace Source
open Text

def sourceLines (s : String) : List (List Char) := pieces '\n' (normalizeNewlines s.toList)

/-- What a text begins with: a comment, what the string below it says, and what is below the string. -/
structure Beginning where
  comment : List Char
  said : List Char
  below : List Char
  deriving DecidableEq

/-- Reads a string behind the quotes that open it, and what is behind the quotes that close it. -/
def readProse? : List Char → Option (List Char × List Char)
  | '\\' :: c :: rest =>
    if c = '\\' ∨ c = '"' then (readProse? rest).map fun p => (c :: p.1, p.2) else none
  | '"' :: '"' :: '"' :: rest => some ([], rest)
  | c :: rest => (readProse? rest).map fun p => (c :: p.1, p.2)
  | [] => none

def readBeginning? (text : String) : Option Beginning :=
  let cs := normalizeNewlines text.toList
  let comment := cs.takeWhile (· != '\n')
  if isComment comment then do
    let opened ← prose? (cs.drop (comment.length + 1))
    let (said, below) ← readProse? opened
    some ⟨comment, said, below⟩
  else none

/-- What a description says: its lines, with an empty one behind the first of several, and then its end
on a line of its own. -/
def described (summary : String) : List Char :=
  match splitLines summary.toList with
  | [] => []
  | [first] => first
  | first :: rest => first ++ ([] :: rest ++ [[]]).flatMap ('\n' :: ·)

def annotations : List Char := "from __future__ import annotations".toList

/-- What is below the description of every module. -/
def heading : List Char := '\n' :: '\n' :: annotations ++ ['\n']

/-- A text whose first lines are those of the comment on a grammar, of a description and of the heading. -/
def IsHeaded (grammar summary text : String) : Prop :=
  ∃ below, sourceLines text = sourceLines (commentLine grammar) ++
    ((docLines summary).map String.toList ++ [] :: annotations :: below)

/-- A text that begins with the whole comment on a grammar, a description alone and the heading. -/
def Begins (grammar summary text : String) : Prop :=
  ∃ below, readBeginning? text =
    some ⟨(commentLine grammar).toList, described summary, heading ++ below⟩

def quoted (cs : List Char) : List Char := tripleQuote.toList ++ proseChars cs ++ tripleQuote.toList

/-- Lines are put one below the other with a line feed before each but the first. -/
theorem intercalate_feeds (l : List Char) (ls : List (List Char)) :
    List.intercalate ['\n'] (l :: ls) = l ++ ls.flatMap ('\n' :: ·) := by
  induction ls generalizing l with
  | nil => simp
  | cons x ls ih =>
    rw [List.intercalate_cons_cons, ih, List.flatMap_cons, List.append_assoc, List.singleton_append,
      List.cons_append]

theorem proseChars_feeds (ls : List (List Char)) :
    proseChars (ls.flatMap ('\n' :: ·)) = (ls.map proseChars).flatMap ('\n' :: ·) := by
  induction ls with
  | nil => rfl
  | cons l ls ih =>
    have hfeed : proseChars ('\n' :: l) = '\n' :: proseChars l := rfl
    rw [List.flatMap_cons, proseChars_append, ih, hfeed, List.map_cons, List.flatMap_cons]

/-- The lines of a description are one string. -/
theorem intercalate_docLines (summary : String) :
    List.intercalate ['\n'] ((docLines summary).map String.toList) = quoted (described summary) := by
  unfold docLines described quoted
  rw [splitLines_proseChars]
  cases splitLines summary.toList with
  | nil => simp [proseChars]
  | cons first rest =>
    cases rest with
    | nil => simp
    | cons second rest =>
      have hend : proseChars [] = [] := rfl
      have hlines : ((rest.map proseChars).map String.ofList).map String.toList =
          rest.map proseChars := by
        rw [List.map_map]
        exact (List.map_congr_left fun l _ => String.toList_ofList).trans (List.map_id _)
      rw [proseChars_append, proseChars_feeds]
      simp only [List.map_cons, List.map_append, List.cons_append, intercalate_feeds, hlines, hend,
        String.toList_append, String.toList_ofList, List.flatMap_cons, List.flatMap_append,
        List.map_nil, List.append_assoc, List.flatMap_nil, List.append_nil, List.nil_append]
      rfl

/-- A string ends where its description ends. -/
theorem readProse?_proseChars (cs below : List Char) :
    readProse? (proseChars cs ++ (tripleQuote.toList ++ below)) = some (cs, below) := by
  have hquotes : tripleQuote.toList = ['"', '"', '"'] := by decide
  rw [hquotes]
  induction cs with
  | nil => rfl
  | cons c cs ih =>
    have hread (rest : List Char) : readProse? (proseChar c ++ rest) =
        (readProse? rest).map fun p => (c :: p.1, p.2) := by
      rcases proseChar_cases c with ⟨hc, he⟩ | ⟨hslash, hquote, he⟩ <;> rw [he]
      · exact if_pos hc
      · rw [List.singleton_append, readProse?]
        · exact fun _ _ he _ => hslash he
        · exact fun _ he _ => hquote he
    rw [proseChars_cons, List.append_assoc, hread, ih]
    rfl

/-- Only line feeds at the very end are dropped. -/
theorem trimEnd_append {xs : List Char} (h : xs.getLast? ≠ some '\n') (ys : List Char) :
    trimEnd (xs ++ ys) = xs ++ trimEnd ys := by
  have hkept := trimEnd_eq_self h
  rw [trimEnd, List.reverse_eq_iff] at hkept
  rw [trimEnd, trimEnd, List.reverse_append, List.dropWhile_append, hkept]
  split
  · next hnone =>
      rw [List.isEmpty_iff.mp hnone, List.reverse_reverse, List.reverse_nil, List.append_nil]
  · rw [List.reverse_append, List.reverse_reverse]

/-- What is left of a line feed and more, with its end. -/
theorem trimEnd_feed (cs : List Char) : ∃ below, trimEnd ('\n' :: cs) ++ ['\n'] = '\n' :: below ∧
    (cs = [] → below = []) := by
  obtain ⟨k, hk⟩ := trimEnd_append_feeds ('\n' :: cs)
  cases htrim : trimEnd ('\n' :: cs) with
  | nil => exact ⟨[], rfl, fun _ => rfl⟩
  | cons c rest =>
    rw [htrim, List.cons_append] at hk
    refine ⟨rest ++ ['\n'], by rw [(List.cons.inj hk).1, List.cons_append], ?_⟩
    rintro rfl
    cases htrim

theorem feed_intercalate {ls : List (List Char)} (hne : ls ≠ []) :
    '\n' :: List.intercalate ['\n'] ls = ls.flatMap ('\n' :: ·) := by
  obtain ⟨l, ls, rfl⟩ := List.exists_cons_of_ne_nil hne
  rw [intercalate_feeds, List.flatMap_cons, List.cons_append]

theorem flatMap_docLines (summary : String) :
    ((docLines summary).map String.toList).flatMap ('\n' :: ·) = '\n' :: quoted (described summary) := by
  have hne : (docLines summary).map String.toList ≠ [] := by
    unfold docLines
    split <;> exact List.cons_ne_nil _ _
  rw [← feed_intercalate hne, intercalate_docLines]

/-- The first lines of a module are its comment, its description and the import of every module. -/
theorem lines_steps (grammar summary : String) (steps : List Step) :
    (Step.allLines 0 (header grammar summary ++ steps)).map String.toList =
      (commentLine grammar).toList :: ((docLines summary).map String.toList ++
        ([] :: annotations :: [] :: (Step.allLines 0 steps).map String.toList)) := by
  unfold annotations
  rw [Step.allLines_append, lines_header]
  simp only [List.cons_append, List.append_assoc, List.map_cons, List.map_append, List.nil_append,
    String.toList_empty]

def front (grammar summary : String) : List Char :=
  (commentLine grammar).toList ++
    '\n' :: (quoted (described summary) ++ '\n' :: '\n' :: annotations)

theorem intercalate_steps (grammar summary : String) (steps : List Step) :
    List.intercalate ['\n'] ((Step.allLines 0 (header grammar summary ++ steps)).map String.toList) =
      front grammar summary ++
        '\n' :: ((Step.allLines 0 steps).map String.toList).flatMap ('\n' :: ·) := by
  rw [lines_steps, intercalate_feeds, List.flatMap_append, flatMap_docLines, front]
  simp

/-- The beginning of a module ends with a letter, so no empty line at its end is trimmed. -/
theorem getLast?_front (grammar summary : String) : (front grammar summary).getLast? = some 's' := by
  have hlast : annotations.getLast? = some 's' := by decide
  have hfront : front grammar summary = ((commentLine grammar).toList ++
      '\n' :: (quoted (described summary) ++ ['\n', '\n'])) ++ annotations := by
    simp [front]
  rw [hfront, List.getLast?_append, hlast, Option.some_or]

/-- Below the comment stand the description, the heading and what else there is. -/
theorem render_header (grammar summary : String) (steps : List Step) : ∃ below,
    (render (header grammar summary ++ steps)).toList = (commentLine grammar).toList ++
      '\n' :: (quoted (described summary) ++ (heading ++ below)) ∧ (steps = [] → below = []) := by
  have hlast : (front grammar summary).getLast? ≠ some '\n' := by
    rw [getLast?_front]
    decide
  have hfeed : "\n".toList = ['\n'] := by decide
  obtain ⟨below, hbelow, hnone⟩ :=
    trimEnd_feed (((Step.allLines 0 steps).map String.toList).flatMap ('\n' :: ·))
  refine ⟨below, ?_, fun hsteps => hnone ?_⟩
  · rw [render_eq, String.toList_ofList, String.toList_intercalate, hfeed, intercalate_steps,
      trimEnd_append hlast, List.append_assoc, hbelow, front, heading]
    simp only [List.append_assoc, List.cons_append, List.nil_append]
  · rw [hsteps]
    rfl

/-- The comment stays on one line just if the name of the grammar does. Otherwise the name leaves its comment,
whichever line end it holds. -/
theorem unbroken_commentLine {grammar : String} :
    Unbroken (commentLine grammar) ↔ Unbroken grammar := by
  constructor
  · intro h c hc
    refine h c ?_
    unfold commentLine
    rw [String.toList_append, String.toList_append]
    exact List.mem_append_left _ (List.mem_append_right _ hc)
  · exact fun h => (Unbroken.append (by decide) h).append (by decide)

theorem carriage_not_mem_quoted (summary : String) : '\r' ∉ quoted (described summary) := by
  rw [← intercalate_docLines]
  intro hm
  rcases Naming.mem_intercalate hm with hm | ⟨l, hl, hm⟩
  · cases List.mem_singleton.mp hm
  · obtain ⟨s, hs, rfl⟩ := List.mem_map.mp hl
    exact (unbroken_docLines summary s hs).carriage hm

/-- Only the comment of a module can have line ends of its own. -/
theorem normalize_render (grammar summary : String) (steps : List Step) : ∃ below,
    normalizeNewlines (render (header grammar summary ++ steps)).toList =
      normalizeNewlines (commentLine grammar).toList ++
        '\n' :: (quoted (described summary) ++ (heading ++ below)) ∧ (steps = [] → below = []) := by
  have hlast : (commentLine grammar).toList.getLast? = some '.' := by
    have hend : " grammar. Do not edit.".toList.getLast? = some '.' := by decide
    unfold commentLine
    rw [String.toList_append, List.getLast?_append, hend, Option.some_or]
  have hcomment (ys : List Char) : normalizeNewlines ((commentLine grammar).toList ++ ys) =
      normalizeNewlines (commentLine grammar).toList ++ normalizeNewlines ys :=
    normalizeNewlines_append (by rw [hlast]; decide) ys
  have hheading : '\r' ∉ heading := by decide
  obtain ⟨below, htext, hnone⟩ := render_header grammar summary steps
  refine ⟨normalizeNewlines below, ?_, fun hsteps => by rw [hnone hsteps, normalizeNewlines]⟩
  have hfeed (ys : List Char) : normalizeNewlines ('\n' :: ys) = '\n' :: normalizeNewlines ys :=
    normalizeNewlines_kept (by decide : '\r' ∉ ['\n']) ys
  rw [htext, hcomment, hfeed, normalizeNewlines_kept (carriage_not_mem_quoted summary),
    normalizeNewlines_kept hheading]

/-- Whatever is read as the first comment stands on one line. -/
theorem comment_unbroken {text : String} {read : Beginning} (h : readBeginning? text = some read) :
    ∀ c ∈ read.comment, c ≠ '\n' ∧ c ≠ '\r' := by
  have hcomment : read.comment = (normalizeNewlines text.toList).takeWhile (· != '\n') := by
    simp only [readBeginning?] at h
    split at h
    · obtain ⟨opened, _, h⟩ := Option.bind_eq_some_iff.mp h
      obtain ⟨⟨said, below⟩, _, h⟩ := Option.bind_eq_some_iff.mp h
      rw [← Option.some.inj h]
    · cases h
  intro c hc
  rw [hcomment] at hc
  constructor
  · exact bne_iff_ne.mp (List.mem_takeWhile_imp (p := (· != '\n')) hc)
  · rintro rfl
    exact carriage_not_mem_normalizeNewlines _ ((List.takeWhile_prefix _).mem hc)

/-- A module with the name of its grammar on one line begins as it should. -/
theorem readBeginning?_render {grammar : String} (hname : Unbroken grammar) (summary : String)
    (steps : List Step) : ∃ below, readBeginning? (render (header grammar summary ++ steps)) =
      some ⟨(commentLine grammar).toList, described summary, heading ++ below⟩ ∧
        (steps = [] → below = []) := by
  have hunbroken := unbroken_commentLine.mpr hname
  obtain ⟨below, htext, hnone⟩ := normalize_render grammar summary steps
  rw [normalizeNewlines_eq_self_iff.mpr hunbroken.carriage] at htext
  refine ⟨below, ?_, hnone⟩
  have htake (ys : List Char) : ((commentLine grammar).toList ++ '\n' :: ys).takeWhile (· != '\n') =
      (commentLine grammar).toList := by
    rw [List.takeWhile_append_of_pos, List.takeWhile_cons_of_neg (by decide), List.append_nil]
    exact fun c hc => bne_iff_ne.mpr (hunbroken c hc).1
  have hdrop (ys : List Char) : ((commentLine grammar).toList ++ '\n' :: ys).drop
      ((commentLine grammar).toList.length + 1) = ys := by
    rw [List.drop_append]
    simp
  have hopen (ys : List Char) : prose? (quoted (described summary) ++ ys) =
      some (proseChars (described summary) ++ (tripleQuote.toList ++ ys)) := by
    rw [quoted, List.append_assoc, List.append_assoc]
    rfl
  unfold readBeginning?
  simp only [htext, htake, hdrop, (isComment_commentLine grammar).2, if_true, hopen,
    Option.bind_eq_bind, Option.bind_some, readProse?_proseChars]

/-- The lines below the comment are the same for every name. -/
theorem sourceLines_render (grammar summary : String) (steps : List Step) : ∃ below,
    sourceLines (render (header grammar summary ++ steps)) = sourceLines (commentLine grammar) ++
      ((docLines summary).map String.toList ++ [] :: annotations :: below) ∧
        (steps = [] → below = [[]]) := by
  obtain ⟨below, htext, hnone⟩ := normalize_render grammar summary steps
  have hfeeds : '\n' :: (quoted (described summary) ++ (heading ++ below)) =
      ((docLines summary).map String.toList ++ [[], annotations, below]).flatMap ('\n' :: ·) := by
    rw [List.flatMap_append, flatMap_docLines, heading]
    simp
  have hrest : quoted (described summary) ++ (heading ++ below) =
      List.intercalate ['\n'] ((docLines summary).map String.toList ++ [[], annotations, below]) := by
    rw [← feed_intercalate (by simp)] at hfeeds
    exact List.tail_eq_of_cons_eq hfeeds
  have hlines : ∀ l ∈ (docLines summary).map String.toList ++ [[], annotations], '\n' ∉ l := by
    refine List.forall_mem_append.mpr ⟨?_, by decide⟩
    exact List.forall_mem_map.mpr fun l hl => (unbroken_docLines summary l hl).feed
  refine ⟨pieces '\n' below, ?_, fun hsteps => by rw [hnone hsteps]; rfl⟩
  have hsplit : (docLines summary).map String.toList ++ [[], annotations, below] =
      ((docLines summary).map String.toList ++ [[], annotations]) ++ [below] := by simp
  rw [sourceLines, htext, pieces_append, hrest, pieces_intercalate '\n' (by simp), hsplit,
    List.flatMap_append, flatMap_pieces_unbroken hlines, List.flatMap_singleton, sourceLines]
  simp

end Source

namespace Sdk
open Source Text

variable {b : Built} {o : Output}

/-- How modules begin. The lines of a header are those of its comment, of its description and of its
heading. Its comment holds the whole name of the grammar, with the description in a string of its own below
and nothing else around, just if the name stands on one line; and so begins every source file that is
generated. -/
theorem generate_begins {config : Option Json} (h : generate b config = .ok o) :
    (∀ grammar summary,
      sourceLines (render (header grammar summary)) = sourceLines (commentLine grammar) ++
        ((docLines summary).map String.toList ++ [[], annotations, []]) ∧
      (readBeginning? (render (header grammar summary)) =
        some ⟨(commentLine grammar).toList, described summary, heading⟩ ↔ Unbroken grammar)) ∧
    ∀ path text, ".py".toList <:+ path.toList → o.get? path = some (.text text) →
      (∃ summary, IsHeaded b.name summary text) ∧
      ((∃ summary, Begins b.name summary text) ↔ Unbroken b.name) := by
  obtain ⟨plan, hholds, hgrammar⟩ := generate_holds h
  constructor
  · intro grammar summary
    have hsteps : header grammar summary ++ [] = header grammar summary := List.append_nil _
    constructor
    · obtain ⟨below, hlines, hnone⟩ := sourceLines_render grammar summary []
      rwa [hsteps, hnone rfl] at hlines
    · constructor
      · intro hread
        exact unbroken_commentLine.mp (comment_unbroken hread)
      · intro hname
        obtain ⟨below, hread, hnone⟩ := readBeginning?_render hname summary []
        rwa [hsteps, hnone rfl, List.append_nil] at hread
  · intro path text hpath hget
    obtain ⟨m, hm, rfl⟩ := hholds.module_of_get? hpath hget
    have hname : m.grammar = b.name := (legible_modules hholds.worded _ hm).1.trans hgrammar
    rw [← hname]
    constructor
    · obtain ⟨below, hlines, _⟩ :=
        sourceLines_render m.grammar m.summary (m.stmts.flatMap Stmt.steps)
      exact ⟨m.summary, below, hlines⟩
    · constructor
      · rintro ⟨summary, below, hread⟩
        exact unbroken_commentLine.mp (comment_unbroken hread)
      · intro hunbroken
        obtain ⟨below, hread, _⟩ :=
          readBeginning?_render hunbroken m.summary (m.stmts.flatMap Stmt.steps)
        exact ⟨m.summary, below, hread⟩

/-- Literals have a name on one line, so their modules begin as they should. Of a name with an import
below its first line the import is a line of the module. -/
theorem generate_begins_literals : ∃ o text, generate literals none = .ok o ∧
    o.get? "utils.py" = some (.text text) ∧ (∃ summary, Begins "literals" summary text) ∧
    sourceLines (render (header "x\nfrom .missing import y #" "Nodes.")) =
      ["# Generated by treant from the x", "from .missing import y # grammar. Do not edit.",
        "\"\"\"Nodes.\"\"\"", "", "from __future__ import annotations", ""].map String.toList ∧
    readBeginning? (render (header "x\nfrom .missing import y #" "Nodes.")) ≠
      some ⟨(commentLine "x\nfrom .missing import y #").toList, described "Nodes.", heading⟩ := by
  obtain ⟨o, ho⟩ := generate_literals
  obtain ⟨hheader, hfiles⟩ := generate_begins ho
  obtain ⟨plan, hholds, _⟩ := generate_holds ho
  have hget := hholds.get?_eq (module_mem (planned_own (p := ("utils.py", utilsModule plan))
    (.tail _ (.tail _ (.tail _ (.head _))))))
  have hname : Unbroken literals.name := (by decide : Unbroken "literals")
  obtain ⟨hlines, hread⟩ := hheader "x\nfrom .missing import y #" "Nodes."
  refine ⟨o, _, ho, hget, (hfiles "utils.py" _ (by decide) hget).2.mpr hname, ?_,
    hread.not.mpr (by decide)⟩
  rw [hlines]
  decide +kernel

end Sdk

end TraversalSdk
