import Mathlib.Data.List.Infix
import TraversalSdk.Source.Module
import TraversalSdk.Text.Pieces
import TraversalSdk.Proofs.LiteralReading
import TraversalSdk.Proofs.NameChars

namespace TraversalSdk.Text

theorem piecesFrom_unbroken {separator : Char} {cs : List Char} (h : separator ∉ cs)
    (piece : List Char) : piecesFrom separator piece cs = [piece.reverse ++ cs] := by
  induction cs generalizing piece with
  | nil => simp [piecesFrom]
  | cons c cs ih =>
    have hc : (c == separator) = false := beq_false_of_ne fun he => h (by simp [he])
    rw [piecesFrom, hc]
    simpa using ih (fun hm => h (List.mem_cons_of_mem _ hm)) (c :: piece)

/-- What has no separator is one piece. -/
theorem pieces_unbroken {separator : Char} {cs : List Char} (h : separator ∉ cs) :
    pieces separator cs = [cs] :=
  piecesFrom_unbroken h []

theorem piecesFrom_ne_nil (separator : Char) (piece cs : List Char) : piecesFrom separator piece cs ≠ [] := by
  induction cs generalizing piece with
  | nil => exact List.cons_ne_nil _ _
  | cons c cs ih =>
    rw [piecesFrom]
    split
    · exact List.cons_ne_nil _ _
    · exact ih (c :: piece)

theorem pieces_ne_nil (separator : Char) (cs : List Char) : pieces separator cs ≠ [] :=
  piecesFrom_ne_nil separator [] cs

theorem piecesFrom_append (separator : Char) (piece xs ys : List Char) :
    piecesFrom separator piece (xs ++ separator :: ys) =
      piecesFrom separator piece xs ++ pieces separator ys := by
  induction xs generalizing piece with
  | nil => simp [piecesFrom, pieces]
  | cons c xs ih =>
    rw [List.cons_append, piecesFrom, piecesFrom]
    split
    · rw [ih, List.cons_append]
    · exact ih (c :: piece)

/-- A separator ends a piece, wherever it stands. -/
theorem pieces_append (separator : Char) (xs ys : List Char) :
    pieces separator (xs ++ separator :: ys) = pieces separator xs ++ pieces separator ys :=
  piecesFrom_append separator [] xs ys

theorem pieces_intercalate (separator : Char) {ls : List (List Char)} (hne : ls ≠ []) :
    pieces separator (List.intercalate [separator] ls) = ls.flatMap (pieces separator) := by
  induction ls with
  | nil => exact absurd rfl hne
  | cons l ls ih =>
    cases ls with
    | nil => simp
    | cons l' ls =>
      rw [List.intercalate_cons_cons, List.append_assoc, List.singleton_append, pieces_append,
        ih (by simp)]
      rfl

theorem flatMap_pieces_unbroken {separator : Char} {ls : List (List Char)}
    (h : ∀ l ∈ ls, separator ∉ l) : ls.flatMap (pieces separator) = ls := by
  induction ls with
  | nil => rfl
  | cons l ls ih =>
    rw [List.flatMap_cons, pieces_unbroken (h l (by simp)),
      ih fun l' hl' => h l' (List.mem_cons_of_mem _ hl')]
    rfl

/-- Descriptions are split at line feeds, among other boundaries. -/
theorem not_mem_splitLinesFrom {b : Char} (hb : isLineBoundary b = true) {acc cs : List Char}
    (ha : b ∉ acc) : ∀ l ∈ splitLinesFrom acc cs, b ∉ l := by
  fun_induction splitLinesFrom acc cs with
  | case1 => simp
  | case2 => simpa using ha
  | case3 acc rest ih =>
    rw [List.forall_mem_cons]
    exact ⟨by simpa using ha, ih (by simp)⟩
  | case4 acc c rest _ _ ih =>
    rw [List.forall_mem_cons]
    exact ⟨by simpa using ha, ih (by simp)⟩
  | case5 acc c rest _ hc ih =>
    refine ih fun hm => ?_
    rcases List.mem_cons.mp hm with rfl | hm
    · exact hc hb
    · exact ha hm

theorem splitLinesFrom_skip {xs : List Char} (h : ∀ c ∈ xs, isLineBoundary c = false)
    (acc ys : List Char) : splitLinesFrom acc (xs ++ ys) = splitLinesFrom (xs.reverse ++ acc) ys := by
  induction xs generalizing acc with
  | nil => rfl
  | cons x xs ih =>
    obtain ⟨hx, hxs⟩ := List.forall_mem_cons.mp h
    have hstep : splitLinesFrom acc (x :: (xs ++ ys)) = splitLinesFrom (x :: acc) (xs ++ ys) := by
      rw [splitLinesFrom, hx]
      · rfl
      · rintro rest rfl _
        exact absurd hx (by decide)
    rw [List.cons_append, hstep, ih hxs, List.reverse_cons, List.append_assoc, List.singleton_append]

/-- Line ends stay as they are just if there is no carriage return. -/
theorem normalizeNewlines_eq_self_iff {cs : List Char} : normalizeNewlines cs = cs ↔ '\r' ∉ cs := by
  fun_induction normalizeNewlines cs with
  | case1 => simp
  | case2 rest ih => simp
  | case3 c rest _ ih =>
    by_cases hc : c = '\r'
    · simp [hc]
    · simp [hc, ih, Ne.symm hc]

end TraversalSdk.Text

namespace TraversalSdk.Source
open Text

/-- A backslash or a quote has a backslash put in front, and any other character is left as it is. -/
theorem proseChar_cases (c : Char) :
    (c = '\\' ∨ c = '"') ∧ proseChar c = ['\\', c] ∨ c ≠ '\\' ∧ c ≠ '"' ∧ proseChar c = [c] := by
  unfold proseChar
  split_ifs with hslash hquote
  · have hc := eq_of_beq hslash
    exact .inl ⟨.inl hc, by rw [hc]⟩
  · have hc := eq_of_beq hquote
    exact .inl ⟨.inr hc, by rw [hc]⟩
  · exact .inr ⟨by simpa using hslash, by simpa using hquote, rfl⟩

theorem proseChar_boundary {c : Char} (hc : isLineBoundary c = true) : proseChar c = [c] := by
  rcases proseChar_cases c with ⟨rfl | rfl, _⟩ | ⟨_, _, he⟩
  · cases hc
  · cases hc
  · exact he

theorem proseChar_inner {c : Char} (hc : isLineBoundary c = false) :
    ∀ d ∈ proseChar c, isLineBoundary d = false := by
  intro d hd
  rcases proseChar_cases c with ⟨_, he⟩ | ⟨_, _, he⟩ <;> rw [he] at hd
  · rcases List.mem_pair.mp hd with rfl | rfl
    · rfl
    · exact hc
  · rwa [List.mem_singleton.mp hd]

theorem proseChars_cons (c : Char) (cs : List Char) :
    proseChars (c :: cs) = proseChar c ++ proseChars cs :=
  List.flatMap_cons

theorem proseChars_append (xs ys : List Char) :
    proseChars (xs ++ ys) = proseChars xs ++ proseChars ys :=
  List.flatMap_append

/-- Escaping puts nothing but a backslash in front of a character. -/
theorem head?_proseChars {c : Char} (hc : c ≠ '\\') {cs : List Char}
    (h : (proseChars cs).head? = some c) : cs.head? = some c := by
  cases cs with
  | nil => exact h
  | cons d cs =>
    rw [proseChars_cons] at h
    rcases proseChar_cases d with ⟨_, he⟩ | ⟨_, _, he⟩ <;> rw [he] at h
    · exact absurd (Option.some.inj h).symm hc
    · exact h

theorem proseChars_eq_nil_iff {cs : List Char} : proseChars cs = [] ↔ cs = [] := by
  cases cs with
  | nil => simp [proseChars]
  | cons c cs =>
    have hne : proseChar c ≠ [] := by
      rcases proseChar_cases c with ⟨_, he⟩ | ⟨_, _, he⟩ <;> rw [he] <;> exact List.cons_ne_nil _ _
    simp [proseChars_cons, hne]

/-- Escapes leave the lines of a text where they are. -/
theorem splitLinesFrom_proseChars (acc cs : List Char) :
    splitLinesFrom (proseChars acc.reverse).reverse (proseChars cs) =
      (splitLinesFrom acc cs).map proseChars := by
  fun_induction splitLinesFrom acc cs with
  | case1 acc h =>
    rw [List.isEmpty_iff.mp h]
    rfl
  | case2 acc h =>
    have hne : (proseChars acc.reverse).reverse.isEmpty = false := by
      rw [List.isEmpty_reverse, Bool.eq_false_iff, ne_eq, List.isEmpty_iff, proseChars_eq_nil_iff,
        List.reverse_eq_nil_iff, ← List.isEmpty_iff]
      exact h
    have hnil : proseChars [] = [] := rfl
    rw [hnil, splitLinesFrom, hne, List.reverse_reverse]
    rfl
  | case3 acc rest ih =>
    have hcons : proseChars ('\r' :: '\n' :: rest) = '\r' :: '\n' :: proseChars rest := rfl
    rw [hcons, splitLinesFrom, List.map_cons, ← ih, List.reverse_reverse]
    rfl
  | case4 acc c rest hpair hc ih =>
    rw [proseChars_cons, proseChar_boundary hc, List.singleton_append, splitLinesFrom, hc]
    · rw [if_pos rfl, List.map_cons, ← ih, List.reverse_reverse]
      rfl
    · intro below hr hbelow
      have hhead : rest.head? = some '\n' := head?_proseChars (by decide) (by rw [hbelow]; rfl)
      exact hpair rest.tail hr (List.eq_cons_of_mem_head? hhead)
  | case5 acc c rest _ hc ih =>
    rw [proseChars_cons, splitLinesFrom_skip (proseChar_inner (by simpa using hc)), ← ih,
      List.reverse_cons, proseChars_append, List.reverse_append]
    simp [proseChars]

/-- Escaped prose has the lines of the prose, each of them escaped. -/
theorem splitLines_proseChars (cs : List Char) :
    splitLines (proseChars cs) = (splitLines cs).map proseChars :=
  splitLinesFrom_proseChars [] cs

def Unbroken (s : String) : Prop := ∀ c ∈ s.toList, c ≠ '\n' ∧ c ≠ '\r'

def isLineEnd (c : Char) : Bool := c == '\n' || c == '\r'

theorem isLineEnd_eq_false_iff {c : Char} : isLineEnd c = false ↔ c ≠ '\n' ∧ c ≠ '\r' := by
  simp [isLineEnd]

instance : DecidablePred Unbroken := fun s =>
  decidable_of_iff (s.toList.all (!isLineEnd ·)) (by simp [Unbroken, isLineEnd_eq_false_iff])

theorem Unbroken.feed {s : String} (h : Unbroken s) : '\n' ∉ s.toList := fun hm => (h _ hm).1 rfl

theorem Unbroken.carriage {s : String} (h : Unbroken s) : '\r' ∉ s.toList := fun hm => (h _ hm).2 rfl

theorem Unbroken.append {s t : String} (hs : Unbroken s) (ht : Unbroken t) : Unbroken (s ++ t) := by
  rw [Unbroken, String.toList_append, List.forall_mem_append]
  exact ⟨hs, ht⟩

theorem unbroken_indentation (depth : Nat) : Unbroken (indentation depth) := by
  intro c hc
  rw [indentation, String.toList_ofList] at hc
  rw [(List.mem_replicate.mp hc).2]
  decide

theorem lineAt_zero (s : String) : lineAt 0 s = s := by
  unfold lineAt
  split
  · next h => exact (String.isEmpty_iff.mp h).symm
  · simp [indentation]

theorem lineAt_toList {s : String} (h : s.toList ≠ []) (depth : Nat) :
    (lineAt depth s).toList = List.replicate (4 * depth) ' ' ++ s.toList := by
  have he : s.isEmpty = false := by
    apply Bool.eq_false_iff.mpr
    intro he
    exact h (String.toList_eq_nil_iff.mpr (String.isEmpty_iff.mp he))
  simp [lineAt, he, indentation]

theorem unbroken_lineAt {s : String} (h : Unbroken s) (depth : Nat) :
    Unbroken (lineAt depth s) := by
  unfold lineAt
  split
  · simp [Unbroken]
  · exact (unbroken_indentation depth).append h

theorem unbroken_intercalate {separator : String} {l : List String} (hs : Unbroken separator)
    (hl : ∀ s ∈ l, Unbroken s) : Unbroken (separator.intercalate l) := by
  intro c hm
  rw [String.toList_intercalate] at hm
  rcases Naming.mem_intercalate hm with hm | ⟨w, hw, hm⟩
  · exact hs c hm
  · obtain ⟨s, hmem, rfl⟩ := List.mem_map.mp hw
    exact hl s hmem c hm

/-- A literal stands on one line, whatever its text holds. -/
theorem unbroken_literal (s : String) : Unbroken (literal s) := by
  intro c hc
  have hblank := blank_le_of_mem_literal hc
  constructor <;> rintro rfl <;> exact absurd hblank (by decide)

/-- Docstrings are written line by line, whatever they say. -/
theorem unbroken_docLines (s : String) : ∀ l ∈ docLines s, Unbroken l := by
  have hquote : Unbroken tripleQuote := by decide
  have hlines : ∀ l ∈ (splitLines (proseChars s.toList)).map String.ofList, Unbroken l := by
    intro l hl
    obtain ⟨cs, hcs, rfl⟩ := List.mem_map.mp hl
    intro c hc
    rw [String.toList_ofList] at hc
    constructor
    · rintro rfl
      exact not_mem_splitLinesFrom (by decide) (by simp) cs hcs hc
    · rintro rfl
      exact not_mem_splitLinesFrom (by decide) (by simp) cs hcs hc
  unfold docLines
  split
  · simpa using hquote.append hquote
  · next first he =>
    have hf : Unbroken first := hlines first (by simp [he])
    simpa using (hquote.append hf).append hquote
  · next first rest _ he =>
    have hf : Unbroken first := hlines first (by simp [he])
    have hr : ∀ l ∈ rest, Unbroken l := fun l hl => hlines l (by simp [he, hl])
    intro l hl
    simp only [List.mem_cons, List.mem_append, List.not_mem_nil, or_false] at hl
    rcases hl with (rfl | rfl | hl) | rfl
    · exact hquote.append hf
    · simp [Unbroken]
    · exact hr l hl
    · exact hquote

namespace Step

mutual

def IsUnbroken : Step → Prop
  | line s => Unbroken s
  | blank _ | docstring _ => True
  | indented steps => AreUnbroken steps
  | block header steps => Unbroken header ∧ AreUnbroken steps

def AreUnbroken : List Step → Prop
  | [] => True
  | s :: steps => IsUnbroken s ∧ AreUnbroken steps

end

theorem areUnbroken_iff {steps : List Step} :
    AreUnbroken steps ↔ ∀ s ∈ steps, s.IsUnbroken := by
  induction steps with
  | nil => simp [AreUnbroken]
  | cons s steps ih => rw [AreUnbroken, ih, List.forall_mem_cons]

mutual

/-- Steps that hold no line feed of their own write lines without one. -/
theorem unbroken_lines {step : Step} (h : step.IsUnbroken) (depth : Nat) :
    ∀ l ∈ step.lines depth, Unbroken l := by
  match step with
  | line s =>
    simpa [lines] using unbroken_lineAt h depth
  | blank n =>
    intro l hl
    rw [lines, List.mem_replicate] at hl
    simp [hl.2, Unbroken]
  | docstring s =>
    intro l hl
    obtain ⟨d, hd, rfl⟩ := List.mem_map.mp hl
    exact unbroken_lineAt (unbroken_docLines s d hd) depth
  | indented steps => exact unbroken_allLines h (depth + 1)
  | block header steps =>
    have hheader : Unbroken (header ++ ":") := h.1.append (by simp [Unbroken])
    rw [lines, List.forall_mem_cons]
    exact ⟨unbroken_lineAt hheader depth, unbroken_allLines h.2 (depth + 1)⟩

/-- Unbroken steps write unbroken lines. -/
theorem unbroken_allLines {steps : List Step} (h : AreUnbroken steps) (depth : Nat) :
    ∀ l ∈ allLines depth steps, Unbroken l := by
  match steps with
  | [] => simp [allLines]
  | step :: steps =>
    rw [allLines, List.forall_mem_append]
    exact ⟨unbroken_lines h.1 depth, unbroken_allLines h.2 depth⟩

end

theorem allLines_append (depth : Nat) (xs ys : List Step) :
    allLines depth (xs ++ ys) = allLines depth xs ++ allLines depth ys := by
  induction xs with
  | nil => rfl
  | cons x xs ih => rw [List.cons_append, allLines, allLines, ih, List.append_assoc]

theorem allLines_flatMap {α : Type} (depth : Nat) (f : α → List Step) (l : List α) :
    allLines depth (l.flatMap f) = l.flatMap fun a => allLines depth (f a) := by
  induction l with
  | nil => rfl
  | cons a l ih => rw [List.flatMap_cons, allLines_append, ih, List.flatMap_cons]

end Step

/-- Lines that do not begin a statement of their own: empty ones and indented ones. -/
def isInner : List Char → Bool
  | [] => true
  | c :: _ => c == ' '

theorem isInner_lineAt (depth : Nat) (s : String) : isInner (lineAt (depth + 1) s).toList = true := by
  unfold lineAt
  split
  · rfl
  · have hblanks : 4 * (depth + 1) = 4 * depth + 3 + 1 := by omega
    rw [String.toList_append, indentation, String.toList_ofList, hblanks, List.replicate_succ]
    rfl

namespace Step

mutual

/-- What is written one level deeper begins no statement. -/
theorem isInner_lines (depth : Nat) (step : Step) :
    ∀ l ∈ step.lines (depth + 1), isInner l.toList = true := by
  match step with
  | line s => simpa [lines] using isInner_lineAt depth s
  | blank n =>
    intro l hl
    rw [lines, List.mem_replicate] at hl
    rw [hl.2]
    rfl
  | docstring s =>
    intro l hl
    obtain ⟨d, _, rfl⟩ := List.mem_map.mp hl
    exact isInner_lineAt depth d
  | indented steps => exact isInner_allLines (depth + 1) steps
  | block header steps =>
    rw [lines, List.forall_mem_cons]
    exact ⟨isInner_lineAt depth _, isInner_allLines (depth + 1) steps⟩

/-- What is indented begins no statement. -/
theorem isInner_allLines (depth : Nat) (steps : List Step) :
    ∀ l ∈ allLines (depth + 1) steps, isInner l.toList = true := by
  match steps with
  | [] => simp [allLines]
  | step :: steps =>
    rw [allLines, List.forall_mem_append]
    exact ⟨isInner_lines depth step, isInner_allLines depth steps⟩

end

end Step

def Stmt.lines (s : Stmt) : List String := Step.allLines 0 s.steps

theorem Stmt.lines_of_line {s : Stmt} {l : String} (h : s.steps = [.line l]) : s.lines = [l] := by
  rw [lines, h, Step.allLines, Step.lines, lineAt_zero]
  rfl

theorem Stmt.lines_of_block {s : Stmt} {header : String} {steps : List Step}
    (h : s.steps = [.block header steps]) : s.lines = (header ++ ":") :: Step.allLines 1 steps := by
  rw [lines, h, Step.allLines, Step.lines, lineAt_zero, Step.allLines, List.append_nil]

theorem Stmt.lines_gap (n : Nat) : (Stmt.gap n).lines = List.replicate n "" := by
  simp [lines, steps, Step.allLines, Step.lines]

def textLines (s : String) : List (List Char) := pieces '\n' s.toList

namespace Module

variable (m : Module)

def lines : List String :=
  Step.allLines 0 (header m.grammar m.summary) ++ m.stmts.flatMap Stmt.lines

def EndsInExports : Prop := ∃ ss names, m.stmts = ss ++ [.exportTuple names]

end Module

theorem trimEnd_eq_self {cs : List Char} (h : cs.getLast? ≠ some '\n') : trimEnd cs = cs := by
  rw [← List.head?_reverse] at h
  unfold trimEnd
  cases hr : cs.reverse with
  | nil => rw [← cs.reverse_reverse, hr]; rfl
  | cons c rest =>
    have hc : (c == '\n') = false := by
      rw [hr] at h
      simpa using h
    rw [List.dropWhile_cons, hc, ← hr]
    simp

theorem getLast?_intercalate {sep last : List Char} (front : List (List Char)) (hl : last ≠ []) :
    (List.intercalate sep (front ++ [last])).getLast? = last.getLast? := by
  have hne : last.getLast? ≠ none := by simpa using hl
  have keep (xs : List Char) : (xs ++ last).getLast? = last.getLast? := by
    rw [List.getLast?_append]
    cases h : last.getLast? with
    | none => exact absurd h hne
    | some c => rfl
  induction front with
  | nil => simp
  | cons l front ih =>
    cases front with
    | nil => simp only [List.cons_append, List.nil_append, List.intercalate_cons_cons,
        List.intercalate_singleton, keep]
    | cons l' front =>
      rw [List.cons_append, List.cons_append, List.intercalate_cons_cons, List.getLast?_append,
        ← List.cons_append, ih]
      cases h : last.getLast? with
      | none => exact absurd h hne
      | some c => rfl

theorem getLast?_tupleText (items : List String) :
    (tupleText items).toList.getLast? = some ')' := by
  have hcomma : ",)".toList.getLast? = some ')' := by decide
  have hclose : ")".toList.getLast? = some ')' := by decide
  unfold tupleText
  split <;> simp only [String.toList_append, List.getLast?_append, hcomma, hclose, Option.some_or]

theorem getLast?_exportTuple (names : List String) :
    ∃ l, (Stmt.exportTuple names).lines = [l] ∧ l.toList.getLast? = some ')' := by
  refine ⟨_, rfl, ?_⟩
  rw [lineAt_zero, String.toList_append, List.getLast?_append, getLast?_tupleText, Option.some_or]

/-- The text of a module is its lines one below the other, without the empty ones at the end. -/
theorem Module.text_toList (m : Module) :
    m.text.toList = trimEnd (List.intercalate ['\n'] (m.lines.map String.toList)) ++ ['\n'] := by
  have hlines : m.lines =
      Step.allLines 0 (header m.grammar m.summary ++ m.stmts.flatMap Stmt.steps) := by
    rw [Step.allLines_append, Step.allLines_flatMap]
    rfl
  rw [hlines, text, render_eq, String.toList_ofList, String.toList_intercalate]
  rfl

/-- A module that ends in its exports has the lines that were written, one by one. -/
theorem textLines_text {m : Module} (h : m.EndsInExports) :
    textLines m.text = m.lines.flatMap textLines ++ [[]] := by
  obtain ⟨ss, names, hs⟩ := h
  obtain ⟨last, hlast, hend⟩ := getLast?_exportTuple names
  have hlines : m.lines =
      Step.allLines 0 (header m.grammar m.summary) ++ ss.flatMap Stmt.lines ++ [last] := by
    simp [Module.lines, hs, hlast]
  have hne : last.toList ≠ [] := fun he => by simp [he] at hend
  have htrim : trimEnd (List.intercalate ['\n'] (m.lines.map String.toList)) =
      List.intercalate ['\n'] (m.lines.map String.toList) := by
    apply trimEnd_eq_self
    rw [hlines, List.map_append, List.map_singleton, getLast?_intercalate _ hne, hend]
    decide
  have hnil : m.lines.map String.toList ≠ [] := by simp [hlines]
  rw [textLines, m.text_toList, htrim, pieces_append, pieces_intercalate '\n' hnil,
    List.flatMap_map]
  rfl

variable {α : Type}

/-- Where a member stands in a list of which no two members have one key. -/
theorem split_of_nodup {β : Type} {key : α → β} {l : List α} (h : (l.map key).Nodup) {a : α}
    (ha : a ∈ l) : ∃ before below, l = before ++ a :: below ∧ ∀ x ∈ below, key x ≠ key a := by
  obtain ⟨before, below, rfl⟩ := List.append_of_mem ha
  rw [List.map_append, List.map_cons, List.nodup_append] at h
  have hcons := (List.nodup_cons.mp h.2.1).1
  exact ⟨before, below, rfl, fun x hx he => hcons (List.mem_map.mpr ⟨x, hx, he⟩)⟩

/-- The last line that is accepted, with what is seen in it, and the lines below. -/
def lastBelow (accept : List Char → Option α) :
    List (List Char) → Option (α × List (List Char))
  | [] => none
  | l :: ls => (lastBelow accept ls).or ((accept l).map fun a => (a, ls))

variable {accept : List Char → Option α}

theorem lastBelow_eq_none {ls : List (List Char)} (h : ∀ l ∈ ls, accept l = none) :
    lastBelow accept ls = none := by
  induction ls with
  | nil => rfl
  | cons l ls ih =>
    rw [lastBelow, ih fun l' hl' => h l' (List.mem_cons_of_mem _ hl'), h l (by simp)]
    rfl

theorem lastBelow_append {before below : List (List Char)} {l : List Char} {a : α}
    (hl : accept l = some a) (h : ∀ l' ∈ below, accept l' = none) :
    lastBelow accept (before ++ l :: below) = some (a, below) := by
  induction before with
  | nil => rw [List.nil_append, lastBelow, lastBelow_eq_none h, hl]; rfl
  | cons b before ih => rw [List.cons_append, lastBelow, ih]; rfl

/-- The last accepted line of a module is found in its text. -/
theorem lastBelow_text {m : Module} (hm : m.EndsInExports) {before below : List String}
    {l : String} {a : α} (h : m.lines = before ++ l :: below) (hl : accept l.toList = some a)
    (hu : ∀ l' ∈ l :: below, Unbroken l') (hb : ∀ l' ∈ below, accept l'.toList = none)
    (hnil : accept [] = none) :
    lastBelow accept (textLines m.text) = some (a, below.map String.toList ++ [[]]) := by
  have hkeep : (l :: below).flatMap textLines = (l :: below).map String.toList := by
    have hcs : ∀ cs ∈ (l :: below).map String.toList, '\n' ∉ cs := by
      intro cs hcs
      obtain ⟨l', hl', rfl⟩ := List.mem_map.mp hcs
      exact (hu l' hl').feed
    rw [← flatMap_pieces_unbroken hcs, List.flatMap_map]
    rfl
  rw [textLines_text hm, h, List.flatMap_append, hkeep, List.map_cons, List.append_assoc,
    List.cons_append]
  apply lastBelow_append hl
  intro cs hcs
  rcases List.mem_append.mp hcs with hcs | hcs
  · obtain ⟨l', hl', rfl⟩ := List.mem_map.mp hcs
    exact hb l' hl'
  · rw [List.mem_singleton.mp hcs]
    exact hnil

/-- What a module says where a statement begins is found if nothing below says it again. -/
theorem lastBelow_stmt {m : Module} (hm : m.EndsInExports) {before after : List Stmt} {s : Stmt}
    {l : String} {rest : List String} {a : α} (h : m.stmts = before ++ s :: after)
    (hs : s.lines = l :: rest) (hu : ∀ t ∈ s :: after, ∀ x ∈ t.lines, Unbroken x)
    (hl : accept l.toList = some a) (hrest : ∀ x ∈ rest, accept x.toList = none)
    (hafter : ∀ t ∈ after, ∀ x ∈ t.lines, accept x.toList = none) (hnil : accept [] = none) :
    lastBelow accept (textLines m.text) =
      some (a, (rest ++ after.flatMap Stmt.lines).map String.toList ++ [[]]) := by
  have hlines : m.lines = (Step.allLines 0 (header m.grammar m.summary)
      ++ before.flatMap Stmt.lines) ++ l :: (rest ++ after.flatMap Stmt.lines) := by
    simp [Module.lines, h, hs]
  refine lastBelow_text hm hlines hl ?_ ?_ hnil
  · rw [← List.cons_append, ← hs, ← List.flatMap_cons]
    exact List.forall_mem_flatMap.mpr hu
  · rw [List.forall_mem_append]
    exact ⟨hrest, List.forall_mem_flatMap.mpr hafter⟩

end TraversalSdk.Source
