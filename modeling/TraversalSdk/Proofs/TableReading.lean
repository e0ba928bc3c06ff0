import TraversalSdk.Proofs.SourceLines

namespace TraversalSdk.Source
open Text Naming

theorem mapM_map_eq_some {α β : Type} {f : β → Option α} {g : α → β} (h : ∀ a, f (g a) = some a)
    (l : List α) : (l.map g).mapM f = some l := by
  induction l with
  | nil => rfl
  | cons a l ih => simp [h, ih]

theorem Value.sources_eq_map (vs : List Value) : Value.sources vs = vs.map Value.source := by
  induction vs with
  | nil => rfl
  | cons v vs ih => rw [sources, ih, List.map_cons]

theorem unbroken_tupleText {l : List String} (h : ∀ s ∈ l, Unbroken s) :
    Unbroken (tupleText l) := by
  have hopen : Unbroken "(" := by decide
  have hcomma : Unbroken ",)" := by decide
  have hclose : Unbroken ")" := by decide
  unfold tupleText
  split
  · exact (hopen.append (h _ (by simp))).append hcomma
  · exact (hopen.append (unbroken_intercalate (by decide) h)).append hclose

theorem unbroken_frozensetText {l : List String} (h : ∀ s ∈ l, Unbroken s) :
    Unbroken (frozensetText l) := by
  have hopen : Unbroken "frozenset(\x7b" := by decide
  have hclose : Unbroken "\x7d)" := by decide
  unfold frozensetText
  split
  · decide
  · exact (hopen.append (unbroken_intercalate (by decide) h)).append hclose

/-- Literals stand on one line, whatever their texts hold. -/
theorem unbroken_source (v : Value) (h : v.isLiteral = true) : Unbroken v.source :=
  have members (items : List Value) (hi : ∀ x ∈ items, Unbroken x.source) :
      ∀ s ∈ Value.sources items, Unbroken s := by
    simpa [Value.sources_eq_map] using hi
  match v with
  | .text s => unbroken_literal s
  | .flag true => (by decide : Unbroken "True")
  | .flag false => (by decide : Unbroken "False")
  | .absent => (by decide : Unbroken "None")
  | .tuple items =>
    have hl : ∀ x ∈ items, x.isLiteral = true := Value.areLiteral_iff.mp h
    unbroken_tupleText (members items fun x hx => unbroken_source x (hl x hx))
  | .frozenset items =>
    have hl : ∀ x ∈ items, x.isLiteral = true := Value.areLiteral_iff.mp h
    unbroken_frozensetText (members items fun x hx => unbroken_source x (hl x hx))
termination_by sizeOf v
decreasing_by
  all_goals
    have := List.sizeOf_lt_of_mem hx
    simp only [Value.tuple.sizeOf_spec, Value.frozenset.sizeOf_spec]
    omega

def target (line : List Char) : List Char := line.takeWhile fun c => c != ':' && c != ' '

def assigned? (name : String) (line : List Char) : Option (List Char) :=
  if target line = name.toList then
    match line.dropWhile (· != '=') with
    | '=' :: ' ' :: value => some value
    | _ => none
  else none

structure IsName (name : String) : Prop where
  ne : name ≠ ""
  chars : ∀ c ∈ name.toList, isNameChar c = true

structure IsAnnotation (type : String) : Prop where
  unbroken : Unbroken type
  chars : '=' ∉ type.toList

structure Declares (name type : String) : Prop extends IsName name where
  type_ne : type ≠ ""
  type_unbroken : Unbroken type
  type_chars : '=' ∉ type.toList

theorem nameChar_ne {c : Char} (h : isNameChar c = true) :
    c ≠ ':' ∧ c ≠ ' ' ∧ c ≠ '=' ∧ c ≠ '\n' ∧ c ≠ ')' := by
  have h' := nameChar_rec
    (P := fun c => c != ':' && c != ' ' && c != '=' && c != '\n' && c != ')') (by decide) h
  simpa [and_assoc] using h'

theorem IsName.free {name : String} (h : IsName name) {c : Char} (hc : isNameChar c = false) :
    c ∉ name.toList := by
  intro hm
  rw [h.chars c hm] at hc
  cases hc

theorem unbroken_of_nameChars {s : String} (h : ∀ c ∈ s.toList, isNameChar c = true) :
    Unbroken s := by
  intro c hc
  have hends := nameChar_rec (P := fun c => c != '\n' && c != '\r') (by decide) (h c hc)
  simpa using hends

theorem unbroken_declared {name type : String} (hn : Unbroken name) (ht : Unbroken type) :
    Unbroken (declared name type) := by
  unfold declared
  split
  · exact hn
  · exact (hn.append (by decide)).append ht

def annotationText (type : String) : List Char := if type.isEmpty then [] else ':' :: ' ' :: type.toList

theorem declared_toList (name type value : String) :
    (declared name type ++ " = " ++ value).toList =
      name.toList ++ (annotationText type ++ ' ' :: '=' :: ' ' :: value.toList) := by
  unfold declared annotationText
  split <;> simp

/-- A name is the target of a line if nothing of the name follows it. -/
theorem target_append {cs rest : List Char} (h : ∀ c ∈ cs, isNameChar c = true)
    (hrest : target rest = []) : target (cs ++ rest) = cs := by
  have hpos : ∀ c ∈ cs, (c != ':' && c != ' ') = true := by
    intro c hc
    simp [nameChar_ne (h c hc)]
  rw [target] at hrest ⊢
  rw [List.takeWhile_append_of_pos hpos, hrest, List.append_nil]

section

variable {name type value : String} (hn : IsName name)

include hn

theorem target_declared :
    target (declared name type ++ " = " ++ value).toList = name.toList := by
  rw [declared_toList]
  refine target_append hn.chars ?_
  unfold annotationText
  split <;> rfl

theorem assigned?_declared (ht : IsAnnotation type) :
    assigned? name (declared name type ++ " = " ++ value).toList = some value.toList := by
  have hfront : ∀ c ∈ name.toList ++ (annotationText type ++ [' ']), (c != '=') = true := by
    intro c hc
    rw [bne_iff_ne]
    rintro rfl
    rcases List.mem_append.mp hc with hc | hc
    · exact hn.free (by decide) hc
    · unfold annotationText at hc
      split at hc
      · exact absurd hc (by decide)
      · simp [ht.chars] at hc
  have hline : (declared name type ++ " = " ++ value).toList =
      (name.toList ++ (annotationText type ++ [' '])) ++ '=' :: ' ' :: value.toList := by
    rw [declared_toList]
    simp
  rw [assigned?, if_pos (target_declared hn), hline, List.dropWhile_append_of_pos hfront]
  rfl

end

namespace Declares

variable {name type : String} (h : Declares name type)

include h

theorem typed : IsAnnotation type := ⟨h.type_unbroken, h.type_chars⟩

theorem unbroken_line {value : String} (hv : Unbroken value) :
    Unbroken (declared name type ++ " = " ++ value) :=
  have hname := unbroken_of_nameChars h.chars
  ((unbroken_declared hname h.type_unbroken).append (by decide)).append hv

end Declares

def readRow (line : List Char) : Option (String × Value) := do
  let line ← line.dropPrefix? (indentation 2).toList
  match ← readValue line.length line with
  | (.text key, rest) =>
    let rest ← rest.dropPrefix? ": ".toList
    let (v, rest) ← readValue rest.length rest
    if rest = [','] then some (key, v) else none
  | _ => none

/-- Reads rows up to the brackets that close their table. -/
def readRows : List (List Char) → Option (List (String × Value))
  | [] => none
  | l :: ls =>
    if l = (lineAt 1 "\x7d").toList then
      if ls.head? = some [')'] then some [] else none
    else do return (← readRow l) :: (← readRows ls)

/-- Reads a table from the value that its line holds and the lines below. -/
def readTableAt (value : List Char) (below : List (List Char)) :
    Option (List (String × Value)) :=
  if value = "MappingProxyType(\x7b\x7d)".toList then some []
  else if value = "MappingProxyType(".toList && below.head? = some (lineAt 1 "\x7b").toList then
    readRows below.tail
  else none

/-- Reads the table that is assigned to a name last. -/
def readTable? (name text : String) : Option (List (String × Value)) :=
  (lastBelow (assigned? name) (textLines text)).bind fun p => readTableAt p.1 p.2

def rowLine (row : String × Value) : String :=
  lineAt 2 (literal row.1 ++ ": " ++ row.2.source ++ ",")

theorem rowLine_toList (row : String × Value) :
    (rowLine row).toList = (indentation 2).toList ++ ((Value.text row.1).source.toList ++
      (": ".toList ++ (row.2.source.toList ++ [',']))) := by
  rw [rowLine, lineAt_toList (by simp)]
  simp [indentation, Value.source]

theorem readRow_rowLine {row : String × Value} (h : row.2.isLiteral = true) :
    readRow (rowLine row).toList = some row := by
  have drop (xs ys : List Char) : (xs ++ ys).dropPrefix? xs = some ys :=
    List.dropPrefix?_append_of_beq ys (by simp)
  have hkey (fuel : Nat) (rest : List Char) (hf : (Value.text row.1).source.toList.length ≤ fuel) :=
    readsBack_text row.1 fuel rest hf
  have hvalue (fuel : Nat) (rest : List Char) (hf : row.2.source.toList.length ≤ fuel) :=
    readsBack_of_isLiteral row.2 h fuel rest hf
  rw [readRow, rowLine_toList, drop, Option.bind_eq_bind, Option.bind_some,
    hkey _ _ (by simp), Option.bind_eq_bind, Option.bind_some]
  simp only [drop, Option.bind_some]
  rw [hvalue _ _ (by simp), Option.bind_some]
  simp

theorem rowLine_ne_close (row : String × Value) :
    (rowLine row).toList ≠ (lineAt 1 "\x7d").toList := by
  rw [rowLine_toList]
  simp [lineAt, indentation, List.replicate_succ]

/-- The rows of a table end at its brackets, whatever stands below. -/
theorem readRows_rowLines {rows : List (String × Value)}
    (h : ∀ row ∈ rows, row.2.isLiteral = true) (below : List (List Char)) :
    readRows (rows.map (fun row => (rowLine row).toList)
      ++ (lineAt 1 "\x7d").toList :: [')'] :: below) = some rows := by
  induction rows with
  | nil => simp [readRows]
  | cons row rows ih =>
    rw [List.map_cons, List.cons_append, readRows, if_neg (rowLine_ne_close row),
      readRow_rowLine (h row (by simp)), ih fun r hr => h r (List.mem_cons_of_mem _ hr)]
    rfl

def tableValue : List (String × Value) → String
  | [] => "MappingProxyType(\x7b\x7d)"
  | _ => "MappingProxyType("

theorem unbroken_tableValue (rows : List (String × Value)) : Unbroken (tableValue rows) := by
  cases rows <;> simp only [tableValue] <;> decide

/-- The lines of a table behind the one that assigns it. -/
def tableBody : List (String × Value) → List String
  | [] => []
  | rows => lineAt 1 "\x7b" :: rows.map rowLine ++ [lineAt 1 "\x7d", ")"]

theorem allLines_tableRow (rows : List (String × Value)) :
    Step.allLines 2 (rows.map tableRow) = rows.map rowLine := by
  induction rows with
  | nil => rfl
  | cons row rows ih =>
    rw [List.map_cons, Step.allLines, ih, tableRow, Step.lines, List.map_cons, rowLine,
      List.singleton_append]

theorem lines_table (name type : String) (rows : List (String × Value)) :
    (Stmt.table name type rows).lines =
      (declared name type ++ " = " ++ tableValue rows) :: tableBody rows := by
  cases rows with
  | nil =>
    simp [Stmt.lines, Stmt.steps, Step.allLines, Step.lines, lineAt_zero, tableValue, tableBody,
      String.append_assoc]
  | cons row rows =>
    have hvalue : " = " ++ "MappingProxyType(" = " = MappingProxyType(" := by decide
    simp only [Stmt.lines, Stmt.steps, Step.allLines, Step.lines, lineAt_zero, allLines_tableRow,
      tableBody, tableValue, String.append_assoc, hvalue, List.append_nil, List.nil_append,
      List.cons_append, List.append_assoc, Nat.zero_add, Nat.reduceAdd]

theorem readTableAt_tableBody {rows : List (String × Value)}
    (h : ∀ row ∈ rows, row.2.isLiteral = true) (below : List (List Char)) :
    readTableAt (tableValue rows).toList ((tableBody rows).map String.toList ++ below) =
      some rows := by
  cases rows with
  | nil => exact if_pos rfl
  | cons row rows =>
    have hopen : "MappingProxyType(".toList ≠ "MappingProxyType(\x7b\x7d)".toList := by decide
    have hbody : (tableBody (row :: rows)).map String.toList ++ below = (lineAt 1 "\x7b").toList ::
        ((row :: rows).map (fun row => (rowLine row).toList) ++
          (lineAt 1 "\x7d").toList :: [')'] :: below) := by
      simp [tableBody, Function.comp_def]
    rw [tableValue, readTableAt, if_neg hopen, hbody, if_pos (by simp), List.tail_cons]
    · exact readRows_rowLines h below
    · simp

/-- What stands further in assigns nothing. -/
theorem target_of_isInner {line : List Char} (h : isInner line = true) : target line = [] := by
  cases line with
  | nil => rfl
  | cons c cs =>
    have hc : c = ' ' := by simpa [isInner] using h
    simp [target, hc]

theorem assigned?_eq_none {name : String} {line : List Char} (h : target line ≠ name.toList) :
    assigned? name line = none := if_neg h

/-- A statement that assigns to other names and keeps to its lines. -/
structure Stmt.Spares (name : String) (s : Stmt) : Prop where
  unbroken : ∀ l ∈ s.lines, Unbroken l
  target : ∀ l ∈ s.lines, target l.toList ≠ name.toList

namespace IsName

variable {name : String} (h : IsName name)

include h

theorem target_ne_of_isInner {line : List Char} (hl : isInner line = true) :
    target line ≠ name.toList := by
  rw [target_of_isInner hl]
  exact fun he => h.ne (String.toList_eq_nil_iff.mp he.symm)

theorem spares_tableBody {rows : List (String × Value)} (hr : ∀ row ∈ rows, Unbroken row.2.source) :
    ∀ l ∈ tableBody rows, Unbroken l ∧ target l.toList ≠ name.toList := by
  cases rows with
  | nil => simp [tableBody]
  | cons row rows =>
    intro l hl
    simp only [tableBody, List.cons_append, List.mem_cons (a := l), List.mem_append, List.mem_map,
      List.not_mem_nil, or_false] at hl
    rcases hl with rfl | ⟨row, hrow, rfl⟩ | rfl | rfl
    · exact ⟨by decide, h.target_ne_of_isInner (isInner_lineAt 0 _)⟩
    · have hline : Unbroken (literal row.1 ++ ": " ++ row.2.source ++ ",") :=
        (((unbroken_literal row.1).append (by decide)).append (hr row hrow)).append (by decide)
      exact ⟨unbroken_lineAt hline 2, h.target_ne_of_isInner (isInner_lineAt 1 _)⟩
    · exact ⟨by decide, h.target_ne_of_isInner (isInner_lineAt 0 _)⟩
    · refine ⟨by decide, fun he => ?_⟩
      have hparen : ')' ∈ name.toList := by rw [← he]; decide
      exact (nameChar_ne (h.chars _ hparen)).2.2.2.2 rfl

theorem spares_gap (n : Nat) : (Stmt.gap n).Spares name := by
  have hlines : ∀ l ∈ (Stmt.gap n).lines, l = "" := by
    rw [Stmt.lines_gap]
    exact fun l hl => (List.mem_replicate.mp hl).2
  constructor
  · intro l hl
    rw [hlines l hl]
    decide
  · intro l hl
    rw [hlines l hl]
    exact h.target_ne_of_isInner rfl

theorem spares_table {other type : String} (ho : Declares other type)
    (hne : other ≠ name) {rows : List (String × Value)} (hr : ∀ row ∈ rows, Unbroken row.2.source) :
    (Stmt.table other type rows).Spares name := by
  have htarget (value : String) :
      target (declared other type ++ " = " ++ value).toList ≠ name.toList := by
    rw [target_declared ho.toIsName]
    exact fun he => hne (String.toList_inj.mp he)
  constructor <;> rw [lines_table, List.forall_mem_cons]
  · exact ⟨ho.unbroken_line (unbroken_tableValue rows),
      fun l hl => (h.spares_tableBody hr l hl).1⟩
  · exact ⟨htarget _, fun l hl => (h.spares_tableBody hr l hl).2⟩

/-- Of a block only the header could assign to a name. -/
theorem spares_block {other header : String} {steps : List Step} (hheader : Unbroken header)
    (hsteps : Step.AreUnbroken steps) (hne : target (header ++ ":").toList ≠ name.toList) :
    (Stmt.define other [.block header steps]).Spares name := by
  constructor <;> rw [Stmt.lines_of_block rfl, List.forall_mem_cons]
  · exact ⟨hheader.append (by decide), Step.unbroken_allLines hsteps 1⟩
  · exact ⟨hne, fun l hl => h.target_ne_of_isInner (Step.isInner_allLines 0 steps l hl)⟩

end IsName

theorem spares_exportTuple {name : String} (hne : name ≠ "__all__") (names : List String) :
    (Stmt.exportTuple names).Spares name := by
  constructor <;> rw [Stmt.lines_of_line rfl, List.forall_mem_singleton]
  · have hnames : ∀ s ∈ names.map literal, Unbroken s := by
      simpa using fun s _ => unbroken_literal s
    exact Unbroken.append (by decide) (unbroken_tupleText hnames)
  · have htarget (rest : String) : target ("__all__ = " ++ rest).toList = "__all__".toList := by
      simp [target]
    rw [htarget]
    exact fun he => hne (String.toList_inj.mp he.symm)

/-- A table reads back if it keeps to its lines and nothing below assigns to its name. -/
theorem readTable?_text {m : Module} (hm : m.EndsInExports) {name type : String}
    (hn : Declares name type) {rows : List (String × Value)} {before after : List Stmt}
    (h : m.stmts = before ++ .table name type rows :: after)
    (hrows : ∀ row ∈ rows, row.2.isLiteral = true) (hafter : ∀ s ∈ after, s.Spares name) :
    readTable? name m.text = some rows := by
  have hnil : assigned? name [] = none :=
    assigned?_eq_none (hn.target_ne_of_isInner rfl)
  have hbody := hn.spares_tableBody fun r hr => unbroken_source r.2 (hrows r hr)
  have hunbroken : ∀ l ∈ (Stmt.table name type rows).lines, Unbroken l := by
    rw [lines_table, List.forall_mem_cons]
    exact ⟨hn.unbroken_line (unbroken_tableValue rows), fun l hl => (hbody l hl).1⟩
  have hfound := lastBelow_stmt hm h (lines_table name type rows)
    (List.forall_mem_cons.mpr ⟨hunbroken, fun s hs => (hafter s hs).unbroken⟩)
    (assigned?_declared hn.toIsName hn.typed) (fun l hl => assigned?_eq_none (hbody l hl).2)
    (fun s hs l hl => assigned?_eq_none ((hafter s hs).target l hl)) hnil
  rw [readTable?, hfound, Option.bind_some, List.map_append, List.append_assoc]
  exact readTableAt_tableBody hrows _

end TraversalSdk.Source
