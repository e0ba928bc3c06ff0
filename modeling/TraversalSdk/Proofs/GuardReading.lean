import TraversalSdk.Proofs.CursorReading
import TraversalSdk.Proofs.LegibleModules

namespace TraversalSdk.Source
open Text Naming

def lastAssigned? (name text : String) : Option (List Char) :=
  (lastBelow (assigned? name) (textLines text)).map Prod.fst

/-- The literal that is assigned to a name last, with nothing behind it. -/
def readConstant? (name text : String) : Option Value := do
  let value ← lastAssigned? name text
  let (v, rest) ← readValue value.length value
  if rest = [] then some v else none

/-- The members of the set that is assigned to a name last. -/
def readSet? {α : Type} (read : Value → Option α) (name text : String) : Option (List α) := do
  match ← readConstant? name text with
  | .frozenset items => items.mapM read
  | _ => none

def Value.text? : Value → Option String
  | .text s => some s
  | _ => none

def Value.ref? : Value → Option NodeRef
  | .tuple [.text type, .flag named] => some ⟨type, named⟩
  | _ => none

/-- A statement that does not assign to a name. -/
def Stmt.Passes (name : String) (s : Stmt) : Prop := ∀ l ∈ s.lines, Source.target l.toList ≠ name.toList

theorem endsInExports {m : Module} {ss : List Stmt} {names : List String}
    (h : m.stmts = ss ++ exporting names) : m.EndsInExports :=
  ⟨ss ++ [.gap 2], names, by simp [h, exporting]⟩

theorem unbroken_of_legible {m : Module} (hu : ∀ s ∈ m.stmts, s.Legible) {before after : List Stmt}
    (h : m.stmts = before ++ after) : ∀ s ∈ after, ∀ l ∈ s.lines, Unbroken l := by
  intro s hs
  have hmem : s ∈ m.stmts := by
    rw [h]
    exact List.mem_append_right _ hs
  exact (hu s hmem).unbroken

section

variable {m : Module} (hm : m.EndsInExports) (hu : ∀ s ∈ m.stmts, s.Legible) {name type : String}
  (hn : Declares name type) {value : Value} {before after : List Stmt}
  (h : m.stmts = before ++ .assign name type value :: after) (hafter : ∀ s ∈ after, s.Passes name)

include hm hu hn h hafter

/-- What the last assignment to a name says is read back from the text. -/
theorem lastAssigned?_text : lastAssigned? name m.text = some value.source.toList := by
  have hfound := lastBelow_stmt hm h (Stmt.lines_of_line rfl) (unbroken_of_legible hu h)
    (assigned?_declared hn.toIsName hn.typed) (by simp) (fun s hs x hx => assigned?_eq_none (hafter s hs x hx))
    (assigned?_eq_none (hn.target_ne_of_isInner rfl))
  rw [lastAssigned?, hfound, Option.map_some]

/-- A literal that is assigned reads back if nothing below assigns to its name. -/
theorem readConstant?_text (hvalue : value.isLiteral = true) : readConstant? name m.text = some value := by
  have hread := readsBack_of_isLiteral value hvalue value.source.toList.length [] (Nat.le_refl _)
  rw [List.append_nil] at hread
  rw [readConstant?, lastAssigned?_text hm hu hn h hafter, Option.bind_eq_bind, Option.bind_some, hread]
  rfl

end

theorem readSet?_eq {α : Type} {read : Value → Option α} {name text : String} {l : List α}
    {write : α → Value} (h : readConstant? name text = some (.frozenset (l.map write)))
    (hread : ∀ a, read (write a) = some a) : readSet? read name text = some l := by
  rw [readSet?, h, Option.bind_eq_bind, Option.bind_some]
  exact mapM_map_eq_some hread l

section

variable {name : String}

/-- An assignment to another name passes. -/
theorem passes_assign {other type : String} (ho : Declares other type) (hne : other ≠ name)
    (value : Value) : (Stmt.assign other type value).Passes name := by
  rw [Stmt.Passes, Stmt.lines_of_line rfl, List.forall_mem_singleton, target_declared ho.toIsName]
  exact fun he => hne (String.toList_inj.mp he)

/-- Of a block only the header stands at the margin. -/
theorem passes_block (h : IsName name) (kind : String) (rest : List Char) {other header : String}
    {steps : List Step} (hheader : header.toList = kind.toList ++ ' ' :: rest)
    (hkind : ∀ c ∈ kind.toList, isNameChar c = true) (hne : kind ≠ name) :
    (Stmt.define other [.block header steps]).Passes name := by
  rw [Stmt.Passes, Stmt.lines_of_block rfl, List.forall_mem_cons]
  refine ⟨?_, fun l hl => h.target_ne_of_isInner (Step.isInner_allLines 0 steps l hl)⟩
  have htarget : target (header ++ ":").toList = kind.toList := by
    rw [String.toList_append, hheader, List.append_assoc]
    exact target_append hkind rfl
  rw [htarget]
  exact fun he => hne (String.toList_inj.mp he)

theorem passes_exporting (h : IsName name) (hne : name ≠ "__all__") (names : List String) :
    ∀ s ∈ exporting names, s.Passes name :=
  List.forall_mem_cons.mpr ⟨(h.spares_gap 2).target,
    List.forall_mem_singleton.mpr (spares_exportTuple hne names).target⟩

end

end TraversalSdk.Source

namespace TraversalSdk.Sdk
open Source Text Naming

/-- What a guard asks of a node. -/
inductive Test
  | given
  | kind (named : Bool)
  | typed (constant : String)
  | member (constant : String)
  deriving DecidableEq

def splitAnds : List Char → List (List Char)
  | [] => [[]]
  | ' ' :: 'a' :: 'n' :: 'd' :: ' ' :: rest => [] :: splitAnds rest
  | c :: rest =>
    match splitAnds rest with
    | piece :: others => (c :: piece) :: others
    | [] => [[c]]

def readTest? (cs : List Char) : Option Test :=
  if cs = "node is not None".toList then some .given
  else if cs = "node.is_named".toList then some (.kind true)
  else if cs = "not node.is_named".toList then some (.kind false)
  else
    ((cs.dropPrefix? "node.type == ".toList).map fun rest => .typed (String.ofList rest)) <|>
      (cs.dropPrefix? "(node.type, node.is_named) in ".toList).map fun rest =>
        .member (String.ofList rest)

def readTests? (cs : List Char) : Option (List Test) := (splitAnds cs).mapM readTest?

/-- What a test says of a node, with the constants of a module; without a node only the first test says
anything. -/
def Test.holds? (text : String) : Test → Option NodeRef → Option Bool
  | given, node => some node.isSome
  | _, none => none
  | kind named, some r => some (r.named == named)
  | typed constant, some r =>
    ((readConstant? constant text).bind Value.text?).map fun type => r.type == type
  | member constant, some r => (readSet? Value.ref? constant text).map fun rs => rs.contains r

/-- Tests are asked in turn, up to the first that does not hold. -/
def allHold? (text : String) : List Test → Option NodeRef → Option Bool
  | [], _ => some true
  | test :: tests, node => do
    if ← test.holds? text node then allHold? text tests node else return false

def function? (name : String) (line : List Char) : Option Unit :=
  if ("def " ++ name ++ "(").toList.isPrefixOf line then some () else none

def returns? (line : List Char) : Option (List Char) := line.dropPrefix? "    return ".toList

/-- What the function of a name, defined last, returns last. -/
def lastReturned? (name text : String) : Option (List Char) := do
  let (_, below) ← lastBelow (function? name) (textLines text)
  let (value, _) ← lastBelow returns? (below.takeWhile isInner)
  return value

/-- Whether the guard of a name accepts a node, or no node. -/
def accepts? (name text : String) (node : Option NodeRef) : Option Bool := do
  allHold? text (← readTests? (← lastReturned? name text)) node

def guardHeader (t : Titled) : String :=
  "def " ++ t.names.guard ++ "(node: _SyntaxNode | None) -> TypeGuard[" ++ t.names.className ++ "]:"

def guardBody (summary test : String) : List String :=
  (docLines summary).map (lineAt 1) ++ [lineAt 1 ("return node is not None and " ++ test)]

theorem lines_guard (t : Titled) (summary test : String) :
    (Stmt.define t.names.guard (guardSteps t summary test)).lines =
      guardHeader t :: guardBody summary test := by
  simp [Stmt.lines, Stmt.steps, guardSteps, guardHeader, guardBody, Step.allLines, Step.lines,
    lineAt_zero, String.append_assoc]

/-- The lines of a guard are indented, so none of them begins a statement. -/
theorem isInner_guardBody (summary test : String) :
    ∀ l ∈ guardBody summary test, isInner l.toList = true := by
  rw [guardBody, List.forall_mem_append, List.forall_mem_singleton, List.forall_mem_map]
  exact ⟨fun l _ => isInner_lineAt 0 l, isInner_lineAt 0 _⟩

theorem function?_of_isInner {name : String} {line : List Char} (h : isInner line = true) :
    function? name line = none := by
  cases line with
  | nil => simp [function?]
  | cons c cs =>
    have hc : c = ' ' := by simpa [isInner] using h
    simp [function?, hc]

/-- Two empty lines and the list of exports stand at the end of a module. -/
theorem lines_exporting (names : List String) : ∃ l cs,
    (exporting names).flatMap Stmt.lines = ["", "", l] ∧ l.toList = '_' :: cs := by
  refine ⟨"__all__ = " ++ tupleText (names.map literal),
    "_all__ = ".toList ++ (tupleText (names.map literal)).toList, ?_, by simp⟩
  rw [exporting, List.flatMap_cons, List.flatMap_singleton, Stmt.lines_gap, Stmt.lines_of_line rfl]
  rfl

theorem function?_exporting (name : String) (names : List String) :
    ∀ s ∈ exporting names, ∀ l ∈ s.lines, function? name l.toList = none := by
  intro s hs l hl
  obtain ⟨last, cs, hlines, hlast⟩ := lines_exporting names
  have hmem : l ∈ ["", "", last] := by
    rw [← hlines]
    exact List.mem_flatMap.mpr ⟨s, hs, hl⟩
  simp only [List.mem_cons, List.not_mem_nil, or_false] at hmem
  rcases hmem with rfl | rfl | rfl
  · exact function?_of_isInner rfl
  · exact function?_of_isInner rfl
  · simp [function?, hlast]

/-- A guard is found by its header. -/
theorem function?_guardHeader (t : Titled) : function? t.names.guard (guardHeader t).toList = some () := by
  refine if_pos (List.isPrefixOf_iff_prefix.mpr ?_)
  simp [guardHeader]

theorem returns?_lineAt (value : String) :
    returns? (lineAt 1 ("return " ++ value)).toList = some value.toList := by
  have hline : (lineAt 1 ("return " ++ value)).toList = "    return ".toList ++ value.toList := by
    rw [lineAt_toList (by simp)]
    simp
  rw [returns?, hline]
  exact List.dropPrefix?_append_of_beq _ (by simp)

/-- The body of a function in front of the exports, with the empty lines below it. -/
theorem takeWhile_body {body : List String} (h : ∀ l ∈ body, isInner l.toList = true)
    (names : List String) :
    ((body ++ (exporting names).flatMap Stmt.lines).map String.toList ++ [[]]).takeWhile isInner =
      body.map String.toList ++ [[], []] := by
  obtain ⟨last, cs, hexports, hlast⟩ := lines_exporting names
  have hstop : isInner ('_' :: cs) = false := rfl
  have hbody : ∀ l ∈ body.map String.toList, isInner l = true := List.forall_mem_map.mpr h
  rw [hexports, List.map_append, List.append_assoc, List.takeWhile_append_of_pos hbody]
  simp [hlast, hstop, show isInner [] = true from rfl]

/-- The last line of a guard is its test. -/
theorem lastBelow_guardBody (summary test : String) :
    lastBelow returns? ((guardBody summary test).map String.toList ++ [[], []]) =
      some (("node is not None and " ++ test).toList, [[], []]) := by
  have hjoin : "return node is not None and " ++ test =
      "return " ++ ("node is not None and " ++ test) := by
    rw [← String.append_assoc]
    rfl
  rw [guardBody, hjoin, List.map_append, List.map_singleton, List.append_assoc]
  exact lastBelow_append (returns?_lineAt _) (by simp [returns?, List.dropPrefix?])

/-- A guard at the end of a module is found by its name. -/
theorem lastReturned?_text {m : Module} (hu : ∀ s ∈ m.stmts, s.Legible) {before : List Stmt}
    {t : Titled} {summary test : String} {names : List String}
    (h : m.stmts = before ++ .define t.names.guard (guardSteps t summary test) :: exporting names) :
    lastReturned? t.names.guard m.text = some ("node is not None and " ++ test).toList := by
  have hm : m.EndsInExports := endsInExports (h.trans (List.append_cons ..))
  have hinner := isInner_guardBody summary test
  have hfound := lastBelow_stmt hm h (lines_guard t summary test) (unbroken_of_legible hu h)
    (function?_guardHeader t) (fun l hl => function?_of_isInner (hinner l hl)) (function?_exporting _ _) (by simp [function?])
  rw [lastReturned?, hfound, Option.bind_eq_bind, Option.bind_some]
  simp only [takeWhile_body hinner, lastBelow_guardBody]
  rfl

/-- The guard of a type tests its kind and its name. -/
theorem readTests?_own (t : Titled) : readTests? ("node is not None and " ++ ownTest t).toList =
    some [.given, .kind t.ref.named, .typed "TYPE"] := by
  rw [ownTest]
  cases t.ref.named <;> decide

/-- The guard of a group tests whether a node is among the members. -/
theorem readTests?_group :
    readTests? ("node is not None and " ++ "(node.type, node.is_named) in _MEMBERS").toList =
      some [.given, .member "_MEMBERS"] := by
  decide

theorem accepts?_eq {name text : String} {returned : List Char} {tests : List Test}
    (h : lastReturned? name text = some returned) (htests : readTests? returned = some tests)
    (node : Option NodeRef) : accepts? name text node = allHold? text tests node := by
  rw [accepts?, h, Option.bind_eq_bind, Option.bind_some, htests]
  rfl

/-- A guard with the tests of a type accepts this type alone. -/
theorem allHold?_own {text type : String} {named : Bool}
    (h : readConstant? "TYPE" text = some (.text type)) (node : Option NodeRef) :
    allHold? text [.given, .kind named, .typed "TYPE"] node =
      some (decide (node = some ⟨type, named⟩)) := by
  cases node with
  | none => rfl
  | some r =>
    obtain ⟨other, kind⟩ := r
    simp only [allHold?, Test.holds?, h, Option.isSome_some, Option.bind_eq_bind, Option.bind_some,
      Option.map_some, Value.text?, if_true, Option.pure_def]
    by_cases hk : kind = named
    · by_cases ht : other = type <;> simp [hk, ht]
    · simp [hk]

/-- A guard with the test of a group accepts its members. -/
theorem allHold?_group {text : String} {rs : List NodeRef}
    (h : readSet? Value.ref? "_MEMBERS" text = some rs) (node : Option NodeRef) :
    allHold? text [.given, .member "_MEMBERS"] node = some (decide (∃ r ∈ rs, node = some r)) := by
  cases node with
  | none => simp [allHold?, Test.holds?]
  | some r =>
    simp only [allHold?, Test.holds?, h, Option.isSome_some, Option.bind_eq_bind, Option.bind_some,
      Option.map_some, if_true, Option.pure_def]
    by_cases hr : r ∈ rs <;> simp [hr]

end TraversalSdk.Sdk
