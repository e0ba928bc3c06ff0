import TraversalSdk.Sdk.Cursors
import TraversalSdk.Proofs.TableReading

namespace TraversalSdk.Sdk
open Source Text Naming

def nameOf? : Value → Option (Option String)
  | .text s => some (some s)
  | .absent => some none
  | _ => none

def namesOf? : Value → Option (List (Option String))
  | .frozenset items => items.mapM nameOf?
  | _ => none

def memberOf? : Value → Option SequenceMember
  | .tuple [.text type, .flag optional, field] =>
    (nameOf? field).map fun f => ⟨type, optional, f⟩
  | _ => none

def membersOf? : Value → Option (List SequenceMember)
  | .tuple items => items.mapM memberOf?
  | _ => none

def readRowsAs {α : Type} (read : Value → Option α) (name text : String) :
    Option (List (String × α)) := do
  (← readTable? name text).mapM fun row => (read row.2).map (Prod.mk row.1)

/-- What the table of a direction says that each type can reach. -/
def readReach? (d : Direction) (text : String) : Option (List (String × List (Option String))) :=
  readRowsAs namesOf? d.constant text

def readSequences? (text : String) : Option (List (String × List SequenceMember)) :=
  readRowsAs membersOf? "SEQUENCES" text

theorem nameOf?_ofName? (name : Option String) : nameOf? (Value.ofName? name) = some name := by
  cases name <;> rfl

theorem namesOf?_frozenset (names : List (Option String)) :
    namesOf? (.frozenset (names.map Value.ofName?)) = some names :=
  mapM_map_eq_some nameOf?_ofName? names

/-- The members of a sequence are read back from the value that is written for them. -/
theorem membersOf?_sequenceValue (ms : List SequenceMember) :
    membersOf? (sequenceValue ms) = some ms :=
  mapM_map_eq_some (fun m => by simp [memberOf?, nameOf?_ofName?]) ms

theorem declares_constant (d : Direction) :
    Declares d.constant "Final[Mapping[str, frozenset[str | None]]]" := by
  have hname : IsName d.constant := by
    cases d <;> exact ⟨by decide, List.all_eq_true.mp (by decide)⟩
  exact ⟨hname, by decide, by decide, by decide⟩

theorem declares_transitions : Declares "TRANSITIONS"
    "Final[Mapping[str, Mapping[str, frozenset[str | None]]]]" :=
  ⟨⟨by decide, List.all_eq_true.mp (by decide)⟩, by decide, by decide, by decide⟩

theorem declares_sequences : Declares "SEQUENCES"
    "Final[Mapping[str, tuple[tuple[str, bool, str | None], ...]]]" :=
  ⟨⟨by decide, List.all_eq_true.mp (by decide)⟩, by decide, by decide, by decide⟩

theorem isLiteral_ofName? (name : Option String) : (Value.ofName? name).isLiteral = true := by
  cases name <;> rfl

def reachRows (g : Graph) (d : Direction) : List (String × Value) :=
  (g.table d).map fun row => (row.1, .frozenset (row.2.map Value.ofName?))

/-- The rows of a direction are literals, so they can be read back. -/
theorem isLiteral_reachRows (g : Graph) (d : Direction) :
    ∀ row ∈ reachRows g d, row.2.isLiteral = true := by
  intro row hrow
  obtain ⟨r, _, rfl⟩ := List.mem_map.mp hrow
  refine Value.areLiteral_iff.mpr fun v hv => ?_
  obtain ⟨name, _, rfl⟩ := List.mem_map.mp hv
  exact isLiteral_ofName? name

def sequenceRows (sequences : List (String × List SequenceMember)) : List (String × Value) :=
  sequences.map fun s => (s.1, sequenceValue s.2)

theorem isLiteral_sequenceRows (sequences : List (String × List SequenceMember)) :
    ∀ row ∈ sequenceRows sequences, row.2.isLiteral = true := by
  intro row hrow
  obtain ⟨s, _, rfl⟩ := List.mem_map.mp hrow
  refine Value.areLiteral_iff.mpr fun v hv => ?_
  obtain ⟨m, _, rfl⟩ := List.mem_map.mp hv
  refine Value.areLiteral_iff.mpr fun u hu => ?_
  simp only [List.mem_cons, List.not_mem_nil, or_false] at hu
  rcases hu with rfl | rfl | rfl
  · rfl
  · rfl
  · exact isLiteral_ofName? m.field

def transitionRows : List (String × Value) :=
  Direction.all.map fun d => (d.word, .expression d.constant)

def lowerStmts (b : Blueprint) : List Stmt :=
  [.table "TRANSITIONS" "Final[Mapping[str, Mapping[str, frozenset[str | None]]]]" transitionRows,
    .gap 1,
    .table "SEQUENCES" "Final[Mapping[str, tuple[tuple[str, bool, str | None], ...]]]"
      (sequenceRows b.sequences),
    .gap 2,
    .define "can_navigate" canNavigateSteps]
  ++ exporting mapsExports

/-- The module begins with imports, and then come the tables, one for each direction. -/
theorem mapsModule_stmts (b : Blueprint) : ∃ imports, (mapsModule b).stmts =
    imports ++ Direction.all.flatMap (fun d => [reachTable b.graph d, .gap 1]) ++ lowerStmts b :=
  ⟨_, List.append_assoc _ _ _⟩

theorem mapsModule_ends (b : Blueprint) : (mapsModule b).EndsInExports :=
  ⟨_, mapsExports, (List.append_assoc _ [Stmt.gap 2] [Stmt.exportTuple mapsExports]).symm⟩

theorem spares_canNavigate {name : String} (h : IsName name) (hne : name ≠ "def") :
    (Stmt.define "can_navigate" canNavigateSteps).Spares name := by
  refine h.spares_block (by decide) ?_ fun he => ?_
  · simp only [Step.AreUnbroken, Step.IsUnbroken]
    decide
  · have hname : name.toList = "def".toList := he.symm.trans (by decide)
    exact hne (String.toList_inj.mp hname)

/-- The table of one direction does not assign to the name of another. -/
theorem spares_reachTable {name : String} (h : IsName name) {d : Direction}
    (hne : d.constant ≠ name) (g : Graph) : (reachTable g d).Spares name :=
  h.spares_table (declares_constant d) hne fun row hrow =>
    unbroken_source row.2 (isLiteral_reachRows g d row hrow)

/-- The statements below `SEQUENCES`. -/
theorem spares_closing {name : String} (h : IsName name) (hdef : name ≠ "def")
    (hall : name ≠ "__all__") :
    ∀ s ∈ [.gap 2, .define "can_navigate" canNavigateSteps] ++ exporting mapsExports,
      s.Spares name := by
  intro s hs
  simp only [exporting, List.cons_append, List.nil_append, List.mem_cons, List.not_mem_nil,
    or_false] at hs
  rcases hs with rfl | rfl | rfl | rfl
  · exact h.spares_gap 2
  · exact spares_canNavigate h hdef
  · exact h.spares_gap 2
  · exact spares_exportTuple hall _

/-- Nothing below the tables of the directions assigns to their names. -/
theorem spares_lowerStmts (b : Blueprint) (d : Direction) :
    ∀ s ∈ lowerStmts b, s.Spares d.constant := by
  have hname := (declares_constant d).toIsName
  have hother : d.constant ≠ "TRANSITIONS" ∧ d.constant ≠ "SEQUENCES" ∧ d.constant ≠ "def" ∧
      d.constant ≠ "__all__" := by
    cases d <;> decide
  obtain ⟨htransitions, hsequences, hdef, hall⟩ := hother
  have hrows : ∀ row ∈ transitionRows, Unbroken row.2.source := by
    intro row hrow
    obtain ⟨d', _, rfl⟩ := List.mem_map.mp hrow
    exact unbroken_of_nameChars (declares_constant d').chars
  intro s hs
  rcases List.mem_cons.mp hs with rfl | hs
  · exact hname.spares_table declares_transitions htransitions.symm hrows
  rcases List.mem_cons.mp hs with rfl | hs
  · exact hname.spares_gap 1
  rcases List.mem_cons.mp hs with rfl | hs
  · exact hname.spares_table declares_sequences hsequences.symm fun row hrow =>
      unbroken_source row.2 (isLiteral_sequenceRows b.sequences row hrow)
  · exact spares_closing hname hdef hall s hs

/-- The table of a direction is read back from the module. -/
theorem readTable?_reach (b : Blueprint) (d : Direction) :
    readTable? d.constant (mapsModule b).text = some (reachRows b.graph d) := by
  obtain ⟨imports, himports⟩ := mapsModule_stmts b
  have hnodup : (Direction.all.map Direction.constant).Nodup := by decide
  have hd : d ∈ Direction.all := by cases d <;> decide
  obtain ⟨xs, ys, hsplit, hys⟩ := split_of_nodup hnodup hd
  have hname := (declares_constant d).toIsName
  have hstmts : (mapsModule b).stmts =
      (imports ++ xs.flatMap fun d => [reachTable b.graph d, .gap 1]) ++
        .table d.constant "Final[Mapping[str, frozenset[str | None]]]" (reachRows b.graph d) ::
          (.gap 1 :: (ys.flatMap fun d => [reachTable b.graph d, .gap 1]) ++ lowerStmts b) := by
    rw [himports, hsplit]
    simp [reachTable, reachRows]
  apply readTable?_text (mapsModule_ends b) (declares_constant d) hstmts
    (isLiteral_reachRows b.graph d)
  rw [List.forall_mem_append, List.forall_mem_cons]
  refine ⟨⟨hname.spares_gap 1, fun s hs => ?_⟩, spares_lowerStmts b d⟩
  obtain ⟨d', hd', hs⟩ := List.mem_flatMap.mp hs
  simp only [List.mem_cons, List.not_mem_nil, or_false] at hs
  rcases hs with rfl | rfl
  · exact spares_reachTable hname (hys d' hd') b.graph
  · exact hname.spares_gap 1

theorem readTable?_sequences (b : Blueprint) :
    readTable? "SEQUENCES" (mapsModule b).text = some (sequenceRows b.sequences) := by
  obtain ⟨imports, himports⟩ := mapsModule_stmts b
  have hstmts : (mapsModule b).stmts =
      (imports ++ Direction.all.flatMap (fun d => [reachTable b.graph d, .gap 1]) ++
        [.table "TRANSITIONS" "Final[Mapping[str, Mapping[str, frozenset[str | None]]]]"
          transitionRows, .gap 1]) ++
        .table "SEQUENCES" "Final[Mapping[str, tuple[tuple[str, bool, str | None], ...]]]"
          (sequenceRows b.sequences) ::
          ([.gap 2, .define "can_navigate" canNavigateSteps] ++ exporting mapsExports) := by
    rw [himports]
    simp [lowerStmts]
  exact readTable?_text (mapsModule_ends b) declares_sequences hstmts
    (isLiteral_sequenceRows b.sequences)
    (spares_closing declares_sequences.toIsName (by decide) (by decide))

/-- The table of a direction is the graph's. -/
theorem readReach?_text (b : Blueprint) (d : Direction) :
    readReach? d (mapsModule b).text = some (b.graph.table d) := by
  rw [readReach?, readRowsAs, readTable?_reach]
  exact mapM_map_eq_some (fun row => by simp [namesOf?_frozenset]) (b.graph.table d)

/-- The table of child sequences is that of the grammar. -/
theorem readSequences?_text (b : Blueprint) :
    readSequences? (mapsModule b).text = some b.sequences := by
  rw [readSequences?, readRowsAs, readTable?_sequences]
  exact mapM_map_eq_some (fun s => by simp [membersOf?_sequenceValue]) b.sequences

end TraversalSdk.Sdk
