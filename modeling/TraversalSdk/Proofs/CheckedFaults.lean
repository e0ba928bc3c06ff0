import TraversalSdk.Proofs.CheckedShapes

namespace TraversalSdk

def Checked.memberIssues (ms : List (String × Json)) (name : String) (optional : Bool)
    (issues : Json → List Issue) : List Issue :=
  match lookup name ms with
  | some v => (issues v).map (Issue.under (.key name))
  | none => if optional then [] else [⟨[.key name], .missing⟩]

namespace Checked

variable {α β : Type}

@[simp]
theorem issues_sound (a : α) : (sound a).issues = [] := rfl

@[simp]
theorem issues_fail (fault : Fault) : (fail fault : Checked α).issues = [⟨[], fault⟩] := rfl

@[simp]
theorem issues_map (f : α → β) (x : Checked α) : (f <$> x).issues = x.issues := by
  cases x <;> rfl

/-- Of two checks the first one tells its faults first. -/
@[simp]
theorem issues_seq (f : Checked (α → β)) (x : Checked α) :
    (f <*> x).issues = f.issues ++ x.issues := by
  cases f with
  | sound g => cases x <;> rfl
  | faulty i is =>
    cases x with
    | sound a => simp [Seq.seq, Checked.seq, issues]
    | faulty j js => rfl

/-- What is wrong with a part is told at its place. -/
@[simp]
theorem issues_under (place : Place) (x : Checked α) :
    (under place x).issues = x.issues.map (Issue.under place) := by
  cases x <;> rfl

theorem issues_eq_nil_iff {x : Checked α} : x.issues = [] ↔ ∃ a, x = .sound a := by
  cases x <;> simp [issues]

/-- A check fails with all faults that it has found. -/
theorem toExcept_eq_error_iff {x : Checked α} {is : List Issue} :
    x.toExcept = .error is ↔ x.issues = is ∧ is ≠ [] := by
  cases x with
  | sound a => simp [toExcept, issues, eq_comm]
  | faulty i is' =>
    simp only [toExcept, issues, Except.error.injEq]
    constructor
    · rintro rfl
      simp
    · exact And.left

/-- A failure of a check is made from its faults. -/
theorem of_mapError_toExcept {ε : Type} {x : Checked α} {f : List Issue → ε} {e : ε}
    (h : x.toExcept.mapError f = .error e) : f x.issues = e := by
  cases x with
  | sound a => cases h
  | faulty i is => exact Except.error.inj h

theorem issues_required (name : String) (check : Json → Checked α) (ms : List (String × Json)) :
    (required name check ms).issues = memberIssues ms name false fun v => (check v).issues := by
  unfold required memberIssues
  cases lookup name ms with
  | none => rfl
  | some v => exact issues_under _ _

theorem issues_defaulted (name : String) (default : α) (check : Json → Checked α)
    (ms : List (String × Json)) : (defaulted name default check ms).issues =
      memberIssues ms name true fun v => (check v).issues := by
  unfold defaulted memberIssues
  cases lookup name ms with
  | none => rfl
  | some v => exact issues_under _ _

theorem issues_eachFrom (check : Json → Checked α) (i : Nat) (vs : List Json) :
    (eachFrom check i vs).issues =
      (vs.zipIdx i).flatMap fun p => (check p.1).issues.map (Issue.under (.index p.2)) := by
  induction vs generalizing i with
  | nil => rfl
  | cons v vs ih => simp [eachFrom, cons, ih]

theorem issues_eachMember (check : Json → Checked α) (ms : List (String × Json)) :
    (eachMember check ms).issues =
      ms.flatMap fun m => (check m.2).issues.map (Issue.under (.key m.1)) := by
  induction ms with
  | nil => rfl
  | cons m ms ih => simp [eachMember, ih]

theorem mem_memberIssues {ms : List (String × Json)} {name : String} {optional : Bool}
    {issues : Json → List Issue} {i : Issue} : i ∈ memberIssues ms name optional issues ↔
      (∃ v, lookup name ms = some v ∧ ∃ j ∈ issues v, i = j.under (.key name)) ∨
        lookup name ms = none ∧ optional = false ∧ i = ⟨[.key name], .missing⟩ := by
  unfold memberIssues
  cases lookup name ms <;> simp [eq_comm]

/-- The faults of a list are those of its members, each told under an index. -/
theorem mem_each_issues {check : Json → Checked α} {i : Issue} {vs : List Json} :
    i ∈ (each check vs).issues ↔
      ∃ (n : Nat) (v : Json), vs[n]? = some v ∧ ∃ j ∈ (check v).issues, i = j.under (.index n) := by
  simp only [each, issues_eachFrom, List.mem_flatMap, List.mem_map, Prod.exists,
    List.mem_zipIdx_iff_getElem?, eq_comm (a := i)]
  exact exists_comm

end Checked

end TraversalSdk
