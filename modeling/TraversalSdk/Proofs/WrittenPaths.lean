import TraversalSdk.Proofs.PlannedFiles
import TraversalSdk.Proofs.SourceLines
import TraversalSdk.Proofs.StoredFiles

namespace TraversalSdk

theorem Text.separator_not_mem_piecesFrom {separator : Char} {piece cs : List Char}
    (h : separator ∉ piece) : ∀ q ∈ piecesFrom separator piece cs, separator ∉ q := by
  induction cs generalizing piece with
  | nil => simpa [piecesFrom] using h
  | cons c cs ih =>
    rw [piecesFrom]
    split
    · exact List.forall_mem_cons.mpr ⟨by simpa using h, ih List.not_mem_nil⟩
    · next hc =>
      refine ih fun hmem => ?_
      rcases List.mem_cons.mp hmem with rfl | hmem
      · exact hc (beq_self_eq_true _)
      · exact h hmem

namespace Path

theorem relativeSteps_append {s t : String} (hs : '/' ∉ s.toList) (hempty : s ≠ "")
    (hdot : s ≠ ".") : relativeSteps (s ++ "/" ++ t) = s :: relativeSteps t := by
  have hpieces : Text.pieces '/' (s ++ "/" ++ t).toList = s.toList :: Text.pieces '/' t.toList := by
    rw [String.toList_append, String.toList_append, List.append_assoc]
    exact (Text.pieces_append '/' _ _).trans (by rw [Text.pieces_unbroken hs]; rfl)
  rw [relativeSteps, hpieces]
  simp [relativeSteps, hempty, hdot]

theorem relativeSteps_single {s : String} (hs : '/' ∉ s.toList) (hempty : s ≠ "")
    (hdot : s ≠ ".") : relativeSteps s = [s] := by
  rw [relativeSteps, Text.pieces_unbroken hs]
  simp [hempty, hdot]

/-- Without a step up a path leads down. -/
theorem location_below (p : Path) {s : String} (h : ".." ∉ relativeSteps s) :
    (p.below s).location = p.location ++ relativeSteps s := by
  rw [location, below, List.foldl_append]
  exact foldl_step _ h

/-- No step of a path below another starts it at the top. -/
theorem slash_not_mem_relativeSteps {path s : String} (h : s ∈ relativeSteps path) :
    '/' ∉ s.toList := by
  obtain ⟨piece, hpiece, rfl⟩ := List.mem_map.mp (List.mem_filter.mp h).1
  rw [String.toList_ofList]
  exact Text.separator_not_mem_piecesFrom List.not_mem_nil piece hpiece

theorem intercalate_append (sep : String) (l t : List String) :
    ∃ rest, sep.intercalate (l ++ t) = sep.intercalate l ++ rest := by
  by_cases hl : l = []
  · exact ⟨sep.intercalate t, by simp [hl]⟩
  · by_cases ht : t = []
    · exact ⟨"", by simp [ht]⟩
    · exact ⟨sep ++ sep.intercalate t, by
        rw [String.intercalate_append_of_ne_nil hl ht, String.append_assoc]⟩

/-- What is below a path is spelt as that path and more. -/
theorem text_append {steps : List String} (h : steps ≠ []) (t : List String) :
    ∃ rest, text ⟨steps ++ t⟩ = text ⟨steps⟩ ++ rest := by
  cases steps with
  | nil => exact absurd rfl h
  | cons s steps =>
    simp only [List.cons_append, text]
    split
    · obtain ⟨rest, hrest⟩ := intercalate_append "/" steps t
      exact ⟨rest, by rw [hrest, String.append_assoc]⟩
    · exact intercalate_append "/" (s :: steps) t

end Path

/-- What bars nothing below a path does not bar the path. -/
theorem Files.bar?_of_append {steps t : List String} (h : bar? ⟨steps ++ t⟩ = none) :
    bar? ⟨steps⟩ = none := by
  cases steps with
  | nil => rfl
  | cons s steps =>
    obtain ⟨rest, hrest⟩ := Path.text_append (List.cons_ne_nil s steps) t
    unfold bar? at h ⊢
    rw [hrest, String.toList_append, String.utf8ByteSize_append] at h
    split at h
    · cases h
    · next hnul =>
      split at h
      · cases h
      · next hlong =>
        rw [if_neg, if_neg]
        · omega
        · intro hmem
          simp only [List.contains_eq_mem, decide_eq_true_eq, List.mem_append, not_or] at hnul hmem
          exact hnul.1 hmem

namespace Sdk

variable {b : Built}

/-- The file of a module is one step, and that step leads down. -/
theorem file_steps {c : Catalogue} {r : NodeRef} (hr : r ∈ c.refs) :
    Path.relativeSteps (c.moduleOf r ++ ".py") = [c.moduleOf r ++ ".py"] ∧
      c.moduleOf r ++ ".py" ≠ ".." := by
  have hslash : '/' ∉ (c.moduleOf r ++ ".py").toList := by
    rw [String.toList_append, List.mem_append, not_or]
    exact ⟨Catalogue.slash_not_mem_moduleOf hr, by decide⟩
  have hlast (t : String) (ht : t.toList.getLast? ≠ some 'y') : c.moduleOf r ++ ".py" ≠ t := by
    rintro rfl
    exact ht (by simp)
  exact ⟨Path.relativeSteps_single hslash (hlast "" (by decide)) (hlast "." (by decide)),
    hlast ".." (by decide)⟩

theorem node_steps {c : Catalogue} {r : NodeRef} (hr : r ∈ c.refs) :
    Path.relativeSteps ("nodes/" ++ c.moduleOf r ++ ".py") = ["nodes", c.moduleOf r ++ ".py"] := by
  rw [String.append_assoc, show "nodes/" = "nodes" ++ "/" from rfl,
    Path.relativeSteps_append (by decide) (by decide) (by decide), (file_steps hr).1]

theorem token_steps {c : Catalogue} {r : NodeRef} (hr : r ∈ c.refs) :
    Path.relativeSteps ("nodes/anonymous/" ++ c.moduleOf r ++ ".py") =
      ["nodes", "anonymous", c.moduleOf r ++ ".py"] := by
  rw [String.append_assoc, show "nodes/anonymous/" = "nodes" ++ "/" ++ ("anonymous" ++ "/") from rfl,
    String.append_assoc, Path.relativeSteps_append (by decide) (by decide) (by decide),
    Path.relativeSteps_append (by decide) (by decide) (by decide), (file_steps hr).1]

/-- A path that leads down, and is just its steps, joined. -/
structure LeadsDown (path : String) : Prop where
  down : ".." ∉ Path.relativeSteps path
  joined : "/".intercalate (Path.relativeSteps path) = path

theorem leadsDown_nodePaths {c : Catalogue} {path : String} (h : path ∈ nodePaths c) :
    LeadsDown path := by
  simp only [nodePaths, List.mem_append, List.mem_map] at h
  rcases h with (⟨d, hd, rfl⟩ | ⟨d, hd, rfl⟩) | h
  · have hlisted := Catalogue.mem_listed.mp (List.mem_append.mpr hd)
    have hr := Catalogue.mem_refs.mpr ⟨d, hlisted.1, rfl⟩
    refine ⟨by simp [node_steps hr, Ne.symm (file_steps hr).2], ?_⟩
    rw [node_steps hr, String.intercalate_cons_cons, String.intercalate_singleton, String.append_assoc]
    rfl
  · have hr := Catalogue.mem_refs.mpr ⟨d, (Catalogue.mem_anonymous.mp hd).1, rfl⟩
    refine ⟨by simp [token_steps hr, Ne.symm (file_steps hr).2], ?_⟩
    rw [token_steps hr, String.intercalate_cons_cons, String.intercalate_cons_cons,
      String.intercalate_singleton, String.append_assoc, ← String.append_assoc]
    rfl
  · rcases List.mem_pair.mp h with rfl | rfl <;> exact ⟨by decide, rfl⟩

theorem leadsDown_plannedPaths {path : String} (h : path ∈ plannedPaths b) : LeadsDown path := by
  have hliteral : ∀ path ∈ ownPaths ++ cursorPaths ++ ["__artifacts__/grammar.json",
      "__artifacts__/node-types.json", "__artifacts__/parser.wasm"],
      ".." ∉ Path.relativeSteps path ∧ "/".intercalate (Path.relativeSteps path) = path := by
    decide
  have hfixed {l : List String} (hl : l ⊆ ownPaths ++ cursorPaths ++ ["__artifacts__/grammar.json",
      "__artifacts__/node-types.json", "__artifacts__/parser.wasm"]) (hp : path ∈ l) :
      LeadsDown path :=
    ⟨(hliteral path (hl hp)).1, (hliteral path (hl hp)).2⟩
  simp only [plannedPaths, List.mem_append] at h
  rcases h with ((h | h) | h) | h
  · exact hfixed (fun _ => List.mem_append_left _ ∘ List.mem_append_left _) h
  · exact leadsDown_nodePaths h
  · exact hfixed (fun _ => List.mem_append_left _ ∘ List.mem_append_right _) h
  · refine hfixed (List.subset_append_of_subset_right _ ?_) h
    cases hparser : b.parser <;> simp [documentPaths, hparser]

/-- No two files of an SDK go to one place. -/
theorem artifacts_apart {plan : Blueprint} (hcovers : Blueprint.Covers b plan)
    (hnodup : ((artifacts b plan).map Artifact.path).Nodup) (target : Path) {a a' : Artifact}
    (ha : a ∈ artifacts b plan) (ha' : a' ∈ artifacts b plan)
    (h : (target.below a.path).location = (target.below a'.path).location) : a = a' := by
  have hplanned (a : Artifact) (ha : a ∈ artifacts b plan) : LeadsDown a.path := by
    refine leadsDown_plannedPaths (b := b) ?_
    rw [← paths_artifacts hcovers]
    exact List.mem_map.mpr ⟨a, ha, rfl⟩
  rw [Path.location_below target (hplanned a ha).down,
    Path.location_below target (hplanned a' ha').down] at h
  refine List.inj_on_of_nodup_map hnodup ha ha' ?_
  rw [← (hplanned a ha).joined, List.append_cancel_left h, (hplanned a' ha').joined]

end Sdk

end TraversalSdk
