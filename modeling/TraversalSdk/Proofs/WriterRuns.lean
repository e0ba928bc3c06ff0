import Mathlib.Data.List.DropRight
import TraversalSdk.Proofs.HeaderReading

namespace TraversalSdk.Source
open Text

theorem lineAt_of_ne {s : String} (h : s ≠ "") (depth : Nat) : lineAt depth s = indentation depth ++ s :=
  if_neg fun he => h (String.isEmpty_iff.mp he)

theorem indentation_add (d e : Nat) : indentation (d + e) = indentation d ++ indentation e := by
  rw [indentation, indentation, indentation, ← String.ofList_append, List.replicate_append_replicate, Nat.mul_add]

/-- Indentation adds up, and an empty line has none at any depth. -/
theorem lineAt_add (d e : Nat) (s : String) : lineAt (d + e) s = lineAt d (lineAt e s) := by
  by_cases h : s = ""
  · rw [h]
    rfl
  · have hne : indentation e ++ s ≠ "" := fun he => h (String.append_eq_empty_iff.mp he).2
    rw [lineAt_of_ne h, lineAt_of_ne h, lineAt_of_ne hne, indentation_add, String.append_assoc]

namespace Step

mutual

theorem lines_add (d e : Nat) (step : Step) : step.lines (d + e) = (step.lines e).map (lineAt d) := by
  match step with
  | line s => simp [lines, lineAt_add d e]
  | blank n =>
    rw [lines, lines, List.map_replicate]
    rfl
  | docstring s =>
    rw [lines, lines, List.map_map]
    exact List.map_congr_left fun l _ => lineAt_add d e l
  | indented steps => exact allLines_add d (e + 1) steps
  | block header steps =>
    rw [lines, lines, List.map_cons, lineAt_add d e, Nat.add_assoc, allLines_add d (e + 1) steps]

theorem allLines_add (d e : Nat) (steps : List Step) :
    allLines (d + e) steps = (allLines e steps).map (lineAt d) := by
  match steps with
  | [] => rfl
  | step :: steps => rw [allLines, allLines, List.map_append, lines_add d e step, allLines_add d e steps]

end

end Step

namespace Writer

def appended (depth : Nat) (steps : List Step) : List String := ((⟨#[], depth⟩ : Writer).run steps).lines.toList

theorem appended_eq (depth : Nat) (steps : List Step) : appended depth steps = Step.allLines depth steps := by
  rw [appended, run_eq, toList_lines_append]
  rfl

theorem toList_lines_run (w : Writer) (steps : List Step) :
    (w.run steps).lines.toList = w.lines.toList ++ appended w.depth steps := by
  rw [appended_eq, run_eq, toList_lines_append]

theorem depth_run (w : Writer) (steps : List Step) : (w.run steps).depth = w.depth := by
  rw [run_eq, depth_append]

/-- The states of a writer while it runs steps: before and behind each of them, and within the groups. -/
inductive Passes : Writer → List Step → Writer → Prop
  | here {w : Writer} {steps : List Step} : Passes w steps w
  | later {w w' : Writer} {step : Step} {steps : List Step} (h : Passes (w.write step) steps w') :
      Passes w (step :: steps) w'
  | indented {w w' : Writer} {body steps : List Step} (h : Passes w.enter body w') :
      Passes w (.indented body :: steps) w'
  | block {w w' : Writer} {header : String} {body steps : List Step}
      (h : Passes (w.line (header ++ ":")).enter body w') : Passes w (.block header body :: steps) w'

theorem Passes.run (w : Writer) (steps : List Step) : Passes w steps (w.run steps) := by
  induction steps generalizing w with
  | nil => exact .here
  | cons step steps ih => exact .later (ih (w.write step))

theorem kept_run (w : Writer) (steps : List Step) : w.lines.toList <+: (w.run steps).lines.toList := by
  rw [toList_lines_run]
  exact List.prefix_append _ _

/-- What a writer has at some point it keeps. -/
theorem Passes.kept {w w' : Writer} {steps : List Step} (h : Passes w steps w') :
    w'.lines.toList <+: (w.run steps).lines.toList := by
  induction h with
  | here => exact kept_run _ _
  | later _ ih => exact ih
  -- leaving a group and going on behind it takes no line away
  | @indented w _ body steps _ ih => exact ih.trans (kept_run (w.enter.run body).leave steps)
  | @block w _ header body steps _ ih =>
    exact ih.trans (kept_run ((w.line (header ++ ":")).enter.run body).leave steps)

end Writer

namespace Step

mutual

/-- Steps whose lines hold no line feed. Headers and descriptions may hold any text. -/
def IsFeedless : Step → Prop
  | line s => '\n' ∉ s.toList
  | blank _ | docstring _ => True
  | indented steps | block _ steps => AreFeedless steps

def AreFeedless : List Step → Prop
  | [] => True
  | step :: steps => IsFeedless step ∧ AreFeedless steps

end

end Step

def EndsPlain (s : String) : Prop := s.toList.getLast? ≠ some '\n'

theorem endsPlain_of_feed_not_mem {s : String} (h : '\n' ∉ s.toList) : EndsPlain s :=
  fun hlast => h (List.mem_of_getLast? hlast)

theorem EndsPlain.append {s : String} (h : EndsPlain s) (hne : s ≠ "") (front : String) : EndsPlain (front ++ s) := by
  rw [EndsPlain, String.toList_append, List.getLast?_append_of_ne_nil _ (String.toList_eq_nil_iff.not.mpr hne)]
  exact h

theorem EndsPlain.lineAt {s : String} (h : EndsPlain s) (depth : Nat) : EndsPlain (lineAt depth s) := by
  by_cases hs : s = ""
  · rw [hs] at h ⊢
    exact h
  · rw [lineAt_of_ne hs]
    exact h.append hs _

namespace Step

mutual

theorem endsPlain_lines {step : Step} (h : step.IsFeedless) (depth : Nat) :
    ∀ l ∈ step.lines depth, EndsPlain l := by
  match step with
  | line s =>
    rw [lines, List.forall_mem_singleton]
    exact (endsPlain_of_feed_not_mem h).lineAt depth
  | blank n =>
    intro l hl
    rw [lines] at hl
    rw [(List.mem_replicate.mp hl).2]
    exact endsPlain_of_feed_not_mem List.not_mem_nil
  | docstring s =>
    rw [lines, List.forall_mem_map]
    exact fun l hl => (endsPlain_of_feed_not_mem (unbroken_docLines s l hl).feed).lineAt depth
  | indented steps => exact endsPlain_allLines h (depth + 1)
  | block header steps =>
    rw [lines, List.forall_mem_cons]
    -- whatever the header holds, its line ends in the colon
    have hcolon : EndsPlain (header ++ ":") :=
      (endsPlain_of_feed_not_mem (by decide : '\n' ∉ ":".toList)).append (by decide) header
    exact ⟨hcolon.lineAt depth, endsPlain_allLines h (depth + 1)⟩

theorem endsPlain_allLines {steps : List Step} (h : AreFeedless steps) (depth : Nat) :
    ∀ l ∈ allLines depth steps, EndsPlain l := by
  match steps with
  | [] => exact List.forall_mem_nil _
  | step :: steps =>
    rw [allLines, List.forall_mem_append]
    exact ⟨endsPlain_lines h.1 depth, endsPlain_allLines h.2 depth⟩

end

end Step

theorem getLast?_trimEnd (cs : List Char) : (trimEnd cs).getLast? ≠ some '\n' := by
  intro h
  have hkept := List.head?_dropWhile_not (· == '\n') cs.reverse
  rw [trimEnd, List.getLast?_reverse] at h
  rw [h] at hkept
  cases hkept

theorem trimEnd_concat (cs : List Char) : trimEnd (cs ++ ['\n']) = trimEnd cs :=
  List.rdropWhile_concat_pos (· == '\n') cs '\n' rfl

theorem toList_intercalate_concat (first : String) (ls : List String) :
    ("\n".intercalate (first :: ls ++ [""])).toList = ("\n".intercalate (first :: ls)).toList ++ ['\n'] := by
  have hfeed : "\n".toList = ['\n'] := by decide
  rw [String.toList_intercalate, String.toList_intercalate, hfeed, List.cons_append, List.map_cons, List.map_cons,
    intercalate_feeds, intercalate_feeds, List.map_append, List.flatMap_append, List.append_assoc]
  rfl

/-- Of lines one below the other the empty ones at the end are dropped. -/
theorem trimEnd_lines {ls : List String} (h : ∀ l ∈ ls, EndsPlain l) :
    trimEnd ("\n".intercalate ls).toList = ("\n".intercalate (ls.rdropWhile (· = ""))).toList := by
  -- from the last line upwards: an empty one is dropped, and any other one ends the dropping
  induction ls using List.reverseRecOn with
  | nil => rfl
  | append_singleton ls l ih =>
    obtain ⟨hls, hl⟩ := List.forall_mem_append.mp h
    by_cases he : l = ""
    · rw [List.rdropWhile_concat_pos _ _ _ (by simpa using he), ← ih hls, he]
      cases ls with
      | nil => rfl
      | cons first ls => rw [toList_intercalate_concat, trimEnd_concat]
    · rw [List.rdropWhile_concat_neg _ _ _ (by simpa using he)]
      apply trimEnd_eq_self
      rw [String.toList_intercalate, List.map_append, List.map_singleton,
        getLast?_intercalate _ (String.toList_eq_nil_iff.not.mpr he)]
      exact hl l (List.mem_singleton_self l)

namespace Writer

/-- Where no line ends in a line feed, the text is its lines without the empty last ones. -/
theorem render_lines {w : Writer} (h : ∀ l ∈ w.lines.toList, EndsPlain l) :
    w.render = "\n".intercalate (w.lines.toList.rdropWhile (· = "")) ++ "\n" := by
  rw [render, trimEnd_lines h, String.ofList_append, String.ofList_toList]

/-- What some steps append depends on the depth alone: it is what they append at the outermost depth, with four spaces
for each level before each line that is not empty. A sequence appends what its parts append, a group what its steps
append one level deeper, and a block the same below its header with a colon. -/
structure Compositional (steps : List Step) : Prop where
  shifted : ∀ depth, appended depth steps =
    (appended 0 steps).map fun l => if l = "" then "" else String.ofList (List.replicate (4 * depth) ' ') ++ l
  sequence : ∀ depth more, appended depth (steps ++ more) = appended depth steps ++ appended depth more
  group : ∀ depth, appended depth [.indented steps] = appended (depth + 1) steps
  block : ∀ depth header, appended depth [.block header steps] =
    (String.ofList (List.replicate (4 * depth) ' ') ++ (header ++ ":")) :: appended (depth + 1) steps

/-- Of the lines of some steps a writer has the first ones, and its text ends with exactly one line feed; before it
stand these lines, one below the other, without the empty ones at the end. -/
structure RendersBeginning (w : Writer) (steps : List Step) : Prop where
  lines : w.lines.toList <+: appended 0 steps
  feed : ∃ text, w.render = text ++ "\n" ∧ text.toList.getLast? ≠ some '\n'
  text : Step.AreFeedless steps → w.render = "\n".intercalate (w.lines.toList.rdropWhile (· = "")) ++ "\n"

theorem compositional (steps : List Step) : Compositional steps where
  shifted depth := by
    rw [appended_eq, appended_eq, ← Nat.add_zero depth, Step.allLines_add]
    refine List.map_congr_left fun l _ => ?_
    simp only [lineAt, indentation, String.isEmpty_iff, Nat.add_zero]
  sequence depth more := by
    rw [appended_eq, appended_eq, appended_eq, Step.allLines_append]
  group depth := by
    rw [appended_eq, appended_eq, Step.allLines, Step.allLines, List.append_nil, Step.lines]
  block depth header := by
    have hheader : header ++ ":" ≠ "" := fun he => absurd (String.append_eq_empty_iff.mp he).2 (by decide)
    rw [appended_eq, appended_eq, Step.allLines, Step.allLines, List.append_nil, Step.lines, lineAt_of_ne hheader]
    rfl

theorem Passes.renders {w : Writer} {steps : List Step} (h : Passes empty steps w) : RendersBeginning w steps := by
  have hkept : w.lines.toList <+: appended 0 steps := h.kept
  refine ⟨hkept, ⟨_, String.ofList_append, ?_⟩, fun hsteps => render_lines fun l hl => ?_⟩
  · rw [String.toList_ofList]
    exact getLast?_trimEnd _
  · rw [appended_eq] at hkept
    exact Step.endsPlain_allLines hsteps 0 l (hkept.subset hl)

/-- Writing is compositional. Behind any steps the depth is as before, and they have appended lines that depend on the
depth alone. At any point of a run, also within groups, the text is that of the lines appended so far. -/
theorem run_compositional (w : Writer) (steps : List Step) :
    (w.run steps).depth = w.depth ∧
    (w.run steps).lines.toList = w.lines.toList ++ appended w.depth steps ∧
    Compositional steps ∧
    ∀ w', Passes empty steps w' → RendersBeginning w' steps :=
  ⟨depth_run w steps, toList_lines_run w steps, compositional steps, fun _ => Passes.renders⟩

def functionSteps : List Step :=
  [.block "def f(x)" [.docstring "Reads.\n \nTwice.", .line "if x:", .indented [.line "return 1"], .line " ", .blank 1],
    .blank 3]

/-- Within the function, behind its condition, the text ends there; in the end it lacks the empty lines, but not the
blank one. -/
theorem run_compositional_function : Step.AreFeedless functionSteps ∧
    (∃ w', Passes empty functionSteps w' ∧ w'.depth = 1 ∧ w'.render =
      "def f(x):\n    \"\"\"Reads.\n\n     \n    Twice.\n    \"\"\"\n    if x:\n        return 1\n") ∧
    (empty.run functionSteps).depth = 0 ∧ (empty.run functionSteps).render =
      "def f(x):\n    \"\"\"Reads.\n\n     \n    Twice.\n    \"\"\"\n    if x:\n        return 1\n     \n" := by
  have hsteps : Step.AreFeedless functionSteps := by
    simp [functionSteps, Step.AreFeedless, Step.IsFeedless]
  obtain ⟨hdepth, -, -, hpoints⟩ := run_compositional empty functionSteps
  refine ⟨hsteps, ⟨_, .block (.later (.later (.later .here))), ?_, ?_⟩, hdepth, ?_⟩
  · rfl
  · rw [(hpoints _ (.block (.later (.later (.later .here))))).text hsteps]
    decide +kernel
  · rw [(hpoints _ (.run empty functionSteps)).text hsteps]
    decide +kernel

end Writer

end TraversalSdk.Source
