import TraversalSdk.Source.Step

namespace TraversalSdk.Source

/-- The lines so far, and how deep the next one stands. -/
structure Writer where
  lines : Array String
  depth : Nat

/-- Drops the line feeds at the end. -/
def trimEnd (cs : List Char) : List Char := (cs.reverse.dropWhile (· == '\n')).reverse

namespace Writer

def empty : Writer := ⟨#[], 0⟩

/-- Adds lines that have their indentation. -/
def append (w : Writer) (ls : List String) : Writer := { w with lines := w.lines ++ ls.toArray }

def line (w : Writer) (s : String) : Writer := { w with lines := w.lines.push (lineAt w.depth s) }

def addLines (w : Writer) (ls : List String) : Writer := ls.foldl line w

def enter (w : Writer) : Writer := { w with depth := w.depth + 1 }

def leave (w : Writer) : Writer := { w with depth := w.depth - 1 }

mutual

def write (w : Writer) : Step → Writer
  | .line s => w.line s
  | .blank n => w.append (List.replicate n "")
  | .docstring s => w.addLines (docLines s)
  | .indented steps => (w.enter.run steps).leave
  | .block header steps => ((w.line (header ++ ":")).enter.run steps).leave

def run (w : Writer) : List Step → Writer
  | [] => w
  | step :: steps => (w.write step).run steps

end

/-- The text of what is written so far. It ends with exactly one line feed. -/
def render (w : Writer) : String :=
  String.ofList (trimEnd ("\n".intercalate w.lines.toList).toList ++ ['\n'])

@[simp] theorem depth_append (w : Writer) (ls : List String) : (w.append ls).depth = w.depth := rfl

@[simp] theorem toList_lines_append (w : Writer) (ls : List String) :
    (w.append ls).lines.toList = w.lines.toList ++ ls := by
  simp [append]

theorem append_append (w : Writer) (ls ms : List String) : (w.append ls).append ms = w.append (ls ++ ms) := by
  simp [append]

theorem line_eq (w : Writer) (s : String) : w.line s = w.append [lineAt w.depth s] := by
  simp [line, append]

theorem addLines_eq (w : Writer) (ls : List String) : w.addLines ls = w.append (ls.map (lineAt w.depth)) := by
  unfold addLines
  induction ls generalizing w with
  | nil => simp [append]
  | cons s ls ih =>
    rw [List.foldl_cons, ih, line_eq, append_append]
    rfl

/-- Behind a group the depth is as it was before. -/
theorem leave_append_enter (w : Writer) (ls : List String) : (w.enter.append ls).leave = w.append ls := rfl

mutual

theorem write_eq (w : Writer) (step : Step) : w.write step = w.append (step.lines w.depth) := by
  match step with
  | .line s => exact line_eq w s
  | .blank n => rfl
  | .docstring s => exact addLines_eq w (docLines s)
  | .indented steps =>
    rw [write, run_eq, leave_append_enter]
    rfl
  | .block header steps =>
    rw [write, run_eq, leave_append_enter, line_eq, append_append]
    rfl

/-- A run adds the lines of its steps and ends at the depth at which it began. -/
theorem run_eq (w : Writer) (steps : List Step) : w.run steps = w.append (Step.allLines w.depth steps) := by
  match steps with
  | [] => simp [run, append, Step.allLines]
  | step :: steps =>
    rw [run, run_eq, write_eq, append_append]
    rfl

end

end Writer

/-- The text of steps from their first line to their last. -/
def render (steps : List Step) : String := (Writer.empty.run steps).render

theorem render_eq (steps : List Step) :
    render steps = String.ofList (trimEnd ("\n".intercalate (Step.allLines 0 steps)).toList ++ ['\n']) := by
  rw [render, Writer.render, Writer.run_eq, Writer.toList_lines_append]
  rfl

end TraversalSdk.Source
