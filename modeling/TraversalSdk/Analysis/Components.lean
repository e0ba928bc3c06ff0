import TraversalSdk.Relation

namespace TraversalSdk.Components

/-- One search, depth first and in order, finds all components. A member gets a number when it is found and
waits on a stack. Its mark is the least number that has been seen to lie ahead of it among those that wait. -/
structure Search where
  numbers : List (String × Nat)
  marks : List (String × Nat)
  stack : List String
  waiting : List String
  result : List (String × List String)

/-- A member that has been found and is not done, with the children that it has not looked at. -/
structure Call where
  node : String
  kids : List String

def Call.on (r : Relation String) (node : String) : Call := ⟨node, sortTexts (r.next node)⟩

namespace Search

def start : Search := ⟨[], [], [], [], []⟩

def found (s : Search) : List String := s.numbers.map (·.1)

/-- Numbers a member that has not been found before, and lets it wait. -/
def discover (s : Search) (node : String) : Search :=
  { s with
    numbers := (node, s.numbers.length) :: s.numbers
    marks := (node, s.numbers.length) :: s.marks
    stack := node :: s.stack
    waiting := node :: s.waiting }

def setMark (s : Search) (node : String) (n : Nat) : Search :=
  { s with marks := assign node n s.marks }

/-- The mark of a member becomes the given number if that is less. -/
def lower? (s : Search) (node : String) (n : Nat) : Option Search :=
  (lookup node s.marks).map fun mark => s.setMark node (min mark n)

/-- Takes members off a stack down to the given one; there is no result if the stack runs out. -/
def popTo? (node : String) : List String → Option (List String × List String)
  | [] => none
  | top :: stack =>
    if top = node then some ([top], stack)
    else (popTo? node stack).map fun popped => (top :: popped.1, popped.2)

/-- Files a component under each of its members, which wait no more. -/
def file (s : Search) (members stack : List String) : Search :=
  { s with
    stack := stack
    waiting := s.waiting.filter (· ∉ members)
    result := members.foldl (fun result m => assign m (sortTexts members) result) s.result }

/-- A member that is done and whose mark is its own number is the first of its component: the stack down to it
is the component. -/
def finish? (s : Search) (node : String) : Option Search := do
  let mark ← lookup node s.marks
  let number ← lookup node s.numbers
  if mark = number then (popTo? node s.stack).map fun popped => s.file popped.1 popped.2
  else return s

theorem lower?_found {s s' : Search} {node : String} {n : Nat} (h : s.lower? node n = some s') :
    s'.found = s.found := by
  obtain ⟨mark, _, rfl⟩ := Option.map_eq_some_iff.mp h
  rfl

theorem finish?_found {s s' : Search} {node : String} (h : s.finish? node = some s') :
    s'.found = s.found := by
  obtain ⟨mark, _, h⟩ := Option.bind_eq_some_iff.mp h
  obtain ⟨number, _, h⟩ := Option.bind_eq_some_iff.mp h
  split at h
  · obtain ⟨popped, _, rfl⟩ := Option.map_eq_some_iff.mp h
    rfl
  · cases h
    rfl

end Search

/-- One step of the innermost call. It looks at its next child, which may start a call of its own; or it is
done, and its mark counts for the call around it. A step fails where a look-up does or the stack runs
out. -/
def step? (r : Relation String) (s : Search) (call : Call) (outer : List Call) :
    Option (Search × List Call) :=
  match call.kids with
  | kid :: kids =>
    match lookup kid s.numbers with
    | none => some (s.discover kid, Call.on r kid :: ⟨call.node, kids⟩ :: outer)
    | some number =>
      if kid ∈ s.waiting then
        (s.lower? call.node number).map fun s => (s, ⟨call.node, kids⟩ :: outer)
      else some (s, ⟨call.node, kids⟩ :: outer)
  | [] => do
    let s ← s.finish? call.node
    match outer with
    | [] => return (s, [])
    | around :: _ => return (← s.lower? around.node (← lookup call.node s.marks), outer)

def weight : List Call → Nat
  | [] => 0
  | call :: calls => 2 * call.kids.length + 1 + weight calls

/-- A step either finds a new member or leaves less to do. -/
theorem step?_progress {r : Relation String} {s s' : Search} {call : Call} {outer calls : List Call}
    (h : step? r s call outer = some (s', calls)) :
    (∃ kid, kid ∉ s.found ∧ s'.found = kid :: s.found ∧
      (r.next kid = [] → weight calls < weight (call :: outer))) ∨
    (s'.found = s.found ∧ weight calls < weight (call :: outer)) := by
  unfold step? at h
  split at h
  · next kid kids hkids =>
    have hw : weight (⟨call.node, kids⟩ :: outer) < weight (call :: outer) := by
      simp only [weight, hkids, List.length_cons]
      omega
    split at h
    · next hnew =>
      cases h
      refine .inl ⟨kid, lookup_eq_none_iff.mp hnew, rfl, fun hnext => ?_⟩
      simp only [weight, Call.on, hnext, sortTexts, sortOn, hkids, List.mergeSort_nil, List.length_nil,
        List.length_cons]
      omega
    · split at h
      · obtain ⟨s₁, hs₁, h⟩ := Option.map_eq_some_iff.mp h
        cases h
        exact .inr ⟨Search.lower?_found hs₁, hw⟩
      · cases h
        exact .inr ⟨rfl, hw⟩
  · obtain ⟨s₁, hs₁, h⟩ := Option.bind_eq_some_iff.mp h
    have hfound := Search.finish?_found hs₁
    split at h
    · cases h
      exact .inr ⟨hfound, by simp [weight]⟩
    · obtain ⟨mark, _, h⟩ := Option.bind_eq_some_iff.mp h
      obtain ⟨s₂, hs₂, h⟩ := Option.bind_eq_some_iff.mp h
      cases h
      exact .inr ⟨(Search.lower?_found hs₂).trans hfound, by simp [weight]⟩

/-- Goes on until the outermost call is done. -/
def run? (r : Relation String) (s : Search) : List Call → Option Search
  | [] => some s
  | call :: outer =>
    match _step : step? r s call outer with
    | none => none
    | some (s', calls) => run? r s' calls
termination_by calls => ((unseen Prod.fst r.rows s.found).length, weight calls)
decreasing_by
  rcases step?_progress _step with ⟨kid, hnew, hfound, hleaf⟩ | ⟨hfound, hless⟩
  · rw [hfound]
    exact r.lex_unseen hnew hleaf
  · rw [hfound]
    exact Prod.Lex.right _ hless

/-- Searches from a member that has not been found before. -/
def visit? (r : Relation String) (s : Search) (node : String) : Option Search :=
  if node ∈ s.found then some s else run? r (s.discover node) [Call.on r node]

/-- The component of each member. -/
def table? (r : Relation String) : Option (List (String × List String)) :=
  ((sortTexts r.members).foldlM (visit? r) .start).map Search.result

end TraversalSdk.Components

namespace TraversalSdk.Relation

/-- Members that reach each other, under each of them, in order. The search does not fail. -/
def components (r : Relation String) : List (String × List String) :=
  sortOn (·.1) ((Components.table? r).getD [])

end TraversalSdk.Relation
