namespace TraversalSdk.Text

/-- Every `stride`-th code point from `first` to `last`, each with a case partner at distance `shift`. -/
structure CharRun where
  first : Nat
  last : Nat
  stride : Nat
  shift : Int

def CharRun.has (r : CharRun) (n : Nat) : Bool :=
  r.first ≤ n && n ≤ r.last && (n - r.first) % r.stride == 0

def inRuns (runs : List CharRun) (c : Char) : Bool :=
  runs.any (·.has c.toNat)

def inRanges (ranges : List (Nat × Nat)) (c : Char) : Bool :=
  ranges.any fun r => r.1 ≤ c.toNat && c.toNat ≤ r.2

/-- The case partner of `c`, or `c` itself where no run lists it. -/
def shifted (runs : List CharRun) (c : Char) : Char :=
  match runs.find? (·.has c.toNat) with
  | some r => Char.ofNat (c.toNat + r.shift).toNat
  | none => c

end TraversalSdk.Text
