namespace TraversalSdk

/-- Keeps the first occurrence of every member. -/
def distinct {α : Type} [DecidableEq α] : List α → List α
  | [] => []
  | a :: l => a :: (distinct l).filter (· ≠ a)

/-- Sorts by a text key, by code point; members with one key keep their order. -/
def sortOn {α : Type} (key : α → String) (l : List α) : List α :=
  l.mergeSort fun a b => decide (key a ≤ key b)

def sortTexts (l : List String) : List String := sortOn id l

/-- A set of texts: distinct members in order. -/
def textSet (l : List String) : List String := sortTexts (distinct l)

@[simp]
theorem mem_distinct {α : Type} [DecidableEq α] {a : α} {l : List α} : a ∈ distinct l ↔ a ∈ l := by
  induction l with
  | nil => simp [distinct]
  | cons b l ih => by_cases h : a = b <;> simp [distinct, h, ih]

theorem nodup_distinct {α : Type} [DecidableEq α] (l : List α) : (distinct l).Nodup := by
  induction l with
  | nil => simp [distinct]
  | cons a l ih =>
    rw [distinct, List.nodup_cons]
    exact ⟨by simp, ih.filter _⟩

@[simp]
theorem mem_sortOn {α : Type} {key : α → String} {a : α} {l : List α} : a ∈ sortOn key l ↔ a ∈ l :=
  List.mem_mergeSort

theorem sortOn_perm {α : Type} (key : α → String) (l : List α) : (sortOn key l).Perm l :=
  List.mergeSort_perm l _

@[simp]
theorem mem_textSet {s : String} {l : List String} : s ∈ textSet l ↔ s ∈ l := by
  simp [textSet, sortTexts]

theorem nodup_textSet (l : List String) : (textSet l).Nodup :=
  (sortOn_perm id _).nodup_iff.mpr (nodup_distinct l)

/-- A mapping held as pairs in the order of first insertion. -/
def lookup {κ α : Type} [DecidableEq κ] (key : κ) (pairs : List (κ × α)) : Option α :=
  (pairs.find? fun p => p.1 = key).map (·.2)

/-- Replaces the value of a key that is present and appends a new one. -/
def assign {κ α : Type} [DecidableEq κ] (key : κ) (value : α) : List (κ × α) → List (κ × α)
  | [] => [(key, value)]
  | p :: ps => if p.1 = key then (key, value) :: ps else p :: assign key value ps

theorem mem_of_lookup {κ α : Type} [DecidableEq κ] {key : κ} {pairs : List (κ × α)} {value : α}
    (h : lookup key pairs = some value) : (key, value) ∈ pairs := by
  unfold lookup at h
  obtain ⟨p, hp, rfl⟩ := Option.map_eq_some_iff.mp h
  have hk := List.find?_some hp
  have hm := List.mem_of_find?_eq_some hp
  simp only [decide_eq_true_eq] at hk
  subst hk
  exact hm

theorem lookup_eq_none_iff {κ α : Type} [DecidableEq κ] {key : κ} {pairs : List (κ × α)} :
    lookup key pairs = none ↔ key ∉ pairs.map (·.1) := by
  rw [lookup, Option.map_eq_none_iff, List.find?_eq_none]
  simp only [decide_eq_true_eq, List.mem_map, not_exists, not_and]

theorem lookup_cons {κ α : Type} [DecidableEq κ] (key k : κ) (value : α) (pairs : List (κ × α)) :
    lookup key ((k, value) :: pairs) = if k = key then some value else lookup key pairs := by
  by_cases h : k = key <;> simp [lookup, h]

theorem lookup_cons_eq_some_iff {κ α : Type} [DecidableEq κ] {key k : κ} {value a : α} {pairs : List (κ × α)} :
    lookup key ((k, value) :: pairs) = some a ↔ k = key ∧ value = a ∨ k ≠ key ∧ lookup key pairs = some a := by
  rw [lookup_cons]
  by_cases h : k = key <;> simp [h]

theorem lookup_append {κ α : Type} [DecidableEq κ] (key : κ) (l l' : List (κ × α)) :
    lookup key (l ++ l') = (lookup key l).or (lookup key l') := by
  simp only [lookup, List.find?_append, Option.map_or]

theorem lookup_assign {κ α : Type} [DecidableEq κ] (key other : κ) (value : α)
    (pairs : List (κ × α)) :
    lookup other (assign key value pairs) = if key = other then some value else lookup other pairs := by
  induction pairs with
  | nil => by_cases h : key = other <;> simp [assign, lookup, h]
  | cons p ps ih =>
    rw [assign]
    split
    · next hp =>
      subst hp
      by_cases h : p.1 = other <;> simp [lookup, h]
    · next hp =>
      by_cases h : p.1 = other
      · have hk : key ≠ other := fun hk => hp (h.trans hk.symm)
        simp [lookup, h, hk]
      · simpa [lookup, h] using ih

/-- Collects the values of each key: keys and values in the order of first occurrence. -/
def grouped {κ α : Type} [DecidableEq κ] [DecidableEq α] (pairs : List (κ × α)) :
    List (κ × List α) :=
  (distinct (pairs.map (·.1))).map fun key =>
    (key, distinct ((pairs.filter fun p => p.1 = key).map (·.2)))

/-- The first member that has occurred before. -/
def firstRepeated? {α : Type} [DecidableEq α] : List α → Option α
  | l => go [] l
where
  go (seen : List α) : List α → Option α
    | [] => none
    | a :: l => if a ∈ seen then some a else go (a :: seen) l

theorem nodup_of_go {α : Type} [DecidableEq α] {seen l : List α}
    (h : firstRepeated?.go seen l = none) : l.Nodup ∧ ∀ a ∈ l, a ∉ seen := by
  induction l generalizing seen with
  | nil => simp
  | cons a l ih =>
    unfold firstRepeated?.go at h
    split at h
    · cases h
    · next ha =>
      obtain ⟨hn, hs⟩ := ih h
      refine ⟨List.nodup_cons.mpr ⟨fun hm => hs a hm (by simp), hn⟩, fun b hb => ?_⟩
      rcases List.mem_cons.mp hb with rfl | hb
      · exact ha
      · exact fun hseen => hs b hb (by simp [hseen])

theorem nodup_of_firstRepeated? {α : Type} [DecidableEq α] {l : List α}
    (h : firstRepeated? l = none) : l.Nodup := (nodup_of_go h).1

/-- The members of a list whose keys have not been seen. -/
def unseen {κ α : Type} [DecidableEq κ] (key : α → κ) (l : List α) (seen : List κ) : List α :=
  l.filter fun a => key a ∉ seen

theorem unseen_cons {κ α : Type} [DecidableEq κ] (key : α → κ) (l : List α) (k : κ) (seen : List κ) :
    unseen key l (k :: seen) = (unseen key l seen).filter fun a => key a ≠ k := by
  simp [unseen, List.filter_filter]

/-- When one more key has been seen, fewer members are left. If no member has that key, as many can be left, and
what the search goes by then has to become less. -/
theorem lex_unseen_cons {κ α : Type} [DecidableEq κ] {key : α → κ} {l : List α} {k : κ} {seen : List κ} {m n : Nat}
    (hk : k ∉ seen) (h : (∀ a ∈ l, key a ≠ k) → m < n) :
    Prod.Lex (· < ·) (· < ·) ((unseen key l (k :: seen)).length, m) ((unseen key l seen).length, n) := by
  have hle : (unseen key l (k :: seen)).length ≤ (unseen key l seen).length := by
    rw [unseen_cons]
    exact List.length_filter_le _ _
  rcases Nat.lt_or_eq_of_le hle with hlt | heq
  · exact Prod.Lex.left _ _ hlt
  · rw [heq]
    refine Prod.Lex.right _ (h fun a ha hkey => ?_)
    rw [unseen_cons, List.length_filter_eq_length_iff] at heq
    have hleft : a ∈ unseen key l seen := List.mem_filter.mpr ⟨ha, by simpa [hkey] using hk⟩
    simpa [hkey] using heq a hleft

end TraversalSdk
