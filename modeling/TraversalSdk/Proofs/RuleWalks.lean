import Mathlib.Data.List.Basic
import TraversalSdk.Grammar.Basic

namespace TraversalSdk

/-- Members stand in the order in which they first occur. -/
theorem distinct_pairwise_idxOf {α : Type} [DecidableEq α] (l : List α) :
    (distinct l).Pairwise fun a b => l.idxOf a < l.idxOf b := by
  induction l with
  | nil => exact .nil
  | cons a l ih =>
    have hlater {b : α} (hb : b ≠ a) : (a :: l).idxOf b = l.idxOf b + 1 :=
      List.idxOf_cons_ne l (Ne.symm hb)
    rw [distinct, List.pairwise_cons]
    constructor
    · intro b hb
      have hne : b ≠ a := by simpa using (List.mem_filter.mp hb).2
      rw [List.idxOf_cons_self, hlater hne]
      exact Nat.succ_pos _
    · refine (ih.filter _).imp_of_mem fun {b c} hb hc hlt => ?_
      have hbne : b ≠ a := by simpa using (List.mem_filter.mp hb).2
      have hcne : c ≠ a := by simpa using (List.mem_filter.mp hc).2
      rw [hlater hbne, hlater hcne]
      exact Nat.succ_lt_succ hlt

namespace Rule

/-- Trees at the top of the stack come first, and what is below them waits. -/
theorem walkFrom_append (rs ss : List Rule) : walkFrom (rs ++ ss) = walkFrom rs ++ walkFrom ss := by
  fun_induction walkFrom rs with
  | case1 => rfl
  | case2 r stack ih => rw [List.cons_append, walkFrom, ← List.append_assoc, ih, List.cons_append]

theorem walkFrom_eq_flatMap (rs : List Rule) : walkFrom rs = rs.flatMap walk := by
  induction rs with
  | nil => rw [walkFrom, List.flatMap_nil]
  | cons r rs ih => rw [← List.singleton_append, walkFrom_append, ih, List.singleton_append,
      List.flatMap_cons, walk]

theorem walk_eq (r : Rule) : r.walk = r :: r.children.flatMap walk := by
  rw [walk, walkFrom, List.append_nil, walkFrom_eq_flatMap]

theorem symbols_eq (r : Rule) : r.symbols = r.symbolName?.toList ++ r.children.flatMap symbols := by
  rw [symbols, walk_eq, List.filterMap_cons, List.filterMap_flatMap]
  cases r.symbolName? <;> rfl

theorem size_lt_of_mem_children {r c : Rule} (h : c ∈ r.children) : c.size < r.size := by
  obtain ⟨before, below, hsplit⟩ := List.append_of_mem h
  rw [size_eq r, hsplit, sizes_append, sizes]
  omega

/-- What passes from the children of every rule to the rule holds of all rules. -/
theorem children_rec {P : Rule → Prop} (h : ∀ r, (∀ c ∈ r.children, P c) → P r) (r : Rule) : P r :=
  h r fun c _hc => children_rec h c
termination_by r.size
decreasing_by exact size_lt_of_mem_children _hc

/-- The rule at a position, which says from the root on which child to take. -/
def at? (r : Rule) : List Nat → Option Rule
  | [] => some r
  | i :: p => r.children[i]?.bind fun c => c.at? p

/-- The positions of a tree, each before those below it and those of one child before those of the next. -/
def positions (r : Rule) : List (List Nat) :=
  [] :: r.children.attach.zipIdx.flatMap fun c => (positions c.1.1).map (c.2 :: ·)
termination_by r.size
decreasing_by exact size_lt_of_mem_children c.1.2

theorem positions_eq (r : Rule) :
    r.positions = [] :: r.children.zipIdx.flatMap fun c => c.1.positions.map (c.2 :: ·) := by
  have hattach : r.children.zipIdx = r.children.attach.zipIdx.map fun c => (c.1.1, c.2) := by
    conv_lhs => rw [← List.attach_map_subtype_val r.children]
    rw [List.zipIdx_map]
    rfl
  rw [positions, hattach, List.flatMap_map]

theorem mem_positions_cons {r : Rule} {i : Nat} {p : List Nat} :
    i :: p ∈ r.positions ↔ ∃ c, r.children[i]? = some c ∧ p ∈ c.positions := by
  rw [positions_eq]
  simp only [List.mem_cons, reduceCtorEq, List.mem_flatMap, List.mem_map, List.cons.injEq, false_or,
    Prod.exists, List.mem_zipIdx_iff_getElem?]
  constructor
  · rintro ⟨c, j, hc, q, hq, rfl, rfl⟩
    exact ⟨c, hc, hq⟩
  · rintro ⟨c, hc, hp⟩
    exact ⟨c, i, hc, p, hp, rfl, rfl⟩

/-- The positions are those at which there is a rule. -/
theorem mem_positions_iff {r : Rule} {p : List Nat} : p ∈ r.positions ↔ (r.at? p).isSome := by
  induction p generalizing r with
  | nil =>
    rw [positions_eq, at?]
    simp
  | cons i p ih =>
    rw [mem_positions_cons, at?]
    cases r.children[i]? with
    | none => simp
    | some c => simp [ih]

/-- Positions are in the order of words: a beginning before its continuations, and else by the first child
that differs. -/
theorem pairwise_positions (r : Rule) : r.positions.Pairwise (· < ·) := by
  induction r using children_rec with
  | h r ih =>
    rw [positions_eq, List.pairwise_cons, List.pairwise_flatMap]
    refine ⟨?_, ?_, ?_⟩
    · intro p hp
      obtain ⟨c, _, hp⟩ := List.mem_flatMap.mp hp
      obtain ⟨q, _, rfl⟩ := List.mem_map.mp hp
      exact List.nil_lt_cons _ _
    · intro c hc
      have hmem : c.1 ∈ r.children := (List.mem_zipIdx' hc).2 ▸ List.getElem_mem _
      rw [List.pairwise_map]
      exact (ih c.1 hmem).imp fun h => List.cons_lt_cons_iff.mpr (.inr ⟨rfl, h⟩)
    · have hindices : r.children.zipIdx.Pairwise fun c d => c.2 < d.2 := by
        have hrange := List.pairwise_lt_range' (s := 0) (n := r.children.length) 1
        rw [← List.zipIdx_map_snd 0 r.children, List.pairwise_map] at hrange
        exact hrange
      refine hindices.imp fun {c d} hlt p hp q hq => ?_
      obtain ⟨p, _, rfl⟩ := List.mem_map.mp hp
      obtain ⟨q, _, rfl⟩ := List.mem_map.mp hq
      exact List.cons_lt_cons_iff.mpr (.inl hlt)

/-- The walk meets the rule of each position in turn. -/
theorem map_at?_positions (r : Rule) : r.positions.map r.at? = r.walk.map some := by
  induction r using children_rec with
  | h r ih =>
    have hbranch : ∀ c ∈ r.children.zipIdx,
        (c.1.positions.map (c.2 :: ·)).map r.at? = c.1.walk.map some := by
      intro c hc
      have hat : r.children[c.2]? = some c.1 := List.mem_zipIdx_iff_getElem?.mp hc
      have hmem : c.1 ∈ r.children := List.mem_of_getElem? hat
      rw [← ih c.1 hmem, List.map_map]
      refine List.map_congr_left fun p _ => ?_
      rw [Function.comp_apply, at?, hat, Option.bind_some]
    have hchildren : r.children.zipIdx.flatMap (fun c => c.1.walk.map some) =
        (r.children.flatMap walk).map some := by
      conv_rhs => rw [← List.zipIdx_map_fst 0 r.children]
      rw [List.flatMap_map, List.map_flatMap]
    rw [positions_eq, walk_eq, List.map_cons, List.map_cons, at?, List.map_flatMap,
      List.flatMap_congr hbranch, hchildren]

theorem length_walk (r : Rule) : r.walk.length = r.size := by
  induction r using children_rec with
  | h r ih =>
    have hsizes : ∀ rs : List Rule, (∀ c ∈ rs, c.walk.length = c.size) →
        (rs.flatMap walk).length = sizes rs := by
      intro rs h
      induction rs with
      | nil => rfl
      | cons c rs hrs =>
        obtain ⟨hc, hrest⟩ := List.forall_mem_cons.mp h
        rw [List.flatMap_cons, List.length_append, hc, hrs hrest, sizes]
    rw [walk_eq, List.length_cons, hsizes _ ih, size_eq]

/-- What is walked are the rules at the positions. -/
theorem mem_walk_iff {r s : Rule} : s ∈ r.walk ↔ ∃ p, r.at? p = some s := by
  have hmap : s ∈ r.walk ↔ some s ∈ r.positions.map r.at? := by simp [map_at?_positions]
  rw [hmap, List.mem_map]
  refine exists_congr fun p => ⟨And.right, fun h => ⟨mem_positions_iff.mpr ?_, h⟩⟩
  rw [h]
  rfl

def Mentions (r : Rule) (name : String) : Prop := ∃ p, r.at? p = some (.symbol name)

theorem symbolName?_eq_some_iff {r : Rule} {name : String} :
    r.symbolName? = some name ↔ r = .symbol name := by
  cases r <;> simp [symbolName?]

theorem mem_symbols_iff {r : Rule} {name : String} : name ∈ r.symbols ↔ r.Mentions name := by
  simp [symbols, Mentions, symbolName?_eq_some_iff, mem_walk_iff]

instance (r : Rule) (name : String) : Decidable (r.Mentions name) := decidable_of_iff _ mem_symbols_iff

theorem symbols_eq_filterMap (r : Rule) :
    r.symbols = r.positions.filterMap fun p => (r.at? p).bind symbolName? := by
  have hmap : (r.positions.map r.at?).filterMap (·.bind symbolName?) =
      r.positions.filterMap fun p => (r.at? p).bind symbolName? := by
    rw [List.filterMap_map]
    rfl
  rw [← hmap, map_at?_positions, List.filterMap_map]
  rfl

/-- The walk of a rule ends. It is the rule and then the walks of its children from left to right, and it meets the
rule of every position once, in the order of positions, and nothing else. -/
structure PreOrder (r : Rule) : Prop where
  unfolds : r.walk = r :: r.children.flatMap walk
  length : r.walk.length = r.size
  meets : r.walk.map some = r.positions.map r.at?
  sorted : r.positions.Pairwise (· < ·)
  complete : ∀ p, p ∈ r.positions ↔ (r.at? p).isSome

/-- The symbols of a rule are those at its positions, in this order and with repetitions. Its child types are these
symbols in the order of their first occurrence, each once. -/
structure SymbolsInOrder (r : Rule) : Prop where
  unfolds : r.symbols = r.symbolName?.toList ++ r.children.flatMap symbols
  placed : r.symbols = r.positions.filterMap fun p => (r.at? p).bind symbolName?
  nodup : r.childTypes.Nodup
  mentioned : ∀ s, s ∈ r.childTypes ↔ r.Mentions s
  first : r.childTypes.Pairwise fun s t => r.symbols.idxOf s < r.symbols.idxOf t

/-- Rules are walked in pre-order, and what is collected on the way is in this order: the symbols of a rule, its child
types and, in the order of the grammar, the rules that have a symbol at some position. -/
theorem walk_exact (r : Rule) (g : Grammar) (name : String) :
    r.PreOrder ∧ r.SymbolsInOrder ∧
    g.references name = (g.rules.filter fun rule => rule.2.Mentions name).map (·.1) := by
  have hwalk : r.PreOrder :=
    ⟨walk_eq r, length_walk r, (map_at?_positions r).symm, pairwise_positions r, fun p => mem_positions_iff⟩
  have hsymbols : r.SymbolsInOrder :=
    ⟨symbols_eq r, symbols_eq_filterMap r, nodup_distinct _, fun s => mem_distinct.trans mem_symbols_iff,
      distinct_pairwise_idxOf _⟩
  refine ⟨hwalk, hsymbols, ?_⟩
  rw [Grammar.references]
  refine congrArg (List.map _) (List.filter_congr fun rule _ => ?_)
  rw [Bool.eq_iff_iff, List.contains_iff_mem, decide_eq_true_iff]
  exact mem_symbols_iff

end Rule

end TraversalSdk
