import Mathlib.Data.List.ProdSigma
import TraversalSdk.Proofs.ExpandedTypes
import TraversalSdk.Proofs.LegibleStatements
import TraversalSdk.Proofs.UsableNames
import TraversalSdk.Sdk.Accessor
import TraversalSdk.Sdk.NavigatorBase

namespace TraversalSdk

open Naming

namespace Accessor

/-- Trimming delimiters strips underscores at both ends. -/
theorem trimDelimiter_underscore (cs : List Char) :
    Casing.trimDelimiter (some '_') cs = stripUnderscores cs := by
  have hend : (fun c : Char => some '_' == some c) = (· == '_') := by
    funext c
    exact BEq.comm
  rw [Casing.trimDelimiter, hend, stripUnderscores]

/-- Snake spelling of a name has no underscore in front: nothing is dropped behind the trimming. -/
theorem head?_snake {cs : List Char} (h : ∀ c ∈ cs, isNameChar c = true) :
    (Casing.snakeStyle.chars cs).head? ≠ some '_' := by
  have hjoined := nameStyle_snake.joined_chars h
  rw [Casing.Style.chars, List.filter_eq_self.mpr fun c hc => ?_]
  · rw [show Casing.snakeStyle.delimiter = some '_' from rfl, trimDelimiter_underscore]
    intro he
    exact stripUnderscores_head he rfl
  · have hname := hjoined c hc
    rw [Casing.Style.keeps, isPunctuation_nameChar hname]
    by_cases hu : c = '_' <;> simp [hu, Casing.snakeStyle]

/-- Accessor names start with a letter, whatever the field is called. -/
theorem letterLed_accessorName (name : String) : LetterLed (accessorName name).toList := by
  have hplain := sanitize_plain name
  have hsnake : (Casing.snake (sanitize name)).toList =
      Casing.snakeStyle.chars (sanitize name).toList := String.toList_ofList
  have hne : (Casing.snake (sanitize name)).toList ≠ [] := nameStyle_snake.apply_ne_nil hplain
  have hword : orWord "child" (Casing.snake (sanitize name)).toList =
      Casing.snakeStyle.chars (sanitize name).toList := by
    rw [orWord, if_neg (by simpa using hne), hsnake]
  rw [accessorName, hword]
  apply LetterLed.safe
  rw [String.toList_ofList]
  apply letterLed_guardDigit
  · rwa [← hsnake]
  · exact head?_snake hplain.chars
  · exact nameStyle_snake.chars_isNameChar hplain.chars

/-- A candidate is the name with nothing behind it, or with an underscore and more name characters. -/
theorem candidate_eq (base tag : String) (n : Nat) : ∃ ending, candidate base tag n = base ++ ending ∧
    (if n = 0 then ending = "" else '_' ∈ ending.toList) ∧
    ((∀ c ∈ tag.toList, isNameChar c = true) → ∀ c ∈ ending.toList, isNameChar c = true) := by
  match n with
  | 0 => exact ⟨"", by simp [candidate], by simp, by simp⟩
  | 1 =>
    refine ⟨"_" ++ tag, by simp [candidate, String.append_assoc], by simp, fun htag => ?_⟩
    rw [String.toList_append]
    exact List.forall_mem_append.mpr ⟨List.all_eq_true.mp (by decide), htag⟩
  | n + 2 =>
    refine ⟨"_" ++ tag ++ "_" ++ toString (n + 2), by simp [candidate, String.append_assoc], by simp,
      fun htag => ?_⟩
    have hlink : ∀ c ∈ "_".toList, isNameChar c = true := List.all_eq_true.mp (by decide)
    simp only [String.toList_append, List.forall_mem_append]
    refine ⟨⟨⟨hlink, htag⟩, hlink⟩, fun c hc => ?_⟩
    have hdigits : c ∈ Nat.toDigits 10 (n + 2) := by simpa using hc
    exact isNameChar_digit (isAsciiDigit_decimal hdigits)

theorem candidate_one_ne (base tag : String) (n : Nat) :
    candidate base tag 1 ≠ candidate base tag (n + 2) := by
  intro h
  have hlength := congrArg (fun s : String => s.toList.length) h
  simp [candidate] at hlength

/-- No two candidates for a stem are the same, so a name in use stands against one of them at most. -/
theorem candidate_injective {base tag : String} {m n : Nat}
    (h : candidate base tag m = candidate base tag n) : m = n := by
  have hzero (k : Nat) : candidate base tag 0 ≠ candidate base tag (k + 1) := by
    intro he
    obtain ⟨ending, heq, hlink, _⟩ := candidate_eq base tag (k + 1)
    rw [← he, candidate] at heq
    rw [if_neg (Nat.succ_ne_zero k)] at hlink
    have hnone : ending.toList = [] := by simpa using congrArg String.toList heq
    rw [hnone] at hlink
    exact List.not_mem_nil hlink
  match m, n with
  | 0, 0 => rfl
  | 0, k + 1 => exact absurd h (hzero k)
  | k + 1, 0 => exact absurd h.symm (hzero k)
  | 1, 1 => rfl
  | 1, k + 2 => exact absurd h (candidate_one_ne base tag k)
  | k + 2, 1 => exact absurd h.symm (candidate_one_ne base tag k)
  | k + 2, l + 2 =>
    have hdigits : Nat.toDigits 10 (k + 2) = Nat.toDigits 10 (l + 2) := by
      simpa [candidate] using congrArg String.toList h
    exact decimal_injective hdigits

theorem not_free_iff {taken ends : List String} {stem : String} :
    isFree taken ends stem = false ↔ ∃ e ∈ ends, stem ++ e ∈ taken := by
  simp [isFree]

theorem isFree_iff {taken ends : List String} {stem : String} :
    isFree taken ends stem = true ↔ ∀ e ∈ ends, stem ++ e ∉ taken := by
  simp [isFree]

/-- A name in use blocks one candidate for each ending at most, so one of the candidates is free. -/
theorem exists_free (taken ends : List String) (base tag : String) :
    ∃ n ≤ ends.length * taken.length, isFree taken ends (candidate base tag n) = true := by
  by_contra hnone
  push Not at hnone
  have hblocked : ∀ n ≤ ends.length * taken.length, ∃ p ∈ ends ×ˢ taken,
      candidate base tag n ++ p.1 = p.2 := by
    intro n hn
    obtain ⟨e, he, hm⟩ := not_free_iff.mp (Bool.eq_false_iff.mpr (hnone n hn))
    exact ⟨(e, _), List.pair_mem_product.mpr ⟨he, hm⟩, rfl⟩
  choose! blocker hmem hblocks using hblocked
  have hle {n : Nat} (hn : n ∈ List.range (ends.length * taken.length + 1)) :
      n ≤ ends.length * taken.length := Nat.lt_succ_iff.mp (List.mem_range.mp hn)
  let blockers := (List.range (ends.length * taken.length + 1)).map blocker
  have hnodup : blockers.Nodup := by
    refine (List.nodup_map_iff_inj_on List.nodup_range).mpr fun m hm n hn he => ?_
    have hsame : candidate base tag m ++ (blocker m).1 = candidate base tag n ++ (blocker m).1 := by
      rw [hblocks m (hle hm), he, hblocks n (hle hn)]
    exact candidate_injective ((String.append_left_inj _).mp hsame)
  have hsub : blockers ⊆ ends ×ˢ taken := by
    intro p hp
    obtain ⟨n, hn, rfl⟩ := List.mem_map.mp hp
    exact hmem n (hle hn)
  have hlength := List.Nodup.length_le_of_subset hnodup hsub
  rw [List.length_product, List.length_map, List.length_range] at hlength
  omega

/-- A stem is the first free one if it is free and no candidate before it is. -/
def FirstFree (taken ends : List String) (base tag stem : String) : Prop :=
  ∃ n, stem = candidate base tag n ∧ isFree taken ends stem = true ∧
    ∀ m < n, isFree taken ends (candidate base tag m) = false

/-- The search stops at the first candidate that is free. -/
theorem stemFrom_eq {taken ends : List String} {base tag : String} {n k tries : Nat} (hn : n ≤ k)
    (hk : k ≤ n + tries) (hfree : isFree taken ends (candidate base tag k) = true)
    (hbefore : ∀ m < k, isFree taken ends (candidate base tag m) = false) :
    stemFrom taken ends base tag n tries = candidate base tag k := by
  induction tries generalizing n with
  | zero => rw [stemFrom, Nat.le_antisymm hn hk]
  | succ tries ih =>
    rw [stemFrom]
    rcases Nat.lt_or_eq_of_le hn with hlt | rfl
    · rw [if_neg (by simp [hbefore n hlt])]
      exact ih hlt (by omega)
    · rw [if_pos hfree]

/-- The bounded search never runs out: it finds the first free stem. -/
theorem freeStem_firstFree (taken ends : List String) (base tag : String) :
    FirstFree taken ends base tag (freeStem taken ends base tag) := by
  have hex : ∃ n, isFree taken ends (candidate base tag n) = true := by
    obtain ⟨n, _, hfree⟩ := exists_free taken ends base tag
    exact ⟨n, hfree⟩
  obtain ⟨n, hn, hfree⟩ := exists_free taken ends base tag
  have hle : Nat.find hex ≤ 0 + ends.length * taken.length := by
    have hmin := Nat.find_min' hex hfree
    omega
  have hbefore : ∀ m < Nat.find hex, isFree taken ends (candidate base tag m) = false :=
    fun m hm => Bool.eq_false_iff.mpr (Nat.find_min hex hm)
  have heq : freeStem taken ends base tag = candidate base tag (Nat.find hex) :=
    stemFrom_eq (Nat.zero_le _) hle (Nat.find_spec hex) hbefore
  exact ⟨Nat.find hex, heq, heq ▸ Nat.find_spec hex, hbefore⟩

/-- A stem is free only with all of its endings. -/
example : freeStem ["x", "x_field_or_raise"] ["", "_or_raise"] "x" "field" = "x_field_2" := by decide

/-- Which stem is the first free one depends on the set of names in use alone. -/
theorem FirstFree.congr {taken taken' ends : List String} {base tag stem : String}
    (ht : ∀ s, s ∈ taken ↔ s ∈ taken') (h : FirstFree taken ends base tag stem) :
    FirstFree taken' ends base tag stem := by
  have hfree (s : String) : isFree taken ends s = isFree taken' ends s := by
    rw [Bool.eq_iff_iff, isFree_iff, isFree_iff]
    simp only [ht]
  obtain ⟨n, hn, hs, hbefore⟩ := h
  refine ⟨n, hn, hfree stem ▸ hs, fun m hm => ?_⟩
  rw [← hfree]
  exact hbefore m hm

def wanted (a : Accessor) : Wanted := ⟨a.access, a.multiple, a.targets⟩

theorem map_wanted_name (taken : List String) (ws : List Wanted) : (name taken ws).map wanted = ws := by
  induction ws generalizing taken with
  | nil => rfl
  | cons w ws ih =>
    rw [name, List.map_cons, ih]
    rfl

theorem nodup_suffixes (access : Access) (multiple : Bool) : (suffixes access multiple).Nodup := by
  cases access <;> cases multiple <;> simp [suffixes]

theorem nodup_methods (a : Accessor) : a.methods.Nodup :=
  (nodup_suffixes _ _).map fun _ _ he => (String.append_right_inj _).mp he

theorem mem_methods {a : Accessor} {m : String} : m ∈ a.methods ↔ m = a.stem ∨
    m = a.stem ++ "_or_raise" ∨
      m = a.stem ++ "_all" ∧ a.multiple = true ∧ ∃ t, a.access = .child t := by
  obtain ⟨stem, access, multiple, targets⟩ := a
  cases access <;> cases multiple <;> simp [methods, suffixes]

/-- An accessor gets the first stem whose methods are free of the names in use and of all methods of the
accessors before it. -/
theorem name_firstFree {taken : List String} {ws : List Wanted} {before after : List Accessor}
    {a : Accessor} (h : name taken ws = before ++ a :: after) :
    FirstFree (before.flatMap methods ++ taken) (suffixes a.access a.multiple) a.wanted.base
      a.wanted.tag a.stem := by
  induction ws generalizing taken before with
  | nil => simp [name] at h
  | cons w ws ih =>
    rw [name] at h
    cases before with
    | nil =>
      obtain ⟨rfl, _⟩ := List.cons.inj h
      exact freeStem_firstFree _ _ _ _
    | cons b before =>
      obtain ⟨rfl, htail⟩ := List.cons.inj h
      refine (ih htail).congr fun s => ?_
      simp only [List.flatMap_cons, List.mem_append]
      exact or_left_comm.trans or_assoc.symm

/-- Accessors that are named one after the other share no method, and none has a method that was taken before.
-/
theorem methods_free {taken : List String} {ws : List Wanted} :
    ((name taken ws).flatMap methods).Nodup ∧ ∀ m ∈ (name taken ws).flatMap methods, m ∉ taken := by
  induction ws generalizing taken with
  | nil => simp [name]
  | cons w ws ih =>
    rw [name]
    generalize ha : Accessor.mk (freeStem taken (suffixes w.access w.multiple) w.base w.tag) w.access
      w.multiple w.targets = a
    have hfirst : ∀ m ∈ a.methods, m ∉ taken := by
      intro m hm
      obtain ⟨_, _, hfree, _⟩ := freeStem_firstFree taken (suffixes w.access w.multiple) w.base w.tag
      subst ha
      obtain ⟨e, he, rfl⟩ := List.mem_map.mp hm
      exact isFree_iff.mp hfree e he
    obtain ⟨hnodup, hrest⟩ := @ih (a.methods ++ taken)
    rw [List.flatMap_cons]
    constructor
    · refine List.nodup_append.mpr ⟨nodup_methods a, hnodup, fun m hm n hn he => ?_⟩
      exact hrest n hn (List.mem_append_left _ (he ▸ hm))
    · refine List.forall_mem_append.mpr ⟨hfirst, fun m hm ht => ?_⟩
      exact hrest m hm (List.mem_append_right _ ht)

structure IsMethodName (m : String) : Prop where
  led : LetterLed m.toList
  keyword : isKeyword m = false

theorem IsMethodName.usable {m : String} (h : IsMethodName m) : Usable m :=
  ⟨h.led.identifier, h.keyword⟩

/-- What is put behind a name has an underscore, so it makes no keyword of it. -/
theorem IsMethodName.append {m ending : String} (h : IsMethodName m)
    (hchars : ∀ c ∈ ending.toList, isNameChar c = true) (hlink : ending = "" ∨ '_' ∈ ending.toList) :
    IsMethodName (m ++ ending) := by
  constructor
  · obtain ⟨c, hc, hs, hu⟩ := h.led.head
    rw [String.toList_append]
    exact ⟨⟨c, by rw [List.head?_append, hc, Option.some_or], hs, hu⟩,
      List.forall_mem_append.mpr ⟨h.led.chars, hchars⟩⟩
  · rcases hlink with rfl | hlink
    · rw [String.append_empty]
      exact h.keyword
    · apply not_keyword_of_underscore
      rw [String.toList_append]
      exact List.mem_append_right _ hlink

theorem isMethodName_base (w : Wanted) : IsMethodName w.base := by
  have hname (name : String) : IsMethodName (accessorName name) :=
    ⟨letterLed_accessorName name, safeIdentifier_not_keyword _⟩
  unfold Wanted.base
  split <;> exact hname _

theorem chars_tag (w : Wanted) : ∀ c ∈ w.tag.toList, isNameChar c = true := by
  unfold Wanted.tag
  split <;> exact List.all_eq_true.mp (by decide)

/-- Stems can be used as names, whatever the fields and the types are called. -/
theorem isMethodName_stem (taken ends : List String) (w : Wanted) :
    IsMethodName (freeStem taken ends w.base w.tag) := by
  obtain ⟨n, hn, _⟩ := freeStem_firstFree taken ends w.base w.tag
  obtain ⟨ending, heq, hlink, hchars⟩ := candidate_eq w.base w.tag n
  rw [hn, heq]
  apply (isMethodName_base w).append (hchars (chars_tag w))
  split at hlink
  · exact .inl hlink
  · exact .inr hlink

theorem isMethodName_stems {taken : List String} {ws : List Wanted} :
    ∀ a ∈ name taken ws, IsMethodName a.stem := by
  induction ws generalizing taken with
  | nil => simp [name]
  | cons w ws ih =>
    rw [name]
    exact List.forall_mem_cons.mpr ⟨isMethodName_stem _ _ w, ih⟩

theorem isMethodName_methods {taken : List String} {ws : List Wanted} :
    ∀ a ∈ name taken ws, ∀ m ∈ a.methods, IsMethodName m := by
  intro a ha m hm
  have hstem := isMethodName_stems a ha
  rcases mem_methods.mp hm with rfl | rfl | ⟨rfl, _⟩
  · exact hstem
  · exact hstem.append (List.all_eq_true.mp (by decide)) (.inr (by simp))
  · exact hstem.append (List.all_eq_true.mp (by decide)) (.inr (by simp))

end Accessor

namespace Sdk
open Source

def nameBetween? (lead ending line : List Char) : Option (List Char) :=
  let name := (line.drop lead.length).takeWhile isNameChar
  if name ≠ [] ∧ (lead ++ name ++ ending).isPrefixOf line then some name else none

/-- The attribute that a line of a class defines: a method, a declared variable or a member of `self`. -/
def attribute? (line : List Char) : Option (List Char) :=
  nameBetween? "    def ".toList "(".toList line <|> nameBetween? "    ".toList ": ".toList line <|>
    nameBetween? "        self.".toList " = ".toList line

def baseAttributes : List String :=
  ((navigatorBase.filter fun s => s.binds = ["Navigator"]).flatMap Stmt.lines).filterMap fun l =>
    (attribute? l.toList).map String.ofList

/-- The attributes that the lines of a class define can be found character by character. -/
theorem attributes_written {name : String} {lines : List String} {css : List (List Char)}
    (h : Characters lines css) :
    ((Stmt.define name (Step.ofLines lines)).lines.filterMap fun l =>
      (attribute? l.toList).map String.ofList) = (css.filterMap attribute?).map String.ofList := by
  rw [lines_ofLines, ← h.map_toList, List.filterMap_map, List.map_filterMap]
  rfl

theorem baseAttributes_eq : baseAttributes = ["node_type", "__init__", "node", "path", "__repr__", "type",
    "text", "child", "named_child", "child_of_type", "children_of_type", "_step", "_at", "_field",
    "_field_or_raise", "_fields", "_fields_or_raise", "_child_of_type", "_child_of_type_or_raise",
    "_children_of_type"] := by
  have hclass : (navigatorBase.filter fun s => s.binds = ["Navigator"]) = navigatorBase.drop 2 := by
    simp [navigatorBase, Stmt.binds]
  rw [baseAttributes, hclass, navigatorBase, List.drop_succ_cons, List.drop_succ_cons, List.drop_zero,
    List.flatMap_singleton]
  refine (attributes_written (by repeat constructor)).trans ?_
  decide

/-- What the base navigator defines is reserved or starts with an underscore. -/
theorem baseAttributes_kept :
    ∀ s ∈ baseAttributes, s ∈ Accessor.reserved ∨ s.toList.head? = some '_' := by
  rw [baseAttributes_eq]
  decide

end Sdk

namespace Accessor

theorem IsMethodName.not_mem_baseAttributes {m : String} (h : IsMethodName m) (hr : m ∉ reserved) :
    m ∉ Sdk.baseAttributes := by
  intro hm
  obtain ⟨c, hc, _, hu⟩ := h.led.head
  rcases Sdk.baseAttributes_kept m hm with hm | hm
  · exact hr hm
  · exact hu (Option.some.inj (hc.symm.trans hm))

theorem pairwise_lt_named (rs : List NodeRef) :
    (((NodeRef.set rs).filter NodeRef.named).map NodeRef.type).Pairwise (· < ·) := by
  have hsorted := (NodeRef.pairwise_sorted (distinct rs)).and (NodeRef.nodup_set rs)
  refine List.pairwise_map.mpr ((hsorted.filter _).imp_of_mem fun {r s} hr hs h => ?_)
  obtain ⟨hle, hne⟩ := h
  have hkind : r.named = s.named := by
    rw [(List.mem_filter.mp hr).2, (List.mem_filter.mp hs).2]
  simp only [NodeRef.precedes, Bool.or_eq_true, decide_eq_true_eq, Bool.and_eq_true, beq_iff_eq] at hle
  rcases hle with hlt | ⟨htype, _⟩
  · exact hlt
  · refine absurd ?_ hne
    change NodeRef.mk _ _ = NodeRef.mk _ _
    rw [htype, hkind]

/-- The accessors of a declaration: one for each field, by name, and one for each named type that stands
among the children, by name. -/
structure Serves (c : Catalogue) (d : Descriptor) (fields children : List Accessor) : Prop where
  fields : ∃ declared : List (String × ChildSpec), declared.Perm d.fields ∧
    (declared.map Prod.fst).Pairwise (· ≤ ·) ∧
    fields.map wanted = declared.map fun f => ⟨.field f.1, f.2.multiple, c.expandAll f.2.types⟩
  children : ∃ types : List String, types.Pairwise (· < ·) ∧
    (∀ t, t ∈ types ↔ ∃ spec, d.children = some spec ∧ ⟨t, true⟩ ∈ c.expandAll spec.types) ∧
    children.map wanted =
      types.map fun t => ⟨.child t, d.children.any ChildSpec.multiple, [⟨t, true⟩]⟩

/-- Every field and every named child type has its accessor. -/
theorem plan_serves (c : Catalogue) (d : Descriptor) :
    ∃ fields children, plan c d = fields ++ children ∧ Serves c d fields children := by
  obtain ⟨fields, children, hplan, hfields, hchildren⟩ :=
    List.map_eq_append_iff.mp (map_wanted_name reserved ((sortOn Prod.fst d.fields).map (wantedField c)
      ++ d.children.toList.flatMap (wantedChildren c)))
  refine ⟨fields, children, hplan, ⟨_, sortOn_perm _ _, ?_, hfields⟩, ?_⟩
  · exact List.pairwise_map.mpr (pairwise_sortOn Prod.fst d.fields)
  · rw [hchildren]
    cases d.children with
    | none => exact ⟨[], .nil, by simp, rfl⟩
    | some spec =>
      refine ⟨_, pairwise_lt_named (spec.types.flatMap c.expand), fun t => ?_, ?_⟩
      · simp only [List.mem_map, List.mem_filter, Option.some.injEq, exists_eq_left']
        constructor
        · rintro ⟨⟨t, named⟩, ⟨hr, rfl⟩, rfl⟩
          exact hr
        · intro ht
          exact ⟨_, ⟨ht, rfl⟩, rfl⟩
      · rw [Option.toList_some, List.flatMap_singleton, wantedChildren, List.map_map]
        refine List.map_congr_left fun r hr => ?_
        obtain ⟨t, named⟩ := r
        obtain rfl : named = true := (List.mem_filter.mp hr).2
        rfl

theorem targets_sorted (c : Catalogue) (d : Descriptor) : ∀ a ∈ plan c d,
    a.targets.Nodup ∧ a.targets.Pairwise fun r s => r.precedes s = true := by
  intro a ha
  have hset (rs : List NodeRef) : (NodeRef.set rs).Nodup ∧
      (NodeRef.set rs).Pairwise fun r s => r.precedes s = true :=
    ⟨NodeRef.nodup_set rs, NodeRef.pairwise_sorted _⟩
  have hwanted : a.wanted ∈ (sortOn Prod.fst d.fields).map (wantedField c)
      ++ d.children.toList.flatMap (wantedChildren c) := by
    rw [← map_wanted_name reserved (_ ++ _)]
    exact List.mem_map_of_mem ha
  rcases List.mem_append.mp hwanted with hw | hw
  · obtain ⟨f, _, hf⟩ := List.mem_map.mp hw
    rw [show a.targets = (wantedField c f).targets from congrArg Wanted.targets hf.symm]
    exact hset _
  · obtain ⟨spec, _, hw⟩ := List.mem_flatMap.mp hw
    obtain ⟨r, _, hr⟩ := List.mem_map.mp hw
    rw [show a.targets = [r] from congrArg Wanted.targets hr.symm]
    exact ⟨List.nodup_singleton r, List.pairwise_singleton _ r⟩

/-- The plan serves each field and each named child type once, every stem is the first one whose methods are free, and
the methods of all accessors are identifiers that differ from each other, from all reserved names and from all
attributes of the base navigator. -/
structure WellPlanned (c : Catalogue) (d : Descriptor) : Prop where
  serves : ∃ fields children, plan c d = fields ++ children ∧ Serves c d fields children
  targets : ∀ a ∈ plan c d, a.targets.Nodup ∧ a.targets.Pairwise fun r s => r.precedes s = true
  stems : ∀ before a after, plan c d = before ++ a :: after →
    FirstFree (before.flatMap methods ++ reserved) (suffixes a.access a.multiple) a.wanted.base a.wanted.tag a.stem
  named : ∀ m, m ∈ (plan c d).flatMap methods ↔ ∃ a ∈ plan c d, m = a.stem ∨ m = a.stem ++ "_or_raise" ∨
    m = a.stem ++ "_all" ∧ a.multiple = true ∧ ∃ t, a.access = .child t
  nodup : ((plan c d).flatMap methods).Nodup
  usable : ∀ m ∈ (plan c d).flatMap methods, Usable m ∧ m ∉ reserved ∧ m ∉ Sdk.baseAttributes

/-- Every declaration of every catalogue is well planned. -/
theorem plan_exact (c : Catalogue) (d : Descriptor) : WellPlanned c d := by
  refine ⟨plan_serves c d, targets_sorted c d, fun before a after h => name_firstFree h, ?_, ?_, ?_⟩
  · intro m
    simp only [List.mem_flatMap, mem_methods]
  · exact methods_free.1
  · intro m hm
    have hfree := methods_free.2 m hm
    obtain ⟨a, ha, hm⟩ := List.mem_flatMap.mp hm
    have hname := isMethodName_methods a ha m hm
    exact ⟨hname.usable, hfree, hname.not_mem_baseAttributes hfree⟩

end Accessor

end TraversalSdk
