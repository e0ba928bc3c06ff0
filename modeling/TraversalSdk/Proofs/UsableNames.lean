import TraversalSdk.Proofs.RegistryNames
import TraversalSdk.Sdk.Blueprint

namespace TraversalSdk.Naming
open Text

def Usable (s : String) : Prop := isIdentifier s = true ∧ isKeyword s = false

theorem Usable.chars {s : String} (h : Usable s) : ∀ d ∈ s.toList, isNameChar d = true := by
  have hid := h.1
  unfold isIdentifier at hid
  cases hs : s.toList with
  | nil => simp
  | cons c cs =>
    rw [hs] at hid
    simp only [isIdentifierChars, Bool.and_eq_true] at hid
    refine List.forall_mem_cons.mpr ⟨?_, List.all_eq_true.mp hid.2⟩
    rw [isNameChar, hid.1, Bool.true_or]

theorem sanitized_candidate (type : String) (k : Nat) :
    Usable (candidate (sanitize type) k) := by
  obtain ⟨ending, he, hc, hu⟩ := toList_candidate (sanitize type) k
  constructor
  · rw [isIdentifier, he]
    exact isIdentifierChars_append (sanitize_identifier type) hc
  · cases k with
    | zero => exact sanitize_not_keyword type
    | succ k =>
      apply not_keyword_of_underscore
      rw [he]
      exact List.mem_append_right _ (hu (by omega))

/-- Numbers do not change how a name begins. -/
theorem bare_candidate_head {base : String} (h : Plain base.toList) (k : Nat) :
    (bare (candidate base k).toList).head? = (bare base.toList).head? := by
  obtain ⟨ending, he, _⟩ := toList_candidate base k
  rw [he, bare_append, List.head?_append]
  cases hb : bare base.toList with
  | nil => exact absurd hb h.bare
  | cons c cs => rfl

theorem not_keyword_of_ending {a ending : String}
    (h : keywords.all (fun k => !ending.toList.isSuffixOf k.toList) = true) :
    isKeyword (a ++ ending) = false := by
  apply Bool.eq_false_iff.mpr
  intro hk
  have hm : a ++ ending ∈ keywords := by simpa [isKeyword] using hk
  have := List.all_eq_true.mp h _ hm
  simp [String.toList_append, List.isSuffixOf_iff_suffix.mpr (List.suffix_append _ _)] at this

/-- What stands behind a class name. -/
structure Ending (ending : String) : Prop where
  chars : ∀ c ∈ ending.toList, isNameChar c = true
  keywords : keywords.all (fun k => !ending.toList.isSuffixOf k.toList) = true

/-- A Pascal name starts with a digit if the first letter or digit of the given name is one. -/
theorem pascal_usable_iff {s : String} (h : Plain s.toList) {ending : String}
    (he : Ending ending) :
    Usable ((Stem.of s).pascal ++ ending) ↔ (bare s.toList).head?.any isAsciiDigit = false := by
  have hchars : ∀ c ∈ (Stem.of s).pascal.toList, isNameChar c = true := by
    rw [Stem.pascal_of h]
    exact nameStyle_pascal.chars_isNameChar h.chars
  have hbare : bare (Stem.of s).pascal.toList = bare s.toList := by
    rw [Stem.pascal_of h, nameStyle_pascal.bare_chars h.chars]
  have hunder : '_' ∉ (Stem.of s).pascal.toList := by
    rw [Stem.pascal_of h]
    exact underscore_not_mem_pascal s.toList
  rw [← hbare, head?_bare, Usable, isIdentifier, String.toList_append,
    not_keyword_of_ending he.keywords]
  cases hp : (Stem.of s).pascal.toList with
  | nil =>
    rw [hp] at hbare
    exact absurd hbare.symm h.bare
  | cons c cs =>
    rw [hp] at hchars hunder
    have hc := hchars c (by simp)
    have hu : c ≠ '_' := fun h => hunder (by simp [h])
    have hrest : (cs ++ ending.toList).all isNameChar = true := by
      simp only [List.all_eq_true, List.mem_append]
      rintro d (hd | hd)
      · exact hchars d (by simp [hd])
      · exact he.chars d hd
    have hfind : (c :: cs).find? (· != '_') = some c := by simp [hu]
    have hstart : isNameStart c = !isAsciiDigit c := by
      cases hd : isAsciiDigit c with
      | false => simpa using isNameStart_of_isNameChar hc hd
      | true =>
        cases hs : isNameStart c with
        | false => rfl
        | true => simp [not_digit_of_isNameStart hs] at hd
    rw [List.cons_append, isIdentifierChars, hrest, hfind, hstart]
    simp [isAsciiDigit_asciiLower hc]

theorem node_ending : Ending "Node" :=
  ⟨List.all_eq_true.mp (by decide), by decide⟩

theorem token_ending : Ending "Token" :=
  ⟨List.all_eq_true.mp (by decide), by decide⟩

theorem cursor_ending : Ending "Cursor" :=
  ⟨List.all_eq_true.mp (by decide), by decide⟩

theorem navigator_ending : Ending "Navigator" :=
  ⟨List.all_eq_true.mp (by decide), by decide⟩

end TraversalSdk.Naming

namespace TraversalSdk.Registry
open Naming

variable {c : Catalogue} {r : NodeRef} {n : NodeNames}

theorem module_usable (h : (ofCatalogue c).get? r = some n) : Usable n.module := by
  obtain ⟨k, rfl⟩ := names_eq h
  exact sanitized_candidate r.type k

theorem guard_usable (h : (ofCatalogue c).get? r = some n) : Usable n.guard := by
  have hsnake : ∀ d ∈ n.snake.toList, isNameChar d = true := by
    obtain ⟨k, rfl⟩ := names_eq h
    have hplain := candidate_plain (sanitize_plain r.type) k
    simp only [Space.names, Stem.snake_of hplain]
    exact nameStyle_snake.chars_isNameChar hplain.chars
  rw [guard_eq h]
  constructor
  · rw [isIdentifier, String.toList_append, String.toList_append]
    refine isIdentifierChars_append (isIdentifierChars_append (by decide) hsnake) ?_
    cases r.named <;> exact List.all_eq_true.mp (by decide)
  · apply not_keyword_of_underscore
    simp

/-- A class is usable if its type does not begin with a digit, underscores apart. -/
theorem class_usable_iff (h : (ofCatalogue c).get? r = some n) {ending : String}
    (he : Ending ending) : Usable (n.pascal ++ ending) ↔ isDigitLed r.type = false := by
  obtain ⟨k, rfl⟩ := names_eq h
  have hplain := sanitize_plain r.type
  simp only [Space.names]
  rw [pascal_usable_iff (candidate_plain hplain k) he, bare_candidate_head hplain,
    bare_sanitize_head]

/-- Modules and guards are usable for all declared types. Their classes are, for nodes, cursors and
navigators alike, except those of identifiers that have a digit first behind underscores. -/
theorem usable_names (c : Catalogue) (r : NodeRef) (h : r ∈ c.refs) :
    ∃ n, (ofCatalogue c).get? r = some n ∧ Usable n.module ∧ Usable n.guard ∧
      (Usable n.className ↔ isDigitLed r.type = false) ∧
      (r.named = true →
        (Usable (Titled.mk r n).cursorClass ↔ isDigitLed r.type = false) ∧
        (Usable (Titled.mk r n).navigatorClass ↔ isDigitLed r.type = false)) := by
  obtain ⟨n, hn⟩ := get?_isSome h
  refine ⟨n, hn, module_usable hn, guard_usable hn, ?_, fun hr => ?_⟩
  · rw [className_eq hn]
    cases r.named
    · exact class_usable_iff hn token_ending
    · exact class_usable_iff hn node_ending
  · simp only [Titled.cursorClass, Titled.navigatorClass, hr]
    exact ⟨class_usable_iff hn cursor_ending, class_usable_iff hn navigator_ending⟩

def numbered : Catalogue where
  descriptors := [⟨⟨"_1", true⟩, false, false, [], none, none⟩]
  nodup := by decide

theorem usable_names_numbered : ∃ n, (ofCatalogue numbered).get? ⟨"_1", true⟩ = some n ∧
    Usable n.module ∧ ¬Usable n.className ∧ ¬Usable (Titled.mk ⟨"_1", true⟩ n).cursorClass := by
  have hd : isDigitLed "_1" = true := by decide
  obtain ⟨n, hn, hmodule, _, hclass, hcursor⟩ :=
    usable_names numbered ⟨"_1", true⟩ (by decide)
  refine ⟨n, hn, hmodule, fun hu => ?_, fun hu => ?_⟩
  · have := hclass.mp hu
    simp [hd] at this
  · have := (hcursor rfl).1.mp hu
    simp [hd] at this

end TraversalSdk.Registry
