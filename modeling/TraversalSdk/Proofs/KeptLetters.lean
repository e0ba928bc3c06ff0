import TraversalSdk.Proofs.AccessorNames

namespace TraversalSdk.Naming
open Text

structure Clean (s : String) : Prop where
  ne_empty : s ≠ ""
  chars : ∀ c ∈ s.toList, isNameChar c = true
  head : ∀ c ∈ s.toList.head?, isAsciiDigit c = false
  not_keyword : isKeyword s = false
  safe : safeIdentifier s = s

theorem Usable.clean {s : String} (h : Usable s) : Clean s := by
  obtain ⟨hid, hkeyword⟩ := h
  obtain ⟨⟨c, hc, hstart⟩, hchars⟩ := isIdentifierChars_iff.mp hid
  refine ⟨?_, hchars, fun d hd => ?_, hkeyword, ?_⟩
  · rintro rfl
    cases hc
  · cases hc.symm.trans hd
    exact not_digit_of_isNameStart hstart
  · rw [safeIdentifier, hkeyword]
    rfl

/-- A sanitised text is a name that code may use. -/
theorem usable_sanitize (text : String) : Usable (sanitize text) :=
  ⟨sanitize_identifier text, sanitize_not_keyword text⟩

/-- So is the name of its accessor. -/
theorem usable_accessorName (text : String) : Usable (accessorName text) :=
  ⟨(Accessor.letterLed_accessorName text).identifier, safeIdentifier_not_keyword _⟩

def letters (text : String) : List Char := bare (text.toList.filter isNameChar)

theorem bare_sublist {xs ys : List Char} (h : xs.Sublist ys) : (bare xs).Sublist (bare ys) :=
  (h.filter _).map _

/-- Underscores in a row count as one, and none of them is a letter. -/
theorem bare_collapseUnderscores (cs : List Char) : bare (collapseUnderscores cs) = bare cs := by
  induction cs using collapseUnderscores.induct with
  | case1 rest ih =>
    rw [collapseUnderscores, ih]
    rfl
  | case2 c rest hn ih =>
    rw [collapseUnderscores, bare_cons, ih, ← bare_cons]
    exact hn
  | case3 => rfl

theorem bare_stripUnderscores (cs : List Char) : bare (stripUnderscores cs) = bare cs := by
  rw [← Accessor.trimDelimiter_underscore]
  exact nameStyle_snake.bare_trim cs

/-- What is put before a digit adds letters and takes none away. -/
theorem sublist_guardDigit (cs : List Char) : cs.Sublist (guardDigit cs) := by
  cases cs with
  | nil => exact .slnil
  | cons c cs =>
    rw [guardDigit]
    split
    · exact List.sublist_cons_self _ _
    · exact .refl _

theorem sublist_orWord (fallback : String) (cs : List Char) : cs.Sublist (orWord fallback cs) := by
  unfold orWord
  split
  · next h =>
    rw [List.isEmpty_iff.mp h]
    exact List.nil_sublist _
  · exact .refl _

/-- Runs of name characters are words as they are; what is written for other characters is added. -/
theorem filter_sublist_spelledFrom (word cs : List Char) :
    (word.reverse ++ cs.filter isNameChar).Sublist (spelledFrom word cs).flatten := by
  have hclose (word : List Char) :
      word.reverse.Sublist (if word.isEmpty then [] else [word.reverse]).flatten := by
    split
    · next h => simp [List.isEmpty_iff.mp h]
    · simp
  induction cs generalizing word with
  | nil => simpa [spelledFrom] using hclose word
  | cons c rest ih =>
    rw [spelledFrom, List.filter_cons]
    split
    · simpa using ih (c :: word)
    · rw [List.flatten_append, List.flatten_cons]
      refine (hclose word).append ?_
      exact (ih []).trans (List.sublist_append_right _ _)

/-- A character that is no letter is spelled out, and the letters around it stay. -/
theorem bare_spelled (cs : List Char) :
    (bare (cs.filter isNameChar)).Sublist (bare (List.intercalate ['_'] (spelled cs))) := by
  have hspelled : (cs.filter isNameChar).Sublist (spelled cs).flatten := filter_sublist_spelledFrom [] cs
  rw [bare_intercalate rfl, ← bare_flatten]
  exact bare_sublist hspelled

/-- Texts that have a name of their own hold no letters. -/
theorem letters_of_symbol {s name : String} (h : lookup s symbolNames = some name) : letters s = [] := by
  have hall : symbolNames.all (fun p => (letters p.1).isEmpty) = true := by decide
  exact List.isEmpty_iff.mp (List.all_eq_true.mp hall _ (mem_of_lookup h))

theorem letters_of_identifier {s : String} (h : isIdentifier s = true) : letters s = bare s.toList := by
  rw [letters, List.filter_eq_self.mpr (isIdentifierChars_iff.mp h).2]

/-- Sanitising keeps letters and digits in order. It may add some, and letter case may change. -/
theorem letters_sublist_sanitize (s : String) : (letters s).Sublist (bare (sanitize s).toList) := by
  unfold sanitize
  split
  · next hl =>
    rw [letters_of_symbol hl]
    exact List.nil_sublist _
  · split
    · next hi =>
      rw [letters_of_identifier hi]
      split
      · next hc =>
        have hlower : (lowerString s).toList = lower s.toList := String.toList_ofList
        have hchars : ∀ c ∈ s.toList, isNameChar c = true := (isIdentifierChars_iff.mp hi).2
        rw [String.toList_append, bare_append, hlower, recasing_lower.bare _ hchars]
        exact List.sublist_append_right _ _
      · rw [bare_safeIdentifier]
    · rw [bare_safeIdentifier, String.toList_ofList]
      refine .trans ?_ (bare_sublist ((sublist_orWord "empty" _).trans (sublist_guardDigit _)))
      rw [bare_stripUnderscores, bare_collapseUnderscores]
      exact bare_spelled s.toList

/-- Snake spelling keeps the letters and digits of a sanitised name. -/
theorem sanitize_sublist_accessorName (s : String) :
    (bare (sanitize s).toList).Sublist (bare (accessorName s).toList) := by
  have hsnake : (Casing.snake (sanitize s)).toList = Casing.snakeStyle.chars (sanitize s).toList :=
    String.toList_ofList
  rw [accessorName, bare_safeIdentifier, String.toList_ofList, hsnake,
    ← nameStyle_snake.bare_chars (sanitize_plain s).chars]
  exact bare_sublist ((sublist_orWord "child" _).trans (sublist_guardDigit _))

/-- Every text has a sanitised name and an accessor name that can be used as they are. They hold its letters and
digits in order, and the accessor name does not start with an underscore. -/
theorem clean_names (text : String) :
    Clean (sanitize text) ∧ Clean (accessorName text) ∧ (accessorName text).toList.head? ≠ some '_' ∧
    (letters text).Sublist (bare (sanitize text).toList) ∧
    (letters text).Sublist (bare (accessorName text).toList) := by
  refine ⟨(usable_sanitize text).clean, (usable_accessorName text).clean, ?_, letters_sublist_sanitize text,
    (letters_sublist_sanitize text).trans (sanitize_sublist_accessorName text)⟩
  obtain ⟨c, hc, _, hu⟩ := (Accessor.letterLed_accessorName text).head
  exact fun h => hu (Option.some.inj (hc.symm.trans h))

/-- Underscores do not hide a keyword: casing drops them, and the name is made safe once more. -/
example : accessorName "_If" = "if_" := by decide

end TraversalSdk.Naming
