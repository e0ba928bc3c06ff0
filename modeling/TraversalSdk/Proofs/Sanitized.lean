import TraversalSdk.Proofs.NameChars

namespace TraversalSdk.Naming
open Text

/-- A text of name characters, among them a letter or a digit. -/
structure Plain (cs : List Char) : Prop where
  chars : ∀ c ∈ cs, isNameChar c = true
  bare : bare cs ≠ []

structure LetterLed (cs : List Char) : Prop where
  head : ∃ c, cs.head? = some c ∧ isNameStart c = true ∧ c ≠ '_'
  chars : ∀ c ∈ cs, isNameChar c = true

def isDigitLed (s : String) : Bool :=
  isIdentifier s && (s.toList.find? (· != '_')).any isAsciiDigit

theorem isNameStart_of_isNameChar {c : Char} (hc : isNameChar c = true)
    (hd : isAsciiDigit c = false) : isNameStart c = true := by
  simpa [isNameChar, hd] using hc

theorem not_digit_of_isNameStart {c : Char} (h : isNameStart c = true) :
    isAsciiDigit c = false := by
  have hc : isNameChar c = true := by simp [isNameChar, h]
  have h' := nameChar_rec (P := fun c => !isNameStart c || !isAsciiDigit c) (by decide) hc
  simpa [h] using h'

theorem isIdentifierChars_iff {cs : List Char} :
    isIdentifierChars cs = true ↔
      (∃ c, cs.head? = some c ∧ isNameStart c = true) ∧ ∀ c ∈ cs, isNameChar c = true := by
  cases cs with
  | nil => simp [isIdentifierChars]
  | cons c cs =>
    simp only [isIdentifierChars, Bool.and_eq_true, List.all_eq_true, List.head?_cons,
      Option.some.injEq, exists_eq_left', List.mem_cons, forall_eq_or_imp]
    constructor
    · rintro ⟨hc, hcs⟩
      exact ⟨hc, by simp [isNameChar, hc], hcs⟩
    · rintro ⟨hc, _, hcs⟩
      exact ⟨hc, hcs⟩

theorem isIdentifierChars_append {xs ys : List Char} (hx : isIdentifierChars xs = true)
    (hy : ∀ c ∈ ys, isNameChar c = true) : isIdentifierChars (xs ++ ys) = true := by
  obtain ⟨⟨c, hc, hs⟩, hcs⟩ := isIdentifierChars_iff.mp hx
  refine isIdentifierChars_iff.mpr ⟨⟨c, by simp [hc], hs⟩, fun d hd => ?_⟩
  rcases List.mem_append.mp hd with hd | hd
  · exact hcs d hd
  · exact hy d hd

theorem head?_bare (cs : List Char) :
    (bare cs).head? = (cs.find? (· != '_')).map asciiLower := by
  simp [bare]

namespace LetterLed

variable {cs : List Char} (h : LetterLed cs)

include h

theorem identifier : isIdentifierChars cs = true := by
  obtain ⟨c, hc, hs, _⟩ := h.head
  exact isIdentifierChars_iff.mpr ⟨⟨c, hc, hs⟩, h.chars⟩

theorem find_head : ∃ c, cs.find? (· != '_') = some c ∧ isAsciiDigit c = false := by
  obtain ⟨c, hc, hs, hu⟩ := h.head
  cases cs with
  | nil => simp at hc
  | cons d cs =>
    have he : d = c := by simpa using hc
    exact ⟨c, by simp [he, hu], not_digit_of_isNameStart hs⟩

theorem plain : Plain cs where
  chars := h.chars
  bare := by
    obtain ⟨c, hc, _⟩ := h.find_head
    intro he
    have hb := head?_bare cs
    simp [he, hc] at hb

end LetterLed

/-- No keyword has an underscore. -/
theorem not_keyword_of_underscore {s : String} (h : '_' ∈ s.toList) : isKeyword s = false := by
  have hk : keywords.all (fun k => !k.toList.contains '_') = true := by decide
  apply Bool.eq_false_iff.mpr
  intro hs
  have hm : s ∈ keywords := by simpa [isKeyword] using hs
  have := List.all_eq_true.mp hk s hm
  simp [h] at this

theorem safeIdentifier_not_keyword (s : String) : isKeyword (safeIdentifier s) = false := by
  unfold safeIdentifier
  split
  · exact not_keyword_of_underscore (by simp)
  · next h => simpa using h

/-- A keyword gets one underscore more, which leaves its kind as it is. -/
theorem toList_safeIdentifier (s : String) :
    (safeIdentifier s).toList = s.toList ∨ (safeIdentifier s).toList = s.toList ++ ['_'] := by
  unfold safeIdentifier
  split
  · exact .inr (by simp)
  · exact .inl rfl

theorem LetterLed.safe {s : String} (h : LetterLed s.toList) :
    LetterLed (safeIdentifier s).toList := by
  rcases toList_safeIdentifier s with he | he
  · rw [he]
    exact h
  · obtain ⟨c, hc, hs, hu⟩ := h.head
    rw [he]
    refine ⟨⟨c, by simp [hc], hs, hu⟩, fun d hd => ?_⟩
    rcases List.mem_append.mp hd with hd | hd
    · exact h.chars d hd
    · have hd : d = '_' := by simpa using hd
      rw [hd]
      decide

theorem mem_digits {n : Nat} {c : Char} (h : c ∈ digits 16 n) : ∃ m < 16, c = m.digitChar := by
  unfold digits at h
  induction n using Nat.strongRecOn with
  | _ n ih =>
    rw [Nat.toDigits_eq_if (by decide)] at h
    split at h
    · next hn => exact ⟨n, hn, by simpa using h⟩
    · next hn =>
      rcases List.mem_append.mp h with h | h
      · exact ih (n / 16) (by omega) h
      · exact ⟨n % 16, Nat.mod_lt _ (by decide), by simpa using h⟩

theorem isNameChar_hex {width n : Nat} {c : Char} (h : c ∈ hex width n) : isNameChar c = true := by
  have hd : ∀ m < 16, isNameChar m.digitChar = true := by decide
  unfold hex at h
  rcases List.mem_append.mp h with h | h
  · rw [(List.mem_replicate.mp h).2]
    decide
  · obtain ⟨m, hm, rfl⟩ := mem_digits h
    exact hd m hm

theorem symbolNames_led {s name : String} (h : lookup s symbolNames = some name) :
    LetterLed name.toList ∧ isKeyword name = false ∧ isDigitLed s = false := by
  have hall : symbolNames.all (fun p => p.2.toList.head?.any (fun c => isNameStart c && c != '_')
      && p.2.toList.all isNameChar && !isKeyword p.2 && !isDigitLed p.1) = true := by
    decide
  have hm := List.all_eq_true.mp hall _ (mem_of_lookup h)
  simp only [Bool.and_eq_true, Option.any_eq_true, List.all_eq_true, Bool.not_eq_true',
    bne_iff_ne] at hm
  obtain ⟨⟨⟨hc, hcs⟩, hk⟩, hd⟩ := hm
  exact ⟨⟨hc, hcs⟩, hk, hd⟩

theorem isNameChar_symbolWord {c d : Char} (h : d ∈ symbolWord c) : isNameChar d = true := by
  unfold symbolWord at h
  split at h
  · next hl => exact (symbolNames_led hl).1.chars d h
  · rcases List.mem_cons.mp h with rfl | h
    · decide
    · exact isNameChar_hex h

theorem isNameChar_spelledFrom {word cs : List Char} (hw : ∀ c ∈ word, isNameChar c = true) :
    ∀ w ∈ spelledFrom word cs, ∀ c ∈ w, isNameChar c = true := by
  have close {word : List Char} (hw : ∀ c ∈ word, isNameChar c = true) :
      ∀ w ∈ (if word.isEmpty then [] else [word.reverse]), ∀ c ∈ w, isNameChar c = true := by
    intro w hmem c hc
    split at hmem
    · simp at hmem
    · rw [List.mem_singleton.mp hmem] at hc
      exact hw c (List.mem_reverse.mp hc)
  induction cs generalizing word with
  | nil => exact close hw
  | cons d rest ih =>
    unfold spelledFrom
    split
    · next hd =>
      have hw' : ∀ c ∈ d :: word, isNameChar c = true := by
        intro c hc
        rcases List.mem_cons.mp hc with rfl | hc
        · exact hd
        · exact hw c hc
      exact ih hw'
    · intro w hmem
      rcases List.mem_append.mp hmem with hmem | hmem
      · exact close hw w hmem
      · rcases List.mem_cons.mp hmem with rfl | hmem
        · exact fun c hc => isNameChar_symbolWord hc
        · exact ih (by simp) w hmem

theorem mem_collapseUnderscores {cs : List Char} {c : Char} (h : c ∈ collapseUnderscores cs) :
    c ∈ cs := by
  induction cs using collapseUnderscores.induct with
  | case1 rest ih =>
    rw [collapseUnderscores] at h
    exact List.mem_cons_of_mem _ (ih h)
  | case2 d rest hn ih =>
    rw [collapseUnderscores] at h
    · rcases List.mem_cons.mp h with rfl | h
      · simp
      · exact List.mem_cons_of_mem _ (ih h)
    · exact hn
  | case3 => simp [collapseUnderscores] at h

theorem mem_stripUnderscores {cs : List Char} {c : Char} (h : c ∈ stripUnderscores cs) : c ∈ cs := by
  unfold stripUnderscores at h
  have h := (List.dropWhile_suffix _).mem (List.mem_reverse.mp h)
  exact (List.dropWhile_suffix _).mem (List.mem_reverse.mp h)

theorem stripUnderscores_head {cs : List Char} {c : Char}
    (h : (stripUnderscores cs).head? = some c) : c ≠ '_' := by
  have hp : stripUnderscores cs <+: cs.dropWhile (· == '_') :=
    List.reverse_suffix.mp (by
      unfold stripUnderscores
      rw [List.reverse_reverse]
      exact List.dropWhile_suffix _)
  obtain ⟨rest, hrest⟩ := hp
  have hd := List.head?_dropWhile_not (· == '_') cs
  rw [← hrest, List.head?_append, h] at hd
  simpa using hd

/-- What a text that is no identifier is spelled out to. -/
def spelledOut (cs : List Char) : List Char :=
  guardDigit (orWord "empty"
    (stripUnderscores (collapseUnderscores (List.intercalate ['_'] (spelled cs)))))

theorem letterLed_guardDigit {cs : List Char} (hn : cs ≠ []) (hu : cs.head? ≠ some '_')
    (hcs : ∀ c ∈ cs, isNameChar c = true) : LetterLed (guardDigit cs) := by
  cases cs with
  | nil => exact absurd rfl hn
  | cons c cs =>
    have hc := hcs c (by simp)
    rw [guardDigit]
    split
    · refine ⟨⟨'n', rfl, by decide, by decide⟩, fun d hd => ?_⟩
      rcases List.mem_cons.mp hd with rfl | hd
      · decide
      · exact hcs d hd
    · next hd =>
      exact ⟨⟨c, rfl, isNameStart_of_isNameChar hc (by simpa using hd), by simpa using hu⟩, hcs⟩

/-- Whatever is spelled out, something is left, and a letter leads it. -/
theorem letterLed_spelledOut (cs : List Char) : LetterLed (spelledOut cs) := by
  have hchars : ∀ c ∈ stripUnderscores (collapseUnderscores (List.intercalate ['_'] (spelled cs))),
      isNameChar c = true := by
    intro c hc
    rcases mem_intercalate (mem_collapseUnderscores (mem_stripUnderscores hc)) with hc | ⟨w, hw, hc⟩
    · rw [List.mem_singleton.mp hc]
      decide
    · exact isNameChar_spelledFrom (by simp) w hw c hc
  unfold spelledOut orWord
  split
  · exact letterLed_guardDigit (by decide) (by decide) (List.all_eq_true.mp (by decide))
  · next hn =>
    refine letterLed_guardDigit (by simpa using hn) (fun h => ?_) hchars
    exact stripUnderscores_head h rfl

theorem isNameStart_of_isCapitals {s : String} (h : isCapitals s = true) {c : Char}
    (hc : c ∈ s.toList) : isNameStart c = true := by
  have hc := List.all_eq_true.mp (Bool.and_eq_true_iff.mp h).2 c hc
  simp only [Bool.or_eq_true, Bool.and_eq_true] at hc
  simp only [isNameStart, Bool.or_eq_true, Bool.and_eq_true]
  exact hc.elim (fun h => .inl (.inr h)) .inr

theorem letterLed_upper {s : String} (h : isCapitals s = true) :
    LetterLed ("upper_" ++ lowerString s).toList := by
  have hs : ∀ c ∈ s.toList, isNameChar c = true := by
    intro c hc
    simp [isNameChar, isNameStart_of_isCapitals h hc]
  refine ⟨⟨'u', by simp, by decide, by decide⟩, fun c hc => ?_⟩
  rw [String.toList_append] at hc
  rcases List.mem_append.mp hc with hc | hc
  · have hupper : "upper_".toList.all isNameChar = true := by decide
    exact List.all_eq_true.mp hupper c hc
  · exact recasing_lower.chars _ hs c (by simpa [lowerString] using hc)

theorem capitals_not_digitLed {s : String} (h : isCapitals s = true) : isDigitLed s = false := by
  have hnone : (s.toList.find? (· != '_')).any isAsciiDigit = false := by
    apply Bool.eq_false_iff.mpr
    intro hd
    obtain ⟨c, hc, hd⟩ := (Option.any_eq_true ..).mp hd
    have hs := isNameStart_of_isCapitals h (List.mem_of_find?_eq_some hc)
    rw [not_digit_of_isNameStart hs] at hd
    cases hd
  simp [isDigitLed, hnone]

/-- A sanitised name starts with a letter, unless it is an identifier that keeps its spelling. -/
theorem sanitize_cases (s : String) :
    (LetterLed (sanitize s).toList ∧ isKeyword (sanitize s) = false ∧ isDigitLed s = false) ∨
    (isIdentifier s = true ∧ isCapitals s = false ∧ sanitize s = safeIdentifier s) := by
  unfold sanitize
  split
  · next name hl => exact .inl (symbolNames_led hl)
  · split
    · next hi =>
      split
      · next hc =>
        exact .inl ⟨letterLed_upper hc, not_keyword_of_underscore (by simp),
          capitals_not_digitLed hc⟩
      · next hc => exact .inr ⟨hi, by simpa using hc, rfl⟩
    · next hi =>
      left
      refine ⟨LetterLed.safe ?_, safeIdentifier_not_keyword _, by simp [isDigitLed, hi]⟩
      rw [String.toList_ofList]
      exact letterLed_spelledOut s.toList

theorem sanitize_identifier (s : String) : isIdentifier (sanitize s) = true := by
  rcases sanitize_cases s with ⟨hl, _⟩ | ⟨hi, _, he⟩
  · exact hl.identifier
  · rw [he, isIdentifier]
    rcases toList_safeIdentifier s with h | h
    · rw [h]
      exact hi
    · rw [h]
      exact isIdentifierChars_append hi (List.all_eq_true.mp (by decide))

theorem sanitize_not_keyword (s : String) : isKeyword (sanitize s) = false := by
  rcases sanitize_cases s with ⟨_, hk, _⟩ | ⟨_, _, he⟩
  · exact hk
  · rw [he]
    exact safeIdentifier_not_keyword s

theorem bare_safeIdentifier (s : String) : bare (safeIdentifier s).toList = bare s.toList := by
  rcases toList_safeIdentifier s with h | h <;> rw [h]
  simp [bare]

/-- An identifier that is not all capitals and underscores has a small letter or a digit. -/
theorem plain_of_identifier {s : String} (hi : isIdentifier s = true)
    (hc : isCapitals s = false) : Plain s.toList := by
  refine ⟨(isIdentifierChars_iff.mp hi).2, fun hb => ?_⟩
  have hall : ∀ c ∈ s.toList, c = '_' := by
    simpa [bare] using hb
  have hs : s.isEmpty = false := by
    apply Bool.eq_false_iff.mpr
    intro hs
    rw [String.isEmpty_iff.mp hs] at hi
    exact absurd hi (by decide)
  have hcap : isCapitals s = true := by
    simp only [isCapitals, hs, Bool.not_false, Bool.true_and, List.all_eq_true]
    intro c hc
    rw [hall c hc]
    decide
  rw [hcap] at hc
  cases hc

theorem sanitize_plain (s : String) : Plain (sanitize s).toList := by
  rcases sanitize_cases s with ⟨hl, _⟩ | ⟨hi, hc, he⟩
  · exact hl.plain
  · refine ⟨(isIdentifierChars_iff.mp (sanitize_identifier s)).2, ?_⟩
    rw [he, bare_safeIdentifier]
    exact (plain_of_identifier hi hc).bare

/-- Whether a sanitised name has a digit first, underscores apart, is seen from the given text. -/
theorem bare_sanitize_head (s : String) :
    (bare (sanitize s).toList).head?.any isAsciiDigit = isDigitLed s := by
  rcases sanitize_cases s with ⟨hl, _, hd⟩ | ⟨hi, hc, he⟩
  · obtain ⟨c, hc, hdigit⟩ := hl.find_head
    have hm := hl.chars c (List.mem_of_find?_eq_some hc)
    simp [head?_bare, hc, hd, isAsciiDigit_asciiLower hm, hdigit]
  · rw [he, bare_safeIdentifier, head?_bare, isDigitLed, hi, Bool.true_and]
    cases hf : s.toList.find? (· != '_') with
    | none => rfl
    | some c =>
      have hm := (isIdentifierChars_iff.mp hi).2 c (List.mem_of_find?_eq_some hf)
      simp [isAsciiDigit_asciiLower hm]

end TraversalSdk.Naming
