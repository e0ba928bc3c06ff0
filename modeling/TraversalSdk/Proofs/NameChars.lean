import TraversalSdk.Naming.Identifier

namespace TraversalSdk.Naming
open Text Casing

/-- Names are made of ASCII characters. -/
theorem ascii_of_isNameChar {c : Char} (hc : isNameChar c = true) : c.toNat < 128 := by
  simp only [isNameChar, isNameStart, isAsciiDigit, Bool.or_eq_true, Bool.and_eq_true,
    decide_eq_true_eq, beq_iff_eq, Char.le_def, UInt32.le_iff_toNat_le] at hc
  change c.val.toNat < 128
  rcases hc with ((⟨_, h⟩ | ⟨_, h⟩) | rfl) | ⟨_, h⟩
  · exact Nat.lt_of_le_of_lt h (by decide)
  · exact Nat.lt_of_le_of_lt h (by decide)
  · decide
  · exact Nat.lt_of_le_of_lt h (by decide)

/-- What holds of the name characters among the first code points holds of all name characters. -/
theorem nameChar_rec {P : Char → Bool}
    (h : (List.range 128).all (fun n => !isNameChar (Char.ofNat n) || P (Char.ofNat n)) = true)
    {c : Char} (hc : isNameChar c = true) : P c = true := by
  have hn := List.all_eq_true.mp h c.toNat (List.mem_range.mpr (ascii_of_isNameChar hc))
  rw [Char.ofNat_toNat] at hn
  simpa [hc] using hn

def IsTame (c : Char) : Prop :=
  (isDelimiter c = (c == '_') ∧ isPunctuation c = (c == '_')) ∧
  (isNameChar (asciiLower c) = true ∧ isNameChar (asciiUpper c) = true) ∧
  (asciiLower (asciiLower c) = asciiLower c ∧ asciiLower (asciiUpper c) = asciiLower c) ∧
  ((asciiLower c != '_') = (c != '_') ∧ (asciiUpper c != '_') = (c != '_')) ∧
  isAsciiDigit (asciiLower c) = isAsciiDigit c

instance : DecidablePred IsTame := fun _ =>
  inferInstanceAs (Decidable ((_ ∧ _) ∧ (_ ∧ _) ∧ (_ ∧ _) ∧ (_ ∧ _) ∧ _))

/-- Name characters are tame, which is checked one by one. -/
theorem isTame_nameChar {c : Char} (hc : isNameChar c = true) : IsTame c :=
  of_decide_eq_true (nameChar_rec (P := fun c => decide (IsTame c)) (by decide +kernel) hc)

theorem isDelimiter_nameChar {c : Char} (hc : isNameChar c = true) :
    isDelimiter c = (c == '_') :=
  (isTame_nameChar hc).1.1

theorem isPunctuation_nameChar {c : Char} (hc : isNameChar c = true) :
    isPunctuation c = (c == '_') :=
  (isTame_nameChar hc).1.2

theorem isNameChar_asciiLower {c : Char} (hc : isNameChar c = true) :
    isNameChar (asciiLower c) = true :=
  (isTame_nameChar hc).2.1.1

theorem isNameChar_asciiUpper {c : Char} (hc : isNameChar c = true) :
    isNameChar (asciiUpper c) = true :=
  (isTame_nameChar hc).2.1.2

theorem asciiLower_asciiLower {c : Char} (hc : isNameChar c = true) :
    asciiLower (asciiLower c) = asciiLower c :=
  (isTame_nameChar hc).2.2.1.1

theorem asciiLower_asciiUpper {c : Char} (hc : isNameChar c = true) :
    asciiLower (asciiUpper c) = asciiLower c :=
  (isTame_nameChar hc).2.2.1.2

theorem asciiLower_beq_underscore {c : Char} (hc : isNameChar c = true) :
    (asciiLower c != '_') = (c != '_') :=
  (isTame_nameChar hc).2.2.2.1.1

theorem asciiUpper_beq_underscore {c : Char} (hc : isNameChar c = true) :
    (asciiUpper c != '_') = (c != '_') :=
  (isTame_nameChar hc).2.2.2.1.2

theorem isAsciiDigit_asciiLower {c : Char} (hc : isNameChar c = true) :
    isAsciiDigit (asciiLower c) = isAsciiDigit c :=
  (isTame_nameChar hc).2.2.2.2

/-- Letters and digits in small spelling. Casing keeps this bare spelling of a name, so two spellings can only
meet in one form if they are bare alike. -/
def bare (cs : List Char) : List Char := (cs.filter (· != '_')).map asciiLower

@[simp]
theorem bare_append (xs ys : List Char) : bare (xs ++ ys) = bare xs ++ bare ys := by
  simp [bare]

theorem bare_cons (c : Char) (cs : List Char) : bare (c :: cs) = bare [c] ++ bare cs :=
  bare_append [c] cs

theorem bare_flatten (l : List (List Char)) : bare l.flatten = (l.map bare).flatten := by
  induction l with
  | nil => rfl
  | cons xs l ih => simp [ih]

/-- Dropping underscores changes nothing. -/
theorem bare_filter {p : Char → Bool} {cs : List Char} (h : ∀ c ∈ cs, c ≠ '_' → p c = true) :
    bare (cs.filter p) = bare cs := by
  unfold bare
  rw [List.filter_filter]
  congr 1
  apply List.filter_congr
  intro c hc
  by_cases hu : c = '_'
  · simp [hu]
  · simp [h c hc hu]

/-- Underscores in front are not part of the bare spelling. -/
theorem bare_dropWhile {p : Char → Bool} (h : ∀ c, p c = true → c = '_') (cs : List Char) :
    bare (cs.dropWhile p) = bare cs := by
  induction cs with
  | nil => rfl
  | cons c cs ih =>
    rw [List.dropWhile_cons]
    split
    · next hc =>
      rw [ih, h c hc]
      rfl
    · rfl

theorem bare_reverse (cs : List Char) : bare cs.reverse = (bare cs).reverse := by
  simp [bare]

theorem flatten_closeWord (word : List Char) (others : List (List Char)) :
    (closeWord word others).flatten = word.reverse ++ others.flatten := by
  unfold closeWord
  split
  · next h => simp [List.isEmpty_iff.mp h]
  · simp

/-- Words leave out the delimiters and nothing else. -/
theorem flatten_wordsFrom (word cs : List Char) :
    (wordsFrom word cs).flatten = word.reverse ++ cs.filter (!isDelimiter ·) := by
  induction cs generalizing word with
  | nil => simp [wordsFrom, flatten_closeWord]
  | cons c rest ih =>
    unfold wordsFrom
    split
    · next hd => simp [flatten_closeWord, ih, hd]
    · next hd =>
      split
      · simp [flatten_closeWord, ih, hd]
      · simp [ih, hd]

/-- Cutting a name into words loses its delimiters only. -/
theorem flatten_words (cs : List Char) : (words cs).flatten = cs.filter (!isDelimiter ·) := by
  simpa [words] using flatten_wordsFrom [] cs

theorem mem_of_mem_words {cs w : List Char} {c : Char} (hw : w ∈ words cs) (hc : c ∈ w) :
    c ∈ cs := by
  have h : c ∈ (words cs).flatten := List.mem_flatten.mpr ⟨w, hw, hc⟩
  rw [flatten_words] at h
  exact (List.mem_filter.mp h).1

theorem lowerAfter_eq_map {cs : List Char} (h : ∀ c ∈ cs, isNameChar c = true)
    (before : List Char) : lowerAfter before cs = cs.map asciiLower := by
  induction cs generalizing before with
  | nil => rfl
  | cons c rest ih =>
    have hc := ascii_of_isNameChar (h c (by simp))
    have hs : (c == 'Σ') = false := by
      apply beq_eq_false_iff_ne.mpr
      intro he
      rw [he] at hc
      exact absurd hc (by decide)
    have hl : lowerChar c = [asciiLower c] := by simp [lowerChar, isAscii, hc]
    rw [lowerAfter, hs, ih (fun d hd => h d (by simp [hd])), hl]
    rfl

/-- Lower case of a name goes character by character. -/
theorem lower_eq_map {cs : List Char} (h : ∀ c ∈ cs, isNameChar c = true) :
    lower cs = cs.map asciiLower := lowerAfter_eq_map h []

theorem capitalize_cons {c : Char} {cs : List Char} (h : ∀ d ∈ c :: cs, isNameChar d = true) :
    capitalize (c :: cs) = asciiUpper c :: cs.map asciiLower := by
  have ht : titleChar c = [asciiUpper c] := by
    simp [titleChar, isAscii, ascii_of_isNameChar (h c (by simp))]
  rw [capitalize, ht, lowerAfter_eq_map fun d hd => h d (by simp [hd])]
  rfl

theorem bare_map_asciiLower {cs : List Char} (h : ∀ c ∈ cs, isNameChar c = true) :
    bare (cs.map asciiLower) = bare cs := by
  unfold bare
  rw [List.filter_map, List.map_map]
  have hf : cs.filter ((· != '_') ∘ asciiLower) = cs.filter (· != '_') :=
    List.filter_congr fun c hc => asciiLower_beq_underscore (h c hc)
  rw [hf]
  apply List.map_congr_left
  intro c hc
  exact asciiLower_asciiLower (h c (List.mem_filter.mp hc).1)

/-- A way to recase words that keeps name characters and their bare spelling. -/
structure Recasing (f : List Char → List Char) : Prop where
  bare : ∀ w, (∀ c ∈ w, isNameChar c = true) → bare (f w) = Naming.bare w
  chars : ∀ w, (∀ c ∈ w, isNameChar c = true) → ∀ c ∈ f w, isNameChar c = true

/-- Small letters keep the bare spelling. -/
theorem recasing_lower : Recasing lower where
  bare w h := by rw [lower_eq_map h, bare_map_asciiLower h]
  chars w h c hc := by
    rw [lower_eq_map h] at hc
    obtain ⟨d, hd, rfl⟩ := List.mem_map.mp hc
    exact isNameChar_asciiLower (h d hd)

/-- A capital letter in front keeps the bare spelling. -/
theorem recasing_capitalize : Recasing capitalize where
  bare w h := by
    cases w with
    | nil => rfl
    | cons c cs =>
      have hc := h c (by simp)
      have hone : Naming.bare [asciiUpper c] = Naming.bare [c] := by
        simp only [Naming.bare, List.filter_cons, List.filter_nil, asciiUpper_beq_underscore hc]
        split <;> simp [asciiLower_asciiUpper hc]
      rw [capitalize_cons h, bare_cons, bare_cons c, hone,
        bare_map_asciiLower fun d hd => h d (by simp [hd])]
  chars w h c hc := by
    cases w with
    | nil => simp [capitalize] at hc
    | cons d ds =>
      rw [capitalize_cons h] at hc
      rcases List.mem_cons.mp hc with rfl | hc
      · exact isNameChar_asciiUpper (h d (by simp))
      · obtain ⟨e, he, rfl⟩ := List.mem_map.mp hc
        exact isNameChar_asciiLower (h e (by simp [he]))

structure NameStyle (style : Style) : Prop where
  first : Recasing style.first
  others : Recasing style.others
  delimiter : style.delimiter = none ∨ style.delimiter = some '_'

theorem nameStyle_pascal : NameStyle pascalStyle :=
  ⟨recasing_capitalize, recasing_capitalize, .inl rfl⟩

theorem nameStyle_snake : NameStyle snakeStyle := ⟨recasing_lower, recasing_lower, .inr rfl⟩

theorem bare_intercalate {sep : List Char} (hs : bare sep = []) (l : List (List Char)) :
    bare (List.intercalate sep l) = (l.map bare).flatten := by
  induction l with
  | nil => rfl
  | cons w l ih =>
    cases l with
    | nil => simp
    | cons w' l => simp [hs, ih]

theorem mem_intercalate {α : Type} {sep : List α} {l : List (List α)} {c : α}
    (h : c ∈ List.intercalate sep l) : c ∈ sep ∨ ∃ w ∈ l, c ∈ w := by
  induction l with
  | nil => simp at h
  | cons w l ih =>
    cases l with
    | nil => exact .inr ⟨w, by simp, by simpa using h⟩
    | cons w' l =>
      rw [List.intercalate_cons_cons, List.append_assoc, List.mem_append, List.mem_append] at h
      rcases h with h | h | h
      · exact .inr ⟨w, by simp, h⟩
      · exact .inl h
      · rcases ih h with h | ⟨v, hv, hc⟩
        · exact .inl h
        · exact .inr ⟨v, List.mem_cons_of_mem _ hv, hc⟩

namespace NameStyle

variable {style : Style} (h : NameStyle style)

include h

theorem isEnd {c : Char} (hc : (style.delimiter == some c) = true) : c = '_' := by
  rcases h.delimiter with hd | hd
  · simp [hd] at hc
  · have he : '_' = c := by simpa [hd] using hc
    exact he.symm

theorem bare_delimiter : bare style.delimiter.toList = [] := by
  rcases h.delimiter with hd | hd <;> rw [hd] <;> rfl

theorem bare_trim (cs : List Char) : bare (trimDelimiter style.delimiter cs) = bare cs := by
  unfold trimDelimiter
  dsimp only
  rw [bare_reverse, bare_dropWhile fun c hc => h.isEnd hc, bare_reverse, List.reverse_reverse,
    bare_dropWhile fun c hc => h.isEnd hc]

theorem mem_recased {ws : List (List Char)} (hw : ∀ w ∈ ws, ∀ c ∈ w, isNameChar c = true) :
    ∀ w ∈ style.recased ws, ∀ c ∈ w, isNameChar c = true := by
  cases ws with
  | nil => simp [Style.recased]
  | cons w ws =>
    intro v hv
    rcases List.mem_cons.mp hv with rfl | hv
    · exact h.first.chars w (hw w (by simp))
    · obtain ⟨u, hu, rfl⟩ := List.mem_map.mp hv
      exact h.others.chars u (hw u (by simp [hu]))

/-- Recased words are bare as they were. -/
theorem bare_recased {ws : List (List Char)} (hw : ∀ w ∈ ws, ∀ c ∈ w, isNameChar c = true) :
    (style.recased ws).map bare = ws.map bare := by
  cases ws with
  | nil => rfl
  | cons w ws =>
    have hrest : (ws.map style.others).map bare = ws.map bare := by
      rw [List.map_map]
      exact List.map_congr_left fun u hu => h.others.bare u (hw u (by simp [hu]))
    rw [Style.recased, List.map_cons, List.map_cons, h.first.bare w (hw w (by simp)), hrest]

variable {cs : List Char} (hcs : ∀ c ∈ cs, isNameChar c = true)

include hcs

theorem joined_chars :
    ∀ c ∈ trimDelimiter style.delimiter
      (List.intercalate style.delimiter.toList (style.recased (words cs))),
      isNameChar c = true := by
  intro c hc
  unfold trimDelimiter at hc
  have hc := (List.dropWhile_suffix _).mem (List.mem_reverse.mp hc)
  have hc := (List.dropWhile_suffix _).mem (List.mem_reverse.mp hc)
  rcases mem_intercalate hc with hc | ⟨w, hw, hc⟩
  · have hu : c = '_' := h.isEnd (by simpa using hc)
    rw [hu]
    decide
  · exact h.mem_recased (fun w hw c hc => hcs c (mem_of_mem_words hw hc)) w hw c hc

/-- A name stays a name in every style. -/
theorem chars_isNameChar : ∀ c ∈ style.chars cs, isNameChar c = true :=
  fun c hc => h.joined_chars hcs c (List.mem_filter.mp hc).1

/-- Casing keeps the letters and digits of a name. -/
theorem bare_chars : bare (style.chars cs) = bare cs := by
  have hwords : ∀ w ∈ words cs, ∀ c ∈ w, isNameChar c = true :=
    fun w hw c hc => hcs c (mem_of_mem_words hw hc)
  have hkeep : bare (style.chars cs) = bare (trimDelimiter style.delimiter
      (List.intercalate style.delimiter.toList (style.recased (words cs)))) := by
    apply bare_filter
    intro c hc hu
    simp [Style.keeps, isPunctuation_nameChar (h.joined_chars hcs c hc), hu]
  have hdrop : bare (cs.filter (!isDelimiter ·)) = bare cs := by
    apply bare_filter
    intro c hc hu
    simp [isDelimiter_nameChar (hcs c hc), hu]
  rw [hkeep, h.bare_trim, bare_intercalate h.bare_delimiter, h.bare_recased hwords, ← bare_flatten,
    flatten_words, hdrop]

end NameStyle

/-- Pascal spelling has no underscores. -/
theorem underscore_not_mem_pascal (cs : List Char) : '_' ∉ pascalStyle.chars cs := by
  intro h
  have hk := (List.mem_filter.mp h).2
  exact absurd hk (by decide)

end TraversalSdk.Naming
