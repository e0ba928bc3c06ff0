import TraversalSdk.Proofs.LiteralReading

namespace TraversalSdk.Source
open Text

def readLiteral? (source : String) : Option String :=
  match source.toList with
  | '"' :: rest => match readText rest with
    | some (cs, []) => some (String.ofList cs)
    | _ => none
  | _ => none

/-- How many double quotes are not escaped. A backslash escapes what follows it unless it is escaped itself. -/
def openQuotes (escaped : Bool) : List Char → Nat
  | [] => 0
  | c :: rest => (if c == '"' && !escaped then 1 else 0) + openQuotes (c == '\\' && !escaped) rest

theorem openQuotes_ordinary {cs : List Char} (h : ∀ c ∈ cs, IsOrdinary c) (rest : List Char) :
    openQuotes false (cs ++ rest) = openQuotes false rest := by
  induction cs with
  | nil => rfl
  | cons c cs ih =>
    obtain ⟨⟨hq, hb, _⟩, hcs⟩ := List.forall_mem_cons.mp h
    have hquote : (c == '"') = false := beq_eq_false_iff_ne.mpr hq
    have hslash : (c == '\\') = false := beq_eq_false_iff_ne.mpr hb
    rw [List.cons_append, openQuotes, hquote, hslash]
    exact (Nat.zero_add _).trans (ih hcs)

theorem openQuotes_escapeChar (c : Char) (rest : List Char) :
    openQuotes false (escapeChar c ++ rest) = openQuotes false rest := by
  have hskip (d : Char) (rest : List Char) :
      openQuotes false ('\\' :: d :: rest) = openQuotes false rest := by
    simp [openQuotes]
  rcases escapeChar_cases c with ⟨d, _, he⟩ | ⟨hc, he⟩ | ⟨hc, he⟩ <;> rw [he]
  · exact hskip d rest
  · exact (hskip 'u' _).trans (openQuotes_ordinary (isOrdinary_hex hc) rest)
  · exact openQuotes_ordinary (List.forall_mem_singleton.mpr hc) rest

/-- Nothing within a literal closes it. -/
theorem openQuotes_escaped (cs rest : List Char) :
    openQuotes false (cs.flatMap escapeChar ++ rest) = openQuotes false rest := by
  induction cs with
  | nil => rfl
  | cons c cs ih => rw [List.flatMap_cons, List.append_assoc, openQuotes_escapeChar, ih]

theorem readLiteral?_literal (s : String) : readLiteral? (literal s) = some s := by
  have hread : readText (s.toList.flatMap escapeChar ++ ['"']) = some (s.toList, []) :=
    readText_escaped s.toList []
  simp [readLiteral?, toList_literal, hread]

/-- For every text: its literal begins and ends with a double quote, and these two are the only ones that are not
escaped; no line ending and no NUL stands in it; it is read as the text; and no other text has it. -/
theorem literal_faithful (s : String) :
    (∃ body, (literal s).toList = '"' :: (body ++ ['"']) ∧ openQuotes false body = 0) ∧
    openQuotes false (literal s).toList = 2 ∧
    (∀ c ∈ (literal s).toList, c ≠ '\n' ∧ c ≠ '\r' ∧ c.toNat ≠ 0) ∧
    readLiteral? (literal s) = some s ∧
    ∀ t, literal s = literal t ↔ s = t := by
  have hbody : openQuotes false (s.toList.flatMap escapeChar) = 0 := by
    simpa [openQuotes] using openQuotes_escaped s.toList []
  refine ⟨⟨_, toList_literal s, hbody⟩, ?_, fun c hc => ?_, readLiteral?_literal s, fun t => ⟨fun h => ?_, ?_⟩⟩
  · have hclose : openQuotes false (s.toList.flatMap escapeChar ++ ['"']) = 1 := openQuotes_escaped s.toList ['"']
    rw [toList_literal]
    simp [openQuotes, hclose]
  · have hblank := blank_le_of_mem_literal hc
    refine ⟨?_, ?_, by omega⟩ <;> rintro rfl <;> exact absurd hblank (by decide)
  · have hread := readLiteral?_literal s
    rw [h, readLiteral?_literal] at hread
    exact (Option.some.inj hread).symm
  · rintro rfl
    rfl

end TraversalSdk.Source
