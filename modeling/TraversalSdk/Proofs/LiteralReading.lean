import Mathlib.Data.List.Infix
import TraversalSdk.Source.Value

namespace TraversalSdk.Source
open Text

/-- Characters that neither end a string nor escape anything, from the blank on. -/
def IsOrdinary (c : Char) : Prop := c ≠ '"' ∧ c ≠ '\\' ∧ 0x20 ≤ c.toNat

instance : DecidablePred IsOrdinary := fun _ => inferInstanceAs (Decidable (_ ∧ _ ∧ _))

def letterEscapes : List (Char × Char) :=
  [('"', '"'), ('\\', '\\'), (Char.ofNat 8, 'b'), (Char.ofNat 12, 'f'), ('\n', 'n'), ('\r', 'r'), ('\t', 't')]

/-- A character is written with a letter behind a backslash, by its code, or as it is. -/
theorem escapeChar_cases (c : Char) :
    (∃ d, (c, d) ∈ letterEscapes ∧ escapeChar c = ['\\', d]) ∨
    (c.toNat < 0x20 ∧ escapeChar c = '\\' :: 'u' :: hex 4 c.toNat) ∨
    (IsOrdinary c ∧ escapeChar c = [c]) := by
  have hcode (n : Nat) (h : (c.toNat == n) = true) : c = Char.ofNat n := by
    rw [← eq_of_beq h, Char.ofNat_toNat]
  unfold escapeChar
  split_ifs with hq hb h₈ h₁₂ hn hr ht hc
  · exact .inl ⟨_, by rw [eq_of_beq hq]; decide, rfl⟩
  · exact .inl ⟨_, by rw [eq_of_beq hb]; decide, rfl⟩
  · exact .inl ⟨_, by rw [hcode 8 h₈]; decide, rfl⟩
  · exact .inl ⟨_, by rw [hcode 12 h₁₂]; decide, rfl⟩
  · exact .inl ⟨_, by rw [eq_of_beq hn]; decide, rfl⟩
  · exact .inl ⟨_, by rw [eq_of_beq hr]; decide, rfl⟩
  · exact .inl ⟨_, by rw [eq_of_beq ht]; decide, rfl⟩
  · exact .inr (.inl ⟨hc, rfl⟩)
  · exact .inr (.inr ⟨⟨by simpa using hq, by simpa using hb, Nat.not_lt.mp hc⟩, rfl⟩)

/-- The code of a character below the blank. -/
theorem hex_control {n : Nat} (h : n < 0x20) :
    hex 4 n = ['0', '0', (n / 16).digitChar, (n % 16).digitChar] := by
  have hall : ∀ n < 0x20, hex 4 n = ['0', '0', (n / 16).digitChar, (n % 16).digitChar] := by decide
  exact hall n h

theorem isOrdinary_hex {n : Nat} (h : n < 0x20) : ∀ d ∈ hex 4 n, IsOrdinary d := by
  have hdigit : ∀ k < 16, IsOrdinary k.digitChar := by decide
  simp only [hex_control h, List.forall_mem_cons]
  exact ⟨by decide, by decide, hdigit _ (by omega), hdigit _ (by omega), by simp⟩

/-- No control character below the blank is left as it is. -/
theorem blank_le_of_mem_escapeChar {c d : Char} (h : d ∈ escapeChar c) : 0x20 ≤ d.toNat := by
  rcases escapeChar_cases c with ⟨e, hmem, he⟩ | ⟨hc, he⟩ | ⟨hc, he⟩ <;> rw [he] at h
  · have hletters : ∀ p ∈ letterEscapes, 0x20 ≤ p.2.toNat := by decide
    rcases List.mem_pair.mp h with rfl | rfl
    · decide
    · exact hletters _ hmem
  · rcases List.mem_cons.mp h with rfl | h
    · decide
    rcases List.mem_cons.mp h with rfl | h
    · decide
    · exact (isOrdinary_hex hc d h).2.2
  · rw [List.mem_singleton.mp h]
    exact hc.2.2

def escaped? (c : Char) : Option Char :=
  if c == '"' || c == '\\' then some c
  else if c == 'b' then some (Char.ofNat 8)
  else if c == 'f' then some (Char.ofNat 12)
  else if c == 'n' then some '\n'
  else if c == 'r' then some '\r'
  else if c == 't' then some '\t'
  else none

def coded? (ds : List Char) : Option Char :=
  (ds.foldlM (fun n d => (hexValue? d).map (n * 16 + ·)) 0).bind fun n =>
    if n.isValidChar then some (Char.ofNat n) else none

def isRaw (c : Char) : Bool := c != '\\' && c != '\n' && c != '\r' && c.toNat != 0

/-- Reads up to the closing quote, and leaves what stands behind it. -/
def readText : List Char → Option (List Char × List Char)
  | '"' :: rest => some ([], rest)
  | '\\' :: 'u' :: d₁ :: d₂ :: d₃ :: d₄ :: rest =>
    (coded? [d₁, d₂, d₃, d₄]).bind fun c => (readText rest).map fun p => (c :: p.1, p.2)
  | '\\' :: d :: rest => (escaped? d).bind fun c => (readText rest).map fun p => (c :: p.1, p.2)
  | c :: rest => if isRaw c then (readText rest).map fun p => (c :: p.1, p.2) else none
  | [] => none

/-- A character below the blank is read from its code. -/
theorem coded?_control {n : Nat} (h : n < 0x20) :
    coded? ['0', '0', (n / 16).digitChar, (n % 16).digitChar] = some (Char.ofNat n) := by
  have hall : ∀ n < 0x20,
      coded? ['0', '0', (n / 16).digitChar, (n % 16).digitChar] = some (Char.ofNat n) := by
    decide
  exact hall n h

/-- Whatever a character is written as, it is read as itself. -/
theorem readText_escapeChar (c : Char) (rest : List Char) :
    readText (escapeChar c ++ rest) = (readText rest).map fun p => (c :: p.1, p.2) := by
  rcases escapeChar_cases c with ⟨d, hd, he⟩ | ⟨hc, he⟩ | ⟨⟨hq, hb, hc⟩, he⟩ <;> rw [he]
  · have hread : ∀ e ∈ letterEscapes, e.2 ≠ 'u' ∧ escaped? e.2 = some e.1 := by decide
    obtain ⟨hu, hread⟩ := hread _ hd
    rw [List.cons_append, List.singleton_append, readText, hread, Option.bind_some]
    exact fun _ _ _ _ _ h _ => hu h
  · have hread := coded?_control hc
    rw [Char.ofNat_toNat] at hread
    rw [hex_control hc]
    simp [readText, hread]
  · have hraw : isRaw c = true := by
      have hne (d : Char) (hd : d.toNat < 0x20) : c ≠ d := by
        rintro rfl
        exact absurd hc (Nat.not_le.mpr hd)
      simp only [isRaw, Bool.and_eq_true, bne_iff_ne]
      exact ⟨⟨⟨hb, hne _ (by decide)⟩, hne _ (by decide)⟩, by omega⟩
    rw [List.singleton_append, readText]
    · rw [if_pos hraw]
    · exact fun h => hq h
    · exact fun _ _ _ _ _ h _ => hb h
    · exact fun _ _ h _ => hb h

/-- So is every text, up to the quote that closes it. -/
theorem readText_escaped (cs rest : List Char) :
    readText (cs.flatMap escapeChar ++ '"' :: rest) = some (cs, rest) := by
  induction cs with
  | nil => rfl
  | cons c cs ih => rw [List.flatMap_cons, List.append_assoc, readText_escapeChar, ih]; rfl

theorem toList_literal (s : String) :
    (literal s).toList = '"' :: (s.toList.flatMap escapeChar ++ ['"']) := by
  simp [literal, literalChars]

theorem blank_le_of_mem_literal {s : String} {c : Char} (h : c ∈ (literal s).toList) : 0x20 ≤ c.toNat := by
  rw [toList_literal] at h
  rcases List.mem_cons.mp h with rfl | h
  · decide
  rcases List.mem_append.mp h with h | h
  · obtain ⟨d, _, h⟩ := List.mem_flatMap.mp h
    exact blank_le_of_mem_escapeChar h
  · rw [List.mem_singleton.mp h]
    decide

inductive Opening
  | text
  | whole (v : Value)
  | tuple
  | frozenset

def openings : List (String × Opening) := [
  ("\"", .text), ("True", .whole (.flag true)), ("False", .whole (.flag false)),
  ("None", .whole .absent), ("frozenset()", .whole (.frozenset [])), ("frozenset(\x7b", .frozenset),
  ("()", .whole (.tuple [])), ("(", .tuple)]

def opening? (cs : List Char) : Option (Opening × List Char) :=
  openings.findSome? fun o => (cs.dropPrefix? o.1.toList).map fun rest => (o.2, rest)

/-- One item in parentheses is a tuple if a comma stands behind it. -/
def tupleOf : List Value → Bool → Value
  | [v], false => v
  | vs, _ => .tuple vs

mutual

/-- Reads one value, and leaves what stands behind it. -/
def readValue : Nat → List Char → Option (Value × List Char)
  | 0, _ => none
  | fuel + 1, cs => do
    match ← opening? cs with
    | (.text, rest) => (readText rest).map fun p => (.text (String.ofList p.1), p.2)
    | (.whole v, rest) => some (v, rest)
    | (.tuple, rest) => (readItems fuel ")" rest).map fun p => (tupleOf p.1 p.2.1, p.2.2)
    | (.frozenset, rest) => (readItems fuel "\x7d)" rest).map fun p => (.frozenset p.1, p.2.2)

/-- Reads one value or more up to a closing text, and whether a comma stands before it. -/
def readItems : Nat → String → List Char → Option (List Value × Bool × List Char)
  | 0, _, _ => none
  | fuel + 1, close, cs => do
    let (v, rest) ← readValue fuel cs
    match rest.dropPrefix? ", ".toList with
    | some rest => (readItems fuel close rest).map fun p => (v :: p.1, p.2)
    | none =>
      match rest.dropPrefix? (',' :: close.toList) with
      | some rest => some ([v], true, rest)
      | none => (rest.dropPrefix? close.toList).map fun rest => ([v], false, rest)

end

mutual

/-- Built from texts, truth values and `None` alone. -/
def Value.isLiteral : Value → Bool
  | .text _ | .flag _ | .absent => true
  | .tuple items | .frozenset items => Value.areLiteral items
  | .expression _ => false

def Value.areLiteral : List Value → Bool
  | [] => true
  | v :: vs => Value.isLiteral v && Value.areLiteral vs

end

theorem Value.areLiteral_iff {vs : List Value} :
    Value.areLiteral vs = true ↔ ∀ v ∈ vs, v.isLiteral = true := by
  induction vs with
  | nil => simp [areLiteral]
  | cons v vs ih => simp [areLiteral, ih]

/-- No literal begins with a closing parenthesis. -/
theorem source_head {v : Value} (h : v.isLiteral = true) :
    ∃ c cs, v.source.toList = c :: cs ∧ c ≠ ')' := by
  have quote : '"' ≠ ')' := by decide
  have letter : 'f' ≠ ')' := by decide
  have paren : '(' ≠ ')' := by decide
  match v with
  | .text s => exact ⟨_, _, toList_literal s, quote⟩
  | .flag true | .flag false | .absent => simp [Value.source]
  | .tuple [] | .frozenset [] => simp [Value.source, Value.sources, tupleText, frozensetText]
  | .tuple [v] => simp [Value.source, Value.sources, tupleText]
  | .tuple (v :: w :: vs) => simp [Value.source, Value.sources, tupleText]
  | .frozenset (v :: vs) => simp [Value.source, Value.sources, frozensetText]

theorem opening?_text (rest : List Char) : opening? ('"' :: rest) = some (.text, rest) := by
  simp [opening?, openings, List.dropPrefix?]

theorem opening?_whole {s : String} {v : Value} (h : (s, .whole v) ∈ openings)
    (rest : List Char) : opening? (s.toList ++ rest) = some (.whole v, rest) := by
  simp only [openings, List.mem_cons, Prod.mk.injEq, Opening.whole.injEq, reduceCtorEq, and_false,
    List.not_mem_nil, or_false, false_or] at h
  rcases h with ⟨rfl, rfl⟩ | ⟨rfl, rfl⟩ | ⟨rfl, rfl⟩ | ⟨rfl, rfl⟩ | ⟨rfl, rfl⟩ <;>
    simp [opening?, openings, List.dropPrefix?]

theorem opening?_tuple {c : Char} (h : c ≠ ')') (cs : List Char) :
    opening? ('(' :: c :: cs) = some (.tuple, c :: cs) := by
  simp [opening?, openings, List.findSome?, List.dropPrefix?, h]

theorem opening?_frozenset (cs : List Char) :
    opening? ("frozenset(\x7b".toList ++ cs) = some (.frozenset, cs) := by
  simp [opening?, openings, List.findSome?, List.dropPrefix?]

/-- Reading the source of a value gives the value, whatever stands behind it. -/
def ReadsBack (v : Value) : Prop :=
  ∀ (fuel : Nat) (rest : List Char), v.source.toList.length ≤ fuel →
    readValue fuel (v.source.toList ++ rest) = some (v, rest)

theorem readsBack_whole {v : Value} (h : (v.source, .whole v) ∈ openings) : ReadsBack v := by
  intro fuel rest hf
  cases fuel with
  | zero =>
    have hpos : ∀ o ∈ openings, o.1.toList.length ≠ 0 := by decide
    exact absurd (Nat.le_zero.mp hf) (hpos _ h)
  | succ fuel => simp [readValue, opening?_whole h]

/-- A text is read from its literal. -/
theorem readsBack_text (s : String) : ReadsBack (.text s) := by
  intro fuel rest hf
  have hsource : (Value.text s).source.toList ++ rest =
      '"' :: (s.toList.flatMap escapeChar ++ '"' :: rest) := by
    rw [Value.source, toList_literal, List.cons_append, List.append_assoc]
    rfl
  cases fuel with
  | zero =>
    rw [Value.source, toList_literal] at hf
    cases hf
  | succ fuel => simp [hsource, readValue, opening?_text, readText_escaped]

def itemsText (vs : List Value) : List Char :=
  List.intercalate ", ".toList ((Value.sources vs).map String.toList)

theorem itemsText_cons_cons (v w : Value) (vs : List Value) :
    itemsText (v :: w :: vs) = v.source.toList ++ (", ".toList ++ itemsText (w :: vs)) := by
  simp [itemsText, Value.sources]

theorem itemsText_singleton (v : Value) : itemsText [v] = v.source.toList := by
  simp [itemsText, Value.sources]

/-- How a list of items ends: at its closing text, with or without a comma before it. -/
def stopAt? (close : String) (stop : List Char) : Option (Bool × List Char) :=
  match stop.dropPrefix? (',' :: close.toList) with
  | some rest => some (true, rest)
  | none => (stop.dropPrefix? close.toList).map (Prod.mk false)

theorem readItems_stop {close : String} {stop : List Char} {p : Bool × List Char}
    (hsep : stop.dropPrefix? ", ".toList = none) (hstop : stopAt? close stop = some p)
    {vs : List Value} (hne : vs ≠ []) (h : ∀ v ∈ vs, ReadsBack v) (fuel : Nat)
    (hf : (itemsText vs).length < fuel) :
    readItems fuel close (itemsText vs ++ stop) = some (vs, p) := by
  induction vs generalizing fuel with
  | nil => exact absurd rfl hne
  | cons v vs ih =>
    obtain ⟨fuel, rfl⟩ : ∃ n, fuel = n + 1 := ⟨fuel - 1, by omega⟩
    have hv := h v (by simp) fuel
    cases vs with
    | nil =>
      rw [itemsText_singleton] at hf ⊢
      rw [readItems, hv _ (by omega), Option.bind_eq_bind, Option.bind_some]
      simp only [hsep]
      unfold stopAt? at hstop
      split at hstop
      · cases hstop
        rfl
      · obtain ⟨rest, hrest, rfl⟩ := Option.map_eq_some_iff.mp hstop
        simp only [hrest, Option.map_some]
    | cons w vs =>
      rw [itemsText_cons_cons] at hf ⊢
      have hlen : ", ".toList.length = 2 := by simp
      simp only [List.length_append] at hf
      have hcomma (cs : List Char) : (", ".toList ++ cs).dropPrefix? ", ".toList = some cs := by
        simp [List.dropPrefix?]
      have hrest := ih (by simp) (fun u hu => h u (List.mem_cons_of_mem _ hu)) fuel (by omega)
      simp only [List.append_assoc, readItems, hv _ (by omega), Option.bind_eq_bind,
        Option.bind_some, hcomma, hrest, Option.map_some]

/-- Items are read one after the other, up to the text that closes the list. -/
theorem readItems_itemsText {close : String} (hc : close = ")" ∨ close = "\x7d)")
    {vs : List Value} (hne : vs ≠ []) (h : ∀ v ∈ vs, ReadsBack v) (fuel : Nat) (rest : List Char)
    (hf : (itemsText vs).length < fuel) :
    readItems fuel close (itemsText vs ++ (close.toList ++ rest)) = some (vs, false, rest) := by
  have hstop : (close.toList ++ rest).dropPrefix? ", ".toList = none ∧
      stopAt? close (close.toList ++ rest) = some (false, rest) := by
    rcases hc with rfl | rfl <;> simp [stopAt?, List.dropPrefix?]
  exact readItems_stop hstop.1 hstop.2 hne h fuel hf

/-- The first item does not close the parenthesis. -/
theorem itemsText_head {v : Value} (h : v.isLiteral = true) (vs : List Value) :
    ∃ c cs, itemsText (v :: vs) = c :: cs ∧ c ≠ ')' := by
  obtain ⟨c, cs, hv, hc⟩ := source_head h
  cases vs with
  | nil => exact ⟨c, cs, by rw [itemsText_singleton, hv], hc⟩
  | cons w vs => exact ⟨c, _, by rw [itemsText_cons_cons, hv, List.cons_append], hc⟩

/-- A tuple of one item is told from the item in parentheses by its comma. -/
theorem readsBack_tuple_single {v : Value} (hl : v.isLiteral = true) (h : ReadsBack v) :
    ReadsBack (.tuple [v]) := by
  intro fuel rest hf
  obtain ⟨c, cs, hhead, hc⟩ := source_head hl
  have hsource : (Value.tuple [v]).source.toList = '(' :: (v.source.toList ++ ",)".toList) := by
    simp [Value.source, Value.sources, tupleText]
  rw [hsource] at hf ⊢
  have hlen : ",)".toList.length = 2 := by simp
  simp only [List.length_cons, List.length_append, hlen] at hf
  obtain ⟨fuel, rfl⟩ : ∃ n, fuel = n + 2 := ⟨fuel - 2, by omega⟩
  have hopen : opening? ('(' :: (v.source.toList ++ ",)".toList) ++ rest) =
      some (.tuple, v.source.toList ++ (",)".toList ++ rest)) := by
    rw [hhead]
    exact (opening?_tuple hc _).trans (by simp)
  have hcomma : (",)".toList ++ rest).dropPrefix? ", ".toList = none ∧
      (",)".toList ++ rest).dropPrefix? (',' :: ")".toList) = some rest := by
    simp [List.dropPrefix?]
  simp only [readValue, hopen, readItems, h fuel _ (by omega), hcomma, tupleOf, Option.bind_eq_bind,
    Option.bind_some, Option.map_some]

theorem readsBack_tuple {v w : Value} {vs : List Value}
    (hl : ∀ u ∈ v :: w :: vs, u.isLiteral = true) (h : ∀ u ∈ v :: w :: vs, ReadsBack u) :
    ReadsBack (.tuple (v :: w :: vs)) := by
  intro fuel rest hf
  obtain ⟨c, cs, hhead, hc⟩ := itemsText_head (hl v (by simp)) (w :: vs)
  have hsource : (Value.tuple (v :: w :: vs)).source.toList =
      '(' :: (itemsText (v :: w :: vs) ++ ")".toList) := by
    simp [Value.source, Value.sources, tupleText, itemsText]
  rw [hsource] at hf ⊢
  have hlen : ")".toList.length = 1 := by simp
  simp only [List.length_cons, List.length_append, hlen] at hf
  obtain ⟨fuel, rfl⟩ : ∃ n, fuel = n + 1 := ⟨fuel - 1, by omega⟩
  have hopen : opening? ('(' :: (itemsText (v :: w :: vs) ++ ")".toList) ++ rest) =
      some (.tuple, itemsText (v :: w :: vs) ++ (")".toList ++ rest)) := by
    rw [hhead]
    exact (opening?_tuple hc _).trans (by simp)
  have hitems := readItems_itemsText (.inl rfl) (by simp) h fuel rest (by omega)
  simp only [readValue, hopen, hitems, tupleOf, Option.bind_eq_bind, Option.bind_some,
    Option.map_some]

/-- Frozen sets are read item by item as well. -/
theorem readsBack_frozenset {v : Value} {vs : List Value} (h : ∀ u ∈ v :: vs, ReadsBack u) :
    ReadsBack (.frozenset (v :: vs)) := by
  intro fuel rest hf
  have hsource : (Value.frozenset (v :: vs)).source.toList =
      "frozenset(\x7b".toList ++ (itemsText (v :: vs) ++ "\x7d)".toList) := by
    simp [Value.source, Value.sources, frozensetText, itemsText]
  rw [hsource] at hf ⊢
  have hlen : "frozenset(\x7b".toList.length = 11 ∧ "\x7d)".toList.length = 2 := by simp
  simp only [List.length_append, hlen] at hf
  obtain ⟨fuel, rfl⟩ : ∃ n, fuel = n + 1 := ⟨fuel - 1, by omega⟩
  have hitems := readItems_itemsText (.inr rfl) (by simp) h fuel rest (by omega)
  simp only [List.append_assoc, readValue, opening?_frozenset, hitems, Option.bind_eq_bind,
    Option.bind_some, Option.map_some]

/-- Every literal reads back. -/
theorem readsBack_of_isLiteral (v : Value) (h : v.isLiteral = true) : ReadsBack v :=
  match v with
  | .text s => readsBack_text s
  | .flag true => readsBack_whole (by simp [Value.source, openings])
  | .flag false => readsBack_whole (by simp [Value.source, openings])
  | .absent => readsBack_whole (by simp [Value.source, openings])
  | .tuple [] => readsBack_whole (by simp [Value.source, Value.sources, tupleText, openings])
  | .frozenset [] =>
    readsBack_whole (by simp [Value.source, Value.sources, frozensetText, openings])
  | .tuple [u] =>
    have hu : u.isLiteral = true := Value.areLiteral_iff.mp h u (by simp)
    readsBack_tuple_single hu (readsBack_of_isLiteral u hu)
  | .tuple (u :: w :: vs) =>
    have hl : ∀ x ∈ u :: w :: vs, x.isLiteral = true := Value.areLiteral_iff.mp h
    readsBack_tuple hl fun x hx => readsBack_of_isLiteral x (hl x hx)
  | .frozenset (u :: vs) =>
    have hl : ∀ x ∈ u :: vs, x.isLiteral = true := Value.areLiteral_iff.mp h
    readsBack_frozenset fun x hx => readsBack_of_isLiteral x (hl x hx)
termination_by sizeOf v
decreasing_by
  · simp only [Value.tuple.sizeOf_spec, List.cons.sizeOf_spec]
    omega
  all_goals
    have := List.sizeOf_lt_of_mem hx
    simp only [Value.tuple.sizeOf_spec, Value.frozenset.sizeOf_spec]
    omega

end TraversalSdk.Source
