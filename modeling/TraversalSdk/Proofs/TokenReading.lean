import TraversalSdk.Proofs.LiteralReading
import TraversalSdk.Proofs.NumberReading

namespace TraversalSdk.Json
open Text

namespace Lexer

/-- Between tokens, or in a word that is counted among the finished tokens. -/
inductive Rests : Lexer → List Token → Prop
  | between (done : List Token) : Rests ⟨.between, done⟩ done
  | word (acc : List Char) (done : List Token) : Rests ⟨.word acc, done⟩ (.word acc.reverse :: done)

theorem Rests.step {l : Lexer} {done : List Token} (h : l.Rests done) {c : Char}
    (hc : isWordChar c = false) : l.step c = Lexer.step ⟨.between, done⟩ c := by
  cases h with
  | between => rfl
  | word acc done => simp [Lexer.step, hc]

theorem Rests.finish {l : Lexer} {done : List Token} (h : l.Rests done) :
    l.finish = some done.reverse := by
  cases h <;> rfl

theorem Rests.of_between {done done' : List Token} (h : Rests ⟨.between, done⟩ done') :
    done' = done := by
  cases h
  rfl

/-- Reading the piece adds the tokens. -/
def Reads (cs : List Char) (ts : List Token) : Prop :=
  ∀ done, ∃ l, cs.foldlM step ⟨.between, done⟩ = some l ∧ l.Rests (ts.reverse ++ done)

/-- Reading the piece adds the tokens and ends between tokens. -/
def Settles (cs : List Char) (ts : List Token) : Prop :=
  ∀ done, cs.foldlM step ⟨.between, done⟩ = some ⟨.between, ts.reverse ++ done⟩

def Apart (cs : List Char) : Prop := ∀ c ∈ cs.head?, isWordChar c = false

variable {cs cs' : List Char} {ts ts' : List Token}

theorem apart_cons {c : Char} (h : isWordChar c = false) : Apart (c :: cs) := by
  intro d hd
  cases hd
  exact h

theorem Apart.append (h : Apart cs) (h' : Apart cs') : Apart (cs ++ cs') := by
  cases cs with
  | nil => exact h'
  | cons c cs => exact apart_cons (h c rfl)

theorem Settles.reads (h : Settles cs ts) : Reads cs ts :=
  fun done => ⟨_, h done, .between _⟩

theorem Settles.append_reads (h : Settles cs ts) (h' : Reads cs' ts') : Reads (cs ++ cs') (ts ++ ts') := by
  intro done
  obtain ⟨l, hl, hrests⟩ := h' (ts.reverse ++ done)
  refine ⟨l, ?_, by simpa using hrests⟩
  rw [List.foldlM_append, h done]
  exact hl

theorem Settles.append (h : Settles cs ts) (h' : Settles cs' ts') :
    Settles (cs ++ cs') (ts ++ ts') := by
  intro done
  rw [List.foldlM_append, h done]
  simpa using h' (ts.reverse ++ done)

/-- Two pieces are read one after another, unless a word would run on. -/
theorem Reads.append (h : Reads cs ts) (h' : Reads cs' ts') (hapart : Apart cs') :
    Reads (cs ++ cs') (ts ++ ts') := by
  intro done
  obtain ⟨l, hl, hrests⟩ := h done
  obtain ⟨l', hl', hrests'⟩ := h' (ts.reverse ++ done)
  rw [List.foldlM_append, hl]
  cases cs' with
  | nil =>
    -- Nothing closes the word, which stays counted.
    cases hl'
    refine ⟨l, rfl, ?_⟩
    rw [List.reverse_append, List.append_assoc, hrests'.of_between]
    exact hrests
  | cons c cs' =>
    refine ⟨l', ?_, by simpa using hrests'⟩
    rw [← hl', Option.bind_eq_bind, Option.bind_some, List.foldlM_cons, List.foldlM_cons,
      hrests.step (hapart c rfl)]

theorem outside_word {c : Char} (h : isWordChar c = true) (done : List Token) :
    outside c done = ⟨.word [c], done⟩ := by
  simp only [isWordChar, Bool.and_eq_true, Bool.not_eq_true', bne_iff_ne, Option.isNone_iff_eq_none]
    at h
  obtain ⟨⟨hspace, hquote⟩, hpunctuation⟩ := h
  simp [outside, hspace, hquote, hpunctuation]

theorem foldlM_word {acc : List Char} (h : ∀ c ∈ cs, isWordChar c = true) (done : List Token) :
    cs.foldlM step ⟨.word acc, done⟩ = some ⟨.word (cs.reverse ++ acc), done⟩ := by
  induction cs generalizing acc with
  | nil => rfl
  | cons c cs ih =>
    have hstep : step ⟨.word acc, done⟩ c = some ⟨.word (c :: acc), done⟩ := if_pos (h c (by simp))
    rw [List.foldlM_cons, hstep]
    simpa using ih fun d hd => h d (by simp [hd])

def IsWord (cs : List Char) : Prop := cs ≠ [] ∧ ∀ c ∈ cs, isWordChar c = true

theorem isWord_of_all {c : Char} (h : (c :: cs).all isWordChar = true) : IsWord (c :: cs) :=
  ⟨List.cons_ne_nil _ _, List.all_eq_true.mp h⟩

theorem reads_word (h : IsWord cs) : Reads cs [.word cs] := by
  intro done
  obtain ⟨hne, h⟩ := h
  obtain ⟨c, cs, rfl⟩ := List.exists_cons_of_ne_nil hne
  refine ⟨⟨.word (cs.reverse ++ [c]), done⟩, ?_, ?_⟩
  · have hstep : step ⟨.between, done⟩ c = some ⟨.word [c], done⟩ :=
      congrArg some (outside_word (h c (by simp)) done)
    rw [List.foldlM_cons, hstep]
    exact foldlM_word (fun d hd => h d (by simp [hd])) done
  · simpa using Rests.word (cs.reverse ++ [c]) done

theorem settles_nil : Settles [] [] := fun _ => rfl

theorem settles_space {c : Char} (h : isSpace c = true) : Settles [c] [] := by
  intro done
  simp [step, outside, h]

theorem settles_spaces (h : ∀ c ∈ cs, isSpace c = true) : Settles cs [] := by
  induction cs with
  | nil => exact settles_nil
  | cons c cs ih => exact (settles_space (h c (by simp))).append (ih fun d hd => h d (by simp [hd]))

theorem settles_punctuation {c : Char} {t : Token} (h : punctuation? c = some t) :
    Settles [c] [t] := by
  intro done
  have hspace : isSpace c = false := by
    by_contra hc
    simp only [isSpace, Bool.not_eq_false, Bool.or_eq_true, beq_iff_eq] at hc
    rcases hc with ((rfl | rfl) | rfl) | rfl <;> cases h
  have hquote : c ≠ '"' := by
    rintro rfl
    cases h
  simp [step, outside, hspace, hquote, h]

theorem foldlM_hex (n : Nat) (h : n < 32) (acc : List Char) (done : List Token) :
    (hex 4 n).foldlM step ⟨.code acc 4 0 none, done⟩ = some ⟨.text (Char.ofNat n :: acc), done⟩ := by
  have hvalue : ∀ k < 16, hexValue? k.digitChar = some k := by decide
  have hzero : hexValue? '0' = some 0 := rfl
  have hcode : n / 16 * 16 + n % 16 = n := by omega
  have hfinish : finishCode acc n none = some (.text (Char.ofNat n :: acc)) := by
    have hhigh : ¬0xD800 ≤ n := by omega
    have hlow : ¬0xDC00 ≤ n := by omega
    simp [finishCode, hhigh, hlow]
  rw [Source.hex_control h]
  simp [step, hzero, hvalue (n / 16) (by omega), hvalue (n % 16) (by omega), hcode, hfinish]

theorem foldlM_escapeChar (c : Char) (acc : List Char) (done : List Token) :
    (escapeChar c).foldlM step ⟨.text acc, done⟩ = some ⟨.text (c :: acc), done⟩ := by
  rcases Source.escapeChar_cases c with ⟨d, hd, he⟩ | ⟨hc, he⟩ | ⟨⟨hq, hb, hc⟩, he⟩ <;> rw [he]
  · have hread : ∀ e ∈ Source.letterEscapes, e.2 ≠ 'u' ∧ simpleEscape? e.2 = some e.1 := by decide
    obtain ⟨hu, hread⟩ := hread _ hd
    simp [step, hu, hread]
  · have hread := foldlM_hex c.toNat hc acc done
    rw [Char.ofNat_toNat] at hread
    exact hread
  · simp [step, hq, hb, Nat.not_lt.mpr hc]

/-- A literal reads as what it was made of. -/
theorem foldlM_literalChars (s : List Char) (acc : List Char) (done : List Token) :
    (s.flatMap escapeChar).foldlM step ⟨.text acc, done⟩ = some ⟨.text (s.reverse ++ acc), done⟩ := by
  induction s generalizing acc with
  | nil => rfl
  | cons c s ih =>
    rw [List.flatMap_cons, List.foldlM_append, foldlM_escapeChar]
    simpa using ih (c :: acc)

theorem settles_literal (s : String) : Settles (literal s).toList [.text s] := by
  intro done
  have hopen : step ⟨.between, done⟩ '"' = some ⟨.text [], done⟩ := rfl
  have hclose : step ⟨.text s.toList.reverse, done⟩ '"' = some ⟨.between, .text s :: done⟩ := by
    simp [step]
  rw [Source.toList_literal, List.foldlM_cons, hopen]
  simp [List.foldlM_append, foldlM_literalChars, hclose]

end Lexer

mutual

def tokens : Json → List Token
  | .str s => [.text s]
  | .arr [] => [.openArray, .closeArray]
  | .arr (v :: vs) => .openArray :: (tokens v ++ (itemTokens vs ++ [.closeArray]))
  | .obj [] => [.openObject, .closeObject]
  | .obj ((key, v) :: ms) =>
    .openObject :: .text key :: .colon :: (tokens v ++ (memberTokens ms ++ [.closeObject]))
  | v => [.word (scalarText v).toList]

def itemTokens : List Json → List Token
  | [] => []
  | v :: vs => .comma :: (tokens v ++ itemTokens vs)

def memberTokens : List (String × Json) → List Token
  | [] => []
  | (key, v) :: ms => .comma :: .text key :: .colon :: (tokens v ++ memberTokens ms)

end

theorem settles_newLine (level : Nat) : Lexer.Settles (newLine level).toList [] := by
  refine Lexer.settles_spaces fun c hc => ?_
  simp only [newLine, String.toList_append, String.toList_ofList, List.mem_append] at hc
  rcases hc with hc | hc
  · rw [List.mem_singleton.mp hc]
    rfl
  · rw [List.eq_of_mem_replicate hc]
    rfl

/-- An opening, a first piece, what follows it, and a closing on a line of its own. -/
theorem reads_enclosed {o c : Char} {t t' : Token} {first rest : List Char} {ts ts' : List Token}
    (ho : Lexer.Settles [o] [t]) (hc : Lexer.Settles [c] [t']) (hfirst : Lexer.Reads first ts)
    (hrest : Lexer.Reads rest ts') (hapart : Lexer.Apart rest) (level : Nat) :
    Lexer.Reads ([o] ++ ((newLine (level + 1)).toList ++ (first ++ (rest
      ++ ((newLine level).toList ++ [c]))))) (t :: (ts ++ (ts' ++ [t']))) := by
  have hline : Lexer.Apart ((newLine level).toList ++ [c]) := by
    rw [newLine, String.toList_append]
    exact Lexer.apart_cons rfl
  have hclosing := hrest.append ((settles_newLine level).append hc).reads hline
  exact ho.append_reads ((settles_newLine _).append_reads
    (hfirst.append hclosing (hapart.append hline)))

theorem settles_comma : Lexer.Settles [','] [.comma] := Lexer.settles_punctuation rfl

theorem settles_key (key : String) : Lexer.Settles ((literal key).toList ++ [':', ' ']) [.text key, .colon] :=
  (Lexer.settles_literal key).append ((Lexer.settles_punctuation rfl).append
    (Lexer.settles_space rfl))

theorem isWord_spelling (s : Spelling) : Lexer.IsWord s.chars := ⟨s.chars_ne_nil, s.isWordChar_chars⟩

theorem isWord_intText (n : Int) : Lexer.IsWord (intText n).toList :=
  chars_ofInt n ▸ isWord_spelling _

theorem isWord_real (x : Binary64) : Lexer.IsWord (documentDecimal.text x).toList := by
  cases x with
  | finite negative i =>
    obtain ⟨s, hchars, _⟩ := spelling_finite negative i
    exact hchars ▸ isWord_spelling s
  | infinite negative => cases negative <;> exact Lexer.isWord_of_all rfl
  | notANumber => exact Lexer.isWord_of_all rfl

theorem apart_items (level : Nat) (vs : List Json) : Lexer.Apart (indentedItems level vs).toList := by
  cases vs with
  | nil => exact nofun
  | cons v vs =>
    simp only [indentedItems, String.toList_append]
    exact Lexer.apart_cons rfl

theorem apart_members (level : Nat) (ms : List (String × Json)) :
    Lexer.Apart (indentedMembers level ms).toList := by
  cases ms with
  | nil => exact nofun
  | cons m ms =>
    simp only [indentedMembers, String.toList_append]
    exact Lexer.apart_cons rfl

mutual

theorem reads_indented (level : Nat) : ∀ v : Json, Lexer.Reads (indented level v).toList (tokens v)
  | .arr [] => by
    have := (Lexer.settles_punctuation (c := '[') rfl).append (Lexer.settles_punctuation (c := ']') rfl)
    simpa [indented, tokens] using this.reads
  | .arr (v :: vs) => by
    have := reads_enclosed (o := '[') (c := ']') (Lexer.settles_punctuation rfl)
      (Lexer.settles_punctuation rfl) (reads_indented (level + 1) v)
      (reads_items level vs) (apart_items level vs) level
    simpa [indented, tokens] using this
  | .obj [] => by
    have := (Lexer.settles_punctuation (c := '\x7b') rfl).append
      (Lexer.settles_punctuation (c := '\x7d') rfl)
    simpa [indented, tokens] using this.reads
  | .obj ((key, v) :: ms) => by
    have := reads_enclosed (o := '\x7b') (c := '\x7d') (Lexer.settles_punctuation rfl)
      (Lexer.settles_punctuation rfl)
      ((settles_key key).append_reads (reads_indented (level + 1) v))
      (reads_members level ms) (apart_members level ms) level
    simpa [indented, tokens] using this
  | .str s => by
    simpa [indented, tokens, scalarText] using (Lexer.settles_literal s).reads
  | .null => by
    have hword : Lexer.IsWord "null".toList := Lexer.isWord_of_all rfl
    simpa [indented, tokens, scalarText] using Lexer.reads_word hword
  | .bool true => by
    have hword : Lexer.IsWord "true".toList := Lexer.isWord_of_all rfl
    simpa [indented, tokens, scalarText] using Lexer.reads_word hword
  | .bool false => by
    have hword : Lexer.IsWord "false".toList := Lexer.isWord_of_all rfl
    simpa [indented, tokens, scalarText] using Lexer.reads_word hword
  | .int n => by
    simpa [indented, tokens, scalarText] using Lexer.reads_word (isWord_intText n)
  | .real x => by
    simpa [indented, tokens, scalarText] using Lexer.reads_word (isWord_real x)

theorem reads_items (level : Nat) : ∀ vs : List Json,
    Lexer.Reads (indentedItems level vs).toList (itemTokens vs)
  | [] => Lexer.settles_nil.reads
  | v :: vs => by
    have := (settles_comma.append (settles_newLine (level + 1))).append_reads
      ((reads_indented (level + 1) v).append (reads_items level vs) (apart_items level vs))
    simpa [indentedItems, itemTokens] using this

theorem reads_members (level : Nat) : ∀ ms : List (String × Json),
    Lexer.Reads (indentedMembers level ms).toList (memberTokens ms)
  | [] => Lexer.settles_nil.reads
  | (key, v) :: ms => by
    have := (settles_comma.append ((settles_newLine (level + 1)).append (settles_key key))).append_reads
      ((reads_indented (level + 1) v).append (reads_members level ms) (apart_members level ms))
    simpa [indentedMembers, memberTokens] using this

end

/-- A document is read as its tokens. -/
theorem Token.ofText?_document (v : Json) : Token.ofText? v.document.toList = some (tokens v) := by
  obtain ⟨l, hl, hrests⟩ := reads_indented 0 v []
  rw [Token.ofText?, document, hl, Option.bind_some, hrests.finish]
  simp

end TraversalSdk.Json
