import TraversalSdk.Proofs.WrittenPaths
import TraversalSdk.Storage.Load

namespace TraversalSdk

namespace Sdk

variable {b : Built}

/-- Whatever else is written, the documents of an SDK are written as they are. -/
theorem written_documents {config : Option Json} {o : Output} (h : generate b config = .ok o)
    {f f' : Files} {target : Path} {clean : Bool} {written : List Path}
    (hwrite : f.writeOutput target o.artifacts clean = (f', .ok written)) :
    ∀ a ∈ documents b, f'.bytes (target.below a.path) = .ok a.content.bytes := by
  intro a ha
  obtain ⟨_, plan, _, _, hplan, hnodup, hartifacts⟩ := generate_inv h
  have hcovers := Blueprint.ofBuilt?_covers hplan
  obtain ⟨g, hall⟩ : ∃ g, Files.writeAll g target o.artifacts = (f', .ok written) := by
    unfold Files.writeOutput at hwrite
    split at hwrite
    · split at hwrite
      · cases hwrite
      · exact ⟨_, hwrite⟩
    · exact ⟨f, hwrite⟩
  rw [hartifacts] at hall
  refine Files.writeAll_bytes hall (mem_sortOn.mpr (List.mem_append_right _ ha)) fun a' ha' hsame => ?_
  exact artifacts_apart hcovers hnodup target (mem_sortOn.mp ha') (List.mem_append_right _ ha) hsame

end Sdk

namespace Built

variable {f : Files} {p documents : Path} {b : Built}

def source (b : Built) : Document → String
  | .grammar => b.grammarSource
  | .nodeTypes => b.nodeTypesSource

def kept (s : String) : String := String.ofList (Text.normalizeNewlines s.toList)

/-- Reading keeps a text just if it has no carriage return. -/
theorem kept_eq_self_iff {s : String} : kept s = s ↔ '\r' ∉ s.toList := by
  rw [kept, ← Text.normalizeNewlines_eq_self_iff]
  constructor
  · intro h
    have hlist := congrArg String.toList h
    rwa [String.toList_ofList] at hlist
  · intro h
    rw [h, String.ofList_toList]

/-- What is read of a file is its text with line feeds for line ends. -/
theorem documentText_ok {name text : String} (h : documentText f p name = .ok text)
    (hne : text ≠ "") : ∃ s : String, f.bytes (p.below name) = .ok s.toUTF8 ∧ text = kept s := by
  unfold documentText at h
  cases htext : f.text (p.below name) with
  | error o => simp [htext, Except.map] at h
  | ok s =>
    simp only [htext, Except.map, Except.ok.injEq] at h
    obtain ⟨bytes, hbytes, hs⟩ := bind_eq_ok.mp htext
    unfold Files.textOf at hs
    split at hs
    · cases hs
    · cases hs
      unfold String.fromUTF8? at h
      split at h
      · next hvalid => exact ⟨String.fromUTF8 bytes hvalid, hbytes.trans rfl, h.symm⟩
      · exact absurd h.symm hne

theorem ofText?_ne_empty {g : Grammar} {s : String} (h : Grammar.ofText? s = .ok g) : s ≠ "" := by
  rintro rfl
  have hnone : Json.ofText? "" = none := rfl
  rw [Grammar.ofText?, hnone] at h
  cases h

theorem catalogue_ofText?_ne_empty {c : Catalogue} {s : String} (h : Catalogue.ofText? s = .ok c) :
    s ≠ "" := by
  rintro rfl
  have hnone : Json.ofText? "" = none := rfl
  rw [Catalogue.ofText?, hnone] at h
  cases h

/-- What a grammar that was loaded holds of its files. -/
theorem load_ok (h : load f p = .ok b) : ∃ documents, documentPath f p = .ok documents ∧
    (∀ d : Document, ∃ s : String, f.bytes (documents.below d.fileName) = .ok s.toUTF8 ∧
      b.source d = kept s) ∧ b.parser = parser? f p documents := by
  obtain ⟨isDirectory, _, h⟩ := bind_eq_ok.mp h
  cases isDirectory with
  | false => cases h
  | true =>
    obtain ⟨documents, hdocuments, h⟩ := bind_eq_ok.mp h
    obtain ⟨⟨grammar, nodeTypes⟩, htexts, h⟩ := bind_eq_ok.mp h
    obtain ⟨⟨g, gs⟩, hg, h⟩ := bind_eq_ok.mp h
    obtain ⟨⟨c, cs⟩, hc, h⟩ := bind_eq_ok.mp h
    obtain ⟨g', hgrammar, hg⟩ := bind_eq_ok.mp hg
    obtain ⟨c', hcatalogue, hc⟩ := bind_eq_ok.mp hc
    cases hg
    cases hc
    cases h
    have htexts : documentTexts f documents = .ok (grammar, nodeTypes) := by
      cases hboth : documentTexts f documents with
      | error o => simp [hboth, Except.mapError] at htexts
      | ok both =>
        simp only [hboth, Except.mapError, Except.ok.injEq] at htexts
        rw [htexts]
    obtain ⟨s, hs, htexts⟩ := bind_eq_ok.mp htexts
    obtain ⟨t, ht, htexts⟩ := bind_eq_ok.mp htexts
    cases htexts
    refine ⟨documents, hdocuments, fun d => ?_, rfl⟩
    cases d with
    | grammar => exact documentText_ok hs (ofText?_ne_empty hgrammar)
    | nodeTypes => exact documentText_ok ht (catalogue_ofText?_ne_empty hcatalogue)

/-- The documents that an SDK was made from go into it with their texts. A text has the bytes of its
file just if the file has no carriage return; the parser has them in any case. -/
theorem written_as_read {f₁ f₂ : Files} {target : Path} {config : Option Json} {o : Output}
    {clean : Bool} {written : List Path} (hload : load f p = .ok b)
    (hgenerate : Sdk.generate b config = .ok o)
    (hwrite : f₁.writeOutput target o.artifacts clean = (f₂, .ok written)) :
    ∃ documents, documentPath f p = .ok documents ∧
      (∀ d : Document, ∃ s : String, f.bytes (documents.below d.fileName) = .ok s.toUTF8 ∧
        f₂.bytes (target.below (Sdk.artifactsDir ++ "/" ++ d.fileName)) = .ok (kept s).toUTF8 ∧
        (f₂.bytes (target.below (Sdk.artifactsDir ++ "/" ++ d.fileName)) =
          f.bytes (documents.below d.fileName) ↔ '\r' ∉ s.toList)) ∧
      ∀ bytes, parser? f p documents = some bytes →
        f₂.bytes (target.below (Sdk.artifactsDir ++ "/parser.wasm")) = .ok bytes := by
  obtain ⟨documents, hdocuments, hsource, hparser⟩ := load_ok hload
  have hfiles := Sdk.written_documents hgenerate hwrite
  refine ⟨documents, hdocuments, fun d => ?_, fun bytes hbytes => ?_⟩
  · obtain ⟨s, hs, hkept⟩ := hsource d
    have hmem : ⟨Sdk.artifactsDir ++ "/" ++ d.fileName, .text (b.source d)⟩ ∈ Sdk.documents b := by
      refine List.mem_append_left _ ?_
      cases d with
      | grammar => exact List.mem_cons_self
      | nodeTypes => exact List.mem_cons_of_mem _ List.mem_cons_self
    have hnew := hfiles _ hmem
    rw [hkept] at hnew
    refine ⟨s, hs, hnew, ?_⟩
    rw [hnew, hs, ← kept_eq_self_iff]
    constructor
    · intro h
      exact String.toByteArray_inj.mp (Except.ok.inj h)
    · intro h
      rw [h]
      rfl
  · refine hfiles ⟨Sdk.artifactsDir ++ "/parser.wasm", .binary bytes⟩ (List.mem_append_right _ ?_)
    rw [hparser, hbytes]
    exact List.mem_cons_self

theorem textOf_toUTF8 {s : String} (h : Text.Utf8.fault? s.toUTF8.data.toList = none) :
    Files.textOf s.toUTF8 = .ok s := by
  have hread : String.fromUTF8? s.toUTF8 = some s := by
    unfold String.fromUTF8?
    rw [String.toUTF8_eq_toByteArray, dif_pos s.isValidUTF8]
    rfl
  rw [Files.textOf, h, hread]
  rfl

def foreignText : String := "\x7b\"name\": \"g\",\r\n\"rules\": \x7b\"start\": \x7b\"type\": \"BLANK\"\x7d\x7d\x7d"

def foreignFiles : Files := ⟨[
  (["g"], .directory),
  (["g", "grammar.json"], .file foreignText.toUTF8),
  (["g", "node-types.json"], .file "[]".toUTF8),
  (["out"], .directory),
  (["out", "cursor"], .directory),
  (["out", "nodes"], .directory),
  (["out", "nodes", "anonymous"], .directory),
  (["out", "__artifacts__"], .directory)]⟩

def foreignGrammar : Grammar := ⟨"g", [("start", .blank)], [], [], [], [], [], [], none, []⟩

def foreignBuilt : Built where
  grammar := foreignGrammar
  catalogue := ⟨[], by decide⟩
  grammarSource := kept foreignText
  nodeTypesSource := "[]"
  parser := none

theorem load_foreign : load foreignFiles ⟨["g"]⟩ = .ok foreignBuilt := by
  have hdirectory : foreignFiles.isDirectory ⟨["g"]⟩ = .ok true := rfl
  have hdocuments : documentPath foreignFiles ⟨["g"]⟩ = .ok ⟨["g"]⟩ := rfl
  have hgrammarBytes : foreignFiles.bytes ⟨["g", "grammar.json"]⟩ = .ok foreignText.toUTF8 := rfl
  have hnodeTypesBytes : foreignFiles.bytes ⟨["g", "node-types.json"]⟩ = .ok "[]".toUTF8 := rfl
  have hgrammarText : Files.textOf foreignText.toUTF8 = .ok foreignText :=
    textOf_toUTF8 (by decide +kernel)
  have hnodeTypesText : Files.textOf "[]".toUTF8 = .ok "[]" := textOf_toUTF8 (by decide +kernel)
  have htexts : documentTexts foreignFiles ⟨["g"]⟩ = .ok (kept foreignText, "[]") := by
    refine bind_eq_ok.mpr ⟨kept foreignText, ?_, bind_eq_ok.mpr ⟨"[]", ?_, rfl⟩⟩
    · have htext : foreignFiles.text (Path.below ⟨["g"]⟩ "grammar.json") = .ok foreignText :=
        bind_eq_ok.mpr ⟨_, hgrammarBytes, hgrammarText⟩
      rw [documentText, htext]
      rfl
    · have htext : foreignFiles.text (Path.below ⟨["g"]⟩ "node-types.json") = .ok "[]" :=
        bind_eq_ok.mpr ⟨_, hnodeTypesBytes, hnodeTypesText⟩
      rw [documentText, htext]
      rfl
  have hgrammar : Grammar.ofText? (kept foreignText) = .ok foreignGrammar := by cbv
  have hcatalogue : Catalogue.ofText? "[]" = .ok ⟨[], by decide⟩ := by cbv
  refine bind_eq_ok.mpr ⟨true, hdirectory, bind_eq_ok.mpr ⟨_, hdocuments, bind_eq_ok.mpr
    ⟨_, by rw [htexts]; rfl, bind_eq_ok.mpr ⟨(foreignGrammar, kept foreignText),
      bind_eq_ok.mpr ⟨_, hgrammar, rfl⟩, bind_eq_ok.mpr
      ⟨(foreignBuilt.catalogue, "[]"), bind_eq_ok.mpr ⟨_, hcatalogue, rfl⟩, rfl⟩⟩⟩⟩⟩

theorem plannedPaths_foreign : Sdk.plannedPaths foreignBuilt = ["py.typed", "__init__.py", "types.py",
    "errors.py", "utils.py", "anonymous_nodes.py", "navigator.py", "nodes/__init__.py",
    "nodes/anonymous/__init__.py", "cursor/__init__.py", "cursor/conditionals.py",
    "cursor/cursor.py", "cursor/maps.py", "__artifacts__/grammar.json",
    "__artifacts__/node-types.json"] := by
  cbv

theorem open_foreign : ∀ path ∈ Sdk.plannedPaths foreignBuilt,
    foreignFiles.Open (Path.below ⟨["out"]⟩ path) := by
  intro path hpath
  simp only [plannedPaths_foreign, List.mem_cons, List.not_mem_nil, or_false] at hpath
  rcases hpath with rfl | rfl | rfl | rfl | rfl | rfl | rfl | rfl | rfl | rfl | rfl | rfl | rfl |
    rfl | rfl <;> exact ⟨⟨rfl, rfl⟩, ⟨rfl, rfl⟩, ⟨_, rfl, rfl, rfl⟩, (Option.some_ne_none _).symm⟩

/-- The grammar has an SDK, and it can be written. -/
theorem generate_foreign : ∃ o f₂ written, Sdk.generate foreignBuilt none = .ok o ∧
    foreignFiles.writeOutput ⟨["out"]⟩ o.artifacts false = (f₂, .ok written) := by
  have hapart : ¬foreignBuilt.catalogue.SharesModule := Catalogue.not_sharesModule nofun
  obtain ⟨o, hgenerate, hpaths⟩ := Sdk.generate_standard rfl rfl hapart
  have hopen : ∀ a ∈ o.artifacts, foreignFiles.Open (Path.below ⟨["out"]⟩ a.path) := fun a ha =>
    open_foreign a.path (hpaths.mem_iff.mp (List.mem_map.mpr ⟨a, ha, rfl⟩))
  obtain ⟨f₂, written, hwritten⟩ := Files.writeAll_isOk hopen
  exact ⟨o, f₂, written, hgenerate, hwritten⟩

/-- The grammar is read, and its SDK written, but the first document has lost its carriage return. -/
theorem written_as_read_foreign : ∃ o f₂ written s, load foreignFiles ⟨["g"]⟩ = .ok foreignBuilt ∧
    Sdk.generate foreignBuilt none = .ok o ∧
    foreignFiles.writeOutput ⟨["out"]⟩ o.artifacts false = (f₂, .ok written) ∧
    foreignFiles.bytes ⟨["g", "grammar.json"]⟩ = .ok s ∧
    f₂.bytes ⟨["out", "__artifacts__", "grammar.json"]⟩ ≠ .ok s ∧
    f₂.bytes ⟨["out", "__artifacts__", "node-types.json"]⟩ =
      foreignFiles.bytes ⟨["g", "node-types.json"]⟩ := by
  obtain ⟨o, f₂, written, hgenerate, hwrite⟩ := generate_foreign
  obtain ⟨documents, hdocuments, htexts, _⟩ := written_as_read load_foreign hgenerate hwrite
  have hin : documentPath foreignFiles ⟨["g"]⟩ = .ok ⟨["g"]⟩ := rfl
  cases hdocuments.symm.trans hin
  have hgrammarBytes : foreignFiles.bytes ⟨["g", "grammar.json"]⟩ = .ok foreignText.toUTF8 := rfl
  have hnodeTypesBytes : foreignFiles.bytes ⟨["g", "node-types.json"]⟩ = .ok "[]".toUTF8 := rfl
  obtain ⟨s, hs, _, hgrammar⟩ := htexts .grammar
  obtain ⟨t, ht, _, hnodeTypes⟩ := htexts .nodeTypes
  obtain rfl : s = foreignText :=
    String.toByteArray_inj.mp (Except.ok.inj (hs.symm.trans hgrammarBytes))
  obtain rfl : t = "[]" := String.toByteArray_inj.mp (Except.ok.inj (ht.symm.trans hnodeTypesBytes))
  refine ⟨o, f₂, written, _, load_foreign, hgenerate, hwrite, hgrammarBytes, ?_, ?_⟩
  · intro hsame
    exact hgrammar.mp (hsame.trans hgrammarBytes.symm) (by decide)
  · exact hnodeTypes.mpr (by decide)

end Built

end TraversalSdk
