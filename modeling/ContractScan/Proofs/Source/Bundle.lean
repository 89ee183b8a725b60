import ContractScan.Proofs.Analysis
import ContractScan.Proofs.Json.RoundTrip
import ContractScan.Proofs.Text.Lines
import ContractScan.Source.Bundle
import Mathlib.Data.List.Nodup

/-! # Bundles of files, and their contents as one text

    A bundle is written as JSON and read back when it is scanned, so it is
    scanned as the contents of its files one after the other
    (`unbundle?_bundle`).  The same contents as one plain text are scanned as
    they stand, with two exceptions: an empty text counts as no source at all,
    and a text that is a bundle itself is opened once more.

    **APART FROM THESE TWO** a bundle and its contents give one scan:
    `scan_bundle_eq_scan_contents`. -/

namespace ContractScan

namespace Source

open ContractScan.Text

/-- The contents of files one after the other, parted by line feeds. -/
def contents (files : List (String × String)) : String :=
  String.ofList (joinLines (files.map fun f => f.2.toList))

/-! ## What a bundle is read as -/

/-- The files as the entries of a bundle. -/
def entries (files : List (String × String)) : Fields :=
  files.map fun f => (f.1, .obj [("content", .str f.2)])

theorem keepsRules_entry (f : String × String) :
    Json.KeepsRules (.obj [("content", .str f.2)]) := by
  refine Json.keepsRules_obj ?_ (List.nodup_singleton _)
  intro g hg
  rw [List.mem_singleton.mp hg]
  exact Json.keepsRules_str f.2

/-- The value of a bundle is written by the rules if no path stands twice. -/
theorem keepsRules_bundleValue {files : List (String × String)}
    (hpaths : (files.map Prod.fst).Nodup) : Json.KeepsRules (bundleValue files) := by
  have hentries : Json.KeepsRules (.obj (entries files)) := by
    refine Json.keepsRules_obj ?_ ?_
    · intro e he
      obtain ⟨f, -, hf⟩ := List.mem_map.mp he
      rw [← hf]
      exact keepsRules_entry f
    · rw [entries, List.map_map]
      exact hpaths
  have hnames : ["language", "sources"].Nodup := by decide
  refine Json.keepsRules_obj ?_ hnames
  intro e he
  rcases List.mem_cons.mp he with hlanguage | hsources
  · rw [hlanguage]
    exact Json.keepsRules_str "Solidity"
  · rw [List.mem_singleton.mp hsources]
    exact hentries

/-- The content of an entry is the content of its file, also if it is empty. -/
theorem contentOf?_entry (s : String) :
    contentOf? (.obj [("content", .str s)]) = some s.toList := by
  show (if (Json.str s).isTruthy then some s.toList else some []) = _
  by_cases h : s = ""
  · rw [h]
    rfl
  · exact if_pos (bne_iff_ne.mpr h)

theorem contentsOf?_entries (files : List (String × String)) :
    contentsOf? (entries files) = some (files.map fun f => f.2.toList) := by
  induction files with
  | nil => rfl
  | cons f files ih =>
      show (do
        let c ← contentOf? (.obj [("content", .str f.2)])
        let cs ← contentsOf? (entries files)
        return c :: cs) = _
      rw [contentOf?_entry, ih]
      rfl

theorem sourcesOf?_write_bundleValue {files : List (String × String)}
    (hpaths : (files.map Prod.fst).Nodup) :
    sourcesOf? (Json.write (bundleValue files)) = some (entries files) := by
  rw [sourcesOf?, Json.read_write (keepsRules_bundleValue hpaths)]
  rfl

/-- **A BUNDLE IS READ AS ITS CONTENTS**, if no path stands twice. -/
theorem unbundle?_bundle {files : List (String × String)} (hpaths : (files.map Prod.fst).Nodup) :
    unbundle? (bundle files).toList = some (joinLines (files.map fun f => f.2.toList)) := by
  have htext : (bundle files).toList = '\x7b' :: (Json.write (bundleValue files) ++ ['\x7d']) := by
    rw [bundle, String.toList_ofList]
  have hbody : ((bundle files).toList.drop 1).dropLast = Json.write (bundleValue files) := by
    rw [htext]
    exact List.dropLast_concat
  have hopen : ['\x7b', '\x7b'].isPrefixOf (bundle files).toList = true := by
    rw [htext]
    rfl
  rw [unbundle?, if_pos hopen, hbody, sourcesOf?_write_bundleValue hpaths]
  show (contentsOf? (entries files)).map joinLines = _
  rw [contentsOf?_entries]
  rfl

/-- A bundle is flattened to its contents. -/
theorem flatten_bundle {files : List (String × String)} (hpaths : (files.map Prod.fst).Nodup) :
    flatten (bundle files) = contents files := by
  rw [flatten, unbundle?_bundle hpaths]
  rfl

theorem contents_eq_intercalate (files : List (String × String)) :
    contents files = "\n".intercalate (files.map Prod.snd) := by
  have htext : (contents files).toList = ("\n".intercalate (files.map Prod.snd)).toList := by
    rw [contents, String.toList_ofList, joinLines_eq_intercalate, String.toList_intercalate,
      List.map_map]
    rfl
  exact String.toList_injective htext

/-- **FLATTENING UNDOES BUNDLING**: between its two braces, a bundle is read as its
    files, each with its path and in their order, and it is flattened to their
    contents with one line feed between two neighbours. -/
theorem flatten_bundle_eq_intercalate (files : List (String × String))
    (hpaths : (files.map Prod.fst).Nodup) :
    ∃ body, (bundle files).toList = '\x7b' :: (body ++ ['\x7d']) ∧
      body = Json.write (.obj [("language", .str "Solidity"),
        ("sources", .obj (files.map fun f => (f.1, .obj [("content", .str f.2)])))]) ∧
      sourcesOf? body = some (files.map fun f => (f.1, .obj [("content", .str f.2)])) ∧
      flatten (bundle files) = "\n".intercalate (files.map Prod.snd) := by
  refine ⟨Json.write (bundleValue files), ?_, rfl, sourcesOf?_write_bundleValue hpaths, ?_⟩
  · rw [bundle, String.toList_ofList]
  · rw [flatten_bundle hpaths, contents_eq_intercalate]

/-- Two files whose paths and contents call for every kind of escape, and an empty
    one. -/
def filesToEscape : List (String × String) :=
  [("\"a\\b\".sol", "// \x7b\"\\u0041\"\x7d \t\x01\r\n😀é"), ("\n", ""), ("", "\n\n")]

/-- Escapes are undone, and an empty content leaves an empty line. -/
theorem flatten_bundle_of_filesToEscape :
    flatten (bundle filesToEscape) =
      "\n".intercalate ["// \x7b\"\\u0041\"\x7d \t\x01\r\n😀é", "", "\n\n"] := by
  have hpaths : (filesToEscape.map Prod.fst).Nodup := by decide
  obtain ⟨body, -, -, -, hflatten⟩ := flatten_bundle_eq_intercalate filesToEscape hpaths
  exact hflatten

/-- A bundle is not empty. -/
theorem bundle_ne_empty (files : List (String × String)) : bundle files ≠ "" := by
  intro hempty
  have htext := congrArg String.toList hempty
  rw [bundle, String.toList_ofList] at htext
  exact nomatch htext

end Source

/-! ## Scans of bundles -/

/-- **ONE SCAN FOR BOTH**: a bundle is scanned as the plain text of its contents,
    by every analyzer and whatever else is known about the contract, provided
    that the contents are not empty and are not a bundle themselves. -/
theorem scan_bundle_eq_scan_contents (files : List (String × String)) (info : ContractInfo)
    (hpaths : (files.map Prod.fst).Nodup) (hfilled : Source.contents files ≠ "")
    (hplain : Source.flatten (Source.contents files) = Source.contents files) :
    (∀ a : Analyzer,
        a.analyze { info with sourceCode := .str (Source.bundle files) } =
          a.analyze { info with sourceCode := .str (Source.contents files) }) ∧
      (info.HasLength → ∀ c, ∃ r,
        (Analyzer.analyze { contextLines := c }
          { info with sourceCode := .str (Source.bundle files) }).result = .ok r) := by
  have hflatten : Source.flatten (Source.bundle files) = Source.flatten (Source.contents files) :=
    (Source.flatten_bundle hpaths).trans hplain.symm
  -- both sources pass the test for presence, and nothing but their flattening is looked at
  refine ⟨fun a => Analyzer.analyze_congr_flatten a info (Source.bundle_ne_empty files) hfilled
    hflatten, ?_⟩
  intro hlength c
  exact (Analyzer.analyze_ok_iff (a := { contextLines := c })
    Rule.isReadable_of_mem_table).mpr ⟨hlength, fun _ => ⟨_, rfl⟩⟩

/-- A contract with code and a published source. -/
def publishedCode : ContractInfo where
  address := .str "0x"
  isContract := .bool true
  bytecode := .str "0x60"
  isVerified := .bool true
  sourceCode := .null

/-- Two files, each of which calls for a finding. -/
def twoFiles : List (String × String) := [("b.sol", "tx.origin"), ("a.sol", "suicide")]

/-- Two files are scanned as one text. -/
theorem scan_bundle_of_two_files :
    Source.contents twoFiles = "tx.origin\nsuicide" ∧
      (∀ a : Analyzer,
        a.analyze { publishedCode with sourceCode := .str (Source.bundle twoFiles) } =
          a.analyze { publishedCode with sourceCode := .str "tx.origin\nsuicide" }) ∧
      ∀ c, ∃ r, (Analyzer.analyze { contextLines := c }
        { publishedCode with sourceCode := .str (Source.bundle twoFiles) }).result = .ok r := by
  have hcontents : Source.contents twoFiles = "tx.origin\nsuicide" := by decide +kernel
  have hplain : Source.flatten (Source.contents twoFiles) = Source.contents twoFiles := by
    rw [hcontents]
    decide +kernel
  have hpaths : (twoFiles.map Prod.fst).Nodup := by decide
  have hfilled : Source.contents twoFiles ≠ "" := by
    rw [hcontents]
    decide
  obtain ⟨hsame, hends⟩ :=
    scan_bundle_eq_scan_contents twoFiles publishedCode hpaths hfilled hplain
  rw [hcontents] at hsame
  exact ⟨hcontents, hsame, hends ⟨4, rfl⟩⟩

/-- The findings of a scan with the built-in rules. -/
def builtInFindings (info : ContractInfo) (source : String) : Except Fault (List Finding) :=
  (Analyzer.analyze {} { info with sourceCode := .str source }).result.map Analysis.findings

/-- A source that is not empty is swept as it is flattened. -/
theorem builtInFindings_publishedCode {s : String} (h : s ≠ "") :
    builtInFindings publishedCode s = Rule.sweep (Source.flatten s).toList 2 Rule.table := by
  have hsource : (Json.str s).isTruthy = true := bne_iff_ne.mpr h
  have hlength : ({ publishedCode with sourceCode := .str s } : ContractInfo).HasLength :=
    ⟨4, rfl⟩
  obtain ⟨logs, hresult⟩ := Analyzer.result_of_swept (a := {}) hlength ⟨rfl, rfl, hsource⟩
  rw [builtInFindings, hresult]
  simp only [Analyzer.scanSource, Analyzer.sourceText, bind, Except.bind, pure, Except.pure]
  generalize Rule.sweep (Source.flatten s).toList 2 Rule.table = swept
  cases swept with
  | ok fs => rfl
  | error e => rfl

/-- Without the two exceptions, a bundle and its contents need not give the same
    findings: of one empty file the bundle is swept, and the contents count as
    not published. -/
theorem scan_bundle_of_empty_file :
    ¬ ∀ files info, files ≠ [] → (files.map Prod.fst).Nodup →
      (∃ t, info.bytecode = .str t ∧ t ≠ "0x") → info.isVerified = .bool true →
      builtInFindings info (Source.bundle files) =
        builtInFindings info (Source.contents files) := by
  intro hall
  have hpaths : ([("a.sol", "")].map Prod.fst).Nodup := by decide
  have hsame := hall [("a.sol", "")] publishedCode (List.cons_ne_nil _ _) hpaths
    ⟨"0x60", rfl, by decide⟩ rfl
  have hbundle : builtInFindings publishedCode (Source.bundle [("a.sol", "")]) = .ok [] := by
    rw [builtInFindings_publishedCode (Source.bundle_ne_empty _), Source.flatten_bundle hpaths]
    decide +kernel
  have hcontents : builtInFindings publishedCode (Source.contents [("a.sol", "")]) =
      .ok [Analysis.unverifiedFinding] := by
    decide +kernel
  rw [hbundle, hcontents] at hsame
  exact nomatch hsame

/-- The other exception: of one file that is a bundle itself, the bundle is swept
    as that text, and the contents are opened once more. -/
theorem scan_bundle_of_nested_bundle :
    ¬ ∀ files info, files ≠ [] → (files.map Prod.fst).Nodup →
      (∃ t, info.bytecode = .str t ∧ t ≠ "0x") → info.isVerified = .bool true →
      Source.contents files ≠ "" →
      builtInFindings info (Source.bundle files) =
        builtInFindings info (Source.contents files) := by
  intro hall
  have hinner : ([("", "tx.origin")].map Prod.fst).Nodup := by decide
  have houter : ([("", Source.bundle [("", "tx.origin")])].map Prod.fst).Nodup := by decide
  have hcontents : Source.contents [("", Source.bundle [("", "tx.origin")])] =
      Source.bundle [("", "tx.origin")] := String.ofList_toList
  have hsame := hall [("", Source.bundle [("", "tx.origin")])] publishedCode
    (List.cons_ne_nil _ _) houter ⟨"0x60", rfl, by decide⟩ rfl
    (by rw [hcontents]; exact Source.bundle_ne_empty _)
  rw [builtInFindings_publishedCode (Source.bundle_ne_empty _), Source.flatten_bundle houter,
    hcontents, builtInFindings_publishedCode (Source.bundle_ne_empty _),
    Source.flatten_bundle hinner] at hsame
  have hdiffer : Rule.sweep (Source.bundle [("", "tx.origin")]).toList 2 Rule.table ≠
      Rule.sweep (Source.contents [("", "tx.origin")]).toList 2 Rule.table := by
    decide +kernel
  exact hdiffer hsame

end ContractScan
