import ContractScan.Proofs.Network.Requests
import ContractScan.Proofs.Settings.Asked

/-! # Settings are normalized once and for all

    Whichever source the four settings with a rule come from, building keeps their
    normal form or names the rules that are broken, and the other settings have no
    part in it (`build_of_agree`).  What is kept may be given again, alone or with
    everything else as it was, and is kept once more.

    **ONCE AND FOR ALL**: `settings_are_normalized`. -/

namespace ContractScan.Settings

open ContractScan.Text ContractScan.Wire ContractScan.Network

/-! ## Sources -/

/-- Both sources can be read, and what they amount to differs in the four settings at
    most. -/
def AgreeElsewhere (s s' : SettingsSources) : Prop :=
  ∃ fs fs', gather s = .ok fs ∧ gather s' = .ok fs' ∧
    ∀ n, n ∉ ruledNames → Fields.find? fs n = Fields.find? fs' n

/-- The configuration that was checked, unless something is wrong with it or with what
    is unknown. -/
def settled (c : Checked Settings) (unknown : List Issue) : Except SettingsError Settings :=
  match c, unknown with
  | .valid t, [] => .ok t
  | c, unknown => .error (.invalid (c.issues ++ unknown))

theorem ofFields_eq (fs : Fields) : ofFields fs = settled (checkKnown fs) (unknownIssues fs) := rfl

theorem settled_eq_ok_iff {c : Checked Settings} {unknown : List Issue} {t : Settings} :
    settled c unknown = .ok t ↔ c = .valid t ∧ unknown = [] := by
  cases c with
  | valid u =>
      cases unknown with
      | nil =>
          show Except.ok u = .ok t ↔ _
          rw [Except.ok.injEq, Checked.valid.injEq]
          exact (and_iff_left rfl).symm
      | cons i unknown => exact iff_of_false nofun fun h => nomatch h.2
  | invalid is => exact iff_of_false nofun fun h => nomatch h.1

theorem settled_of_issues {c : Checked Settings} {unknown : List Issue}
    (h : c.issues ++ unknown ≠ []) : settled c unknown = .error (.invalid (c.issues ++ unknown)) := by
  cases c with
  | valid t =>
      cases unknown with
      | nil => exact absurd rfl h
      | cons i unknown => rfl
  | invalid is => rfl

theorem issues_of_settled {c : Checked Settings} {unknown is : List Issue}
    (h : settled c unknown = .error (.invalid is)) : c.issues ++ unknown = is := by
  cases c with
  | valid t =>
      cases unknown with
      | nil => exact nomatch h
      | cons i unknown => exact SettingsError.invalid.inj (Except.error.inj h)
  | invalid js => exact SettingsError.invalid.inj (Except.error.inj h)

theorem ruledNames_subset : ∀ n ∈ ruledNames, n ∈ names := by decide

/-- A name that is unknown is no issue of the four. -/
theorem filter_isRuledIssue_unknownIssues (fs : Fields) :
    (unknownIssues fs).filter isRuledIssue = [] := by
  refine List.filter_eq_nil_iff.mpr fun i hi hruled => ?_
  obtain ⟨f, hf, rfl⟩ := List.mem_map.mp hi
  have hunknown : ¬ f.1 ∈ names := by simpa using (List.mem_filter.mp hf).2
  exact hunknown (ruledNames_subset f.1 (List.contains_iff_mem.mp hruled))

theorem unknownIssues_eq_nil_iff {fs : Fields} :
    unknownIssues fs = [] ↔ ∀ n, n ∉ names → Fields.find? fs n = none := by
  rw [unknownIssues, List.map_eq_nil_iff, List.filter_eq_nil_iff]
  simp only [Fields.find?_eq_none_iff, Bool.not_eq_true', Bool.not_eq_false, List.contains_iff_mem]
  constructor
  · exact fun h n hn f hf heq => hn (heq ▸ h f hf)
  · exact fun h f hf => not_not.mp fun hn => h f.1 hn f hf rfl

section Build

variable {s s' : SettingsSources} {t t' : Settings} {asked kept : Ruled}

theorem build_eq_ok_iff :
    build s = .ok t ↔ ∃ fs, gather s = .ok fs ∧ Settles fs t ∧ unknownIssues fs = [] := by
  simp only [← checkKnown_eq_valid_iff, ← settled_eq_ok_iff, ← ofFields_eq]
  exact bind_eq_ok_iff

theorem build_of_gather {fs : Fields} (h : gather s = .ok fs) :
    build s = settled (checkKnown fs) (unknownIssues fs) := by
  rw [build, h, ← ofFields_eq]
  rfl

/-- What the sources ask for is what the fields that they amount to ask for. -/
theorem isAsked_find?_iff {fs : Fields} (h : gather s = .ok fs) :
    asked.IsAsked (Fields.find? fs) ↔ asked.IsAsked (sourceValue? s) := by
  have hvalue : ∀ n ∈ ruledNames, Fields.find? fs n = sourceValue? s n := fun n hn =>
    find?_gather h (ruledNames_subset n hn)
  exact ⟨fun hasked => hasked.congr hvalue, fun hasked => hasked.congr fun n hn => (hvalue n hn).symm⟩

/-- Where all other settings are as for a configuration, building comes down to the
    four. -/
theorem build_of_agree (h : AgreeElsewhere s s') (ht' : build s' = .ok t')
    (hasked : asked.IsAsked (sourceValue? s)) :
    (∀ kept, asked.NormalizesTo kept → build s = .ok (kept.over t')) ∧
      (asked.issues ≠ [] → build s = .error (.invalid asked.issues)) := by
  obtain ⟨fs, fs', hfs, hfs', hsame⟩ := h
  rw [build_of_gather hfs', settled_eq_ok_iff, checkKnown_eq_valid_iff] at ht'
  obtain ⟨hsettles, hunknown'⟩ := ht'
  have hchecked : checkKnown fs = asked.checked t' :=
    checkKnown_of_settles hsettles hsame ((isAsked_find?_iff hfs).mpr hasked)
  have hunknown : unknownIssues fs = [] := by
    rw [unknownIssues_eq_nil_iff] at hunknown' ⊢
    intro n hn
    rw [hsame n (mt (ruledNames_subset n) hn)]
    exact hunknown' n hn
  rw [build_of_gather hfs, hchecked, hunknown]
  constructor
  · intro kept hkept
    exact settled_eq_ok_iff.mpr ⟨asked.checked_of_normalizesTo hkept t', rfl⟩
  · intro hissues
    have hall : (asked.checked t').issues ++ [] = asked.issues := by
      rw [List.append_nil, asked.issues_checked]
    rw [← hall] at hissues ⊢
    exact settled_of_issues hissues

/-- **WHAT WAS BUILT IS WHAT WAS ASKED FOR**, normalized. -/
theorem exists_isAsked_of_build (h : build s = .ok t) :
    ∃ asked : Ruled, asked.IsAsked (sourceValue? s) ∧ asked.NormalizesTo t.ruled := by
  obtain ⟨fs, hfs, hsettles, -⟩ := build_eq_ok_iff.mp h
  obtain ⟨asked, hasked, hkept⟩ := hsettles.exists_isAsked
  exact ⟨asked, (isAsked_find?_iff hfs).mp hasked, hkept⟩

/-- Of the issues that are reported, those of the four are the rules that are broken. -/
theorem filter_isRuledIssue_of_build {is : List Issue} (h : build s = .error (.invalid is))
    (hasked : asked.IsAsked (sourceValue? s)) : is.filter isRuledIssue = asked.issues := by
  cases hfs : gather s with
  | error e =>
      -- what cannot be read is refused without issues
      rw [build, hfs, gather_eq_error hfs] at h
      exact nomatch h
  | ok fs =>
      rw [build_of_gather hfs] at h
      rw [← issues_of_settled h, List.filter_append, filter_isRuledIssue_unknownIssues,
        List.append_nil]
      exact filter_isRuledIssue_checkKnown ((isAsked_find?_iff hfs).mpr hasked)

end Build

/-! ## Asking again -/

/-- The four settings as given values. -/
def Ruled.given (r : Ruled) : Fields :=
  [("log_level", .str r.level), ("rpc_urls", .arr (r.urls.map .str)),
    ("recent_tx_limit", .int r.txLimit), ("snippet_context_lines", .int r.contextLines)]

theorem nodup_given (r : Ruled) : (r.given.map Prod.fst).Nodup := by
  show ruledNames.Nodup
  decide

theorem lowerNames_given (r : Ruled) : lowerNames r.given = r.given := by
  have hnames : ∀ n ∈ ruledNames, lowerName n = n := by decide +kernel
  have hmap : (r.given.map fun f => (lowerName f.1, f.2)) = r.given := by
    refine (List.map_congr_left fun f hf => ?_).trans (List.map_id _)
    rw [hnames f.1 (List.mem_map_of_mem hf)]
    rfl
  rw [lowerNames_eq_merged, hmap, Fields.merged_of_nodup (nodup_given r)]

theorem lastValue?_given (r : Ruled) (n : String) : lastValue? r.given n = Fields.find? r.given n := by
  rw [← find?_lowerNames, lowerNames_given]

/-- Given values ask for what they are. -/
theorem isAsked_given (r : Ruled) : r.IsAsked (Fields.find? r.given) :=
  ⟨.value rfl, .value (Checked.each_map r.urls 0 fun _ _ => rfl), .value rfl, .value rfl⟩

theorem find?_given_eq_none_iff {r : Ruled} {n : String} :
    Fields.find? r.given n = none ↔ n ∉ ruledNames := by
  rw [Fields.find?_eq_none_iff]
  show _ ↔ n ∉ r.given.map Prod.fst
  rw [List.mem_map]
  exact ⟨fun h ⟨f, hf, heq⟩ => h f hf heq, fun h f hf heq => h ⟨f, hf, heq⟩⟩

/-- Sources with the four settings given on top of what was given. -/
def Ruled.onTop (r : Ruled) (s : SettingsSources) : SettingsSources :=
  { s with given := s.given ++ r.given }

/-- What is given on top is asked for, whatever the sources. -/
theorem isAsked_onTop (r : Ruled) (s : SettingsSources) : r.IsAsked (sourceValue? (r.onTop s)) := by
  refine (isAsked_given r).congr fun n hn => ?_
  rw [sourceValue?, Ruled.onTop, lastValue?_append, lastValue?_given]
  cases hv : Fields.find? r.given n with
  | none => exact absurd hn (find?_given_eq_none_iff.mp hv)
  | some v => rfl

/-- What is given on top changes none of the other settings. -/
theorem agreeElsewhere_onTop (r : Ruled) {s : SettingsSources} {t : Settings} (h : build s = .ok t) :
    AgreeElsewhere (r.onTop s) s := by
  obtain ⟨fs, hfs, -⟩ := build_eq_ok_iff.mp h
  obtain ⟨environment, henvironment, dotenv, hdotenv, heq⟩ := gather_eq_ok_iff.mp hfs
  refine ⟨_, fs, gather_eq_ok_iff.mpr ⟨environment, henvironment, dotenv, hdotenv, rfl⟩, hfs,
    fun n hn => ?_⟩
  rw [← heq, find?_overlay (nodup_lowerNames _), find?_overlay (nodup_lowerNames _),
    find?_lowerNames, find?_lowerNames, Ruled.onTop, lastValue?_append, lastValue?_given,
    find?_given_eq_none_iff.mpr hn, Option.none_or]
  rfl

theorem build_nothing : build {} = .ok {} := by
  rfl

theorem build_onTop {r : Ruled} {s : SettingsSources} {t : Settings} (hr : r.NormalizesTo r)
    (h : build s = .ok t) : build (r.onTop s) = .ok (r.over t) :=
  (build_of_agree (agreeElsewhere_onTop r h) h (isAsked_onTop r s)).1 r hr

/-- Building fails exactly when a rule is broken, and then with the issues of the rules
    that are. -/
def FailsByRules (s : SettingsSources) (asked : Ruled) : Prop :=
  ((∃ e, build s = .error e) ↔ ∃ n, asked.Breaks n) ∧
    ∀ e, build s = .error e → e = .invalid asked.issues

theorem failsByRules_of_agree {s s' : SettingsSources} {t' : Settings} {asked : Ruled}
    (h : AgreeElsewhere s s') (ht' : build s' = .ok t') (hasked : asked.IsAsked (sourceValue? s)) :
    FailsByRules s asked := by
  obtain ⟨hok, herror⟩ := build_of_agree h ht' hasked
  by_cases hissues : asked.issues = []
  · have hbuilt := hok asked.normalized (Ruled.normalizesTo_iff.mpr ⟨hissues, rfl⟩)
    have hnoError : ∀ e, build s ≠ .error e := fun e he => nomatch hbuilt.symm.trans he
    refine ⟨iff_of_false ?_ ?_, fun e he => absurd he (hnoError e)⟩
    · exact fun ⟨e, he⟩ => hnoError e he
    · exact fun hbroken => Ruled.exists_breaks_iff.mp hbroken hissues
  · have hfailed := herror hissues
    exact ⟨iff_of_true ⟨_, hfailed⟩ (Ruled.exists_breaks_iff.mpr hissues),
      fun e he => Except.error.inj (he.symm.trans hfailed)⟩

/-- **ONCE AND FOR ALL**: whatever the sources, what is built keeps what they ask for in
    normal form, with a node that every fetch about an address asks first, and asking
    for what is kept builds it again: alone, given on top of the same sources, or in
    any way that leaves the other settings as they were.
    The issues of the four that are reported are the rules that what was asked for
    breaks, whatever else is wrong; where nothing else is, as with given values for the
    four alone, building fails exactly when a rule is broken.  The issues name the
    settings whose rules are broken, in the order of the settings. -/
theorem settings_are_normalized :
    (∀ s t, build s = .ok t →
      (∃ asked : Ruled, asked.IsAsked (sourceValue? s) ∧ asked.NormalizesTo t.ruled) ∧
      (∀ u ∈ t.rpcUrls, ¬ IsBlanks u.toList ∧ Trims u.toList u.toList) ∧
      (∃ url, t.rpcUrls.head? = some url ∧ ∀ address scripts, Chain.IsAddress (trimmed address) →
        (fetch t address scripts).requests.head? =
          some (addressCall url codeCall (trimmed address))) ∧
      build { given := t.ruled.given } = .ok (t.ruled.over {}) ∧
      build (t.ruled.onTop s) = .ok t ∧
      ∀ s', AgreeElsewhere s' s → t.ruled.IsAsked (sourceValue? s') → build s' = .ok t) ∧
    (∀ (s : SettingsSources) (asked : Ruled), asked.IsAsked (sourceValue? s) →
      (∀ is, build s = .error (.invalid is) → is.filter isRuledIssue = asked.issues) ∧
      ∀ s' t', AgreeElsewhere s s' → build s' = .ok t' → FailsByRules s asked) ∧
    ∀ asked : Ruled, FailsByRules { given := asked.given } asked ∧
      asked.issues.map Issue.path = (names.filter fun n => asked.Breaks n).map fun n => [.field n] := by
  refine ⟨fun s t ht => ?_, fun s asked hasked => ⟨?_, ?_⟩, fun asked => ⟨?_, asked.path_issues⟩⟩
  · obtain ⟨asked, hasked, hkept⟩ := exists_isAsked_of_build ht
    have hself : t.ruled.NormalizesTo t.ruled := hkept.self
    obtain ⟨url, hurl⟩ := Option.isSome_iff_exists.mp (List.isSome_head?.mpr hkept.urls_ne_nil)
    have halone : build (t.ruled.onTop {}) = .ok (t.ruled.over {}) := build_onTop hself build_nothing
    have honTop : build (t.ruled.onTop s) = .ok (t.ruled.over t) := build_onTop hself ht
    refine ⟨⟨asked, hasked, hkept⟩, hkept.tidy,
      ⟨url, hurl, fun address scripts h => head?_requests_fetch h hurl scripts⟩, halone, honTop, ?_⟩
    exact fun s' hagree hagain => (build_of_agree hagree ht hagain).1 t.ruled hself
  · exact fun is his => filter_isRuledIssue_of_build his hasked
  · exact fun s' t' hagree ht' => failsByRules_of_agree hagree ht' hasked
  · exact failsByRules_of_agree (agreeElsewhere_onTop asked build_nothing) build_nothing
      (isAsked_onTop asked {})

/-- Sources that name no other setting agree with none elsewhere. -/
theorem agreeElsewhere_nothing {s : SettingsSources} {fs : Fields} (h : gather s = .ok fs)
    (hnames : ∀ f ∈ fs, f.1 ∈ ruledNames) : AgreeElsewhere s {} :=
  ⟨fs, [], h, rfl, fun _ hn => Fields.find?_eq_none_iff.mpr fun f hf heq => hn (heq ▸ hnames f hf)⟩

/-- Sources of all three kinds, with nodes to trim, a blank one, and a level that a
    letter beyond ASCII is part of. -/
def mixedSources : SettingsSources where
  given := [("Rpc_Urls", .arr [.str " https://a.test\t", .str "\u2003", .str "https://a.test"])]
  environment := [("LOG_LEVEL", "warnıng"), ("HOME", "/")]
  dotenv := some "snippet_context_lines = 7\n"

/-- What is kept of the mixed sources. -/
def mixedSettings : Settings where
  logLevel := "WARNING"
  rpcUrls := ["https://a.test", "https://a.test"]
  snippetContextLines := 7

/-- Given values that break all four rules, in another order. -/
def spoiledSources : SettingsSources where
  given := [("snippet_context_lines", .int (-1)), ("rpc_urls", .arr [.str " "]),
    ("LOG_LEVEL", .str "it's"), ("recent_tx_limit", .int (-2))]

/-- What the spoiled sources ask for. -/
def spoiledAsked : Ruled where
  level := "it's"
  urls := [" "]
  txLimit := -2
  contextLines := -1

/-- The mixed settings are built again from what was kept, and the spoiled ones are
    refused at all four places. -/
theorem settings_of_mixed_and_spoiled :
    build mixedSources = .ok mixedSettings ∧
      build { given := mixedSettings.ruled.given } = .ok (mixedSettings.ruled.over {}) ∧
      build (mixedSettings.ruled.onTop mixedSources) = .ok mixedSettings ∧
      (∃ url, mixedSettings.rpcUrls.head? = some url ∧
        (fetch mixedSettings sampleAddress ⟨[], []⟩).requests.head? =
          some (addressCall url codeCall (trimmed sampleAddress))) ∧
      build spoiledSources = .error (.invalid spoiledAsked.issues) ∧
      spoiledAsked.issues.map Issue.path = ruledNames.map fun n => [.field n] := by
  obtain ⟨hbuilt, hasked, hnames⟩ := settings_are_normalized
  have hmixed : build mixedSources = .ok mixedSettings := rfl
  obtain ⟨-, -, ⟨url, hurl, hfetch⟩, hagain, honTop, -⟩ := hbuilt mixedSources mixedSettings hmixed
  have hsample : Chain.IsAddress (trimmed sampleAddress) :=
    (Chain.isAddress_trimmed_iff sampleAddress).mp isAddress_sampleAddress
  have hspoiled : spoiledAsked.IsAsked (sourceValue? spoiledSources) :=
    ⟨.value rfl, .value rfl, .value rfl, .value rfl⟩
  obtain ⟨hfails, hissues⟩ := (hasked spoiledSources spoiledAsked hspoiled).2 {} {}
    (agreeElsewhere_nothing rfl (by decide)) build_nothing
  obtain ⟨e, he⟩ := hfails.mpr ⟨"recent_tx_limit", by decide +kernel⟩
  refine ⟨hmixed, hagain, honTop, ⟨url, hurl, hfetch sampleAddress ⟨[], []⟩ hsample⟩, ?_, ?_⟩
  · rw [he, hissues e he]
  · rw [(hnames spoiledAsked).2]
    decide +kernel

end ContractScan.Settings
