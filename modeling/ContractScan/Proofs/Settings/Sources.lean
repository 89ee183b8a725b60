import ContractScan.Fault
import ContractScan.Proofs.Json.Members
import ContractScan.Settings.Build

/-! # Where the value of a setting comes from

    The sources of settings are put over each other field by field.  What is left
    of them for one setting is told without the order of the work: the value
    that was given, else the one in the environment, else the one in the dotenv
    text, and in each of them the last one whose name is that of the setting
    with regard to no case (`find?_gather`). -/

namespace ContractScan

namespace Fields

variable {fs gs : Fields} {name : String}

theorem find?_append : find? (fs ++ gs) name = (find? fs name).or (find? gs name) := by
  induction fs with
  | nil => rfl
  | cons f fs ih =>
      show (if f.1 = name then some f.2 else find? (fs ++ gs) name) = _
      by_cases hf : f.1 = name
      · rw [if_pos hf, find?, if_pos hf]
        rfl
      · rw [if_neg hf, find?, if_neg hf, ih]

theorem find?_eq_none_iff : find? fs name = none ↔ ∀ f ∈ fs, f.1 ≠ name := by
  induction fs with
  | nil => exact iff_of_true rfl fun f hf => nomatch hf
  | cons f fs ih =>
      rw [List.forall_mem_cons, ← ih]
      show (if f.1 = name then some f.2 else find? fs name) = none ↔ _
      by_cases hf : f.1 = name
      · rw [if_pos hf]
        exact iff_of_false (Option.some_ne_none _) fun h => h.1 hf
      · rw [if_neg hf]
        exact (and_iff_right hf).symm

/-- Where no name stands twice, the last value of a name is its value. -/
theorem lookup_reverse_of_nodup (h : (fs.map Prod.fst).Nodup) :
    fs.reverse.lookup name = find? fs name := by
  rw [← find?_merged, merged_of_nodup h]

end Fields

namespace Settings

/-! ## One source -/

/-- The value of a setting among named values: of those whose name in lower case is its
    name, the last. -/
def lastValue? (fs : Fields) (name : String) : Option Json :=
  (fs.map fun f => (lowerName f.1, f.2)).reverse.lookup name

/-- Of values that are named in two lots, those in the second count first. -/
theorem lastValue?_append (fs gs : Fields) (name : String) :
    lastValue? (fs ++ gs) name = (lastValue? gs name).or (lastValue? fs name) := by
  rw [lastValue?, List.map_append, List.reverse_append, List.lookup_append]
  rfl

theorem lowerNames_eq_merged (fs : Fields) :
    lowerNames fs = Fields.merged (fs.map fun f => (lowerName f.1, f.2)) := by
  rw [Fields.merged, Fields.insertAll, List.foldl_map]
  rfl

theorem nodup_lowerNames (fs : Fields) : ((lowerNames fs).map Prod.fst).Nodup := by
  rw [lowerNames_eq_merged]
  exact Fields.nodup_merged _

theorem find?_lowerNames (fs : Fields) (name : String) :
    Fields.find? (lowerNames fs) name = lastValue? fs name := by
  rw [lowerNames_eq_merged, Fields.find?_merged]
  rfl

/-- What texts say of a setting: what its text is read as, if there is one and it
    counts. -/
def writtenAt (texts : Fields) (name : String) : Except SettingsError (Option Json) :=
  match (Fields.find? texts name).bind Json.text? with
  | some t => writtenValue name t
  | none => .ok none

/-- The value of a setting among texts; none if its text cannot be read. -/
def textValue? (texts : Fields) (name : String) : Option Json :=
  match writtenAt texts name with
  | .ok v => v
  | .error _ => none

section Written

variable {texts fs : Fields} {ns : List String} {n : String}

/-- One setting more is read before the rest. -/
theorem writtenValues_cons :
    writtenValues texts (n :: ns) =
      (writtenAt texts n >>= fun v => writtenValues texts ns >>= fun rest =>
        .ok ((v.map fun v => (n, v)).toList ++ rest)) := by
  rw [writtenValues, writtenAt]
  cases (Fields.find? texts n).bind Json.text? <;> rfl

theorem writtenValues_cons_eq_ok_iff :
    writtenValues texts (n :: ns) = .ok fs ↔
      ∃ v, writtenAt texts n = .ok v ∧
        ∃ rest, writtenValues texts ns = .ok rest ∧
          (v.map fun v => (n, v)).toList ++ rest = fs := by
  simp only [writtenValues_cons, bind_eq_ok_iff, Except.ok.injEq]

/-- A text is refused for one reason only. -/
theorem writtenAt_eq_error {e : SettingsError} (h : writtenAt texts n = .error e) :
    e = .unreadable := by
  unfold writtenAt writtenValue at h
  split at h
  · split at h
    · split at h
      · exact nomatch h
      · exact nomatch h
      · exact (Except.error.inj h).symm
    · exact nomatch h
  · exact nomatch h

theorem writtenValues_eq_error {e : SettingsError} (h : writtenValues texts ns = .error e) :
    e = .unreadable := by
  induction ns with
  | nil => exact nomatch h
  | cons n ns ih =>
      rw [writtenValues_cons, bind_eq_error_iff] at h
      rcases h with h | ⟨v, -, h⟩
      · exact writtenAt_eq_error h
      · rcases bind_eq_error_iff.mp h with h | ⟨rest, -, h⟩
        · exact ih h
        · exact nomatch h

/-- Values that are read stand in the order of the settings, each at most once. -/
theorem map_fst_writtenValues (h : writtenValues texts ns = .ok fs) :
    (fs.map Prod.fst).Sublist ns := by
  induction ns generalizing fs with
  | nil =>
      rw [← Except.ok.inj h]
      exact List.Sublist.slnil
  | cons n ns ih =>
      obtain ⟨v, -, rest, hrest, rfl⟩ := writtenValues_cons_eq_ok_iff.mp h
      cases v with
      | none => exact (ih hrest).cons n
      | some v => exact (ih hrest).cons_cons n

/-- The value that is read for a setting is that of its text. -/
theorem find?_writtenValues (hns : ns.Nodup) (h : writtenValues texts ns = .ok fs) (hn : n ∈ ns) :
    Fields.find? fs n = textValue? texts n := by
  induction ns generalizing fs with
  | nil => exact nomatch hn
  | cons m ns ih =>
      obtain ⟨hnew, hns⟩ := List.nodup_cons.mp hns
      obtain ⟨v, hv, rest, hrest, rfl⟩ := writtenValues_cons_eq_ok_iff.mp h
      rcases List.mem_cons.mp hn with rfl | hn
      · -- the value of this setting is read here, and nowhere behind
        have hbehind : Fields.find? rest n = none := by
          refine Fields.find?_eq_none_iff.mpr fun f hf heq => hnew ?_
          rw [← heq]
          exact (map_fst_writtenValues hrest).subset (List.mem_map_of_mem hf)
        rw [Fields.find?_append, hbehind, Option.or_none, textValue?, hv]
        cases v with
        | none => rfl
        | some v => exact if_pos rfl
      · have hne : m ≠ n := fun heq => hnew (heq ▸ hn)
        rw [Fields.find?_append, ih hns hrest hn]
        cases v with
        | none => rfl
        | some v =>
            have hhere : Fields.find? [(m, v)] n = none := if_neg hne
            show (Fields.find? [(m, v)] n).or _ = _
            rw [hhere, Option.none_or]

end Written

/-! ## All sources -/

/-- The texts of the environment. -/
def environmentTexts (s : SettingsSources) : Fields :=
  lowerNames (textFields (s.environment.map fun e => (e.1, some e.2)))

/-- The texts of the dotenv text. -/
def dotenvTexts (s : SettingsSources) : Fields :=
  lowerNames (textFields (s.dotenv.elim [] (Dotenv.read s.environment)))

/-- The value that sources give a setting: the one that was given, else that in the
    environment, else that in the dotenv text. -/
def sourceValue? (s : SettingsSources) (name : String) : Option Json :=
  (lastValue? s.given name).or
    ((textValue? (environmentTexts s) name).or (textValue? (dotenvTexts s) name))

section Gather

variable {s : SettingsSources} {fs : Fields} {name : String}

theorem gather_eq_ok_iff :
    gather s = .ok fs ↔
      ∃ environment, writtenValues (environmentTexts s) names = .ok environment ∧
        ∃ dotenv, writtenValues (dotenvTexts s) names = .ok dotenv ∧
          overlay (overlay (dotenv ++ unknownTexts (dotenvTexts s)) environment)
            (lowerNames s.given) = fs := by
  show (writtenValues (environmentTexts s) names >>= fun environment =>
    writtenValues (dotenvTexts s) names >>= fun dotenv =>
      .ok (overlay (overlay (dotenv ++ unknownTexts (dotenvTexts s)) environment)
        (lowerNames s.given))) = .ok fs ↔ _
  simp only [bind_eq_ok_iff, Except.ok.injEq]

/-- Sources that cannot be read are refused for one reason only. -/
theorem gather_eq_error {e : SettingsError} (h : gather s = .error e) : e = .unreadable := by
  rcases bind_eq_error_iff.mp h with h | ⟨environment, -, h⟩
  · exact writtenValues_eq_error h
  · rcases bind_eq_error_iff.mp h with h | ⟨dotenv, -, h⟩
    · exact writtenValues_eq_error h
    · exact nomatch h

theorem nodup_names : names.Nodup := by decide

/-- What is put over fields comes first, unless it names a value twice. -/
theorem find?_overlay {below above : Fields} (h : (above.map Prod.fst).Nodup) :
    Fields.find? (overlay below above) name =
      (Fields.find? above name).or (Fields.find? below name) := by
  rw [← Fields.lookup_reverse_of_nodup h]
  exact Fields.find?_insertAll below name above

/-- **WHERE A SETTING COMES FROM**: of what the sources amount to, a setting has the
    value that the strongest source has for it. -/
theorem find?_gather (h : gather s = .ok fs) (hname : name ∈ names) :
    Fields.find? fs name = sourceValue? s name := by
  obtain ⟨environment, henvironment, dotenv, hdotenv, rfl⟩ := gather_eq_ok_iff.mp h
  have hwritten : (environment.map Prod.fst).Nodup :=
    (map_fst_writtenValues henvironment).nodup nodup_names
  have hunknown : Fields.find? (unknownTexts (dotenvTexts s)) name = none := by
    refine Fields.find?_eq_none_iff.mpr fun f hf heq => ?_
    have hnot : names.contains f.1 = false := by
      have hkept := (List.mem_filter.mp hf).2
      rw [Bool.and_eq_true_iff, Bool.not_eq_true'] at hkept
      exact hkept.1
    rw [heq, List.contains_iff_mem.mpr hname] at hnot
    exact Bool.false_ne_true hnot.symm
  rw [find?_overlay (nodup_lowerNames s.given), find?_overlay hwritten, Fields.find?_append, hunknown, Option.or_none,
    find?_writtenValues nodup_names henvironment hname,
    find?_writtenValues nodup_names hdotenv hname, find?_lowerNames]
  rfl

end Gather

end Settings

end ContractScan
