import ContractScan.Json.Basic

/-! # Members of an object, merged

    An object may be written with several members of one name.  They are merged
    as they come, and what is left is told without the order of the work: the
    names stand in the order in which they first appear (`map_fst_merged`), and
    each has the value that was written last (`find?_merged`). -/

namespace ContractScan.Fields

/-- Gives names their values one after the other. -/
def insertAll (fs : Fields) (ms : List (String × Json)) : Fields :=
  ms.foldl (fun fs m => insert fs m.1 m.2) fs

/-- The fields that members amount to: of those with one name the last counts, in
    the place of the first. -/
def merged (ms : List (String × Json)) : Fields := insertAll [] ms

variable (fs : Fields) (k : String) (v : Json) (ms : List (String × Json))

/-- A new name comes last, and any other stays in its place. -/
theorem map_fst_insert :
    (insert fs k v).map Prod.fst =
      if k ∈ fs.map Prod.fst then fs.map Prod.fst else fs.map Prod.fst ++ [k] := by
  induction fs with
  | nil => rfl
  | cons f fs ih =>
      obtain ⟨l, w⟩ := f
      by_cases hl : l = k
      · rw [insert, if_pos hl, List.map_cons, List.map_cons, hl, if_pos (List.mem_cons_self ..)]
      · rw [insert, if_neg hl, List.map_cons, List.map_cons, ih]
        have hmem : k ∈ l :: fs.map Prod.fst ↔ k ∈ fs.map Prod.fst := by
          rw [List.mem_cons]
          exact or_iff_right (Ne.symm hl)
        by_cases hk : k ∈ fs.map Prod.fst
        · rw [if_pos hk, if_pos (hmem.mpr hk)]
        · rw [if_neg hk, if_neg (mt hmem.mp hk)]
          rfl

/-- The names that are not there yet follow in the order in which they first
    appear. -/
theorem map_fst_insertAll :
    (insertAll fs ms).map Prod.fst =
      fs.map Prod.fst ++ ((ms.map Prod.fst).removeAll (fs.map Prod.fst)).eraseDups := by
  induction ms generalizing fs with
  | nil => exact (List.append_nil _).symm
  | cons m ms ih =>
      show (insertAll (insert fs m.1 m.2) ms).map Prod.fst = _
      rw [ih, map_fst_insert, List.map_cons]
      by_cases hm : m.1 ∈ fs.map Prod.fst
      · have hold : (m.1 :: ms.map Prod.fst).removeAll (fs.map Prod.fst) =
            (ms.map Prod.fst).removeAll (fs.map Prod.fst) :=
          List.filter_cons_of_neg (by simpa using hm)
        rw [if_pos hm, hold]
      · have hnew : (m.1 :: ms.map Prod.fst).removeAll (fs.map Prod.fst) =
            m.1 :: (ms.map Prod.fst).removeAll (fs.map Prod.fst) :=
          List.filter_cons_of_pos (by simpa using hm)
        have hrest : (ms.map Prod.fst).removeAll (fs.map Prod.fst ++ [m.1]) =
            ((ms.map Prod.fst).removeAll (fs.map Prod.fst)).filter fun l => !l == m.1 := by
          rw [List.removeAll, List.removeAll, List.filter_filter]
          refine List.filter_congr fun l _ => ?_
          rw [Bool.eq_iff_iff]
          simp only [Bool.not_eq_true', ← Bool.not_eq_true, Bool.and_eq_true, List.elem_iff,
            beq_iff_eq, List.mem_append, List.mem_singleton, not_or, and_comm]
        rw [if_neg hm, hnew, hrest, List.eraseDups_cons, List.append_assoc]
        rfl

/-- **NAMES STAND WHERE THEY FIRST APPEAR.** -/
theorem map_fst_merged : (merged ms).map Prod.fst = (ms.map Prod.fst).eraseDups := by
  have hall : (ms.map Prod.fst).removeAll [] = ms.map Prod.fst :=
    List.filter_eq_self.mpr fun _ _ => rfl
  rw [merged, map_fst_insertAll, List.map_nil, hall, List.nil_append]

theorem find?_insertAll :
    find? (insertAll fs ms) k = (ms.reverse.lookup k).or (find? fs k) := by
  induction ms generalizing fs with
  | nil => rfl
  | cons m ms ih =>
      show find? (insertAll (insert fs m.1 m.2) ms) k = _
      rw [ih, List.reverse_cons, List.lookup_append, Option.or_assoc, List.lookup_cons]
      by_cases hk : k = m.1
      · rw [hk, find?_insert_self, beq_self_eq_true]
        rfl
      · rw [find?_insert_of_ne fs m.2 hk, beq_false_of_ne hk]
        rfl

/-- **THE LAST VALUE COUNTS.** -/
theorem find?_merged : find? (merged ms) k = ms.reverse.lookup k := by
  rw [merged, find?_insertAll]
  exact Option.or_none

/-- The last of the members of a name has this value. -/
def IsLast (ms : List (String × Json)) (k : String) (v : Json) : Prop :=
  ∃ before behind, ms = before ++ (k, v) :: behind ∧ ∀ m ∈ behind, m.1 ≠ k

theorem lookup_reverse_eq_some_iff {ms : List (String × Json)} {k : String} {v : Json} :
    ms.reverse.lookup k = some v ↔ IsLast ms k v := by
  rw [List.lookup_eq_some_iff]
  constructor
  · rintro ⟨front, back, hcut, hfront⟩
    refine ⟨back.reverse, front.reverse, ?_, fun m hm => ?_⟩
    · rw [← List.reverse_reverse ms, hcut, List.reverse_append, List.reverse_cons,
        List.append_assoc]
      rfl
    · exact (bne_iff_ne.mp (hfront m (List.mem_reverse.mp hm))).symm
  · rintro ⟨before, behind, rfl, hbehind⟩
    refine ⟨behind.reverse, before.reverse, ?_, fun m hm => ?_⟩
    · rw [List.reverse_append, List.reverse_cons, List.append_assoc]
      rfl
    · exact bne_iff_ne.mpr (hbehind m (List.mem_reverse.mp hm)).symm

theorem lookup_reverse_eq_none_iff {ms : List (String × Json)} {k : String} :
    ms.reverse.lookup k = none ↔ ∀ m ∈ ms, m.1 ≠ k := by
  simp only [List.lookup_eq_none_iff, List.mem_reverse, bne_iff_ne, ne_comm]

/-- A name that is new is put at the end. -/
theorem insert_of_not_mem {fs : Fields} (h : k ∉ fs.map Prod.fst) :
    insert fs k v = fs ++ [(k, v)] := by
  induction fs with
  | nil => rfl
  | cons f fs ih =>
      obtain ⟨hne, hrest⟩ := not_or.mp (mt List.mem_cons.mpr h)
      show (if f.1 = k then (f.1, v) :: fs else f :: insert fs k v) = _
      rw [if_neg (Ne.symm hne), ih hrest]
      rfl

/-- Members with different names are fields as they stand. -/
theorem merged_of_nodup {ms : List (String × Json)} (h : (ms.map Prod.fst).Nodup) :
    merged ms = ms := by
  have hbehind (fs ms : Fields) (hnames : ((fs ++ ms).map Prod.fst).Nodup) :
      insertAll fs ms = fs ++ ms := by
    induction ms generalizing fs with
    | nil => exact (List.append_nil fs).symm
    | cons m ms ih =>
        have hnew : m.1 ∉ fs.map Prod.fst := by
          rw [List.map_append, List.map_cons] at hnames
          exact fun hmem => (List.nodup_append.mp hnames).2.2 _ hmem _ (List.mem_cons_self ..) rfl
        show insertAll (insert fs m.1 m.2) ms = _
        rw [insert_of_not_mem _ _ hnew, ih _ (by rwa [List.append_assoc]), List.append_assoc]
        rfl
  exact hbehind [] ms h

theorem nodup_insertAll {fs : Fields} (h : (fs.map Prod.fst).Nodup) :
    ((insertAll fs ms).map Prod.fst).Nodup := by
  induction ms generalizing fs with
  | nil => exact h
  | cons m ms ih =>
      refine ih ?_
      rw [map_fst_insert]
      by_cases hm : m.1 ∈ fs.map Prod.fst
      · rw [if_pos hm]
        exact h
      · rw [if_neg hm]
        refine List.nodup_append.mpr ⟨h, List.pairwise_singleton _ _, fun k hk l hl hkl => hm ?_⟩
        rw [← List.mem_singleton.mp hl, ← hkl]
        exact hk

theorem nodup_merged : ((merged ms).map Prod.fst).Nodup := nodup_insertAll ms List.nodup_nil

/-- Where no name stands twice, a field has its value. -/
theorem find?_of_mem {fs : Fields} (hnames : (fs.map Prod.fst).Nodup) {f : String × Json}
    (h : f ∈ fs) : find? fs f.1 = some f.2 := by
  induction fs with
  | nil => exact nomatch h
  | cons g fs ih =>
      obtain ⟨hnew, hrest⟩ := List.nodup_cons.mp hnames
      rcases List.mem_cons.mp h with rfl | hmem
      · exact if_pos rfl
      · have hne : g.1 ≠ f.1 := fun heq => hnew (heq ▸ List.mem_map_of_mem hmem)
        exact (if_neg hne).trans (ih hrest hmem)

end ContractScan.Fields
