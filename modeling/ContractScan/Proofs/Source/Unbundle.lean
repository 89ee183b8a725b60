import ContractScan.Proofs.Json.Grammar
import ContractScan.Proofs.Text.Lines
import ContractScan.Source.Bundle
import Mathlib.Data.List.Forall2

/-! # What is taken for a bundle

    A source is opened as a bundle by what stands between its first and its last
    character.  `IsBundle` says of that text, by the grammar alone, that it is
    one and which contents it has: an object whose sources are an object of
    objects, each with a text for its content, or with none that counts.  The
    contents stand in the order in which the paths are first written.

    **EXACT RECOGNITION**: a source that begins with two braces and has a bundle
    between its first and its last character is flattened to the contents, and
    every other source is left as it is (`flatten_recognizes`).

    The last character itself is cut off unseen.  Where it is a closing brace, as
    it should be, the sources that are opened are the bundles in double braces; a
    bundle with another character in its place is opened too
    (`flatten_unclosedBundle`). -/

namespace ContractScan.Source

open ContractScan.Text

/-! ## Bundles by the grammar -/

/-- The content that an entry is written with: a text, or nothing for what is
    missing or counts as absent. -/
inductive HasContent : Json → List Char → Prop where
  | text {ms : List (String × Json)} {t : String} :
      ms.reverse.lookup "content" = some (.str t) → HasContent (.obj ms) t.toList
  | absent {ms : List (String × Json)} {v : Json} :
      ms.reverse.lookup "content" = some v → v.isTruthy = false → HasContent (.obj ms) []
  | missing {ms : List (String × Json)} :
      ms.reverse.lookup "content" = none → HasContent (.obj ms) []

/-- A text writes an object whose sources have these contents, one for each path.
    Of members with one name the last counts, in the place of the first. -/
def IsBundle (body : List Char) (contents : List (List Char)) : Prop :=
  ∃ ms es, Json.Denotes body (.obj ms) ∧ ms.reverse.lookup "sources" = some (.obj es) ∧
    List.Forall₂ (fun path content => ∃ entry, es.reverse.lookup path = some entry ∧
      HasContent entry content) (es.map Prod.fst).eraseDups contents

/-- Two opening braces, and a bundle between the first and the last character. -/
def IsOpened (s : String) (last : Char) (contents : List (List Char)) : Prop :=
  ∃ body, s.toList = '\x7b' :: (body ++ [last]) ∧ body.head? = some '\x7b' ∧
    IsBundle body contents

section Entries

variable {ms : List (String × Json)} {entry : Json} {content : List Char}

/-- What is taken for the content of an object hangs on its last content field. -/
theorem contentOf?_merge (ms : List (String × Json)) :
    contentOf? (Json.merge (.obj ms)) =
      match ms.reverse.lookup "content" with
      | none => some []
      | some v => if v.isTruthy then v.merge.text?.map String.toList else some [] := by
  simp only [Json.merge, contentOf?, Json.find?_merged_mergeMembers]
  cases ms.reverse.lookup "content" with
  | none => rfl
  | some v => simp only [Option.map_some, Option.getD_some, Json.isTruthy_merge]

/-- What is taken for the content of an entry is the content that it is written
    with. -/
theorem contentOf?_eq_some_iff :
    contentOf? entry.merge = some content ↔ HasContent entry content := by
  cases entry with
  | obj ms =>
      rw [contentOf?_merge]
      constructor
      · intro h
        cases hcontent : ms.reverse.lookup "content" with
        | none =>
            rw [hcontent] at h
            rw [← Option.some.inj h]
            exact .missing hcontent
        | some v =>
            rw [hcontent] at h
            by_cases hv : v.isTruthy = true
            · obtain ⟨t, ht, rfl⟩ := Option.map_eq_some_iff.mp ((if_pos hv).symm.trans h)
              rw [Json.text?_eq_some_iff, Json.merge_eq_str_iff] at ht
              exact .text (ht ▸ hcontent)
            · rw [← Option.some.inj ((if_neg hv).symm.trans h)]
              exact .absent hcontent (Bool.not_eq_true _ ▸ hv)
      · intro h
        cases h with
        | @text _ t hcontent =>
            rw [hcontent]
            by_cases ht : t = ""
            · rw [ht]
              rfl
            · exact if_pos (bne_iff_ne.mpr ht)
        | absent hcontent hv =>
            rw [hcontent]
            exact if_neg (by rw [hv]; exact Bool.false_ne_true)
        | missing hcontent => rw [hcontent]
  | _ => exact ⟨nofun, nofun⟩

/-- The contents of fields, where these are told by what is written. -/
theorem contentsOf?_eq_some_iff {es : List (String × Json)} {fields : Fields}
    (hwritten : ∀ f ∈ fields, ∃ entry, es.reverse.lookup f.1 = some entry ∧ f.2 = entry.merge)
    {contents : List (List Char)} :
    contentsOf? fields = some contents ↔
      List.Forall₂ (fun path content => ∃ entry, es.reverse.lookup path = some entry ∧
        HasContent entry content) (fields.map Prod.fst) contents := by
  induction fields generalizing contents with
  | nil =>
      rw [List.map_nil, List.forall₂_nil_left_iff]
      exact ⟨fun h => (Option.some.inj h).symm, fun h => h ▸ rfl⟩
  | cons f fields ih =>
      obtain ⟨⟨entry, hentry, hf⟩, hrest⟩ := List.forall_mem_cons.mp hwritten
      have hcontent {content : List Char} : contentOf? f.2 = some content ↔
          ∃ entry, es.reverse.lookup f.1 = some entry ∧ HasContent entry content := by
        rw [hf, contentOf?_eq_some_iff, hentry]
        simp only [Option.some.injEq, exists_eq_left']
      rw [List.map_cons, List.forall₂_cons_left_iff]
      show (contentOf? f.2).bind (fun c => (contentsOf? fields).bind fun cs => some (c :: cs)) =
        some contents ↔ _
      rw [Option.bind_eq_some_iff]
      constructor
      · rintro ⟨content, hfirst, h⟩
        obtain ⟨contents, hcontents, h⟩ := Option.bind_eq_some_iff.mp h
        exact ⟨content, contents, hcontent.mp hfirst, (ih hrest).mp hcontents,
          (Option.some.inj h).symm⟩
      · rintro ⟨content, contents, hfirst, hcontents, rfl⟩
        exact ⟨content, hcontent.mpr hfirst,
          Option.bind_eq_some_iff.mpr ⟨contents, (ih hrest).mpr hcontents, rfl⟩⟩

end Entries

/-! ## Recognition -/

section Recognition

variable {s : String} {last : Char} {body : List Char} {contents : List (List Char)}

/-- The entries that are read are those of the sources that are written. -/
theorem sourcesOf?_eq_some_iff {fields : Fields} :
    sourcesOf? body = some fields ↔
      ∃ ms es, Json.Denotes body (.obj ms) ∧ ms.reverse.lookup "sources" = some (.obj es) ∧
        fields = Fields.merged (Json.mergeMembers es) := by
  constructor
  · intro h
    rw [sourcesOf?] at h
    split at h
    · next fs hread =>
        obtain ⟨ms, hms, rfl⟩ := Json.read_eq_obj_iff.mp hread
        rw [Json.find?_merged_mergeMembers] at h
        obtain ⟨v, hv, hfields⟩ := Option.bind_eq_some_iff.mp h
        obtain ⟨raw, hraw, rfl⟩ := Option.map_eq_some_iff.mp hv
        cases raw with
        | obj es => exact ⟨ms, es, hms, hraw, (Option.some.inj hfields).symm⟩
        | _ => exact nomatch hfields
    · exact nomatch h
  · rintro ⟨ms, es, hms, hsources, rfl⟩
    rw [sourcesOf?, Json.read_eq_obj_iff.mpr ⟨ms, hms, rfl⟩]
    show (Fields.find? (Fields.merged (Json.mergeMembers ms)) "sources").bind Json.fields? = _
    rw [Json.find?_merged_mergeMembers, hsources]
    rfl

/-- A text is a bundle exactly when contents are read from it. -/
theorem isBundle_iff :
    IsBundle body contents ↔ (sourcesOf? body).bind contentsOf? = some contents := by
  have hcontents (es : List (String × Json)) :
      contentsOf? (Fields.merged (Json.mergeMembers es)) = some contents ↔
        List.Forall₂ (fun path content => ∃ entry, es.reverse.lookup path = some entry ∧
          HasContent entry content) (es.map Prod.fst).eraseDups contents := by
    rw [← Json.map_fst_mergeMembers es, ← Fields.map_fst_merged]
    refine contentsOf?_eq_some_iff fun f hf => ?_
    have hvalue := Fields.find?_of_mem (Fields.nodup_merged _) hf
    rw [Json.find?_merged_mergeMembers] at hvalue
    obtain ⟨entry, hentry, hf⟩ := Option.map_eq_some_iff.mp hvalue
    exact ⟨entry, hentry, hf.symm⟩
  rw [Option.bind_eq_some_iff]
  constructor
  · rintro ⟨ms, es, hms, hsources, hall⟩
    exact ⟨_, sourcesOf?_eq_some_iff.mpr ⟨ms, es, hms, hsources, rfl⟩, (hcontents es).mpr hall⟩
  · rintro ⟨fields, hfields, hread⟩
    obtain ⟨ms, es, hms, hsources, rfl⟩ := sourcesOf?_eq_some_iff.mp hfields
    exact ⟨ms, es, hms, hsources, (hcontents es).mp hread⟩

/-- A bundle is no empty text. -/
theorem IsBundle.ne_nil (h : IsBundle body contents) : body ≠ [] := by
  rintro rfl
  rw [isBundle_iff] at h
  exact nomatch h

/-- What is opened, and as what. -/
theorem unbundle?_eq_some_iff {t : List Char} :
    unbundle? s.toList = some t ↔
      ∃ last contents, IsOpened s last contents ∧ t = joinLines contents := by
  rw [unbundle?]
  constructor
  · intro h
    split at h
    · next hopen =>
        obtain ⟨rest, hrest⟩ := List.isPrefixOf_iff_prefix.mp hopen
        obtain ⟨fields, hfields, hmap⟩ := Option.bind_eq_some_iff.mp h
        obtain ⟨contents, hcontents, rfl⟩ := Option.map_eq_some_iff.mp hmap
        have hbundle : IsBundle ((s.toList.drop 1).dropLast) contents :=
          isBundle_iff.mpr (Option.bind_eq_some_iff.mpr ⟨fields, hfields, hcontents⟩)
        rw [← hrest] at hbundle
        -- an empty text is no bundle, so something stands behind the two braces
        have hne : rest ≠ [] := by
          rintro rfl
          exact hbundle.ne_nil rfl
        have hbody : '\x7b' :: rest = '\x7b' :: rest.dropLast ++ [rest.getLast hne] := by
          rw [List.cons_append, List.dropLast_append_getLast]
        have hcut : ('\x7b' :: rest).dropLast = '\x7b' :: rest.dropLast :=
          List.dropLast_cons_of_ne_nil hne
        refine ⟨rest.getLast hne, contents, ⟨'\x7b' :: rest.dropLast, ?_, rfl, hcut ▸ hbundle⟩, rfl⟩
        rw [← hbody, ← hrest]
        rfl
    · exact nomatch h
  · rintro ⟨last, contents, ⟨body, hcut, hhead, hbundle⟩, rfl⟩
    have hopen : ['\x7b', '\x7b'].isPrefixOf s.toList = true := by
      obtain ⟨rest, rfl⟩ := List.head?_eq_some_iff.mp hhead
      rw [hcut]
      rfl
    have hbody : (s.toList.drop 1).dropLast = body := by
      rw [hcut]
      exact List.dropLast_concat
    rw [if_pos hopen, hbody]
    obtain ⟨fields, hfields, hcontents⟩ := Option.bind_eq_some_iff.mp (isBundle_iff.mp hbundle)
    rw [hfields, Option.bind_some, hcontents]
    rfl

/-- A bundle is flattened to its contents, whatever its last character is. -/
theorem IsOpened.flatten_eq (h : IsOpened s last contents) :
    (flatten s).toList = joinLines contents := by
  rw [flatten, unbundle?_eq_some_iff.mpr ⟨last, contents, h, rfl⟩]
  exact String.toList_ofList

/-- What is not opened stays as it is. -/
theorem flatten_of_not_isOpened (h : ∀ last contents, ¬IsOpened s last contents) :
    flatten s = s := by
  have hnone : unbundle? s.toList = none := by
    refine Option.eq_none_iff_forall_ne_some.mpr fun t ht => ?_
    obtain ⟨last, contents, hopened, -⟩ := unbundle?_eq_some_iff.mp ht
    exact h last contents hopened
  rw [flatten, hnone]

/-- The character that is cut off is the last one. -/
theorem IsOpened.getLast?_eq (h : IsOpened s last contents) : s.toList.getLast? = some last := by
  obtain ⟨body, hcut, -, -⟩ := h
  rw [hcut, ← List.cons_append, List.getLast?_concat]

end Recognition

/-! ## Two texts -/

/-- A bundle in braces, with blanks in it, a path that is written twice and once
    with an escape, and two paths without a content that counts. -/
def spacedBundle : String :=
  "\x7b\x7b \"sources\" : \x7b \"a\" : \x7b\"content\":\"1\"\x7d,\n \"b\" : \x7b\x7d, " ++
    "\"\\u0061\" : \x7b\"content\":\"2\"\x7d, \"c\" : \x7b\"content\":null\x7d \x7d \x7d \x7d"

/-- A bundle behind two braces, with a letter for the brace that closes them. -/
def unclosedBundle : String :=
  "\x7b\x7b\"sources\":\x7b\"a\":\x7b\"content\":\"x\"\x7d\x7d\x7dX"

end ContractScan.Source
