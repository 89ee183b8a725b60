import ContractScan.Json.Reader

/-! # Numbers as they are written

    A number has a whole part and may have a fraction and an exponent.  Without
    these two it is exact, and its length is bounded.  The reader takes as much
    as it can, so a number is read where the character behind it cannot be a
    part of it (`EndsNumber`).

    **READ AND WRITTEN AGREE** part by part: `WritesNumber.readNumber` and
    `writesNumber_of_readNumber`. -/

namespace ContractScan.Json

open ContractScan.Number ContractScan.Text

/-- ASCII digits, at least one. -/
def IsDigits (ds : List Char) : Prop := ds ≠ [] ∧ ∀ d ∈ ds, isDigit d = true

/-- The digits before a point: a zero alone, or digits that do not begin with one. -/
def IsWhole (ds : List Char) : Prop := ds = ['0'] ∨ (IsDigits ds ∧ ds.head? ≠ some '0')

/-- The minus sign, if there is one. -/
def minusSign (minus : Bool) : List Char := if minus then ['-'] else []

/-- A point and the digits behind it, or nothing. -/
inductive WritesFraction : List Char → Option (List Char) → Prop where
  | none : WritesFraction [] none
  | some {ds : List Char} : IsDigits ds → WritesFraction ('.' :: ds) (some ds)

/-- The sign of an exponent, and whether it is a minus. -/
inductive WritesSign : List Char → Bool → Prop where
  | none : WritesSign [] false
  | plus : WritesSign ['+'] false
  | minus : WritesSign ['-'] true

/-- An exponent, or nothing. -/
inductive WritesExponent : List Char → Option Int → Prop where
  | none : WritesExponent [] none
  | some {c : Char} {sign ds : List Char} {minus : Bool} : c = 'e' ∨ c = 'E' →
      WritesSign sign minus → IsDigits ds →
      WritesExponent (c :: (sign ++ ds)) (some (signed minus (natOfDigits ds)))

/-- The digits of a number, and the number that they write.  A whole number is
    exact and has a greatest length. -/
inductive WritesNumber : List Char → Json → Prop where
  | int {minus : Bool} {whole : List Char} : IsWhole whole → whole.length ≤ maxIntDigits →
      WritesNumber (minusSign minus ++ whole) (.int (signed minus (natOfDigits whole)))
  | float {minus : Bool} {whole f e : List Char} {fraction : Option (List Char)}
      {exponent : Option Int} : IsWhole whole → WritesFraction f fraction →
      WritesExponent e exponent → ¬ (fraction = none ∧ exponent = none) →
      WritesNumber (minusSign minus ++ (whole ++ (f ++ e)))
        (.float (.ofDecimal minus (natOfDigits (whole ++ fraction.getD []))
          (exponent.getD 0 - (fraction.getD []).length)))

/-- A number ends before what follows. -/
def EndsNumber (t : List Char) : Prop :=
  ∀ c ∈ t.head?, isDigit c = false ∧ c ≠ '.' ∧ c ≠ 'e' ∧ c ≠ 'E'

/-- No digit follows. -/
def StopsDigits (t : List Char) : Prop := ∀ c ∈ t.head?, isDigit c = false

section Numbers

variable {cs ds rest t f e : List Char} {fraction : Option (List Char)} {exponent : Option Int}

theorem isDigits_takeWhile (hne : cs.takeWhile isDigit ≠ []) : IsDigits (cs.takeWhile isDigit) :=
  ⟨hne, fun d hd => List.all_eq_true.mp (List.all_takeWhile (l := cs) (p := isDigit)) d hd⟩

theorem stopsDigits_cons {c : Char} (hc : isDigit c = false) : StopsDigits (c :: t) := by
  intro d hd
  rwa [← Option.some.inj hd]

/-- Digits are taken up to what is none. -/
theorem takeWhile_digits (hds : ∀ d ∈ ds, isDigit d = true) (ht : StopsDigits t) :
    (ds ++ t).takeWhile isDigit = ds ∧ (ds ++ t).dropWhile isDigit = t := by
  rw [List.takeWhile_append_of_pos hds, List.dropWhile_append_of_pos hds]
  cases t with
  | nil => exact ⟨List.append_nil ds, rfl⟩
  | cons c t =>
      have hc : ¬ isDigit c = true := by rw [ht c rfl]; exact Bool.false_ne_true
      rw [List.takeWhile_cons_of_neg hc, List.dropWhile_cons_of_neg hc]
      exact ⟨List.append_nil ds, rfl⟩

theorem wholeDigits_of_isWhole (hds : IsWhole ds) (ht : StopsDigits t) :
    wholeDigits (ds ++ t) = some (ds, t) := by
  rcases hds with rfl | ⟨⟨hne, hdigits⟩, hzero⟩
  · rfl
  · obtain ⟨c, ds, rfl⟩ := List.exists_cons_of_ne_nil hne
    obtain ⟨hc, hrest⟩ := List.forall_mem_cons.mp hdigits
    have hnonzero : c ≠ '0' := fun h => hzero (by rw [h]; rfl)
    obtain ⟨htake, hdrop⟩ := takeWhile_digits hrest ht
    rw [List.cons_append, wholeDigits, if_neg hnonzero, if_pos hc, htake, hdrop]

theorem isWhole_of_wholeDigits (h : wholeDigits cs = some (ds, rest)) :
    cs = ds ++ rest ∧ IsWhole ds := by
  cases cs with
  | nil => exact nomatch h
  | cons c cs =>
      rw [wholeDigits] at h
      split at h
      · next hzero =>
          obtain ⟨hds, hrest⟩ := Prod.mk.inj (Option.some.inj h)
          rw [← hds, ← hrest, hzero]
          exact ⟨rfl, Or.inl rfl⟩
      · next hzero =>
          split at h
          · next hc =>
              obtain ⟨hds, hrest⟩ := Prod.mk.inj (Option.some.inj h)
              rw [← hds, ← hrest, List.cons_append, List.takeWhile_append_dropWhile]
              refine ⟨rfl, Or.inr ⟨⟨List.cons_ne_nil _ _, ?_⟩, ?_⟩⟩
              · refine List.forall_mem_cons.mpr ⟨hc, fun d hd => ?_⟩
                exact List.all_eq_true.mp (List.all_takeWhile (l := cs) (p := isDigit)) d hd
              · exact fun h => hzero (Option.some.inj h)
          · exact nomatch h

theorem fractionPart_of_writes (hf : WritesFraction f fraction) (ht : StopsDigits t)
    (hpoint : fraction = none → ∀ c ∈ t.head?, c ≠ '.') :
    fractionPart (f ++ t) = (fraction, t) := by
  cases hf with
  | none =>
      rw [List.nil_append]
      cases t with
      | nil => rfl
      | cons c t =>
          have hc : c ≠ '.' := hpoint rfl c rfl
          simp [fractionPart, hc]
  | @some ds hds =>
      obtain ⟨htake, hdrop⟩ := takeWhile_digits hds.2 ht
      have hne : ds.isEmpty = false := List.isEmpty_eq_false_iff.mpr hds.1
      simp [fractionPart, htake, hdrop, hne]

theorem writesFraction_of_fractionPart (h : fractionPart cs = (fraction, rest)) :
    ∃ f, cs = f ++ rest ∧ WritesFraction f fraction := by
  cases cs with
  | nil =>
      obtain ⟨rfl, rfl⟩ := Prod.mk.inj h
      exact ⟨[], rfl, .none⟩
  | cons c cs =>
      simp only [fractionPart] at h
      split at h
      · next hboth =>
          obtain ⟨hc, hne⟩ := Bool.and_eq_true_iff.mp hboth
          obtain ⟨rfl, rfl⟩ := Prod.mk.inj h
          refine ⟨'.' :: cs.takeWhile isDigit, ?_, .some (isDigits_takeWhile ?_)⟩
          · rw [List.cons_append, List.takeWhile_append_dropWhile, of_decide_eq_true hc]
          · intro hnil
            rw [hnil] at hne
            exact nomatch hne
      · obtain ⟨rfl, rfl⟩ := Prod.mk.inj h
        exact ⟨[], rfl, .none⟩

theorem IsWhole.isDigits {whole : List Char} (h : IsWhole whole) : IsDigits whole := by
  rcases h with rfl | ⟨hdigits, -⟩
  · exact ⟨List.cons_ne_nil _ _, List.forall_mem_singleton.mpr rfl⟩
  · exact hdigits

/-- Digits do not begin with a sign. -/
theorem ne_sign_of_isDigit {c : Char} (h : isDigit c = true) : c ≠ '-' ∧ c ≠ '+' := by
  constructor
  · rintro rfl
    exact nomatch h
  · rintro rfl
    exact nomatch h

theorem takeSign_of_writes {sign body : List Char} {minus : Bool}
    (hsign : WritesSign sign minus) (hbody : IsDigits body) :
    takeSign (sign ++ (body ++ t)) = (minus, body ++ t) := by
  cases hsign with
  | none =>
      obtain ⟨c, ds, rfl⟩ := List.exists_cons_of_ne_nil hbody.1
      obtain ⟨hminus, hplus⟩ := ne_sign_of_isDigit (hbody.2 c (List.mem_cons_self ..))
      rw [List.nil_append, List.cons_append, takeSign.eq_def]
      split
      · next hcut => exact absurd (List.cons.inj hcut).1 hminus
      · next hcut => exact absurd (List.cons.inj hcut).1 hplus
      · rfl
  | plus => rfl
  | minus => rfl

theorem exists_sign (cs : List Char) :
    ∃ sign, cs = sign ++ (takeSign cs).2 ∧ WritesSign sign (takeSign cs).1 := by
  rw [takeSign.eq_def]
  split
  · exact ⟨['-'], rfl, .minus⟩
  · exact ⟨['+'], rfl, .plus⟩
  · exact ⟨[], rfl, .none⟩

theorem exponentPart_of_writes (he : WritesExponent e exponent) (ht : StopsDigits t)
    (hmark : exponent = none → ∀ c ∈ t.head?, c ≠ 'e' ∧ c ≠ 'E') :
    exponentPart (e ++ t) = (exponent, t) := by
  cases he with
  | none =>
      rw [List.nil_append]
      cases t with
      | nil => rfl
      | cons c t =>
          obtain ⟨hlower, hupper⟩ := hmark rfl c rfl
          simp [exponentPart, hlower, hupper]
  | @some c sign ds minus hc hsign hds =>
      obtain ⟨htake, hdrop⟩ := takeWhile_digits hds.2 ht
      have hne : ds.isEmpty = false := List.isEmpty_eq_false_iff.mpr hds.1
      rw [List.cons_append, List.append_assoc]
      simp [exponentPart, takeSign_of_writes hsign hds, htake, hdrop, hne, hc]

theorem writesExponent_of_exponentPart (h : exponentPart cs = (exponent, rest)) :
    ∃ e, cs = e ++ rest ∧ WritesExponent e exponent := by
  cases cs with
  | nil =>
      obtain ⟨rfl, rfl⟩ := Prod.mk.inj h
      exact ⟨[], rfl, .none⟩
  | cons c cs =>
      obtain ⟨sign, hcs, hsign⟩ := exists_sign cs
      simp only [exponentPart] at h
      split at h
      · next hboth =>
          obtain ⟨hc, hne⟩ := Bool.and_eq_true_iff.mp hboth
          obtain ⟨rfl, rfl⟩ := Prod.mk.inj h
          refine ⟨c :: (sign ++ (takeSign cs).2.takeWhile isDigit), ?_,
            .some (by simpa using hc) hsign (isDigits_takeWhile ?_)⟩
          · rw [List.cons_append, List.append_assoc, List.takeWhile_append_dropWhile, ← hcs]
          · intro hnil
            rw [hnil] at hne
            exact nomatch hne
      · obtain ⟨rfl, rfl⟩ := Prod.mk.inj h
        exact ⟨[], rfl, .none⟩

theorem minusPart_of_isWhole (minus : Bool) {whole : List Char} (hwhole : IsWhole whole) :
    minusPart (minusSign minus ++ (whole ++ t)) = (minus, whole ++ t) := by
  cases minus with
  | true => rfl
  | false =>
      obtain ⟨c, ds, rfl⟩ := List.exists_cons_of_ne_nil hwhole.isDigits.1
      obtain ⟨hminus, -⟩ := ne_sign_of_isDigit (hwhole.isDigits.2 c (List.mem_cons_self ..))
      show minusPart (c :: (ds ++ t)) = _
      rw [minusPart.eq_def]
      split
      · next hcut => exact absurd (List.cons.inj hcut).1 hminus
      · rfl

theorem exists_minusSign (cs : List Char) :
    cs = minusSign (minusPart cs).1 ++ (minusPart cs).2 := by
  rw [minusPart.eq_def]
  split <;> rfl

theorem EndsNumber.stopsDigits (h : EndsNumber t) : StopsDigits t := fun c hc => (h c hc).1

/-- Neither a fraction nor an exponent goes on with a digit of the whole part. -/
theorem stopsDigits_exponent (he : WritesExponent e exponent) (ht : EndsNumber t) :
    StopsDigits (e ++ t) := by
  cases he with
  | none => exact ht.stopsDigits
  | some hc =>
      rcases hc with rfl | rfl
      · exact stopsDigits_cons rfl
      · exact stopsDigits_cons rfl

theorem stopsDigits_fraction (hf : WritesFraction f fraction) (ht : StopsDigits t) :
    StopsDigits (f ++ t) := by
  cases hf with
  | none => exact ht
  | some => exact stopsDigits_cons rfl

/-- An exponent does not begin as a fraction does. -/
theorem ne_point_exponent (he : WritesExponent e exponent) (ht : EndsNumber t) :
    ∀ c ∈ (e ++ t).head?, c ≠ '.' := by
  cases he with
  | none => exact fun c hc => (ht c hc).2.1
  | some hmark =>
      intro c hc
      rw [← Option.some.inj hc]
      rcases hmark with rfl | rfl
      · decide
      · decide

/-- **A NUMBER IS READ** part by part. -/
theorem readNumber_parts (minus : Bool) {whole : List Char} (hwhole : IsWhole whole)
    (hf : WritesFraction f fraction) (he : WritesExponent e exponent) (ht : EndsNumber t) :
    readNumber (minusSign minus ++ (whole ++ (f ++ (e ++ t)))) =
      if fraction.isNone && exponent.isNone then
        if maxIntDigits < whole.length then .error .numeralTooLong
        else .ok (.int (signed minus (natOfDigits whole)), t)
      else
        .ok (.float (.ofDecimal minus (natOfDigits (whole ++ fraction.getD []))
          (exponent.getD 0 - (fraction.getD []).length)), t) := by
  have hexponent := stopsDigits_exponent he ht
  have hfraction := stopsDigits_fraction hf hexponent
  simp only [readNumber, minusPart_of_isWhole minus hwhole, wholeDigits_of_isWhole hwhole hfraction,
    fractionPart_of_writes hf hexponent (fun _ => ne_point_exponent he ht),
    exponentPart_of_writes he ht.stopsDigits (fun _ c hc => (ht c hc).2.2)]

/-- Whether a text begins with a digit, or with one behind a minus sign. -/
def beginsAsNumber : List Char → Bool
  | '-' :: cs => cs.head?.any isDigit
  | cs => cs.head?.any isDigit

theorem WritesNumber.begins {w : List Char} {v : Json} (h : WritesNumber w v) (t : List Char) :
    beginsAsNumber (w ++ t) = true := by
  have hbegins (minus : Bool) {whole : List Char} (hwhole : IsWhole whole) (rest : List Char) :
      beginsAsNumber (minusSign minus ++ (whole ++ rest)) = true := by
    obtain ⟨c, ds, rfl⟩ := List.exists_cons_of_ne_nil hwhole.isDigits.1
    have hc : isDigit c = true := hwhole.isDigits.2 c (List.mem_cons_self ..)
    obtain ⟨hminus, -⟩ := ne_sign_of_isDigit hc
    cases minus with
    | true => exact hc
    | false =>
        show beginsAsNumber (c :: (ds ++ rest)) = true
        rw [beginsAsNumber.eq_def]
        split
        · next hcut => exact absurd (List.cons.inj hcut).1 hminus
        · exact hc
  cases h with
  | int hwhole =>
      rw [List.append_assoc]
      exact hbegins _ hwhole t
  | float hwhole =>
      simp only [List.append_assoc]
      exact hbegins _ hwhole _

theorem WritesNumber.readNumber {w : List Char} {v : Json} (h : WritesNumber w v)
    (ht : EndsNumber t) : readNumber (w ++ t) = .ok (v, t) := by
  cases h with
  | @int minus whole hwhole hlength =>
      have hread := readNumber_parts minus hwhole .none .none ht
      rw [List.append_assoc]
      exact hread.trans ((if_pos rfl).trans (if_neg (Nat.not_lt.mpr hlength)))
  | @float minus whole f e fraction exponent hwhole hf he hsome =>
      have hread := readNumber_parts minus hwhole hf he ht
      have hpart : ¬ (fraction.isNone && exponent.isNone) = true := by
        rw [Bool.and_eq_true, Option.isNone_iff_eq_none, Option.isNone_iff_eq_none]
        exact hsome
      rw [if_neg hpart] at hread
      simp only [List.append_assoc]
      exact hread

/-- **WHAT IS READ AS A NUMBER** is of its form. -/
theorem writesNumber_of_readNumber {v : Json} (h : readNumber cs = .ok (v, rest)) :
    ∃ w, cs = w ++ rest ∧ WritesNumber w v := by
  have hsign := exists_minusSign cs
  simp only [readNumber] at h
  split at h
  · exact nomatch h
  · next whole behind hread =>
      obtain ⟨hbody, hwhole⟩ := isWhole_of_wholeDigits hread
      rw [hbody] at hsign
      rcases hfraction : fractionPart behind with ⟨fraction, behind'⟩
      rcases hexponent : exponentPart behind' with ⟨exponent, behind''⟩
      obtain ⟨f, rfl, hf⟩ := writesFraction_of_fractionPart hfraction
      obtain ⟨e, rfl, he⟩ := writesExponent_of_exponentPart hexponent
      simp only [hfraction, hexponent] at h
      split at h
      · next hnone =>
          rw [Bool.and_eq_true, Option.isNone_iff_eq_none, Option.isNone_iff_eq_none] at hnone
          obtain ⟨rfl, rfl⟩ := hnone
          split at h
          · exact nomatch h
          · next hlength =>
              obtain ⟨rfl, rfl⟩ := Prod.mk.inj (Except.ok.inj h)
              cases hf
              cases he
              refine ⟨_, ?_, .int hwhole (Nat.not_lt.mp hlength)⟩
              rw [List.append_assoc]
              exact hsign
      · next hsome =>
          rw [Bool.and_eq_true, Option.isNone_iff_eq_none, Option.isNone_iff_eq_none] at hsome
          obtain ⟨rfl, rfl⟩ := Prod.mk.inj (Except.ok.inj h)
          refine ⟨_, ?_, .float hwhole hf he hsome⟩
          simp only [List.append_assoc]
          exact hsign

end Numbers

end ContractScan.Json
