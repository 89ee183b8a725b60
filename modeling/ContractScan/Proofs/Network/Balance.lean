import ContractScan.Proofs.Chain.Ether
import ContractScan.Proofs.Network.Fetch
import ContractScan.Proofs.Text.Numeral

/-! # Balances

    A provider gives a balance in base sixteen, and a fetch hands it on as a
    number of ethers.  Both steps are exact for every balance below 10^28, which
    is more than there is of ether, so what the provider meant is what the text
    says (`balance_of_hexText`).

    **AMOUNTS ARE EXACT OR ROUNDED ONCE**: `amounts_are_rounded_once`. -/

namespace ContractScan.Network

open ContractScan.Chain ContractScan.Number ContractScan.Text

/-- A provider that answers with a code and a balance in base sixteen gives the
    text of this balance. -/
theorem balance_of_hexText {address url : String} {replies : List Reply} {code : Json} {n : Nat}
    (hcode : callResult codeCall (replyTo replies 0) = .ok code)
    (hbalance : callResult balanceCall (replyTo replies 1) = .ok (.str (hexText n))) :
    (askProvider address url replies).state =
      some ⟨code.orElse (.str "0x"), formatEther n⟩ := by
  have hgives : GivesState replies 0 code n := ⟨hcode, hexText n, hbalance, readHex_hexText n⟩
  have hrun : askProvider address url (replies.drop 0) = _ := askProvider_of_givesState hgives
  rw [List.drop_zero] at hrun
  rw [hrun]

/-- **AMOUNTS ARE EXACT OR ROUNDED ONCE**: the text of every amount is a tidy
    decimal, with a sign exactly if the amount is negative, and denotes the one
    number that the amount over 10^18 rounds to in 28 significant digits.  That
    is the number itself if 28 digits are enough; a greater amount never has a
    lesser one, and amounts below 10^28 have texts of their own.  So a balance
    below 10^28 that a provider gives in base sixteen is told exactly. -/
theorem amounts_are_rounded_once :
    (∀ wei : Int, ∃ d : PlainDecimal, d.IsTidy ∧ (formatEther wei).toList = d.text ∧
        (d.minus = true ↔ wei < 0) ∧
        ∀ r, RoundsTo 28 ((wei : ℚ) / 10 ^ 18) r ↔ r = d.value) ∧
      (∀ (m : Int) (k : Nat), m.natAbs < 10 ^ 28 →
        Denotes (formatEther (m * 10 ^ k)) (((m * 10 ^ k : Int) : ℚ) / 10 ^ 18)) ∧
      (∀ (wei wei' : Int) (q q' : ℚ), wei ≤ wei' → Denotes (formatEther wei) q →
        Denotes (formatEther wei') q' → q ≤ q') ∧
      (∀ wei wei' : Int, wei.natAbs < 10 ^ 28 → wei'.natAbs < 10 ^ 28 →
        formatEther wei = formatEther wei' → wei = wei') ∧
      ∀ (address url : String) (replies : List Reply) (code : Json) (n : Nat), n < 10 ^ 28 →
        callResult codeCall (replyTo replies 0) = .ok code →
        callResult balanceCall (replyTo replies 1) = .ok (.str (hexText n)) →
        ∃ state, (askProvider address url replies).state = some state ∧
          Denotes state.balance ((n : ℚ) / 10 ^ 18) := by
  refine ⟨fun wei => ⟨etherDecimal wei, isTidy_etherDecimal wei, toList_formatEther wei,
    decide_eq_true_iff, fun r => ?_⟩, fun m k hm => ?_, ?_, ?_, ?_⟩
  · rw [value_etherDecimal]
    constructor
    · exact fun h => h.unique (roundsTo_ethers wei)
    · rintro rfl
      exact roundsTo_ethers wei
  · have hvalue := formatEther_denotes (m * 10 ^ k)
    rwa [ethers_eq_of_digits hm] at hvalue
  · intro wei wei' q q' h hq hq'
    rw [hq.unique (formatEther_denotes wei), hq'.unique (formatEther_denotes wei')]
    exact ethers_mono h
  · exact fun wei wei' h h' => eq_of_formatEther_eq h h'
  · intro address url replies code n hn hcode hbalance
    refine ⟨_, balance_of_hexText hcode hbalance, ?_⟩
    have hvalue := formatEther_denotes n
    have hlt : (n : Int).natAbs < 10 ^ etherDigits := hn
    rwa [ethers_eq_of_lt hlt, Int.cast_natCast] at hvalue

/-- A provider that gives a code and a balance of 255 smallest units. -/
def smallBalance : List Reply :=
  [answered "\x7b\"result\": \"0x61\"\x7d", answered "\x7b\"result\": \"0xff\"\x7d"]

/-- A debt of one and a half ethers is written as such, and a balance of 255
    smallest units is told exactly. -/
theorem amounts_of_debt_and_small_balance :
    Denotes (formatEther (-15 * 10 ^ 17)) (-3 / 2) ∧
      ∃ state, (askProvider sampleAddress "https://first.test" smallBalance).state = some state ∧
        Denotes state.balance (255 / 10 ^ 18) := by
  obtain ⟨-, hexact, -, -, hbalance⟩ := amounts_are_rounded_once
  have hdebt := hexact (-15) 17 (by decide)
  have hcode : callResult codeCall (replyTo smallBalance 0) = .ok (.str "0x61") :=
    callResult_eq_str (by decide +kernel)
  have hwei : callResult balanceCall (replyTo smallBalance 1) = .ok (.str (hexText 255)) :=
    callResult_eq_str (by decide +kernel)
  refine ⟨?_, hbalance sampleAddress "https://first.test" smallBalance (.str "0x61") 255
    (by decide) hcode hwei⟩
  norm_num at hdebt ⊢
  exact hdebt

end ContractScan.Network
