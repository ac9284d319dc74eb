import ViperChain.Assumptions
import ViperChain.State.Atomicity
import ViperChain.State.Supply

/-!
The fees of a block as a list of credits. The shares add up to the fees, and an account that is
on the list twice is paid twice.
-/

namespace ViperChain

variable {env : Env} {store : StateStore}

section PayOut

def payOut (env : Env) (store : StateStore) (payouts : List (Address × Nat)) : StateStore :=
  payouts.foldl (fun current payout => creditAccount env current payout.1 payout.2) store

def payoutTotal (payouts : List (Address × Nat)) : Nat := (payouts.map Prod.snd).sum

@[simp] theorem payOut_nil (store : StateStore) : payOut env store [] = store := rfl

@[simp] theorem payOut_cons (store : StateStore) (payout : Address × Nat)
    (payouts : List (Address × Nat)) :
    payOut env store (payout :: payouts) =
      payOut env (creditAccount env store payout.1 payout.2) payouts := rfl

@[simp] theorem payOut_append (store : StateStore) (first second : List (Address × Nat)) :
    payOut env store (first ++ second) = payOut env (payOut env store first) second :=
  List.foldl_append

theorem payOut_grows (payouts : List (Address × Nat)) (store : StateStore) :
    AccountsGrow store (payOut env store payouts) :=
  List.foldlRecOn payouts _ (AccountsGrow.refl store) fun current grown payout _ =>
    grown.trans (creditAccount_grows current payout.1 payout.2)

theorem payOut_balances (payouts : List (Address × Nat)) (store : StateStore)
    (bound : store.balances + payoutTotal payouts ≤ u128Max) :
    (payOut env store payouts).balances = store.balances + payoutTotal payouts := by
  induction payouts generalizing store with
  | nil => rfl
  | cons payout payouts ih =>
      have total : payoutTotal (payout :: payouts) = payout.2 + payoutTotal payouts := by
        simp [payoutTotal]
      have credited := creditAccount_balances env store payout.1 payout.2 (by omega)
      rw [payOut_cons, ih _ (by omega), credited, total]
      omega

theorem payOut_getAccount_of_unpaid (payouts : List (Address × Nat)) (store : StateStore)
    {address : Address} (unpaid : address ∉ payouts.map Prod.fst) :
    (payOut env store payouts).getAccount address = store.getAccount address := by
  induction payouts generalizing store with
  | nil => rfl
  | cons payout payouts ih =>
      rw [List.map_cons, List.mem_cons, not_or] at unpaid
      rw [payOut_cons, ih _ unpaid.2]
      unfold creditAccount
      split
      · rfl
      · split
        · rw [getAccount_updateAccount, if_neg (Ne.symm unpaid.1)]
        · rw [getAccount_insertAccount]
          exact if_neg (Ne.symm unpaid.1)

theorem payOut_creditsOnly (payouts : List (Address × Nat)) (store : StateStore)
    (bound : store.balances + payoutTotal payouts ≤ u128Max) (address : Address) :
    CreditsOnly store (payOut env store payouts) address := by
  induction payouts generalizing store with
  | nil => exact .of_getAccount rfl
  | cons payout payouts ih =>
      have total : payoutTotal (payout :: payouts) = payout.2 + payoutTotal payouts := by
        simp [payoutTotal]
      have credited := creditAccount_balances env store payout.1 payout.2 (by omega)
      refine (creditsOnly_creditAccount store payout.1 address payout.2 ?_).trans
        (ih _ (by omega))
      intro account present
      have held := balance_le_balances present
      omega

end PayOut

section Shares

def poolPayouts (proposer : Address) (validatorFees : Nat) (poolValidators : List Address)
    (params : FeeDistributionParams) : List (Address × Nat) :=
  let proposerPriority := satMul128 validatorFees (min params.proposerShareBps 10000) / 10000
  let poolTotal := validatorFees - proposerPriority
  let perValidator := poolTotal / poolValidators.length
  let remainder := poolTotal - satMul128 perValidator poolValidators.length
  (proposer, satAdd128 proposerPriority remainder) ::
    if perValidator > 0 then poolValidators.map fun address => (address, perValidator) else []

def feePayouts (store : StateStore) (proposer : Address) (feesCollected : Nat)
    (poolValidators : List Address) (params : FeeDistributionParams) : List (Address × Nat) :=
  let burned := burnAmount store feesCollected
  let validatorFees := feesCollected - burned
  (if burned > 0 then [(zeroAddress, burned)] else []) ++
    if validatorFees = 0 then []
    else if poolValidators.isEmpty then [(proposer, validatorFees)]
    else poolPayouts proposer validatorFees poolValidators params

theorem distributeToPool_eq_payOut (proposer : Address) (fees : Nat) (pool : List Address)
    (params : FeeDistributionParams) :
    distributeToPool env store proposer fees pool params =
      payOut env store (poolPayouts proposer fees pool params) := by
  simp only [distributeToPool, poolPayouts, payOut_cons]
  split
  · simp only [payOut, List.foldl_map]
  · rfl

theorem burnAmount_zero (store : StateStore) : burnAmount store 0 = 0 := by
  simp [burnAmount, satMul128]

theorem distributeBlockFees_eq_payOut (store : StateStore) (proposer : Address) (fees : Nat)
    (pool : List Address) (params : FeeDistributionParams) :
    distributeBlockFees env store proposer fees pool params =
      payOut env store (feePayouts store proposer fees pool params) := by
  simp only [distributeBlockFees, feePayouts, payOut_append]
  have burnt : (if burnAmount store fees > 0 then
      creditAccount env store zeroAddress (burnAmount store fees) else store) =
      payOut env store (if burnAmount store fees > 0 then [(zeroAddress, burnAmount store fees)]
        else []) := by
    split <;> rfl
  split
  case isTrue nothing => simp [nothing, burnAmount_zero]
  case isFalse =>
    rw [burnt]
    split
    · rfl
    · split
      · rfl
      · exact distributeToPool_eq_payOut proposer _ pool params

theorem burnAmount_le (burnRate : store.feeMarket.burnRateBps ≤ 10000) (fees : Nat) :
    burnAmount store fees ≤ fees := by
  unfold burnAmount
  split
  · exact share_le burnRate
  · exact Nat.zero_le _

theorem poolPayouts_total (proposer : Address) {fees : Nat} (pool : List Address)
    (params : FeeDistributionParams) (fits : fees ≤ u128Max) :
    payoutTotal (poolPayouts proposer fees pool params) = fees := by
  have priority : satMul128 fees (min params.proposerShareBps 10000) / 10000 ≤ fees :=
    share_le (Nat.min_le_right _ _)
  simp only [poolPayouts]
  generalize satMul128 fees (min params.proposerShareBps 10000) / 10000 = first at priority ⊢
  have divided : pool.length * ((fees - first) / pool.length) ≤ fees - first :=
    Nat.mul_div_le _ _
  generalize (fees - first) / pool.length = each at divided ⊢
  have spread : satMul128 each pool.length = pool.length * each := by
    rw [satMul128, Nat.mul_comm, Nat.min_eq_left (by omega)]
  have rest : satAdd128 first (fees - first - satMul128 each pool.length) =
      fees - pool.length * each := by
    rw [spread, satAdd128_eq (by omega)]
    omega
  rw [rest]
  split
  case isTrue =>
    have members : payoutTotal (pool.map fun address => (address, each)) = pool.length * each := by
      simp [payoutTotal, Function.comp_def]
    have total : payoutTotal ((proposer, fees - pool.length * each) ::
        pool.map fun address => (address, each)) =
        (fees - pool.length * each) + payoutTotal (pool.map fun address => (address, each)) := by
      simp [payoutTotal]
    omega
  case isFalse nothing =>
    have zero : each = 0 := by omega
    simp [payoutTotal, zero]

theorem feePayouts_total (proposer : Address) {fees : Nat} (pool : List Address)
    (params : FeeDistributionParams) (burnRate : store.feeMarket.burnRateBps ≤ 10000)
    (fits : fees ≤ u128Max) : payoutTotal (feePayouts store proposer fees pool params) = fees := by
  have burned := burnAmount_le burnRate fees
  simp only [feePayouts]
  generalize burnAmount store fees = burnt at burned ⊢
  have first : payoutTotal (if burnt > 0 then [(zeroAddress, burnt)] else []) = burnt := by
    split
    · simp [payoutTotal]
    · simp only [payoutTotal, List.map_nil, List.sum_nil]
      omega
  have joined : ∀ left right, payoutTotal (left ++ right) = payoutTotal left + payoutTotal right := by
    intro left right
    simp [payoutTotal]
  rw [joined, first]
  split
  case isTrue nothing =>
    simp only [payoutTotal, List.map_nil, List.sum_nil]
    omega
  case isFalse =>
    split
    · simp only [payoutTotal, List.map_cons, List.map_nil, List.sum_singleton]
      omega
    · rw [poolPayouts_total proposer pool params (by omega)]
      omega

theorem feePayouts_recipients (proposer : Address) (fees : Nat) (pool : List Address)
    (params : FeeDistributionParams) {address : Address}
    (paid : address ∈ (feePayouts store proposer fees pool params).map Prod.fst) :
    address = zeroAddress ∨ address = proposer ∨ address ∈ pool := by
  simp only [feePayouts, poolPayouts, List.map_append, List.mem_append] at paid
  rcases paid with burnt | shared
  · split at burnt
    · exact .inl (by simpa using burnt)
    · simp at burnt
  · split at shared
    · simp at shared
    · split at shared
      · exact .inr (.inl (by simpa using shared))
      · rw [List.map_cons, List.mem_cons] at shared
        rcases shared with first | member
        · exact .inr (.inl first)
        · split at member
          · rw [List.map_map] at member
            exact .inr (.inr (by simpa using member))
          · simp at member

end Shares

/-- The balances rise by the fees exactly, none falls, and only the zero address, the
proposer and the pool can have been paid. -/
theorem distributeBlockFees_exact (env : Env) (store : StateStore) (proposer : Address)
    (feesCollected : Nat) (poolValidators : List Address) (params : FeeDistributionParams)
    (burnRate : store.feeMarket.burnRateBps ≤ 10000)
    (bound : store.balances + feesCollected < 2 ^ 128) :
    let paid := distributeBlockFees env store proposer feesCollected poolValidators params
    paid.balances = store.balances + feesCollected ∧
      (∀ address, CreditsOnly store paid address) ∧
      ∀ address, address ≠ zeroAddress → address ≠ proposer → address ∉ poolValidators →
        paid.getAccount address = store.getAccount address := by
  have fits : store.balances + feesCollected ≤ u128Max := Nat.le_pred_of_lt bound
  have total := feePayouts_total proposer poolValidators params burnRate
    (show feesCollected ≤ u128Max by omega)
  intro paid
  have listed : paid = payOut env store
      (feePayouts store proposer feesCollected poolValidators params) :=
    distributeBlockFees_eq_payOut store proposer feesCollected poolValidators params
  rw [listed]
  refine ⟨?_, fun address => payOut_creditsOnly _ store (by omega) address, ?_⟩
  · rw [payOut_balances _ store (by omega), total]
  · intro address notZero notProposer outside
    refine payOut_getAccount_of_unpaid _ store fun recipient => ?_
    rcases feePayouts_recipients proposer feesCollected poolValidators params recipient with
      zero | named | member
    · exact notZero zero
    · exact notProposer named
    · exact outside member

theorem distributeBlockFees_exact_repeated :
    (StateStore.new sampleEnv).feeMarket.burnRateBps ≤ 10000 ∧
      (distributeBlockFees sampleEnv (StateStore.new sampleEnv) (Bytes32.fill 1) 10
        [Bytes32.fill 1, Bytes32.fill 1, Bytes32.fill 2] ⟨3000⟩).balances = 10 := by
  have burnRate : (StateStore.new sampleEnv).feeMarket.burnRateBps ≤ 10000 := by decide
  have empty : (StateStore.new sampleEnv).balances = 0 := rfl
  have exact := distributeBlockFees_exact sampleEnv (StateStore.new sampleEnv) (Bytes32.fill 1) 10
    [Bytes32.fill 1, Bytes32.fill 1, Bytes32.fill 2] ⟨3000⟩ burnRate (by rw [empty]; decide)
  exact ⟨burnRate, by rw [exact.1, empty]⟩

end ViperChain
