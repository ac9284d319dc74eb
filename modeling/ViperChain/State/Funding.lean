import ViperChain.Assumptions
import ViperChain.State.Frames

/-!
A vault address that is paid before its vault exists: the account has no keys, and the vault can
no longer be created.
-/

namespace ViperChain

open Fallible

variable {env : Env} {store next : StateStore} {tx : Transaction} {address : Address}

def vaultAddress (env : Env) (store : StateStore) (tx : Transaction) : Except ApplyError Address := do
  let payload ← decodeVaultCreatePayload env tx.payload
  let algId ← okOr (AlgId.fromU16 payload.algId) .unsupportedAlgorithm
  return deriveAddress env store.chainId algId payload.pkBytes

inductive Funds (env : Env) (store : StateStore) (address : Address) : StateStore → Prop
  | transfer (payment : Transaction) (amount : Nat) (next : StateStore)
      (addressed : decodeTokenTransferPayload env payment.payload = .ok (address, amount))
      (paid : applyTokenTransfer env store payment = .ok next) : Funds env store address next
  | fees (amount : Nat) (positive : amount ≠ 0) :
      Funds env store address (creditAccount env store address amount)

theorem creditAccount_contains (store : StateStore) (address : Address) {amount : Nat}
    (positive : amount ≠ 0) :
    ((creditAccount env store address amount).getAccount address).isSome = true := by
  unfold creditAccount
  rw [if_neg positive]
  split
  case isTrue known =>
    obtain ⟨account, present⟩ := Option.isSome_iff_exists.mp known
    simp [present]
  case isFalse => simp [Account.credited]

theorem creditRecipient_contains (store : StateStore) (address : Address) (amount : Nat) :
    ((creditRecipient env store address amount).getAccount address).isSome = true := by
  unfold creditRecipient
  split
  case isTrue known =>
    obtain ⟨account, present⟩ := Option.isSome_iff_exists.mp known
    simp [present]
  case isFalse => simp [Account.credited]

theorem Funds.effect (funds : Funds env store address next) :
    SameTerms store next ∧ (next.getAccount address).isSome = true := by
  cases funds with
  | fees amount positive =>
      obtain ⟨_, credited⟩ := @creditAccount_frame env store address amount
      exact ⟨credited ▸ ⟨rfl, rfl, rfl, rfl⟩, creditAccount_contains store address positive⟩
  | transfer payment amount _ addressed paid =>
      simp only [applyTokenTransfer, addressed, bind_eq_ok, pure_eq_ok, Except.ok.injEq,
        exists_eq_left'] at paid
      obtain ⟨_, _, _, _, _, _, _, _, rfl⟩ := paid
      obtain ⟨_, credited⟩ := @creditRecipient_frame env (withdraw env store payment.sender amount)
        address amount
      exact ⟨credited ▸ ⟨rfl, rfl, rfl, rfl⟩, creditRecipient_contains _ address amount⟩

/-- Every payment to the address of a vault that could be created makes its creation
impossible. -/
theorem vaultCreate_refused_after_funding (env : Env) (store created next : StateStore)
    (tx : Transaction) (address : Address) (accepted : applyVaultCreate env store tx = .ok created)
    (addressed : vaultAddress env store tx = .ok address) (funds : Funds env store address next) :
    applyVaultCreate env next tx = .error .accountExists := by
  obtain ⟨terms, present⟩ := funds.effect
  simp only [vaultAddress, bind_eq_ok, okOr_eq_ok, pure_eq_ok] at addressed
  obtain ⟨payload, decoded, algId, known, derived⟩ := addressed
  simp only [applyVaultCreate, decoded, bind_eq_ok, okOr_eq_ok, require_eq_ok, known,
    Except.ok.injEq, Option.some.injEq, exists_eq_left', pure_eq_ok] at accepted
  obtain ⟨entry, listed, _, active, _, sized, _, permitted, _⟩ := accepted
  have listedNext : next.algEntry algId = some entry := by
    rw [← listed, StateStore.algEntry, StateStore.algEntry, terms.algRegistry]
  have taken : (next.getAccount (deriveAddress env next.chainId algId payload.pkBytes)).isNone =
      false := by
    rw [terms.chainId, derived]
    simpa using present
  simp only [applyVaultCreate, decoded, known, listedNext, active, sized, permitted, taken, okOr,
    require, bind, Except.bind, if_true, Bool.false_eq_true, if_false]

section Sample

def vaultKey : Bytes := List.replicate 32 7

def vaultPayload : Value :=
  .map
    [ (.integer 1, .integer AlgId.slhDsaSha2128s.asU16), (.integer 2, .bytes vaultKey),
      (.integer 3, .integer AllowedTx.slhDsaOnly), (.integer 4, .integer 0) ]

def vaultTx : Transaction where
  txVersion := 1
  chainId := []
  msgType := .vaultCreate
  sender := Bytes32.fill 1
  nonce := 0
  fee := 100
  feeTip := 0
  gasLimit := 100
  payload := CborFormat.write vaultPayload
  sigAlgId := .mlDsa65
  sigKeyVersion := 1
  signature := []

def vaultHome : Address := deriveAddress sampleEnv [] .slhDsaSha2128s vaultKey

theorem vaultTx_accepted : ∃ created,
    applyVaultCreate sampleEnv (StateStore.new sampleEnv) vaultTx = .ok created := by
  have outcome : ((applyVaultCreate sampleEnv (StateStore.new sampleEnv) vaultTx).toOption.map
      fun created => (created.getAccount vaultHome).isSome) = some true := by decide +kernel
  obtain ⟨created, accepted, _⟩ := exists_ok_of_toOption outcome
  exact ⟨created, accepted⟩

theorem vaultTx_addressed : vaultAddress sampleEnv (StateStore.new sampleEnv) vaultTx =
    .ok vaultHome := by decide +kernel

/-- One token of fees for the address, and the vault is refused. -/
theorem fundedVault_locked : (∃ created,
    applyVaultCreate sampleEnv (StateStore.new sampleEnv) vaultTx = .ok created) ∧
      ∃ error, applyVaultCreate sampleEnv
        (creditAccount sampleEnv (StateStore.new sampleEnv) vaultHome 1) vaultTx = .error error := by
  refine ⟨vaultTx_accepted, ?_⟩
  have outcome : (applyVaultCreate sampleEnv
      (creditAccount sampleEnv (StateStore.new sampleEnv) vaultHome 1) vaultTx).toOption.isNone =
      true := by decide +kernel
  cases result : applyVaultCreate sampleEnv
      (creditAccount sampleEnv (StateStore.new sampleEnv) vaultHome 1) vaultTx with
  | error error => exact ⟨error, rfl⟩
  | ok created =>
      rw [result] at outcome
      simp [Except.toOption] at outcome

theorem vaultCreate_refused_after_fees : ∃ created,
    applyVaultCreate sampleEnv (StateStore.new sampleEnv) vaultTx = .ok created ∧
      applyVaultCreate sampleEnv
        (creditAccount sampleEnv (StateStore.new sampleEnv) vaultHome 1) vaultTx =
          .error .accountExists := by
  obtain ⟨created, accepted⟩ := vaultTx_accepted
  exact ⟨created, accepted, vaultCreate_refused_after_funding sampleEnv (StateStore.new sampleEnv)
    created _ vaultTx vaultHome accepted vaultTx_addressed (.fees 1 (by decide))⟩

end Sample

end ViperChain
