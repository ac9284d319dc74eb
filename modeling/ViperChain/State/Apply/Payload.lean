import ViperChain.State.Store
import ViperChain.Tx.Codec

/-!
Errors of the transaction handlers and the payload walk they share: a fold over the map entries
that knows some fields and rejects or skips the others.
-/

namespace ViperChain

open Fallible

inductive ApplyError where
  | accountExists
  | unsupportedAlgorithm
  | invalidKeyPermissions
  | invalidKeySize
  | invalidActivationHeight
  | transferAmountZero
  | selfTransfer
  | insufficientFunds
  | invalidRecipient
  | attestationExists
  | invalidAttestationType
  | invalidHash
  | invalidExpiry
  | invalidClaimType
  | policyVersionConflict
  | attestationNotFound
  | attestationAlreadyRevoked
  | unauthorizedRevoker
  | keyVersionConflict
  | keyNotFound
  | keyAlreadyRevoked
  | insufficientActiveKeys
  | invalidKeyRotation
  | signerIsTarget
  | notAValidator
  | algorithmNotAllowedForConsensus
  | invalidRotationHeight
  | proposalOutOfScope
  | invalidLifecycleTransition
  | governanceNoEffect
  | reservedAlgIdRange (algId : Nat)
  | invalidSize
  | invalidInitialLifecycle
  | reservedSlashingEvidenceType (evidenceType : Nat)
  | invalidSlashingFraction
  | reservedHashIdRange (hashId : Nat)
  | validatorAlreadyRegistered
  | validatorNotFound
  | validatorNotActive
  | validatorNotJailed
  | validatorExitWouldEmptySet
  | algorithmNotAllowedForConsensusKey
  | validatorBondZero
  | validatorConsensusKeyConflict
  | validatorPeerIdTooLarge
  | validatorPeerIdConflict
  | validatorPeerIdEmpty
  | validatorPeerIdNotRotatable
  | alreadyTombstoned
  | evidenceExpired
  | equivocationNotProven
  | evidenceHeightMismatch
  | evidenceRoundMismatch
  | evidenceStepMismatch
  | invalidSignature
  | proposalNotFound
  | proposalNotVoting
  | votingPeriodClosed
  | alreadyVoted
  | notAnActiveValidatorForVote
  | duplicateProposal
  | burnRateOutOfRange
  | blockGasLimitZero
  | archivalAlgorithmNotAllowed
  | archivalInvalidPkSize
  | archivalValidatorNotEligible
  | duplicateArchivalRecord
  | archivalEpochInFuture
  | archivalSignerNotAuthorized
  | archivalThresholdNotMet
  | archivalSignatureInvalid
  | archivalMissingKey
  | archivalRecordNotFound
  | archivalUnknownAnchorKind
  | archivalAnchorTooLarge
  | archivalNotRenewer
  | payloadDecode (detail : String)
  | tokenEconomicsDisabled
  | softwareUpgradeVersionMismatch (activateAtTimestampNs expectedVersion actualVersion : Nat)
deriving DecidableEq, Repr

namespace Payload

section Values

def expectInteger (value : Value) : Except ApplyError Int :=
  okOr value.asInteger? (.payloadDecode "expected integer")

def expectUint (width : Nat) (field : String) (value : Value) : Except ApplyError Nat := do
  let _ ← expectInteger value
  okOr (value.asUint? width) (.payloadDecode s!"{field} out of u{width} range")

def expectBytes (value : Value) : Except ApplyError Bytes :=
  okOr value.asBytes? (.payloadDecode "expected bytes")

def expectHash32 (value : Value) : Except ApplyError Bytes32 := do
  let bytes ← expectBytes value
  okOr (Bytes32.ofBytes? bytes) .invalidHash

def expectText (value : Value) : Except ApplyError Text :=
  okOr value.asText? (.payloadDecode "expected text string")

def required {A : Type} (field : Option A) (label : String) : Except ApplyError A :=
  okOr field (.payloadDecode s!"missing field {label}")

def unknownKey {A : Type} (key : Int) : Except ApplyError A :=
  .error (.payloadDecode s!"unknown payload key: {key}")

end Values

section Walks

variable {P : Type} (env : Env)

/-- A payload that must be a nonempty CBOR map with integer keys; `step` sees every entry
and rejects the keys it does not know. -/
def strictFields (payload : Bytes) (step : Int → Value → P → Except ApplyError P) (initial : P) :
    Except ApplyError P := do
  require (!payload.isEmpty) (.payloadDecode "empty payload")
  let value ← (env.cborDecode payload).mapError .payloadDecode
  let map ← okOr value.asMap? (.payloadDecode "payload must be a CBOR map")
  map.foldlM (fun fields entry => do
    let key ← okOr entry.1.asInteger? (.payloadDecode "non-integer map key")
    step key entry.2 fields) initial

def strictFieldsKeysFirst (payload : Bytes) (step : Int → Value → P → Except ApplyError P)
    (initial : P) : Except ApplyError P := do
  require (!payload.isEmpty) (.payloadDecode "empty payload")
  let value ← (env.cborDecode payload).mapError .payloadDecode
  let map ← okOr value.asMap? (.payloadDecode "payload must be a CBOR map")
  let entries ← map.mapM fun entry => do
    let key ← okOr entry.1.asInteger? (.payloadDecode "non-integer map key")
    return (key, entry.2)
  entries.foldlM (fun fields entry => step entry.1 entry.2 fields) initial

/-- The walk of the validator and archival handlers: keys they do not know, integers or
not, are skipped. -/
def lenientFields (payload : Bytes) (step : Int → Value → P → Except ApplyError P) (initial : P) :
    Except ApplyError P := do
  let value ← (env.cborDecode payload).mapError fun error =>
    ApplyError.payloadDecode s!"CBOR decode failed: {error}"
  let map ← okOr value.asMap? (.payloadDecode "expected CBOR map")
  map.foldlM (fun fields entry =>
    match entry.1.asInteger? with
    | some key => step key entry.2 fields
    | none => .ok fields) initial

variable {env}

theorem strictFields_invariant {payload : Bytes} {step : Int → Value → P → Except ApplyError P}
    {holds : P → Prop} {initial result : P} (start : holds initial)
    (kept : ∀ key value fields next, holds fields → step key value fields = .ok next → holds next)
    (decoded : strictFields env payload step initial = .ok result) : holds result := by
  simp only [strictFields, bind_eq_ok, require_eq_ok, okOr_eq_ok, mapError_eq_ok] at decoded
  obtain ⟨_, _, _, _, map, _, walked⟩ := decoded
  refine foldlM_invariant holds map initial result start ?_ walked
  intro fields entry next _ holding stepped
  simp only [bind_eq_ok, okOr_eq_ok] at stepped
  obtain ⟨key, _, stepped⟩ := stepped
  exact kept key entry.2 fields next holding stepped

end Walks

end Payload

def recordId (env : Env) (tx : Transaction) : Except ApplyError Bytes32 := do
  let raw ← (encodeTx env tx).mapError fun _ =>
    ApplyError.payloadDecode "ENCODING_INVALID: transaction is not valid deterministic CBOR"
  return computeTxHash env raw

def withdraw (env : Env) (store : StateStore) (address : Address) (amount : Nat) : StateStore :=
  (store.modifyAccount address fun account => { account with balance := account.balance - amount })
    |>.commitAccountMutation env address

def creditAccount (env : Env) (store : StateStore) (address : Address) (amount : Nat) : StateStore :=
  if amount = 0 then store
  else if (store.getAccount address).isSome then
    (store.modifyAccount address fun account =>
        { account with balance := satAdd128 account.balance amount })
      |>.commitAccountMutation env address
  else store.insertAccount env (.credited address amount)

end ViperChain
