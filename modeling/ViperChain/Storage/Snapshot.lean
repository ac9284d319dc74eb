import ViperChain.State.Apply.Governance

/-!
The state part of a checkpoint: the record a state is written as, and the state built from it.
The CBOR text is left out.
-/

namespace ViperChain.Storage

open CachedTables

section Records

structure KeyRecord where
  algId : Nat
  pkBytes : Bytes
  keyVersion : Nat
  validFromHeight : Nat
  status : Nat
  allowedTxTypes : Nat

structure AccountRecord where
  address : Bytes32
  balance : Nat
  nonce : Nat
  keys : List KeyRecord

structure AttestationRevocationRecord where
  revokedAtHeight : Nat
  revoker : Bytes32
  revocationReasonHash : Option Bytes32

structure AttestationRecord where
  attestationId : Bytes32
  attester : Bytes32
  subject : Bytes32
  attestationType : Nat
  contentHash : Bytes32
  schemaId : Bytes32
  metadataHash : Option Bytes32
  anchorHeight : Nat
  expiresAtHeight : Option Nat
  status : Nat
  revocation : Option AttestationRevocationRecord

structure GovernanceReceiptRecord where
  proposalId : Bytes32
  proposalType : Nat
  proposer : Bytes32
  targetAlgId : Nat
  lifecycleBefore : Nat
  lifecycleAfter : Nat
  minFeeBefore : Nat
  minFeeAfter : Nat
  rationaleHash : Bytes32
  executedAtHeight : Nat

structure AlgRegistryRecord where
  algId : Nat
  specRef : Text
  pkSize : Nat
  sigSize : Nat
  sigClass : Option Nat
  minFee : Nat
  lifecycle : Nat
  benchmarkVerifyPerSec : Nat

structure ValidatorSnapshotRecord where
  operator : Bytes32
  nodeId : Text
  consensusAlgId : Nat
  consensusPk : Bytes
  selfBond : Nat
  status : Nat
  unbondingStartHeight : Nat
  registeredHeight : Nat
  tombstoned : Bool

structure EffectRecord where
  effectType : Nat
  algId : Nat
  hasLifecycle : Bool
  lifecycle : Nat
  hasMinFee : Bool
  minFee : Nat
  burnRateBps : Nat
  blockGasLimit : Nat
  activateAtTimestampNs : Nat
  expectedVersion : Nat

structure PendingProposalRecord where
  proposalId : Bytes32
  proposalType : Nat
  proposer : Bytes32
  votingDeadline : Nat
  executeAfter : Nat
  rationaleHash : Bytes32
  status : Nat
  effect : EffectRecord
  votes : List (Bytes32 × Bool)

structure PendingUpgradeRecord where
  proposalId : Bytes32
  activateAtTimestampNs : Nat
  expectedVersion : Nat

structure StateSnapshotRecord where
  blockHeight : Nat
  accounts : List AccountRecord
  attestations : List AttestationRecord
  governanceReceipts : List GovernanceReceiptRecord
  algRegistry : List AlgRegistryRecord
  validators : List ValidatorSnapshotRecord
  feeMarketBaseFee : Nat
  feeMarketBlockGasLimit : Nat
  feeMarketBurnRateBps : Nat
  pendingProposals : List PendingProposalRecord
  pendingUpgrades : List PendingUpgradeRecord

inductive StorageError where
  | invalidPersistedAlgId (algId : Nat)
  | invalidPersistedValue (detail : String)
  | checkpointRegistryMismatch (detail : String)
deriving DecidableEq

end Records

section Codes

def encodeAttestationStatus : AttestationStatus → Nat
  | .active => 0
  | .revoked => 1

def decodeAttestationStatus : Nat → Option AttestationStatus
  | 0 => some .active
  | 1 => some .revoked
  | _ => none

def encodeKeyStatus : KeyStatus → Nat
  | .pending => 0
  | .active => 1
  | .revoked => 2

def decodeKeyStatus : Nat → Option KeyStatus
  | 0 => some .pending
  | 1 => some .active
  | 2 => some .revoked
  | _ => none

def encodeLifecycle : Lifecycle → Nat
  | .active => 0
  | .discouraged => 1
  | .deprecated => 2
  | .banned => 3

def decodeLifecycle : Nat → Option Lifecycle
  | 0 => some .active
  | 1 => some .discouraged
  | 2 => some .deprecated
  | 3 => some .banned
  | _ => none

def encodeSigClass : SigClass → Nat
  | .reduced => 0
  | .standard => 1
  | .premium => 2

def encodeValidatorStatus : ValidatorStatus → Nat × Nat
  | .candidate => (0, 0)
  | .active => (1, 0)
  | .jailed => (2, 0)
  | .unbonding startHeight => (3, startHeight)
  | .exited => (4, 0)

def decodeValidatorStatus (encoded unbondingStartHeight : Nat) : Option ValidatorStatus :=
  match encoded with
  | 0 => some .candidate
  | 1 => some .active
  | 2 => some .jailed
  | 3 => some (.unbonding unbondingStartHeight)
  | 4 => some .exited
  | _ => none

def encodeProposalStatus : ProposalStatus → Nat
  | .voting => 0
  | .executed => 1
  | .expired => 2
  | .rejected => 3
  | .executionFailed => 4

def decodeProposalStatus : Nat → Option ProposalStatus
  | 0 => some .voting
  | 1 => some .executed
  | 2 => some .expired
  | 3 => some .rejected
  | 4 => some .executionFailed
  | _ => none

end Codes

section Orders

variable (store : StateStore)

def accountsInOrder : List Account :=
  store.accounts.values.insertionSort fun left right => left.address ≤ right.address

def attestationsInOrder : List Attestation :=
  store.attestations.values.insertionSort fun left right => left.attestationId ≤ right.attestationId

def governanceReceiptsInOrder : List GovernanceReceipt :=
  store.governanceReceipts.values.insertionSort fun left right => left.proposalId ≤ right.proposalId

def algEntriesInOrder : List AlgEntry :=
  store.algRegistry.values.insertionSort fun left right => left.algId.asU16 ≤ right.algId.asU16

def validatorsInOrder : List ValidatorRecord :=
  store.validators.values.insertionSort fun left right => left.operator ≤ right.operator

def pendingProposalsInOrder : List PendingProposal :=
  store.pendingProposals.values.insertionSort fun left right => left.proposalId ≤ right.proposalId

end Orders

section Writing

def keyIntoRecord (key : KeyEntry) : KeyRecord where
  algId := key.algId.asU16
  pkBytes := key.pkBytes
  keyVersion := key.keyVersion
  validFromHeight := key.validFromHeight
  status := encodeKeyStatus key.status
  allowedTxTypes := key.allowedTxTypes

def accountIntoRecord (account : Account) : AccountRecord where
  address := account.address
  balance := account.balance
  nonce := account.nonce
  keys := account.keys.map keyIntoRecord

def attestationIntoRecord (attestation : Attestation) : AttestationRecord where
  attestationId := attestation.attestationId
  attester := attestation.attester
  subject := attestation.subject
  attestationType := attestation.attestationType
  contentHash := attestation.contentHash
  schemaId := attestation.schemaId
  metadataHash := attestation.metadataHash
  anchorHeight := attestation.anchorHeight
  expiresAtHeight := attestation.expiresAtHeight
  status := encodeAttestationStatus attestation.status
  revocation := attestation.revocation.map fun revocation =>
    ⟨revocation.revokedAtHeight, revocation.revoker, revocation.revocationReasonHash⟩

def receiptIntoRecord (receipt : GovernanceReceipt) : GovernanceReceiptRecord where
  proposalId := receipt.proposalId
  proposalType := receipt.proposalType.asU8
  proposer := receipt.proposer
  targetAlgId := receipt.targetAlgId.asU16
  lifecycleBefore := encodeLifecycle receipt.lifecycleBefore
  lifecycleAfter := encodeLifecycle receipt.lifecycleAfter
  minFeeBefore := receipt.minFeeBefore
  minFeeAfter := receipt.minFeeAfter
  rationaleHash := receipt.rationaleHash
  executedAtHeight := receipt.executedAtHeight

def algEntryIntoRecord (entry : AlgEntry) : AlgRegistryRecord where
  algId := entry.algId.asU16
  specRef := entry.specRef
  pkSize := entry.pkSize
  sigSize := entry.sigSize
  sigClass := entry.sigClass.map encodeSigClass
  minFee := entry.minFee
  lifecycle := encodeLifecycle entry.lifecycle
  benchmarkVerifyPerSec := entry.benchmarkVerifyPerSec

def validatorIntoRecord (record : ValidatorRecord) : ValidatorSnapshotRecord where
  operator := record.operator
  nodeId := record.nodeId
  consensusAlgId := record.consensusAlgId.asU16
  consensusPk := record.consensusPk
  selfBond := record.selfBond
  status := (encodeValidatorStatus record.status).1
  unbondingStartHeight := (encodeValidatorStatus record.status).2
  registeredHeight := record.registeredHeight
  tombstoned := record.tombstoned

def EffectRecord.ofType (effectType : Nat) : EffectRecord where
  effectType
  algId := 0
  hasLifecycle := false
  lifecycle := 0
  hasMinFee := false
  minFee := 0
  burnRateBps := 0
  blockGasLimit := 0
  activateAtTimestampNs := 0
  expectedVersion := 0

def effectIntoRecord : ProposalEffect → EffectRecord
  | .registryUpdate algId targetLifecycle newMinFee =>
      { EffectRecord.ofType 1 with
        algId := algId.asU16
        hasLifecycle := targetLifecycle.isSome
        lifecycle := (targetLifecycle.map encodeLifecycle).getD 0
        hasMinFee := newMinFee.isSome
        minFee := newMinFee.getD 0 }
  | .burnRateUpdate newBurnRateBps => { EffectRecord.ofType 2 with burnRateBps := newBurnRateBps }
  | .feeParamUpdate newBlockGasLimit =>
      { EffectRecord.ofType 3 with blockGasLimit := newBlockGasLimit }
  | .softwareUpgrade activateAtTimestampNs expectedVersion =>
      { EffectRecord.ofType 4 with activateAtTimestampNs, expectedVersion }
  | .addAlgorithm _ => .ofType 5
  | .addSlashingVerifier _ => .ofType 6
  | .addHash _ => .ofType 7
  | .addAuthTemplate _ => .ofType 8

def proposalIntoRecord (proposal : PendingProposal) : PendingProposalRecord where
  proposalId := proposal.proposalId
  proposalType := proposal.proposalType.asU8
  proposer := proposal.proposer
  votingDeadline := proposal.votingDeadline
  executeAfter := proposal.executeAfter
  rationaleHash := proposal.rationaleHash
  status := encodeProposalStatus proposal.status
  effect := effectIntoRecord proposal.effect
  votes := proposal.votes.toList

def upgradeIntoRecord (upgrade : PendingUpgrade) : PendingUpgradeRecord where
  proposalId := upgrade.proposalId
  activateAtTimestampNs := upgrade.activateAtTimestampNs
  expectedVersion := upgrade.expectedVersion

def stateIntoRecord (state : StateStore) : StateSnapshotRecord where
  blockHeight := state.blockHeight
  accounts := (accountsInOrder state).map accountIntoRecord
  attestations := (attestationsInOrder state).map attestationIntoRecord
  governanceReceipts := (governanceReceiptsInOrder state).map receiptIntoRecord
  algRegistry := (algEntriesInOrder state).map algEntryIntoRecord
  validators := (validatorsInOrder state).map validatorIntoRecord
  feeMarketBaseFee := state.feeMarket.compute.baseFee
  feeMarketBlockGasLimit := state.feeMarket.compute.limit
  feeMarketBurnRateBps := state.feeMarket.burnRateBps
  pendingProposals := (pendingProposalsInOrder state).map proposalIntoRecord
  pendingUpgrades := (pendingUpgradesInOrder state).map upgradeIntoRecord

end Writing

section Reading

open Fallible

def recordIntoKey (key : KeyRecord) : Except StorageError KeyEntry := do
  let algId ← okOr (AlgId.fromU16 key.algId) (.invalidPersistedAlgId key.algId)
  let status ← okOr (decodeKeyStatus key.status)
    (.invalidPersistedValue "unknown checkpoint key status")
  return {
    algId
    pkBytes := key.pkBytes
    keyVersion := key.keyVersion
    validFromHeight := key.validFromHeight
    status
    allowedTxTypes := key.allowedTxTypes }

/-- The policy and the verifier template are not in the record: the account comes back with
those of a plain account. -/
def recordIntoAccount (account : AccountRecord) : Except StorageError Account := do
  let keys ← account.keys.mapM recordIntoKey
  return {
    address := account.address
    balance := account.balance
    nonce := account.nonce
    keys
    policyVersion := 0
    policyHash := none
    verifierTemplateId := verifierTemplateIdEoa
    authData := [] }

def recordIntoAttestation (attestation : AttestationRecord) : Except StorageError Attestation := do
  let status ← okOr (decodeAttestationStatus attestation.status)
    (.invalidPersistedValue "unknown checkpoint attestation status")
  return {
    attestationId := attestation.attestationId
    attester := attestation.attester
    subject := attestation.subject
    attestationType := attestation.attestationType
    contentHash := attestation.contentHash
    schemaId := attestation.schemaId
    metadataHash := attestation.metadataHash
    anchorHeight := attestation.anchorHeight
    expiresAtHeight := attestation.expiresAtHeight
    status
    revocation := attestation.revocation.map fun revocation =>
      ⟨revocation.revokedAtHeight, revocation.revoker, revocation.revocationReasonHash⟩ }

def recordIntoReceipt (receipt : GovernanceReceiptRecord) :
    Except StorageError GovernanceReceipt := do
  let proposalType ← okOr (GovernanceProposalType.fromU8 receipt.proposalType)
    (.invalidPersistedValue "unknown checkpoint governance proposal type")
  let targetAlgId ← okOr (AlgId.fromU16 receipt.targetAlgId)
    (.invalidPersistedAlgId receipt.targetAlgId)
  let lifecycleBefore ← okOr (decodeLifecycle receipt.lifecycleBefore)
    (.invalidPersistedValue "unknown checkpoint governance lifecycle_before")
  let lifecycleAfter ← okOr (decodeLifecycle receipt.lifecycleAfter)
    (.invalidPersistedValue "unknown checkpoint governance lifecycle_after")
  return {
    proposalId := receipt.proposalId
    proposalType
    proposer := receipt.proposer
    targetAlgId
    lifecycleBefore
    lifecycleAfter
    minFeeBefore := receipt.minFeeBefore
    minFeeAfter := receipt.minFeeAfter
    rationaleHash := receipt.rationaleHash
    executedAtHeight := receipt.executedAtHeight }

def recordIntoValidator (record : ValidatorSnapshotRecord) : Except StorageError ValidatorRecord := do
  let consensusAlgId ← okOr (AlgId.fromU16 record.consensusAlgId)
    (.invalidPersistedAlgId record.consensusAlgId)
  let status ← okOr (decodeValidatorStatus record.status record.unbondingStartHeight)
    (.invalidPersistedValue "unknown checkpoint validator status")
  return {
    operator := record.operator
    nodeId := record.nodeId
    consensusAlgId
    consensusPk := record.consensusPk
    selfBond := record.selfBond
    status
    registeredHeight := record.registeredHeight
    tombstoned := record.tombstoned }

def AlgRegistryRecord.matchesEntry (record : AlgRegistryRecord) (entry : AlgEntry) : Bool :=
  record.specRef = entry.specRef ∧ record.pkSize = entry.pkSize ∧ record.sigSize = entry.sigSize ∧
    record.sigClass = entry.sigClass.map encodeSigClass ∧
    record.benchmarkVerifyPerSec = entry.benchmarkVerifyPerSec

def recordIntoAlgEntry (record : AlgRegistryRecord) : Except StorageError AlgEntry := do
  let entry ← okOr (phase1Registry.find? fun entry => entry.algId.asU16 = record.algId)
    (.checkpointRegistryMismatch "checkpoint contains unknown alg_id not in local phase-1 baseline")
  require (record.matchesEntry entry)
    (.checkpointRegistryMismatch "registry contents do not match the local phase-1 baseline")
  let lifecycle ← okOr (decodeLifecycle record.lifecycle)
    (.checkpointRegistryMismatch "registry lifecycle is invalid")
  return { entry with lifecycle, minFee := record.minFee }

def validateRegistrySnapshot (records : List AlgRegistryRecord) :
    Except StorageError (List AlgEntry) := do
  require (records.length = phase1Registry.length)
    (.checkpointRegistryMismatch "registry length does not match the local phase-1 baseline")
  records.mapM recordIntoAlgEntry

def recordIntoEffect (effect : EffectRecord) : Except StorageError ProposalEffect :=
  match effect.effectType with
  | 1 => do
      let algId ← okOr (AlgId.fromU16 effect.algId) (.invalidPersistedAlgId effect.algId)
      let targetLifecycle ←
        if effect.hasLifecycle then
          (okOr (decodeLifecycle effect.lifecycle)
            (.invalidPersistedValue "unknown pending_proposal lifecycle")).map some
        else .ok none
      return .registryUpdate algId targetLifecycle (if effect.hasMinFee then some effect.minFee else none)
  | 2 => .ok (.burnRateUpdate effect.burnRateBps)
  | 3 => .ok (.feeParamUpdate effect.blockGasLimit)
  | 4 => .ok (.softwareUpgrade effect.activateAtTimestampNs effect.expectedVersion)
  | _ => .error (.invalidPersistedValue "unknown pending_proposal effect_type")

def recordIntoProposal (record : PendingProposalRecord) : Except StorageError PendingProposal := do
  let proposalType ← okOr (GovernanceProposalType.fromU8 record.proposalType)
    (.invalidPersistedValue "unknown pending_proposal proposal_type")
  let status ← okOr (decodeProposalStatus record.status)
    (.invalidPersistedValue "unknown pending_proposal status")
  let effect ← recordIntoEffect record.effect
  return {
    proposalId := record.proposalId
    proposalType
    proposer := record.proposer
    votingDeadline := record.votingDeadline
    executeAfter := record.executeAfter
    effect
    votes := Std.ExtTreeMap.ofList record.votes
    status
    rationaleHash := record.rationaleHash }

def recordIntoUpgrade (record : PendingUpgradeRecord) : PendingUpgrade :=
  ⟨record.proposalId, record.activateAtTimestampNs, record.expectedVersion⟩

variable (env : Env)

/-- `from_snapshot_full`: the algorithm registry of `new` is cleared before it is refilled. -/
def fromSnapshotFull (accounts : List Account) (attestations : List Attestation)
    (governanceReceipts : List GovernanceReceipt) (algRegistryEntries : List AlgEntry)
    (blockHeight : Nat) (chainId : Bytes) : StateStore :=
  let filled := accounts.foldl (StateStore.insertAccount env) (StateStore.new env)
  let filled := attestations.foldl (StateStore.insertAttestation env) filled
  let filled := governanceReceipts.foldl (StateStore.insertGovernanceReceipt env) filled
  let filled := algRegistryEntries.foldl (StateStore.insertAlgEntry env)
    { filled with algRegistry := .empty }
  { filled with blockHeight, chainId }

def StateSnapshotRecord.feeMarket (record : StateSnapshotRecord) : FeeMarketState :=
  { FeeMarketState.default with
    compute := { FeeMarketDimension.computeDefault with
      baseFee := record.feeMarketBaseFee, limit := record.feeMarketBlockGasLimit }
    burnRateBps := record.feeMarketBurnRateBps }

def recordIntoState (record : StateSnapshotRecord) (chainId : Bytes) :
    Except StorageError StateStore := do
  let algRegistry ← validateRegistrySnapshot record.algRegistry
  let accounts ← record.accounts.mapM recordIntoAccount
  let attestations ← record.attestations.mapM recordIntoAttestation
  let governanceReceipts ← record.governanceReceipts.mapM recordIntoReceipt
  let validators ← record.validators.mapM recordIntoValidator
  let state := fromSnapshotFull env accounts attestations governanceReceipts algRegistry
    record.blockHeight chainId
  let state := validators.foldl (StateStore.insertValidator env) state
  let state :=
    -- a zero limit marks a record from before the fee market was written
    if record.feeMarketBlockGasLimit > 0 then state.setFeeMarket env record.feeMarket else state
  let proposals ← record.pendingProposals.mapM recordIntoProposal
  let state := proposals.foldl (StateStore.insertPendingProposal env) state
  return (record.pendingUpgrades.map recordIntoUpgrade).foldl
    (StateStore.insertPendingUpgrade env) state

end Reading

end ViperChain.Storage
