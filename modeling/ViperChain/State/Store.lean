import ViperChain.Library.CachedTable
import ViperChain.State.Leaves

/-!
The in-memory chain state with its incrementally maintained leaf hashes. A method that takes
`&mut self` is a function to the next store; a write through `get_*_mut` is
`CachedTable.modify`, which leaves the cached leaf behind until the matching `commit_*` call.
-/

namespace ViperChain

open CachedTables

section Constants

def slashingEvidenceTypeEquivocation : Nat := 0x01
def slashingCoreReservedMax : Nat := 0x0F
def defaultEquivocationSlashFractionBps : Nat := 500

def computeReserveFloor : Nat := 100
def baseFeeMax : Nat := 10000000
def defaultBlockGasLimit : Nat := 10000000
def defaultBaseFee : Nat := 0
def computeFeeUpdateFraction : Nat := 3338477
def defaultComputeTarget : Nat := defaultBlockGasLimit / 2

end Constants

section FeeMarketState

def FeeMarketDimension.computeDefault : FeeMarketDimension where
  baseFee := defaultBaseFee
  limit := defaultBlockGasLimit
  target := defaultComputeTarget
  excess := 0
  reserveFloor := computeReserveFloor
  updateFraction := computeFeeUpdateFraction

def FeeMarketDimension.reservedDefault (reserveFloor : Nat) : FeeMarketDimension where
  baseFee := reserveFloor
  limit := 0
  target := 0
  excess := 0
  reserveFloor
  updateFraction := 1

def FeeMarketState.default : FeeMarketState where
  compute := .computeDefault
  storage := .reservedDefault computeReserveFloor
  witness := .reservedDefault computeReserveFloor
  contention := .reservedDefault computeReserveFloor
  burnRateBps := 0

def StorageFundState.default : StorageFundState where
  balance := 0
  perpetualCostPerByte := 1
  rebateFractionBps := 9900

/-- The `while numerator_accum > 0` loop with its counter `i`; `fuel` is what is left of
the source's own bound of 128 rounds. -/
def fakeExponentialLoop (numerator denominator : Nat) : Nat → Nat → Nat → Nat → Nat
  | 0, _, output, _ => output
  | fuel + 1, index, output, accumulator =>
      if accumulator = 0 then output
      else
        fakeExponentialLoop numerator denominator fuel (index + 1)
          (satAdd128 output accumulator)
          (satMul128 accumulator numerator / satMul128 denominator index)

def fakeExponential (factor numerator denominator : Nat) : Nat :=
  if denominator = 0 then factor
  else
    let output := fakeExponentialLoop numerator denominator 128 1 0 (satMul128 factor denominator)
    min (output / denominator) u64Max

def clamp (low high value : Nat) : Nat := if value < low then low else if high < value then high else value

def FeeMarketDimension.step (dimension : FeeMarketDimension) (used : Nat) : FeeMarketDimension :=
  let excess := satAdd64 dimension.excess used - dimension.target
  let raw := fakeExponential dimension.reserveFloor excess
    (satMul64 dimension.reserveFloor dimension.updateFraction)
  { dimension with excess, baseFee := clamp dimension.reserveFloor baseFeeMax raw }

end FeeMarketState

/-- The fields of `StateStore`; each pair of an entity map and its leaf-hash map is one
`CachedTable`. The storage fund is compiled in only with `token_economics`. -/
structure StateStore where
  accounts : CachedTable Address Account Bytes32
  attestations : CachedTable Bytes32 Attestation Bytes32
  proofAnchors : CachedTable Bytes32 ProofAnchor Bytes32
  consensusKeyRotations : CachedTable Address ConsensusKeyRotation Bytes32
  algRegistry : CachedTable Nat AlgEntry Bytes32
  governanceReceipts : CachedTable Bytes32 GovernanceReceipt Bytes32
  validators : CachedTable Address ValidatorRecord Bytes32
  pendingProposals : CachedTable Bytes32 PendingProposal Bytes32
  pendingUpgrades : CachedTable Bytes32 PendingUpgrade Bytes32
  peerIdBindings : CachedTable Address Bytes Bytes32
  slashingRegistry : CachedTable Nat SlashingVerifierEntry Bytes32
  hashRegistry : CachedTable Nat HashEntry Bytes32
  archivalRecords : CachedTable Nat ArchivalRecord Bytes32
  archivalKeys : CachedTable Address ValidatorArchivalKey Bytes32
  archivalSignerSet : List Address
  archivalThresholdMOfN : Option (Nat × Nat)
  archivalRenewers : List Address
  blockHeight : Nat
  chainId : Bytes
  feeMarket : FeeMarketState
  feeMarketLeafHash : Bytes32
  storageFund : StorageFundState
  storageFundLeafHash : Bytes32
  recentSlashes : List RecentSlashEntry
  recentSlashesLeafHash : Bytes32

namespace StateStore

variable (env : Env)

section Genesis

def equivocationEntry : SlashingVerifierEntry where
  evidenceType := slashingEvidenceTypeEquivocation
  -- the section sign is two bytes in UTF-8
  specRef := ascii "SPEC-SLASH-001 " ++ [0xC2, 0xA7] ++ ascii "10 (equivocation, ADR-024)"
  slashFractionBps := defaultEquivocationSlashFractionBps
  jailDurationBlocks := 0
  tombstone := true
  lifecycle := .active

def new : StateStore where
  accounts := .empty
  attestations := .empty
  proofAnchors := .empty
  consensusKeyRotations := .empty
  algRegistry := phase1Registry.foldl
    (fun table entry => table.insert (fun _ => computeAlgLeafHash env) entry.algId.asU16 entry)
    .empty
  governanceReceipts := .empty
  validators := .empty
  pendingProposals := .empty
  pendingUpgrades := .empty
  peerIdBindings := .empty
  slashingRegistry := CachedTable.empty.insert (fun _ => computeSlashingVerifierLeafHash env)
    slashingEvidenceTypeEquivocation equivocationEntry
  hashRegistry := phase1HashRegistry.foldl
    (fun table entry => table.insert (fun _ => computeHashRegistryLeafHash env) entry.hashId entry)
    .empty
  archivalRecords := .empty
  archivalKeys := .empty
  archivalSignerSet := []
  archivalThresholdMOfN := none
  archivalRenewers := []
  blockHeight := 0
  chainId := []
  feeMarket := .default
  feeMarketLeafHash := computeFeeMarketLeafHash env .default
  storageFund := .default
  storageFundLeafHash := computeStorageFundLeafHash env .default
  recentSlashes := []
  recentSlashesLeafHash := computeRecentSlashesLeafHash env []

end Genesis

variable (store : StateStore)

section Accounts

def getAccount (address : Address) : Option Account := store.accounts.get? address

def modifyAccount (address : Address) (change : Account → Account) : StateStore :=
  { store with accounts := store.accounts.modify address change }

def commitAccountMutation (address : Address) : StateStore :=
  { store with accounts := store.accounts.commit (fun _ => computeAccountLeafHash env) address }

def insertAccount (account : Account) : StateStore :=
  { store with
    accounts := store.accounts.insert (fun _ => computeAccountLeafHash env) account.address account }

/-- The snapshot constructors with everything but the accounts at its default. -/
def fromSnapshotAccounts (accounts : List Account) (blockHeight : Nat) (chainId : Bytes) :
    StateStore :=
  { accounts.foldl (insertAccount env) (new env) with blockHeight, chainId }

end Accounts

section Registries

def algEntry (algId : AlgId) : Option AlgEntry := store.algRegistry.get? algId.asU16

def algMinFee (algId : AlgId) : Option Nat := (store.algEntry algId).map AlgEntry.minFee

def algLifecycle (algId : AlgId) : Option Lifecycle := (store.algEntry algId).map AlgEntry.lifecycle

def algEntryRegistered (algId : Nat) : Bool := store.algRegistry.contains algId

def modifyAlgEntry (algId : AlgId) (change : AlgEntry → AlgEntry) : StateStore :=
  { store with algRegistry := store.algRegistry.modify algId.asU16 change }

def commitAlgEntryMutation (algId : AlgId) : StateStore :=
  { store with algRegistry := store.algRegistry.commit (fun _ => computeAlgLeafHash env) algId.asU16 }

def insertAlgEntry (entry : AlgEntry) : StateStore :=
  { store with
    algRegistry := store.algRegistry.insert (fun _ => computeAlgLeafHash env) entry.algId.asU16 entry }

def slashingVerifierRegistered (evidenceType : Nat) : Bool :=
  store.slashingRegistry.contains evidenceType

def insertSlashingVerifierEntry (entry : SlashingVerifierEntry) : StateStore :=
  { store with
    slashingRegistry := store.slashingRegistry.insert
      (fun _ => computeSlashingVerifierLeafHash env) entry.evidenceType entry }

def hashRegistered (hashId : Nat) : Bool := store.hashRegistry.contains hashId

def insertHashEntry (entry : HashEntry) : StateStore :=
  { store with
    hashRegistry := store.hashRegistry.insert
      (fun _ => computeHashRegistryLeafHash env) entry.hashId entry }

end Registries

section Records

def getAttestation (id : Bytes32) : Option Attestation := store.attestations.get? id

def insertAttestation (attestation : Attestation) : StateStore :=
  { store with
    attestations := store.attestations.insert
      (fun _ => computeAttestationLeafHash env) attestation.attestationId attestation }

def insertProofAnchor (anchor : ProofAnchor) : StateStore :=
  { store with
    proofAnchors := store.proofAnchors.insert
      (fun _ => computeProofAnchorLeafHash env) anchor.anchorId anchor }

def getArchivalRecord (epochNumber : Nat) : Option ArchivalRecord :=
  store.archivalRecords.get? epochNumber

def insertArchivalRecord (record : ArchivalRecord) : StateStore :=
  { store with
    archivalRecords := store.archivalRecords.insert
      (fun _ => computeArchivalRecordLeafHash env) record.epochNumber record }

def pushArchivalAnchor (epochNumber : Nat) (anchor : TimestampAnchor) : StateStore :=
  let pushed := store.archivalRecords.modify epochNumber fun record =>
    { record with timestampAnchors := record.timestampAnchors ++ [anchor] }
  { store with
    archivalRecords := pushed.commit (fun _ => computeArchivalRecordLeafHash env) epochNumber }

def incrementArchivalRecordVersion (epochNumber : Nat) (ersBundleHash : Bytes32)
    (currentBlockHeight : Nat) : StateStore :=
  let renewed := store.archivalRecords.modify epochNumber fun record =>
    { record with
      evidenceRecordVersion := min (record.evidenceRecordVersion + 1) u16Max
      timestampAnchors := record.timestampAnchors ++
        [⟨.rfc3161Tsa, none, ersBundleHash.data, currentBlockHeight⟩] }
  { store with
    archivalRecords := renewed.commit (fun _ => computeArchivalRecordLeafHash env) epochNumber }

def getArchivalKey (operator : Address) : Option ValidatorArchivalKey :=
  store.archivalKeys.get? operator

def insertArchivalKey (key : ValidatorArchivalKey) : StateStore :=
  { store with
    archivalKeys := store.archivalKeys.insert
      (fun _ => computeArchivalKeyLeafHash env) key.operator key }

end Records

section Validators

def getValidator (operator : Address) : Option ValidatorRecord := store.validators.get? operator

def modifyValidator (operator : Address) (change : ValidatorRecord → ValidatorRecord) : StateStore :=
  { store with validators := store.validators.modify operator change }

def commitValidatorMutation (operator : Address) : StateStore :=
  { store with
    validators := store.validators.commit (fun _ => computeValidatorLeafHash env) operator }

def insertValidator (record : ValidatorRecord) : StateStore :=
  { store with
    validators := store.validators.insert
      (fun _ => computeValidatorLeafHash env) record.operator record }

def getValidatorPeerId (operator : Address) : Option Bytes := store.peerIdBindings.get? operator

def setValidatorPeerId (operator : Address) (peerId : Bytes) : StateStore :=
  if peerId.isEmpty then { store with peerIdBindings := store.peerIdBindings.remove operator }
  else
    { store with
      peerIdBindings := store.peerIdBindings.insert (computePeerIdBindingLeafHash env) operator peerId }

def peerIdInUse (peerId : Bytes) : Bool :=
  if peerId.isEmpty then false
  else
    store.peerIdBindings.entries.toList.any fun binding =>
      binding.2 = peerId &&
        match (store.getValidator binding.1).map ValidatorRecord.status with
        | some .active | some .candidate | some .jailed => true
        | _ => false

def activeValidators : List ValidatorRecord :=
  store.validators.values.filter fun record => record.status = .active

def activeValidatorCount : Nat := store.activeValidators.length

def isActiveValidator (address : Address) : Bool :=
  match store.getValidator address with
  | some record => record.status = .active
  | none => false

/-- `total_active_self_bond`, and `active_self_bond_total`, which is the same fold. -/
def totalActiveSelfBond : Nat :=
  store.activeValidators.foldl (fun total record => satAdd128 total record.selfBond) 0

def consensusKeyInUse (pk : Bytes) : Bool :=
  store.validators.values.any fun record =>
    (record.status = .active || record.status = .candidate) && record.consensusPk = pk

def insertConsensusKeyRotation (rotation : ConsensusKeyRotation) : StateStore :=
  { store with
    consensusKeyRotations := store.consensusKeyRotations.insert
      (fun _ => computeConsensusRotationLeafHash env) rotation.operator rotation }

def isArchivalSigner (address : Address) : Bool :=
  if !store.archivalSignerSet.isEmpty then store.archivalSignerSet.contains address
  else store.isActiveValidator address && store.archivalKeys.contains address

def archivalThreshold : Nat × Nat :=
  match store.archivalThresholdMOfN with
  | some threshold => threshold
  | none =>
      let count :=
        if !store.archivalSignerSet.isEmpty then store.archivalSignerSet.length
        else (store.activeValidators.filter fun record =>
          store.archivalKeys.contains record.operator).length
      let bounded := min count u16Max
      (min (min (bounded * 2) u16Max + 2) u16Max / 3, bounded)

def isArchivalRenewer (address : Address) : Bool := store.archivalRenewers.contains address

end Validators

section Slashing

def recentSlashedStakeInWindow (currentHeight windowBlocks : Nat) : Nat :=
  let cutoff := currentHeight - windowBlocks
  (store.recentSlashes.filter fun entry => cutoff ≤ entry.height ∧ entry.height ≤ currentHeight).foldl
    (fun total entry => satAdd128 total entry.slashedStake) 0

def recordRecentSlash (entry : RecentSlashEntry) : StateStore :=
  let recentSlashes := store.recentSlashes ++ [entry]
  { store with recentSlashes, recentSlashesLeafHash := computeRecentSlashesLeafHash env recentSlashes }

def pruneRecentSlashesBefore (cutoffHeight : Nat) : StateStore :=
  let recentSlashes := store.recentSlashes.dropWhile fun entry => entry.height < cutoffHeight
  if recentSlashes.length = store.recentSlashes.length then store
  else
    { store with
      recentSlashes, recentSlashesLeafHash := computeRecentSlashesLeafHash env recentSlashes }

end Slashing

section Governance

def getGovernanceReceipt (proposalId : Bytes32) : Option GovernanceReceipt :=
  store.governanceReceipts.get? proposalId

def insertGovernanceReceipt (receipt : GovernanceReceipt) : StateStore :=
  { store with
    governanceReceipts := store.governanceReceipts.insert
      (fun _ => computeReceiptLeafHash env) receipt.proposalId receipt }

def getPendingProposal (id : Bytes32) : Option PendingProposal := store.pendingProposals.get? id

def modifyPendingProposal (id : Bytes32) (change : PendingProposal → PendingProposal) : StateStore :=
  { store with pendingProposals := store.pendingProposals.modify id change }

def insertPendingProposal (proposal : PendingProposal) : StateStore :=
  { store with
    pendingProposals := store.pendingProposals.insert
      (fun _ => computeProposalLeafHash env) proposal.proposalId proposal }

def commitProposalMutation (id : Bytes32) : StateStore :=
  { store with
    pendingProposals := store.pendingProposals.commit (fun _ => computeProposalLeafHash env) id }

def insertPendingUpgrade (upgrade : PendingUpgrade) : StateStore :=
  { store with
    pendingUpgrades := store.pendingUpgrades.insert
      (fun _ => computeUpgradeLeafHash env) upgrade.proposalId upgrade }

def removePendingUpgrade (id : Bytes32) : StateStore :=
  { store with pendingUpgrades := store.pendingUpgrades.remove id }

def setFeeMarket (feeMarket : FeeMarketState) : StateStore :=
  { store with feeMarket, feeMarketLeafHash := computeFeeMarketLeafHash env feeMarket }

end Governance

section BlockSteps

def applyFeeMarketStep (computeUsed storageUsed witnessUsed contentionUsed : Nat) : StateStore :=
  store.setFeeMarket env
    { store.feeMarket with
      compute := store.feeMarket.compute.step computeUsed
      storage := store.feeMarket.storage.step storageUsed
      witness := store.feeMarket.witness.step witnessUsed
      contention := store.feeMarket.contention.step contentionUsed }

def applyAimdUpdate (blockGasUsed : Nat) : StateStore := store.applyFeeMarketStep env blockGasUsed 0 0 0

def baseFeeDynamic : Nat := store.feeMarket.compute.baseFee

def activateRotation (operator : Address) : StateStore :=
  match store.consensusKeyRotations.get? operator with
  | none => store
  | some rotation =>
      let validators := store.validators.modify operator fun record =>
        { record with consensusAlgId := rotation.newAlgId, consensusPk := rotation.newPkBytes }
      { store with
        consensusKeyRotations := store.consensusKeyRotations.remove operator
        validators := validators.commit (fun _ => computeValidatorLeafHash env) operator }

def activatePendingConsensusKeyRotations (currentHeight : Nat) : StateStore :=
  let due := store.consensusKeyRotations.entries.toList.filterMap fun entry =>
    if entry.2.rotationStartHeight ≤ currentHeight then some entry.1 else none
  due.foldl (fun current operator => current.activateRotation env operator) store

def validatorCandidatesOrdered : List Address :=
  let candidates := store.validators.values.filter fun record => record.status = .candidate
  let ordered := candidates.insertionSort fun left right =>
    left.registeredHeight < right.registeredHeight ∨
      left.registeredHeight = right.registeredHeight ∧ left.operator ≤ right.operator
  ordered.map ValidatorRecord.operator

def activateValidator (operator : Address) : StateStore :=
  match store.getValidator operator with
  | none => store
  | some record =>
      if record.status = .candidate then
        (store.modifyValidator operator fun record => { record with status := .active })
          |>.commitValidatorMutation env operator
      else store

def epochActivations (limit : Nat) : List Address → Nat → List Address → List Address
  | [], _, chosen => chosen
  | operator :: rest, accumulated, chosen =>
      match store.getValidator operator with
      | none => epochActivations limit rest accumulated chosen
      | some record =>
          let nextTotal := satAdd128 accumulated record.selfBond
          if nextTotal > limit && !chosen.isEmpty then chosen
          else epochActivations limit rest nextTotal (chosen ++ [operator])

def processEpochTransitions (churn : ChurnConfig) : StateStore :=
  let limit := stakeWeightedActivationLimit store.totalActiveSelfBond churn
  let candidates := store.epochActivations limit store.validatorCandidatesOrdered 0 []
  candidates.foldl (fun current operator => current.activateValidator env operator) store

def unbondingExpired (currentHeight : Nat) (record : ValidatorRecord) : Bool :=
  match record.status with
  | .unbonding startHeight => satAdd64 startHeight validatorUnbondingPeriod ≤ currentHeight
  | _ => false

def processValidatorUnbondingExpirations (currentHeight : Nat) : StateStore × List (Address × Nat) :=
  let exits := (store.validators.values.filter (unbondingExpired currentHeight)).map fun record =>
    (record.operator, record.selfBond)
  let expired := store.validators.modifyAll fun record =>
    if unbondingExpired currentHeight record then { record with status := .exited } else record
  let committed := (exits.map Prod.fst).foldl
    (fun table operator => table.commit (fun _ => computeValidatorLeafHash env) operator) expired
  ({ store with validators := committed }, exits)

def activateKeys (height : Nat) (keys : KeySet) : KeySet :=
  keys.map fun key =>
    if key.status = .pending ∧ key.validFromHeight ≤ height then { key with status := .active }
    else key

def hasActivatingKey (height : Nat) (account : Account) : Bool :=
  account.keys.any fun key => key.status = .pending ∧ key.validFromHeight ≤ height

def advanceHeight : StateStore :=
  let height := store.blockHeight + 1
  let activating := (store.accounts.values.filter (hasActivatingKey height)).map Account.address
  let activated := store.accounts.modifyAll fun account =>
    { account with keys := activateKeys height account.keys }
  let committed := activating.foldl
    (fun table address => table.commit (fun _ => computeAccountLeafHash env) address) activated
  { store with blockHeight := height, accounts := committed }

end BlockSteps

section StateRoot

inductive StateCategory where
  | blockHeight | account | attestation | proofAnchor | consensusRotation | algRegistry
  | receipt | validator | proposal | upgrade | feeMarket | storageFund | recentSlashes
  | peerIdBinding | slashingRegistry | hashRegistry | archivalRecord | archivalKey

def StateCategory.code : StateCategory → Nat
  | blockHeight => 0x00
  | account => 0x01
  | attestation => 0x02
  | proofAnchor => 0x03
  | consensusRotation => 0x04
  | algRegistry => 0x05
  | receipt => 0x06
  | validator => 0x07
  | proposal => 0x08
  | upgrade => 0x09
  | feeMarket => 0x0A
  | storageFund => 0x0B
  | recentSlashes => 0x0C
  | peerIdBinding => 0x0D
  | slashingRegistry => 0x0E
  | hashRegistry => 0x0F
  | archivalRecord => 0x10
  | archivalKey => 0x11

def stateMerkleLeaf (category : StateCategory) (sortKey leaf : Bytes) : Bytes32 :=
  taggedHash env (ascii "VIPER-STATE-LEAF-V1") (byteChunk category.code ++ sortKey ++ leaf)

def categoryLeaves {K : Type} [LinearOrder K] (category : StateCategory) (encodeKey : K → Bytes)
    (leaves : Std.ExtTreeMap K Bytes32) : List Bytes32 :=
  leaves.toList.map fun leaf => stateMerkleLeaf env category (encodeKey leaf.1) leaf.2.data

def stateRoot : Bytes32 :=
  let leaves := List.flatten
    [ [stateMerkleLeaf env .blockHeight [] (be64 store.blockHeight)],
      categoryLeaves env .account Bytes32.data store.accounts.leaves,
      categoryLeaves env .attestation Bytes32.data store.attestations.leaves,
      categoryLeaves env .proofAnchor Bytes32.data store.proofAnchors.leaves,
      categoryLeaves env .consensusRotation Bytes32.data store.consensusKeyRotations.leaves,
      categoryLeaves env .algRegistry be16 store.algRegistry.leaves,
      categoryLeaves env .receipt Bytes32.data store.governanceReceipts.leaves,
      categoryLeaves env .validator Bytes32.data store.validators.leaves,
      categoryLeaves env .proposal Bytes32.data store.pendingProposals.leaves,
      categoryLeaves env .upgrade Bytes32.data store.pendingUpgrades.leaves,
      [stateMerkleLeaf env .feeMarket [] store.feeMarketLeafHash.data],
      (if env.tokenEconomics then [stateMerkleLeaf env .storageFund [] store.storageFundLeafHash.data]
        else []),
      [stateMerkleLeaf env .recentSlashes [] store.recentSlashesLeafHash.data],
      categoryLeaves env .peerIdBinding Bytes32.data store.peerIdBindings.leaves,
      categoryLeaves env .slashingRegistry byteChunk store.slashingRegistry.leaves,
      categoryLeaves env .hashRegistry byteChunk store.hashRegistry.leaves,
      categoryLeaves env .archivalRecord be64 store.archivalRecords.leaves,
      categoryLeaves env .archivalKey Bytes32.data store.archivalKeys.leaves ]
  binaryMerkleRoot env leaves (ascii "VIPER-STATE-BRANCH-V1")

end StateRoot

end StateStore

end ViperChain
