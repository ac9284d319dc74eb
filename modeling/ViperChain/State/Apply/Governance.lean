import ViperChain.State.Apply.Payload

/-!
Governance: proposals, votes, the tally at the end of the voting period with the
execution of the effects, and the version check of scheduled upgrades.
-/

namespace ViperChain

open Fallible Payload

variable (env : Env)

def governanceVotingPeriod : Nat := 5
def governanceTimelock : Nat := 0
def addAlgMaxKeySize : Nat := 256 * 1024

/-- `(2 * active_count).div_ceil(3)`, and 1 when there is no active validator. -/
def quorumRequired (activeCount : Nat) : Nat :=
  if activeCount = 0 then 1 else (2 * activeCount + 2) / 3

section ProposalPayload

structure ProposalFields where
  proposalType : Option Nat := none
  algId : Option Nat := none
  targetLifecycle : Option Lifecycle := none
  newMinFee : Option Nat := none
  rationaleHash : Option Bytes32 := none
  newBurnRateBps : Option Nat := none
  newBlockGasLimit : Option Nat := none
  activateAtTimestampNs : Option Nat := none
  expectedVersion : Option Nat := none
  addAlgSpecRef : Option Text := none
  addAlgPkSize : Option Nat := none
  addAlgSigSize : Option Nat := none
  addAlgSigClass : Option Nat := none
  addAlgInitialLifecycle : Option Lifecycle := none
  addAlgBenchmarkVerifyPerSec : Option Nat := none
  addSlashEvidenceType : Option Nat := none
  addSlashSpecRef : Option Text := none
  addSlashFractionBps : Option Nat := none
  addSlashJailDurationBlocks : Option Nat := none
  addSlashTombstone : Option Bool := none
  addSlashLifecycle : Option Lifecycle := none
  addHashId : Option Nat := none
  addHashSpecRef : Option Text := none
  addHashOutputSizeBytes : Option Nat := none
  addHashInitialLifecycle : Option Lifecycle := none

def targetLifecycleOf : Nat → Except ApplyError Lifecycle
  | 1 => .ok .discouraged
  | 2 => .ok .deprecated
  | 3 => .ok .banned
  | _ => .error .invalidLifecycleTransition

def initialLifecycleOf : Nat → Except ApplyError Lifecycle
  | 0 => .ok .active
  | 1 => .ok .discouraged
  | _ => .error .invalidInitialLifecycle

def burnRateField (value : Value) : Except ApplyError Nat := do
  let bps ← expectUint 16 "new_burn_rate_bps" value
  require (bps ≤ 10000) .burnRateOutOfRange
  return bps

def blockGasLimitField (value : Value) : Except ApplyError Nat := do
  let limit ← expectUint 64 "new_block_gas_limit" value
  require (limit ≠ 0) .blockGasLimitZero
  return limit

def slashFractionField (value : Value) : Except ApplyError Nat := do
  let bps ← expectUint 16 "slash_fraction_bps" value
  require (bps ≤ 10000) .invalidSlashingFraction
  return bps

def proposalField (key : Int) (value : Value) (fields : ProposalFields) :
    Except ApplyError ProposalFields :=
  match key with
  | 1 => do return { fields with proposalType := some (← expectUint 8 "proposal_type" value) }
  | 2 => do return { fields with algId := some (← expectUint 16 "alg_id" value) }
  | 3 => do
      let raw ← expectUint 8 "target_lifecycle" value
      return { fields with targetLifecycle := some (← targetLifecycleOf raw) }
  | 4 => do return { fields with newMinFee := some (← expectUint 64 "new_min_fee" value) }
  | 5 | 100 | 101 | 102 => return fields
  | 6 => do return { fields with rationaleHash := some (← expectHash32 value) }
  | 7 => do return { fields with newBurnRateBps := some (← burnRateField value) }
  | 8 => do return { fields with newBlockGasLimit := some (← blockGasLimitField value) }
  | 9 => do
      return { fields with
        activateAtTimestampNs := some (← expectUint 64 "activate_at_timestamp_ns" value) }
  | 10 => do return { fields with expectedVersion := some (← expectUint 16 "expected_version" value) }
  | 11 => do return { fields with addAlgSpecRef := some (← expectText value) }
  | 12 => do return { fields with addAlgPkSize := some (← expectUint 32 "pk_size" value) }
  | 13 => do return { fields with addAlgSigSize := some (← expectUint 32 "sig_size" value) }
  | 14 => do return { fields with addAlgSigClass := some (← expectUint 8 "sig_class" value) }
  | 15 => do
      let raw ← expectUint 8 "initial_lifecycle" value
      return { fields with addAlgInitialLifecycle := some (← initialLifecycleOf raw) }
  | 16 => do
      return { fields with
        addAlgBenchmarkVerifyPerSec := some (← expectUint 32 "benchmark_verify_per_sec" value) }
  | 30 => do return { fields with addSlashEvidenceType := some (← expectUint 8 "evidence_type" value) }
  | 31 => do return { fields with addSlashSpecRef := some (← expectText value) }
  | 32 => do return { fields with addSlashFractionBps := some (← slashFractionField value) }
  | 33 => do
      return { fields with
        addSlashJailDurationBlocks := some (← expectUint 64 "jail_duration_blocks" value) }
  | 34 => do
      let raw ← expectUint 8 "tombstone" value
      return { fields with addSlashTombstone := some (raw ≠ 0) }
  | 35 => do
      let raw ← expectUint 8 "slashing lifecycle" value
      return { fields with addSlashLifecycle := some (← initialLifecycleOf raw) }
  | 40 => do return { fields with addHashId := some (← expectUint 8 "hash_id" value) }
  | 41 => do return { fields with addHashSpecRef := some (← expectText value) }
  | 42 => do
      return { fields with addHashOutputSizeBytes := some (← expectUint 32 "output_size_bytes" value) }
  | 43 => do
      let raw ← expectUint 8 "hash lifecycle" value
      return { fields with addHashInitialLifecycle := some (← initialLifecycleOf raw) }
  | _ => unknownKey key

def validKeySize (size : Nat) : Bool := size ≠ 0 && size < addAlgMaxKeySize

def addAlgorithmEffect (fields : ProposalFields) : Except ApplyError ProposalEffect := do
  let algId ← required fields.algId "2 (alg_id) for AddAlgorithm"
  require (0x000F < algId) (.reservedAlgIdRange algId)
  let specRef ← required fields.addAlgSpecRef "11 (spec_ref) for AddAlgorithm"
  let pkSize ← required fields.addAlgPkSize "12 (pk_size) for AddAlgorithm"
  let sigSize ← required fields.addAlgSigSize "13 (sig_size) for AddAlgorithm"
  let initialLifecycle ←
    required fields.addAlgInitialLifecycle "15 (initial_lifecycle) for AddAlgorithm"
  require (validKeySize pkSize && validKeySize sigSize) .invalidSize
  return .addAlgorithm
    { algId, specRef, pkSize, sigSize, sigClass := fields.addAlgSigClass,
      minFee := fields.newMinFee.getD 0,
      benchmarkVerifyPerSec := fields.addAlgBenchmarkVerifyPerSec.getD 0, initialLifecycle }

def addSlashingVerifierEffect (fields : ProposalFields) : Except ApplyError ProposalEffect := do
  let evidenceType ← required fields.addSlashEvidenceType "30 (evidence_type) for AddSlashingVerifier"
  require (slashingCoreReservedMax < evidenceType) (.reservedSlashingEvidenceType evidenceType)
  let specRef ← required fields.addSlashSpecRef "31 (spec_ref) for AddSlashingVerifier"
  let slashFractionBps ←
    required fields.addSlashFractionBps "32 (slash_fraction_bps) for AddSlashingVerifier"
  let lifecycle ← required fields.addSlashLifecycle "35 (lifecycle) for AddSlashingVerifier"
  return .addSlashingVerifier
    { evidenceType, specRef, slashFractionBps,
      jailDurationBlocks := fields.addSlashJailDurationBlocks.getD 0,
      tombstone := fields.addSlashTombstone.getD false, lifecycle }

def addHashEffect (fields : ProposalFields) : Except ApplyError ProposalEffect := do
  let hashId ← required fields.addHashId "40 (hash_id) for AddHash"
  require (hashCoreReservedMax < hashId) (.reservedHashIdRange hashId)
  let specRef ← required fields.addHashSpecRef "41 (spec_ref) for AddHash"
  let outputSizeBytes ← required fields.addHashOutputSizeBytes "42 (output_size_bytes) for AddHash"
  let initialLifecycle ← required fields.addHashInitialLifecycle "43 (initial_lifecycle) for AddHash"
  require (validKeySize outputSizeBytes) .invalidSize
  return .addHash { hashId, specRef, outputSizeBytes, initialLifecycle }

def registryUpdateEffect (fields : ProposalFields) : Except ApplyError ProposalEffect := do
  let raw ← required fields.algId "2 (alg_id) for RegistryUpdate"
  let algId ← okOr (AlgId.fromU16 raw) .unsupportedAlgorithm
  require (fields.targetLifecycle.isSome || fields.newMinFee.isSome) .governanceNoEffect
  return .registryUpdate algId fields.targetLifecycle fields.newMinFee

def proposalEffect (fields : ProposalFields) :
    GovernanceProposalType → Except ApplyError ProposalEffect
  | .registryUpdate => registryUpdateEffect fields
  | .burnRateUpdate => do
      let bps ← required fields.newBurnRateBps "7 (new_burn_rate_bps) for BurnRateUpdate"
      return .burnRateUpdate bps
  | .feeParamUpdate => do
      let limit ← required fields.newBlockGasLimit "8 (new_block_gas_limit) for FeeParamUpdate"
      return .feeParamUpdate limit
  | .softwareUpgrade => do
      let timestamp ←
        required fields.activateAtTimestampNs "9 (activate_at_timestamp_ns) for SoftwareUpgrade"
      let version ← required fields.expectedVersion "10 (expected_version) for SoftwareUpgrade"
      return .softwareUpgrade timestamp version
  | .addAlgorithm => addAlgorithmEffect fields
  | .addSlashingVerifier => addSlashingVerifierEffect fields
  | .addHash => addHashEffect fields
  | .addAuthTemplate => .error .proposalOutOfScope

structure ProposalPayload where
  proposalType : GovernanceProposalType
  effect : ProposalEffect
  rationaleHash : Bytes32

def decodeProposalPayload (payload : Bytes) : Except ApplyError ProposalPayload := do
  let fields ← strictFields env payload proposalField {}
  let rationaleHash ← required fields.rationaleHash "6 (rationale_hash)"
  let raw ← required fields.proposalType "1 (proposal_type)"
  let proposalType ← okOr (GovernanceProposalType.fromU8 raw) .proposalOutOfScope
  let effect ← proposalEffect fields proposalType
  return { proposalType, effect, rationaleHash }

end ProposalPayload

section Proposals

def applyGovernanceProposal (store : StateStore) (tx : Transaction) :
    Except ApplyError StateStore := do
  let proposalId ← recordId env tx
  require (store.getPendingProposal proposalId).isNone .duplicateProposal
  let payload ← decodeProposalPayload env tx.payload
  let votingDeadline := satAdd64 store.blockHeight governanceVotingPeriod
  return store.insertPendingProposal env
    { proposalId, proposalType := payload.proposalType, proposer := tx.sender, votingDeadline,
      executeAfter := satAdd64 votingDeadline governanceTimelock, effect := payload.effect,
      votes := ∅, status := .voting, rationaleHash := payload.rationaleHash }

def decodeVotePayload (payload : Bytes) : Except ApplyError (Bytes32 × Bool) := do
  require (!payload.isEmpty) (.payloadDecode "empty vote payload")
  let value ← (env.cborDecode payload).mapError .payloadDecode
  let map ← okOr value.asMap? (.payloadDecode "vote payload must be a CBOR map")
  let fields ← map.foldlM
    (fun (fields : Option Bytes32 × Option Bool) entry => do
      let key ← okOr entry.1.asInteger? (.payloadDecode "non-integer map key in vote")
      match key with
      | 1 => return (some (← expectHash32 entry.2), fields.2)
      | 2 => do
          let _ ← expectInteger entry.2
          let raw ← okOr (entry.2.asUint? 8) (.payloadDecode "vote field out of u8 range")
          return (fields.1, some (raw = 1))
      | _ => .error (.payloadDecode s!"unknown vote payload key: {key}"))
    (none, none)
  let proposalId ← required fields.1 "1 (proposal_id) in vote"
  let vote ← required fields.2 "2 (vote) in vote"
  return (proposalId, vote)

def applyGovernanceVote (store : StateStore) (tx : Transaction) : Except ApplyError StateStore := do
  let (proposalId, voteYes) ← decodeVotePayload env tx.payload
  let proposal ← okOr (store.getPendingProposal proposalId) .proposalNotFound
  require (proposal.status = .voting) .proposalNotVoting
  require (store.blockHeight ≤ proposal.votingDeadline) .votingPeriodClosed
  require (store.isActiveValidator tx.sender) .notAnActiveValidatorForVote
  require (!proposal.votes.contains tx.sender) .alreadyVoted
  return (store.modifyPendingProposal proposalId fun proposal =>
      { proposal with votes := proposal.votes.insert tx.sender voteYes })
    |>.commitProposalMutation env proposalId

end Proposals

section Execution

abbrev Executed := StateStore × Bool

def forwardTransition : Lifecycle → Lifecycle → Bool
  | .active, .discouraged | .discouraged, .deprecated | .deprecated, .banned => true
  | _, _ => false

def updateAlgEntry (targetLifecycle : Option Lifecycle) (newMinFee : Option Nat) (entry : AlgEntry) :
    AlgEntry :=
  { entry with
    lifecycle := targetLifecycle.getD entry.lifecycle
    minFee := newMinFee.getD entry.minFee }

def executeRegistryUpdate (store : StateStore) (proposal : PendingProposal) (algId : AlgId)
    (targetLifecycle : Option Lifecycle) (newMinFee : Option Nat) (executedAtHeight : Nat) :
    Executed :=
  match store.algEntry algId with
  | none => (store, false)
  | some entry =>
      if targetLifecycle.all (forwardTransition entry.lifecycle) then
        let updated := updateAlgEntry targetLifecycle newMinFee entry
        let committed := (store.modifyAlgEntry algId (updateAlgEntry targetLifecycle newMinFee))
          |>.commitAlgEntryMutation env algId
        (committed.insertGovernanceReceipt env
          { proposalId := proposal.proposalId, proposalType := proposal.proposalType,
            proposer := proposal.proposer, targetAlgId := algId,
            lifecycleBefore := entry.lifecycle, lifecycleAfter := updated.lifecycle,
            minFeeBefore := entry.minFee, minFeeAfter := updated.minFee,
            rationaleHash := proposal.rationaleHash, executedAtHeight }, true)
      else (store, false)

def admissibleLifecycle : Lifecycle → Bool
  | .active | .discouraged => true
  | _ => false

def proposedSigClass (proposal : AddAlgorithmProposal) : Option (Option SigClass) :=
  match proposal.sigClass with
  | some raw => AddAlgorithmProposal.decodeSigClass raw
  | none => some none

def executeAddAlgorithm (store : StateStore) (proposal : AddAlgorithmProposal) : Executed :=
  if proposal.algId ≤ 0x000F then (store, false)
  else if store.algEntryRegistered proposal.algId then (store, false)
  else if !(validKeySize proposal.pkSize && validKeySize proposal.sigSize) then (store, false)
  else if !admissibleLifecycle proposal.initialLifecycle then (store, false)
  else
    match AlgId.fromU16 proposal.algId, proposedSigClass proposal with
    | some algId, some sigClass =>
        (store.insertAlgEntry env
          { algId, specRef := proposal.specRef, pkSize := proposal.pkSize,
            sigSize := proposal.sigSize, sigClass, minFee := proposal.minFee,
            lifecycle := proposal.initialLifecycle,
            benchmarkVerifyPerSec := proposal.benchmarkVerifyPerSec }, true)
    | _, _ => (store, false)

def executeAddSlashingVerifier (store : StateStore) (proposal : SlashingVerifierProposal) : Executed :=
  if proposal.evidenceType ≤ slashingCoreReservedMax then (store, false)
  else if store.slashingVerifierRegistered proposal.evidenceType then (store, false)
  else if 10000 < proposal.slashFractionBps then (store, false)
  else if !admissibleLifecycle proposal.lifecycle then (store, false)
  else
    (store.insertSlashingVerifierEntry env
      { evidenceType := proposal.evidenceType, specRef := proposal.specRef,
        slashFractionBps := proposal.slashFractionBps,
        jailDurationBlocks := proposal.jailDurationBlocks, tombstone := proposal.tombstone,
        lifecycle := proposal.lifecycle }, true)

def executeAddHash (store : StateStore) (proposal : AddHashProposal) : Executed :=
  if proposal.hashId ≤ hashCoreReservedMax then (store, false)
  else if store.hashRegistered proposal.hashId then (store, false)
  else if !validKeySize proposal.outputSizeBytes then (store, false)
  else if !admissibleLifecycle proposal.initialLifecycle then (store, false)
  else
    (store.insertHashEntry env
      { hashId := proposal.hashId, specRef := proposal.specRef,
        outputSizeBytes := proposal.outputSizeBytes, lifecycle := proposal.initialLifecycle }, true)

def executeAddAuthTemplate (store : StateStore) (proposal : AddAuthTemplateProposal) : Executed :=
  if proposal.templateId ≤ verifierTemplateCoreReservedMax ||
      proposal.templateId < verifierTemplateGovMin then (store, false)
  else (store, admissibleLifecycle proposal.lifecycle)

def executeEffect (store : StateStore) (proposal : PendingProposal) (executedAtHeight : Nat) : Executed :=
  match proposal.effect with
  | .registryUpdate algId targetLifecycle newMinFee =>
      executeRegistryUpdate env store proposal algId targetLifecycle newMinFee executedAtHeight
  | .burnRateUpdate newBurnRateBps =>
      (store.setFeeMarket env { store.feeMarket with burnRateBps := newBurnRateBps }, true)
  | .feeParamUpdate newBlockGasLimit =>
      (store.setFeeMarket env
        { store.feeMarket with
          compute := { store.feeMarket.compute with limit := newBlockGasLimit } }, true)
  | .softwareUpgrade activateAtTimestampNs expectedVersion =>
      (store.insertPendingUpgrade env
        ⟨proposal.proposalId, activateAtTimestampNs, expectedVersion⟩, true)
  | .addAlgorithm proposal => executeAddAlgorithm env store proposal
  | .addSlashingVerifier proposal => executeAddSlashingVerifier env store proposal
  | .addHash proposal => executeAddHash env store proposal
  | .addAuthTemplate proposal => executeAddAuthTemplate store proposal

end Execution

section Tally

def setProposalStatus (store : StateStore) (id : Bytes32) (status : ProposalStatus) : StateStore :=
  (store.modifyPendingProposal id fun proposal => { proposal with status })
    |>.commitProposalMutation env id

/-- The effect is executed under the proposal's map key `id`, as the source passes it on. -/
def tallyOne (store : StateStore) (id : Bytes32) (currentHeight : Nat) : StateStore :=
  match store.getPendingProposal id with
  | none => store
  | some proposal =>
      let needed := quorumRequired store.activeValidatorCount
      let votes := proposal.votes.toList.map Prod.snd
      let yesCount := votes.count true
      let noCount := votes.count false
      if needed ≤ yesCount + noCount && noCount < yesCount then
        let (executed, applied) :=
          executeEffect env store { proposal with proposalId := id } currentHeight
        setProposalStatus env executed id (if applied then .executed else .executionFailed)
      else
        setProposalStatus env store id
          (if needed ≤ yesCount + noCount then .rejected else .expired)

def processGovernanceTallies (store : StateStore) (currentHeight : Nat) : StateStore :=
  let due := store.pendingProposals.values.filter fun proposal =>
    proposal.status = .voting && proposal.votingDeadline < currentHeight
  (due.map PendingProposal.proposalId).foldl
    (fun current id => tallyOne env current id currentHeight) store

end Tally

section Upgrades

def pendingUpgradesInOrder (store : StateStore) : List PendingUpgrade :=
  store.pendingUpgrades.values.insertionSort fun left right =>
    left.activateAtTimestampNs < right.activateAtTimestampNs ∨
      left.activateAtTimestampNs = right.activateAtTimestampNs ∧ left.proposalId ≤ right.proposalId

def checkPendingUpgrades (store : StateStore) (currentTimestampNs compiledVersion : Nat) :
    Except ApplyError StateStore :=
  let activating := (pendingUpgradesInOrder store).filter fun upgrade =>
    upgrade.activateAtTimestampNs ≤ currentTimestampNs
  activating.foldlM
    (fun current upgrade => do
      require (compiledVersion = upgrade.expectedVersion)
        (.softwareUpgradeVersionMismatch upgrade.activateAtTimestampNs upgrade.expectedVersion
          compiledVersion)
      return current.removePendingUpgrade upgrade.proposalId)
    store

end Upgrades

end ViperChain
