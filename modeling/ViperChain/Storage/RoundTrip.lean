import ViperChain.Engine.Reach
import ViperChain.Storage.Snapshot

/-!
What comes back from a checkpoint: what the record has no room for is back at its default.
-/

namespace ViperChain.Storage

open CachedTables CachedTable Fallible

variable {env : Env}

section Entities

theorem decodeKeyStatus_encode (status : KeyStatus) :
    decodeKeyStatus (encodeKeyStatus status) = some status := by cases status <;> rfl

theorem decodeAttestationStatus_encode (status : AttestationStatus) :
    decodeAttestationStatus (encodeAttestationStatus status) = some status := by
  cases status <;> rfl

theorem decodeLifecycle_encode (lifecycle : Lifecycle) :
    decodeLifecycle (encodeLifecycle lifecycle) = some lifecycle := by cases lifecycle <;> rfl

theorem decodeValidatorStatus_encode (status : ValidatorStatus) :
    decodeValidatorStatus (encodeValidatorStatus status).1 (encodeValidatorStatus status).2 =
      some status := by cases status <;> rfl

theorem decodeProposalStatus_encode (status : ProposalStatus) :
    decodeProposalStatus (encodeProposalStatus status) = some status := by cases status <;> rfl

theorem proposalType_fromU8_asU8 (proposalType : GovernanceProposalType) :
    GovernanceProposalType.fromU8 proposalType.asU8 = some proposalType := by
  cases proposalType <;> rfl

theorem recordIntoKey_keyIntoRecord (key : KeyEntry) :
    recordIntoKey (keyIntoRecord key) = .ok key := by
  simp only [recordIntoKey, keyIntoRecord, AlgId.fromU16_asU16, decodeKeyStatus_encode]
  rfl

def plainAccount (account : Account) : Account :=
  { account with
    policyVersion := 0
    policyHash := none
    verifierTemplateId := verifierTemplateIdEoa
    authData := [] }

theorem recordIntoAccount_accountIntoRecord (account : Account) :
    recordIntoAccount (accountIntoRecord account) = .ok (plainAccount account) := by
  have keys : (account.keys.map keyIntoRecord).mapM recordIntoKey = .ok account.keys := by
    have read := mapM_map_of_reads recordIntoKey_keyIntoRecord account.keys
    simpa using read
  simp [recordIntoAccount, accountIntoRecord, keys, plainAccount]

theorem recordIntoAttestation_attestationIntoRecord (attestation : Attestation) :
    recordIntoAttestation (attestationIntoRecord attestation) = .ok attestation := by
  simp only [recordIntoAttestation, attestationIntoRecord, decodeAttestationStatus_encode,
    Option.map_map, Function.comp_def, Option.map_id_fun']
  rfl

theorem recordIntoReceipt_receiptIntoRecord (receipt : GovernanceReceipt) :
    recordIntoReceipt (receiptIntoRecord receipt) = .ok receipt := by
  simp only [recordIntoReceipt, receiptIntoRecord, decodeLifecycle_encode, AlgId.fromU16_asU16,
    proposalType_fromU8_asU8]
  rfl

theorem recordIntoValidator_validatorIntoRecord (record : ValidatorRecord) :
    recordIntoValidator (validatorIntoRecord record) = .ok record := by
  simp only [recordIntoValidator, validatorIntoRecord, decodeValidatorStatus_encode,
    AlgId.fromU16_asU16]
  rfl

def InBaseline (entry : AlgEntry) : Prop :=
  ∃ baseline ∈ phase1Registry,
    entry = { baseline with lifecycle := entry.lifecycle, minFee := entry.minFee }

theorem encodeSigClass_injective : Function.Injective encodeSigClass := by
  rintro (_ | _) (_ | _) <;> simp [encodeSigClass]

theorem matchesEntry_algEntryIntoRecord {entry baseline : AlgEntry}
    (named : baseline.algId = entry.algId) :
    (algEntryIntoRecord entry).matchesEntry baseline = true ↔
      entry = { baseline with lifecycle := entry.lifecycle, minFee := entry.minFee } := by
  simp only [AlgRegistryRecord.matchesEntry, algEntryIntoRecord, decide_eq_true_eq,
    (Option.map_injective encodeSigClass_injective).eq_iff]
  constructor
  · rintro ⟨spec, key, signature, sigClass, benchmark⟩
    cases entry
    cases baseline
    simp_all
  · intro same
    rw [same]
    exact ⟨rfl, rfl, rfl, rfl, rfl⟩

theorem phase1Registry_find (algId : AlgId) :
    ∃ baseline, phase1Registry.find? (fun entry => entry.algId.asU16 = algId.asU16) = some baseline ∧
      baseline.algId = algId ∧ ∀ other ∈ phase1Registry, other.algId = algId → other = baseline := by
  cases algId <;> exact ⟨_, rfl, rfl, by simp [phase1Registry]⟩

theorem recordIntoAlgEntry_algEntryIntoRecord (entry result : AlgEntry) :
    recordIntoAlgEntry (algEntryIntoRecord entry) = .ok result ↔
      InBaseline entry ∧ result = entry := by
  obtain ⟨baseline, found, named, unique⟩ := phase1Registry_find entry.algId
  have lookup : phase1Registry.find? (fun other => other.algId.asU16 =
      (algEntryIntoRecord entry).algId) = some baseline := found
  have member := List.mem_of_find?_eq_some found
  simp only [recordIntoAlgEntry, lookup, bind_eq_ok, okOr_eq_ok, require_eq_ok, pure_eq_ok,
    Option.some.injEq, exists_eq_left', matchesEntry_algEntryIntoRecord named]
  constructor
  · rintro ⟨_, same, lifecycle, decoded, rfl⟩
    have sameLifecycle : some entry.lifecycle = some lifecycle :=
      (decodeLifecycle_encode entry.lifecycle).symm.trans decoded
    obtain rfl := Option.some.inj sameLifecycle
    exact ⟨⟨baseline, member, same⟩, same.symm⟩
  · rintro ⟨⟨other, listed, same⟩, rfl⟩
    have identity : other.algId = result.algId := by rw [same]
    obtain rfl := unique other listed identity
    exact ⟨(), same, result.lifecycle, decodeLifecycle_encode _, same.symm⟩

def Writable : ProposalEffect → Prop
  | .registryUpdate _ _ _ | .burnRateUpdate _ | .feeParamUpdate _ | .softwareUpgrade _ _ => True
  | .addAlgorithm _ | .addSlashingVerifier _ | .addHash _ | .addAuthTemplate _ => False

theorem recordIntoEffect_effectIntoRecord (effect result : ProposalEffect) :
    recordIntoEffect (effectIntoRecord effect) = .ok result ↔ Writable effect ∧ result = effect := by
  cases effect with
  | registryUpdate algId targetLifecycle newMinFee =>
      have read : recordIntoEffect (effectIntoRecord (.registryUpdate algId targetLifecycle newMinFee)) =
          .ok (.registryUpdate algId targetLifecycle newMinFee) := by
        cases targetLifecycle <;> cases newMinFee <;>
          simp only [recordIntoEffect, effectIntoRecord, AlgId.fromU16_asU16, Option.map_some,
            Option.getD_some, decodeLifecycle_encode] <;> rfl
      rw [read, Except.ok.injEq, eq_comm]
      simp [Writable]
  | burnRateUpdate | feeParamUpdate | softwareUpgrade =>
      simp [recordIntoEffect, effectIntoRecord, EffectRecord.ofType, Writable, eq_comm]
  | addAlgorithm | addSlashingVerifier | addHash | addAuthTemplate =>
      simp [recordIntoEffect, effectIntoRecord, EffectRecord.ofType, Writable]

theorem ofList_toList (votes : Std.ExtTreeMap Address Bool) :
    Std.ExtTreeMap.ofList votes.toList = votes := by
  refine Std.ExtTreeMap.ext_getElem? fun voter => ?_
  cases found : votes[voter]? with
  | some yes =>
      exact Std.ExtTreeMap.getElem?_ofList_of_mem (compare_eq_iff_eq.mpr rfl)
        votes.distinct_keys_toList (Std.ExtTreeMap.mem_toList_iff_getElem?_eq_some.mpr found)
  | none =>
      refine Std.ExtTreeMap.getElem?_ofList_of_contains_eq_false ?_
      rw [List.contains_eq_mem, decide_eq_false_iff_not, List.mem_map]
      rintro ⟨vote, member, rfl⟩
      rw [Std.ExtTreeMap.mem_toList_iff_getElem?_eq_some.mp member] at found
      cases found

theorem recordIntoProposal_proposalIntoRecord (proposal result : PendingProposal) :
    recordIntoProposal (proposalIntoRecord proposal) = .ok result ↔
      Writable proposal.effect ∧ result = proposal := by
  simp only [recordIntoProposal, proposalIntoRecord, bind_eq_ok, okOr_eq_ok, pure_eq_ok,
    proposalType_fromU8_asU8, decodeProposalStatus_encode, Option.some.injEq,
    recordIntoEffect_effectIntoRecord, ofList_toList]
  constructor
  · rintro ⟨_, rfl, _, rfl, _, ⟨writable, rfl⟩, rfl⟩
    exact ⟨writable, rfl⟩
  · rintro ⟨writable, rfl⟩
    exact ⟨_, rfl, _, rfl, _, ⟨writable, rfl⟩, rfl⟩

end Entities

section Restored

variable (env)

def scalarMarket (market : FeeMarketState) : FeeMarketState :=
  { FeeMarketState.default with
    compute := { FeeMarketDimension.computeDefault with
      baseFee := market.compute.baseFee, limit := market.compute.limit }
    burnRateBps := market.burnRateBps }

def restoredMarket (market : FeeMarketState) : FeeMarketState :=
  if market.compute.limit > 0 then scalarMarket market else .default

def restored (state : StateStore) : StateStore :=
  { StateStore.new env with
    blockHeight := state.blockHeight
    chainId := state.chainId
    accounts := refill (fun _ => computeAccountLeafHash env) Account.address
      ((accountsInOrder state).map plainAccount) .empty
    attestations := refill (fun _ => computeAttestationLeafHash env) Attestation.attestationId
      (attestationsInOrder state) .empty
    governanceReceipts := refill (fun _ => computeReceiptLeafHash env) GovernanceReceipt.proposalId
      (governanceReceiptsInOrder state) .empty
    algRegistry := refill (fun _ => computeAlgLeafHash env) (fun entry => entry.algId.asU16)
      (algEntriesInOrder state) .empty
    validators := refill (fun _ => computeValidatorLeafHash env) ValidatorRecord.operator
      (validatorsInOrder state) .empty
    feeMarket := restoredMarket state.feeMarket
    feeMarketLeafHash := computeFeeMarketLeafHash env (restoredMarket state.feeMarket)
    pendingProposals := refill (fun _ => computeProposalLeafHash env) PendingProposal.proposalId
      (pendingProposalsInOrder state) .empty
    pendingUpgrades := refill (fun _ => computeUpgradeLeafHash env) PendingUpgrade.proposalId
      (pendingUpgradesInOrder state) .empty }

section Folds

variable (store : StateStore)

theorem foldl_insertAccount (accounts : List Account) :
    accounts.foldl (StateStore.insertAccount env) store =
      { store with
        accounts := store.accounts.refill (fun _ => computeAccountLeafHash env) Account.address
          accounts } := by
  induction accounts generalizing store with
  | nil => rfl
  | cons account accounts ih => exact ih _

theorem foldl_insertAttestation (attestations : List Attestation) :
    attestations.foldl (StateStore.insertAttestation env) store =
      { store with
        attestations := store.attestations.refill (fun _ => computeAttestationLeafHash env)
          Attestation.attestationId attestations } := by
  induction attestations generalizing store with
  | nil => rfl
  | cons attestation attestations ih => exact ih _

theorem foldl_insertGovernanceReceipt (receipts : List GovernanceReceipt) :
    receipts.foldl (StateStore.insertGovernanceReceipt env) store =
      { store with
        governanceReceipts := store.governanceReceipts.refill (fun _ => computeReceiptLeafHash env)
          GovernanceReceipt.proposalId receipts } := by
  induction receipts generalizing store with
  | nil => rfl
  | cons receipt receipts ih => exact ih _

theorem foldl_insertAlgEntry (entries : List AlgEntry) :
    entries.foldl (StateStore.insertAlgEntry env) store =
      { store with
        algRegistry := store.algRegistry.refill (fun _ => computeAlgLeafHash env)
          (fun entry => entry.algId.asU16) entries } := by
  induction entries generalizing store with
  | nil => rfl
  | cons entry entries ih => exact ih _

theorem foldl_insertValidator (records : List ValidatorRecord) :
    records.foldl (StateStore.insertValidator env) store =
      { store with
        validators := store.validators.refill (fun _ => computeValidatorLeafHash env)
          ValidatorRecord.operator records } := by
  induction records generalizing store with
  | nil => rfl
  | cons record records ih => exact ih _

theorem foldl_insertPendingProposal (proposals : List PendingProposal) :
    proposals.foldl (StateStore.insertPendingProposal env) store =
      { store with
        pendingProposals := store.pendingProposals.refill (fun _ => computeProposalLeafHash env)
          PendingProposal.proposalId proposals } := by
  induction proposals generalizing store with
  | nil => rfl
  | cons proposal proposals ih => exact ih _

theorem foldl_insertPendingUpgrade (upgrades : List PendingUpgrade) :
    upgrades.foldl (StateStore.insertPendingUpgrade env) store =
      { store with
        pendingUpgrades := store.pendingUpgrades.refill (fun _ => computeUpgradeLeafHash env)
          PendingUpgrade.proposalId upgrades } := by
  induction upgrades generalizing store with
  | nil => rfl
  | cons upgrade upgrades ih => exact ih _

end Folds

def RegistryWritable (state : StateStore) : Prop :=
  state.algRegistry.values.length = phase1Registry.length ∧
    ∀ entry ∈ state.algRegistry.values, InBaseline entry

def ProposalsWritable (state : StateStore) : Prop :=
  ∀ proposal ∈ state.pendingProposals.values, Writable proposal.effect

theorem validateRegistrySnapshot_eq_ok (state : StateStore) (entries : List AlgEntry) :
    validateRegistrySnapshot (stateIntoRecord state).algRegistry = .ok entries ↔
      RegistryWritable state ∧ entries = algEntriesInOrder state := by
  have order : (algEntriesInOrder state).Perm state.algRegistry.values := List.perm_insertionSort _ _
  have read := mapM_map_eq_ok recordIntoAlgEntry_algEntryIntoRecord (algEntriesInOrder state) entries
  simp only [validateRegistrySnapshot, stateIntoRecord, bind_eq_ok, require_eq_ok,
    decide_eq_true_eq, List.length_map, order.length_eq, read, order.mem_iff, List.map_id',
    RegistryWritable]
  constructor
  · rintro ⟨_, length, baseline, rfl⟩
    exact ⟨⟨length, baseline⟩, rfl⟩
  · rintro ⟨⟨length, baseline⟩, rfl⟩
    exact ⟨(), length, baseline, rfl⟩

theorem proposals_read (state : StateStore) (proposals : List PendingProposal) :
    (stateIntoRecord state).pendingProposals.mapM recordIntoProposal = .ok proposals ↔
      ProposalsWritable state ∧ proposals = pendingProposalsInOrder state := by
  have order : (pendingProposalsInOrder state).Perm state.pendingProposals.values :=
    List.perm_insertionSort _ _
  have read := mapM_map_eq_ok recordIntoProposal_proposalIntoRecord
    (pendingProposalsInOrder state) proposals
  simp only [stateIntoRecord, read, order.mem_iff, List.map_id', ProposalsWritable]

theorem built_eq_restored (state : StateStore) :
    (pendingUpgradesInOrder state).foldl (StateStore.insertPendingUpgrade env)
      ((pendingProposalsInOrder state).foldl (StateStore.insertPendingProposal env)
        (if (stateIntoRecord state).feeMarketBlockGasLimit > 0 then
          ((validatorsInOrder state).foldl (StateStore.insertValidator env)
            (fromSnapshotFull env ((accountsInOrder state).map plainAccount)
              (attestationsInOrder state) (governanceReceiptsInOrder state)
              (algEntriesInOrder state) (stateIntoRecord state).blockHeight
              state.chainId)).setFeeMarket env (stateIntoRecord state).feeMarket
        else
          (validatorsInOrder state).foldl (StateStore.insertValidator env)
            (fromSnapshotFull env ((accountsInOrder state).map plainAccount)
              (attestationsInOrder state) (governanceReceiptsInOrder state)
              (algEntriesInOrder state) (stateIntoRecord state).blockHeight state.chainId))) =
      restored env state := by
  simp only [fromSnapshotFull, foldl_insertAccount, foldl_insertAttestation,
    foldl_insertGovernanceReceipt, foldl_insertAlgEntry, foldl_insertValidator,
    foldl_insertPendingProposal, foldl_insertPendingUpgrade]
  by_cases positive : state.feeMarket.compute.limit > 0
  · have market : restoredMarket state.feeMarket = scalarMarket state.feeMarket := if_pos positive
    rw [if_pos (show (stateIntoRecord state).feeMarketBlockGasLimit > 0 from positive), restored,
      market]
    rfl
  · have market : restoredMarket state.feeMarket = .default := if_neg positive
    rw [if_neg (show ¬ (stateIntoRecord state).feeMarketBlockGasLimit > 0 from positive), restored,
      market]
    rfl

theorem recordIntoState_eq_ok (state result : StateStore) :
    recordIntoState env (stateIntoRecord state) state.chainId = .ok result ↔
      (RegistryWritable state ∧ ProposalsWritable state) ∧ result = restored env state := by
  have accounts : (stateIntoRecord state).accounts.mapM recordIntoAccount =
      .ok ((accountsInOrder state).map plainAccount) :=
    mapM_map_of_reads recordIntoAccount_accountIntoRecord _
  have attestations : (stateIntoRecord state).attestations.mapM recordIntoAttestation =
      .ok ((attestationsInOrder state).map id) :=
    mapM_map_of_reads recordIntoAttestation_attestationIntoRecord _
  have receipts : (stateIntoRecord state).governanceReceipts.mapM recordIntoReceipt =
      .ok ((governanceReceiptsInOrder state).map id) :=
    mapM_map_of_reads recordIntoReceipt_receiptIntoRecord _
  have validators : (stateIntoRecord state).validators.mapM recordIntoValidator =
      .ok ((validatorsInOrder state).map id) :=
    mapM_map_of_reads recordIntoValidator_validatorIntoRecord _
  have upgrades : (stateIntoRecord state).pendingUpgrades.map recordIntoUpgrade =
      pendingUpgradesInOrder state := by
    simp only [stateIntoRecord, List.map_map]
    exact List.map_id _
  simp only [recordIntoState, bind_eq_ok, validateRegistrySnapshot_eq_ok, accounts, attestations,
    receipts, validators, upgrades, proposals_read, pure_eq_ok, Except.ok.injEq, exists_eq_left',
    List.map_id]
  constructor
  · rintro ⟨_, ⟨registry, rfl⟩, _, ⟨proposals, rfl⟩, rfl⟩
    exact ⟨⟨registry, proposals⟩, built_eq_restored env state⟩
  · rintro ⟨⟨registry, proposals⟩, rfl⟩
    exact ⟨_, ⟨registry, rfl⟩, _, ⟨proposals, rfl⟩, built_eq_restored env state⟩

end Restored

section Contents

structure SameContents (env : Env) (left right : StateStore) : Prop where
  blockHeight : left.blockHeight = right.blockHeight
  chainId : left.chainId = right.chainId
  accounts : left.accounts.entries = right.accounts.entries
  attestations : left.attestations.entries = right.attestations.entries
  proofAnchors : left.proofAnchors.entries = right.proofAnchors.entries
  consensusKeyRotations : left.consensusKeyRotations.entries = right.consensusKeyRotations.entries
  algRegistry : left.algRegistry.entries = right.algRegistry.entries
  governanceReceipts : left.governanceReceipts.entries = right.governanceReceipts.entries
  validators : left.validators.entries = right.validators.entries
  pendingProposals : left.pendingProposals.entries = right.pendingProposals.entries
  pendingUpgrades : left.pendingUpgrades.entries = right.pendingUpgrades.entries
  peerIdBindings : left.peerIdBindings.entries = right.peerIdBindings.entries
  slashingRegistry : left.slashingRegistry.entries = right.slashingRegistry.entries
  hashRegistry : left.hashRegistry.entries = right.hashRegistry.entries
  archivalRecords : left.archivalRecords.entries = right.archivalRecords.entries
  archivalKeys : left.archivalKeys.entries = right.archivalKeys.entries
  feeMarket : left.feeMarket = right.feeMarket
  recentSlashes : left.recentSlashes = right.recentSlashes
  storageFund : env.tokenEconomics = true → left.storageFund = right.storageFund

theorem leaves_eq_of_entries {K V : Type} [LinearOrder K] {digest : K → V → Bytes32}
    {left right : CachedTable K V Bytes32} (freshLeft : left.Coherent digest)
    (freshRight : right.Coherent digest) (same : left.entries = right.entries) :
    left.leaves = right.leaves := by
  rw [freshLeft.leaves_eq, freshRight.leaves_eq, same]

theorem SameContents.stateRoot {left right : StateStore} (same : SameContents env left right)
    (freshLeft : left.LeavesFresh env) (freshRight : right.LeavesFresh env) :
    left.stateRoot env = right.stateRoot env := by
  have funds : (if env.tokenEconomics then
        [StateStore.stateMerkleLeaf env .storageFund [] left.storageFundLeafHash.data] else []) =
      (if env.tokenEconomics then
        [StateStore.stateMerkleLeaf env .storageFund [] right.storageFundLeafHash.data] else []) := by
    split
    · next enabled => rw [freshLeft.storageFund, freshRight.storageFund, same.storageFund enabled]
    · rfl
  simp only [StateStore.stateRoot, same.blockHeight, funds,
    leaves_eq_of_entries freshLeft.accounts freshRight.accounts same.accounts,
    leaves_eq_of_entries freshLeft.attestations freshRight.attestations same.attestations,
    leaves_eq_of_entries freshLeft.proofAnchors freshRight.proofAnchors same.proofAnchors,
    leaves_eq_of_entries freshLeft.consensusKeyRotations freshRight.consensusKeyRotations
      same.consensusKeyRotations,
    leaves_eq_of_entries freshLeft.algRegistry freshRight.algRegistry same.algRegistry,
    leaves_eq_of_entries freshLeft.governanceReceipts freshRight.governanceReceipts
      same.governanceReceipts,
    leaves_eq_of_entries freshLeft.validators freshRight.validators same.validators,
    leaves_eq_of_entries freshLeft.pendingProposals freshRight.pendingProposals
      same.pendingProposals,
    leaves_eq_of_entries freshLeft.pendingUpgrades freshRight.pendingUpgrades same.pendingUpgrades,
    leaves_eq_of_entries freshLeft.peerIdBindings freshRight.peerIdBindings same.peerIdBindings,
    leaves_eq_of_entries freshLeft.slashingRegistry freshRight.slashingRegistry
      same.slashingRegistry,
    leaves_eq_of_entries freshLeft.hashRegistry freshRight.hashRegistry same.hashRegistry,
    leaves_eq_of_entries freshLeft.archivalRecords freshRight.archivalRecords same.archivalRecords,
    leaves_eq_of_entries freshLeft.archivalKeys freshRight.archivalKeys same.archivalKeys,
    freshLeft.feeMarket, freshRight.feeMarket, same.feeMarket, freshLeft.recentSlashes,
    freshRight.recentSlashes, same.recentSlashes]

theorem restored_fresh (state : StateStore) : (restored env state).LeavesFresh env :=
  { (StateStore.coherent_new env).fresh with
    accounts := coherent_empty.refill _
    attestations := coherent_empty.refill _
    governanceReceipts := coherent_empty.refill _
    algRegistry := coherent_empty.refill _
    validators := coherent_empty.refill _
    pendingProposals := coherent_empty.refill _
    pendingUpgrades := coherent_empty.refill _
    feeMarket := rfl }

structure Representable (env : Env) (state : StateStore) : Prop where
  accounts : ∀ account ∈ state.accounts.values, plainAccount account = account
  registry : RegistryWritable state
  proposals : ProposalsWritable state
  feeMarket : state.feeMarket = scalarMarket state.feeMarket
  gasLimit : 0 < state.feeMarket.compute.limit
  proofAnchors : state.proofAnchors.entries = ∅
  consensusKeyRotations : state.consensusKeyRotations.entries = ∅
  peerIdBindings : state.peerIdBindings.entries = ∅
  archivalRecords : state.archivalRecords.entries = ∅
  archivalKeys : state.archivalKeys.entries = ∅
  recentSlashes : state.recentSlashes = []
  slashingRegistry : state.slashingRegistry.entries = (StateStore.new env).slashingRegistry.entries
  hashRegistry : state.hashRegistry.entries = (StateStore.new env).hashRegistry.entries
  storageFund : env.tokenEconomics = true → state.storageFund = .default

theorem restoredMarket_eq_iff (market : FeeMarketState) :
    restoredMarket market = market ↔ market = scalarMarket market ∧ 0 < market.compute.limit := by
  unfold restoredMarket
  split
  · next positive => simp [positive, eq_comm]
  · next zero =>
      refine ⟨fun same => absurd ?_ zero, fun scalar => absurd scalar.2 zero⟩
      rw [← same]
      decide

theorem sameContents_restored_iff {state : StateStore} (coherent : state.Coherent env)
    (named : state.catalogue.Named) (registry : RegistryWritable state)
    (proposals : ProposalsWritable state) :
    SameContents env (restored env state) state ↔ Representable env state := by
  have accounts := coherent.accountsKeyed.refill_entries_eq (fun _ => computeAccountLeafHash env)
    (List.perm_insertionSort _ _ : (accountsInOrder state).Perm _)
    (fun account => (rfl : (plainAccount account).address = account.address))
  constructor
  · intro same
    have market := (restoredMarket_eq_iff state.feeMarket).mp same.feeMarket
    exact
      { accounts := accounts.mp same.accounts
        registry
        proposals
        feeMarket := market.1
        gasLimit := market.2
        proofAnchors := same.proofAnchors.symm
        consensusKeyRotations := same.consensusKeyRotations.symm
        peerIdBindings := same.peerIdBindings.symm
        archivalRecords := same.archivalRecords.symm
        archivalKeys := same.archivalKeys.symm
        recentSlashes := same.recentSlashes.symm
        slashingRegistry := same.slashingRegistry.symm
        hashRegistry := same.hashRegistry.symm
        storageFund := fun enabled => (same.storageFund enabled).symm }
  · intro representable
    exact
      { blockHeight := rfl
        chainId := rfl
        accounts := accounts.mpr representable.accounts
        attestations := named.attestations.refill_entries _ (List.perm_insertionSort _ _)
        proofAnchors := representable.proofAnchors.symm
        consensusKeyRotations := representable.consensusKeyRotations.symm
        algRegistry := named.algRegistry.refill_entries _ (List.perm_insertionSort _ _)
        governanceReceipts := named.governanceReceipts.refill_entries _ (List.perm_insertionSort _ _)
        validators := coherent.validatorsKeyed.refill_entries _ (List.perm_insertionSort _ _)
        pendingProposals := named.pendingProposals.refill_entries _ (List.perm_insertionSort _ _)
        pendingUpgrades := named.pendingUpgrades.refill_entries _ (List.perm_insertionSort _ _)
        peerIdBindings := representable.peerIdBindings.symm
        slashingRegistry := representable.slashingRegistry.symm
        hashRegistry := representable.hashRegistry.symm
        archivalRecords := representable.archivalRecords.symm
        archivalKeys := representable.archivalKeys.symm
        feeMarket := (restoredMarket_eq_iff state.feeMarket).mpr
          ⟨representable.feeMarket, representable.gasLimit⟩
        recentSlashes := representable.recentSlashes.symm
        storageFund := fun enabled => (representable.storageFund enabled).symm }

end Contents

theorem Representable.survives {state : StateStore} (representable : Representable env state)
    (reached : state.OnChain env) :
    ∃ after, recordIntoState env (stateIntoRecord state) state.chainId = .ok after ∧
      SameContents env after state ∧ after.stateRoot env = state.stateRoot env := by
  have same := (sameContents_restored_iff reached.coherent reached.named representable.registry
    representable.proposals).mpr representable
  refine ⟨restored env state, ?_, same, same.stateRoot (restored_fresh state) reached.coherent.fresh⟩
  exact (recordIntoState_eq_ok env state _).mpr
    ⟨⟨representable.registry, representable.proposals⟩, rfl⟩

/-- A state on the chain survives its own checkpoint exactly when it is representable. -/
theorem checkpoint_roundTrip (env : Env) (state : StateStore) (reached : state.OnChain env) :
    (∃ after, recordIntoState env (stateIntoRecord state) state.chainId = .ok after ∧
        SameContents env after state ∧ after.stateRoot env = state.stateRoot env) ↔
      Representable env state := by
  constructor
  · rintro ⟨after, read, same, _⟩
    obtain ⟨⟨registry, proposals⟩, rfl⟩ := (recordIntoState_eq_ok env state after).mp read
    exact (sameContents_restored_iff reached.coherent reached.named registry proposals).mp same
  · intro representable
    exact representable.survives reached

theorem new_registry_phase1 (env : Env) :
    ∀ entry ∈ (StateStore.new env).algRegistry.values, entry ∈ phase1Registry := by
  have filled : ∀ key entry, (StateStore.new env).algRegistry.get? key = some entry →
      entry ∈ phase1Registry := by
    refine List.foldlRecOn phase1Registry _
      (motive := fun table : CachedTable Nat AlgEntry Bytes32 =>
        ∀ key entry, table.get? key = some entry → entry ∈ phase1Registry) ?_ ?_
    · intro key entry found
      simp at found
    · intro table listed added member key entry found
      rw [get?_insert] at found
      split at found
      · cases found
        exact member
      · exact listed key entry found
  intro entry member
  obtain ⟨key, found⟩ := (StateStore.new env).algRegistry.mem_values.mp member
  exact filled key entry found

section Anchored

def anchored : StateStore :=
  produce sampleEnv sampleGenesis
    (submit sampleGenesis freeParams (authorTx .proofAnchor 0 10 anchorPayload) .new)

theorem checkpoint_losesAnchor :
    anchored.OnChain sampleEnv ∧ anchored.proofAnchors.values.length = 1 ∧
      ∃ after, recordIntoState sampleEnv (stateIntoRecord anchored) anchored.chainId = .ok after ∧
        after.proofAnchors.values = [] := by
  refine ⟨produce_onChain sampleGenesis_onChain _, by decide +kernel, ?_⟩
  have read : (recordIntoState sampleEnv (stateIntoRecord anchored) anchored.chainId).toOption.map
      (fun after => after.proofAnchors.values.length) = some 0 := by
    decide +kernel
  obtain ⟨after, restored, emptied⟩ := exists_ok_of_toOption read
  exact ⟨after, restored, List.length_eq_zero_iff.mp emptied⟩

theorem sampleGenesis_representable : Representable sampleEnv sampleGenesis :=
    { accounts := by
        intro account member
        obtain ⟨address, found⟩ := sampleGenesis.accounts.mem_values.mp member
        have stored : sampleGenesis.accounts =
            CachedTable.empty.insert (fun _ => computeAccountLeafHash sampleEnv) author
              authorAccount := rfl
        rw [stored, get?_insert, get?_empty] at found
        split at found <;> cases found
        rfl
      registry := ⟨by decide +kernel, fun entry member =>
        ⟨entry, new_registry_phase1 sampleEnv entry member, rfl⟩⟩
      proposals := by
        intro proposal member
        obtain ⟨id, found⟩ := sampleGenesis.pendingProposals.mem_values.mp member
        have none : sampleGenesis.pendingProposals = .empty := rfl
        rw [none, get?_empty] at found
        cases found
      feeMarket := rfl
      gasLimit := by decide
      proofAnchors := rfl
      consensusKeyRotations := rfl
      peerIdBindings := rfl
      archivalRecords := rfl
      archivalKeys := rfl
      recentSlashes := rfl
      slashingRegistry := rfl
      hashRegistry := rfl
      storageFund := fun _ => rfl }

theorem checkpoint_roundTrip_genesis :
    ∃ after, recordIntoState sampleEnv (stateIntoRecord sampleGenesis) sampleGenesis.chainId = .ok after ∧
      SameContents sampleEnv after sampleGenesis ∧
      after.stateRoot sampleEnv = sampleGenesis.stateRoot sampleEnv :=
  (checkpoint_roundTrip sampleEnv sampleGenesis sampleGenesis_onChain).mpr sampleGenesis_representable

end Anchored

end ViperChain.Storage
