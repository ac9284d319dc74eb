import ViperChain.State.Effects

/-!
The incremental state root is never stale: the cached leaves are the leaf hashes of the stored
entities.
-/

namespace ViperChain

open CachedTables CachedTable

namespace StateStore

structure LeavesFresh (env : Env) (store : StateStore) : Prop where
  accounts : store.accounts.Coherent fun _ => computeAccountLeafHash env
  attestations : store.attestations.Coherent fun _ => computeAttestationLeafHash env
  proofAnchors : store.proofAnchors.Coherent fun _ => computeProofAnchorLeafHash env
  consensusKeyRotations :
    store.consensusKeyRotations.Coherent fun _ => computeConsensusRotationLeafHash env
  algRegistry : store.algRegistry.Coherent fun _ => computeAlgLeafHash env
  governanceReceipts : store.governanceReceipts.Coherent fun _ => computeReceiptLeafHash env
  validators : store.validators.Coherent fun _ => computeValidatorLeafHash env
  pendingProposals : store.pendingProposals.Coherent fun _ => computeProposalLeafHash env
  pendingUpgrades : store.pendingUpgrades.Coherent fun _ => computeUpgradeLeafHash env
  peerIdBindings : store.peerIdBindings.Coherent (computePeerIdBindingLeafHash env)
  slashingRegistry : store.slashingRegistry.Coherent fun _ => computeSlashingVerifierLeafHash env
  hashRegistry : store.hashRegistry.Coherent fun _ => computeHashRegistryLeafHash env
  archivalRecords : store.archivalRecords.Coherent fun _ => computeArchivalRecordLeafHash env
  archivalKeys : store.archivalKeys.Coherent fun _ => computeArchivalKeyLeafHash env
  feeMarket : store.feeMarketLeafHash = computeFeeMarketLeafHash env store.feeMarket
  storageFund : store.storageFundLeafHash = computeStorageFundLeafHash env store.storageFund
  recentSlashes : store.recentSlashesLeafHash = computeRecentSlashesLeafHash env store.recentSlashes

def rehash {K V : Type} [LinearOrder K] (digest : K → V → Bytes32)
    (table : CachedTable K V Bytes32) : CachedTable K V Bytes32 :=
  ⟨table.entries, table.entries.map digest⟩

def rehashed (env : Env) (store : StateStore) : StateStore :=
  { store with
    accounts := rehash (fun _ => computeAccountLeafHash env) store.accounts
    attestations := rehash (fun _ => computeAttestationLeafHash env) store.attestations
    proofAnchors := rehash (fun _ => computeProofAnchorLeafHash env) store.proofAnchors
    consensusKeyRotations :=
      rehash (fun _ => computeConsensusRotationLeafHash env) store.consensusKeyRotations
    algRegistry := rehash (fun _ => computeAlgLeafHash env) store.algRegistry
    governanceReceipts := rehash (fun _ => computeReceiptLeafHash env) store.governanceReceipts
    validators := rehash (fun _ => computeValidatorLeafHash env) store.validators
    pendingProposals := rehash (fun _ => computeProposalLeafHash env) store.pendingProposals
    pendingUpgrades := rehash (fun _ => computeUpgradeLeafHash env) store.pendingUpgrades
    peerIdBindings := rehash (computePeerIdBindingLeafHash env) store.peerIdBindings
    slashingRegistry :=
      rehash (fun _ => computeSlashingVerifierLeafHash env) store.slashingRegistry
    hashRegistry := rehash (fun _ => computeHashRegistryLeafHash env) store.hashRegistry
    archivalRecords := rehash (fun _ => computeArchivalRecordLeafHash env) store.archivalRecords
    archivalKeys := rehash (fun _ => computeArchivalKeyLeafHash env) store.archivalKeys
    feeMarketLeafHash := computeFeeMarketLeafHash env store.feeMarket
    storageFundLeafHash := computeStorageFundLeafHash env store.storageFund
    recentSlashesLeafHash := computeRecentSlashesLeafHash env store.recentSlashes }

theorem rehash_eq {K V : Type} [LinearOrder K] {digest : K → V → Bytes32}
    {table : CachedTable K V Bytes32} (coherent : table.Coherent digest) :
    rehash digest table = table := by
  unfold rehash
  rw [← coherent.leaves_eq]

theorem LeavesFresh.rehashed_eq {env : Env} {store : StateStore} (fresh : LeavesFresh env store) :
    store.rehashed env = store := by
  simp only [rehashed, rehash_eq fresh.accounts, rehash_eq fresh.attestations,
    rehash_eq fresh.proofAnchors, rehash_eq fresh.consensusKeyRotations,
    rehash_eq fresh.algRegistry, rehash_eq fresh.governanceReceipts, rehash_eq fresh.validators,
    rehash_eq fresh.pendingProposals, rehash_eq fresh.pendingUpgrades,
    rehash_eq fresh.peerIdBindings, rehash_eq fresh.slashingRegistry,
    rehash_eq fresh.hashRegistry, rehash_eq fresh.archivalRecords, rehash_eq fresh.archivalKeys,
    ← fresh.feeMarket, ← fresh.storageFund, ← fresh.recentSlashes]

/-- The invariant behind freshness: accounts and validators also sit under the address
they carry, because three block steps commit by the carried address. -/
structure Coherent (env : Env) (store : StateStore) : Prop where
  fresh : store.LeavesFresh env
  accountsKeyed : store.accounts.Keyed Account.address
  validatorsKeyed : store.validators.Keyed ValidatorRecord.operator

section Writes

variable {env : Env} {store : StateStore}

theorem coherent_new (env : Env) : (new env).Coherent env where
  fresh :=
    { accounts := coherent_empty
      attestations := coherent_empty
      proofAnchors := coherent_empty
      consensusKeyRotations := coherent_empty
      algRegistry := List.foldlRecOn phase1Registry _ coherent_empty
        fun _ coherent entry _ => coherent.insert entry.algId.asU16 entry
      governanceReceipts := coherent_empty
      validators := coherent_empty
      pendingProposals := coherent_empty
      pendingUpgrades := coherent_empty
      peerIdBindings := coherent_empty
      slashingRegistry := coherent_empty.insert _ _
      hashRegistry := List.foldlRecOn phase1HashRegistry _ coherent_empty
        fun _ coherent entry _ => coherent.insert entry.hashId entry
      archivalRecords := coherent_empty
      archivalKeys := coherent_empty
      feeMarket := rfl
      storageFund := rfl
      recentSlashes := rfl }
  accountsKeyed := keyed_empty
  validatorsKeyed := keyed_empty

theorem Coherent.insertAccount (coherent : store.Coherent env) (account : Account) :
    (store.insertAccount env account).Coherent env where
  fresh := { coherent.fresh with accounts := coherent.fresh.accounts.insert _ _ }
  accountsKeyed := coherent.accountsKeyed.insert _ account
  validatorsKeyed := coherent.validatorsKeyed

theorem Coherent.updateAccount (coherent : store.Coherent env) (address : Address)
    (change : Account → Account) (keeps : ∀ account, (change account).address = account.address) :
    ((store.modifyAccount address change).commitAccountMutation env address).Coherent env where
  fresh := { coherent.fresh with accounts := coherent.fresh.accounts.modify_commit _ _ }
  accountsKeyed := (coherent.accountsKeyed.modify _ _ fun account _ => keeps account).commit _ _
  validatorsKeyed := coherent.validatorsKeyed

theorem Coherent.insertValidator (coherent : store.Coherent env) (record : ValidatorRecord) :
    (store.insertValidator env record).Coherent env where
  fresh := { coherent.fresh with validators := coherent.fresh.validators.insert _ _ }
  accountsKeyed := coherent.accountsKeyed
  validatorsKeyed := coherent.validatorsKeyed.insert _ record

theorem Coherent.updateValidator (coherent : store.Coherent env) (operator : Address)
    (change : ValidatorRecord → ValidatorRecord)
    (keeps : ∀ record, (change record).operator = record.operator) :
    ((store.modifyValidator operator change).commitValidatorMutation env operator).Coherent env where
  fresh := { coherent.fresh with validators := coherent.fresh.validators.modify_commit _ _ }
  accountsKeyed := coherent.accountsKeyed
  validatorsKeyed := (coherent.validatorsKeyed.modify _ _ fun record _ => keeps record).commit _ _

theorem Coherent.refreshed {next : StateStore} (coherent : store.Coherent env)
    (fresh : next.LeavesFresh env) (accounts : next.accounts = store.accounts)
    (validators : next.validators = store.validators) : next.Coherent env where
  fresh := fresh
  accountsKeyed := by rw [accounts]; exact coherent.accountsKeyed
  validatorsKeyed := by rw [validators]; exact coherent.validatorsKeyed

theorem Coherent.setValidatorPeerId (coherent : store.Coherent env) (operator : Address)
    (peerId : Bytes) : (store.setValidatorPeerId env operator peerId).Coherent env := by
  have fresh := coherent.fresh
  unfold StateStore.setValidatorPeerId
  split
  · exact coherent.refreshed { fresh with peerIdBindings := fresh.peerIdBindings.remove _ } rfl rfl
  · exact coherent.refreshed { fresh with peerIdBindings := fresh.peerIdBindings.insert _ _ } rfl rfl

theorem Coherent.updatePendingProposal (coherent : store.Coherent env) (id : Bytes32)
    (change : PendingProposal → PendingProposal) :
    ((store.modifyPendingProposal id change).commitProposalMutation env id).Coherent env :=
  coherent.refreshed { coherent.fresh with
    pendingProposals := coherent.fresh.pendingProposals.modify_commit _ _ } rfl rfl

theorem Coherent.setFeeMarket (coherent : store.Coherent env) (feeMarket : FeeMarketState) :
    (store.setFeeMarket env feeMarket).Coherent env :=
  coherent.refreshed { coherent.fresh with feeMarket := rfl } rfl rfl

theorem Coherent.recordRecentSlash (coherent : store.Coherent env) (entry : RecentSlashEntry) :
    (store.recordRecentSlash env entry).Coherent env :=
  coherent.refreshed { coherent.fresh with recentSlashes := rfl } rfl rfl

theorem Coherent.pruneRecentSlashesBefore (coherent : store.Coherent env) (cutoff : Nat) :
    (store.pruneRecentSlashesBefore env cutoff).Coherent env := by
  simp only [StateStore.pruneRecentSlashesBefore]
  split
  · exact coherent
  · exact coherent.refreshed { coherent.fresh with recentSlashes := rfl } rfl rfl

end Writes

end StateStore

open StateStore

section Execution

variable {env : Env} {store next : StateStore} {tx : Transaction}

theorem withdraw_coherent (coherent : store.Coherent env) (address : Address) (amount : Nat) :
    (withdraw env store address amount).Coherent env :=
  coherent.updateAccount address _ fun _ => rfl

theorem creditAccount_coherent (coherent : store.Coherent env) (address : Address) (amount : Nat) :
    (creditAccount env store address amount).Coherent env := by
  unfold creditAccount
  split
  · exact coherent
  · split
    · exact coherent.updateAccount address _ fun _ => rfl
    · exact coherent.insertAccount _

theorem creditRecipient_coherent (coherent : store.Coherent env) (recipient : Address)
    (amount : Nat) : (creditRecipient env store recipient amount).Coherent env := by
  unfold creditRecipient
  split
  · exact coherent.updateAccount recipient _ fun _ => rfl
  · exact coherent.insertAccount _

theorem admitValidator_coherent (coherent : store.Coherent env) (record : ValidatorRecord)
    (peerId : Bytes) : (admitValidator env store record peerId).Coherent env := by
  simp only [admitValidator]
  split
  · exact coherent.insertValidator record
  · exact (coherent.insertValidator record).setValidatorPeerId _ _

theorem PayloadEffect.coherent (effect : PayloadEffect env store tx next)
    (coherent : store.Coherent env) : next.Coherent env := by
  have fresh := coherent.fresh
  cases effect with
  | createAccount account => exact coherent.insertAccount account
  | updateSender change keeps => exact coherent.updateAccount tx.sender change keeps.address
  | transfer sender recipient amount =>
      exact creditRecipient_coherent (withdraw_coherent coherent tx.sender amount) recipient amount
  | register sender record peerId =>
      exact admitValidator_coherent (withdraw_coherent coherent tx.sender _) record peerId
  | setStatus record status => exact coherent.updateValidator tx.sender _ fun _ => rfl
  | bindPeer peerId => exact coherent.setValidatorPeerId tx.sender peerId
  | scheduleRotation =>
      exact coherent.refreshed
        { fresh with consensusKeyRotations := fresh.consensusKeyRotations.insert _ _ } rfl rfl
  | slashed record evidence cutoff _ _ _ amount =>
      have pruned := coherent.pruneRecentSlashesBefore cutoff
      have cut := pruned.updateValidator evidence.validatorAddress (Slashing.slashRecord amount)
        fun _ => rfl
      exact (creditAccount_coherent cut _ amount).recordRecentSlash _
  | anchor =>
      exact coherent.refreshed { fresh with proofAnchors := fresh.proofAnchors.insert _ _ } rfl rfl
  | attest =>
      exact coherent.refreshed { fresh with attestations := fresh.attestations.insert _ _ } rfl rfl
  | archivalKey =>
      exact coherent.refreshed { fresh with archivalKeys := fresh.archivalKeys.insert _ _ } rfl rfl
  | archive =>
      exact coherent.refreshed { fresh with archivalRecords := fresh.archivalRecords.insert _ _ } rfl rfl
  | pushAnchor =>
      exact coherent.refreshed { fresh with archivalRecords := fresh.archivalRecords.modify_commit _ _ } rfl rfl
  | renew =>
      exact coherent.refreshed
        { fresh with archivalRecords := fresh.archivalRecords.modify_commit _ _ } rfl rfl
  | propose =>
      exact coherent.refreshed { fresh with pendingProposals := fresh.pendingProposals.insert _ _ } rfl rfl
  | vote id change => exact coherent.updatePendingProposal id change

theorem Settled.coherent {debit : Nat} (settled : Settled env store tx debit next)
    (coherent : store.Coherent env) : next.Coherent env := by
  rw [settled.next_eq]
  exact coherent.updateAccount tx.sender _ fun _ => rfl

theorem applyTx_coherent {context : ExecutionContext} {result : ExecutionResult}
    (coherent : store.Coherent env)
    (executed : applyTx env store tx context = .ok (next, result)) : next.Coherent env := by
  obtain ⟨working, settled, rfl | effect⟩ := applyTx_cases executed
  · exact settled.coherent coherent
  · exact settled.coherent (effect.coherent coherent)

end Execution

section BlockSteps

variable {env : Env} {store : StateStore}

theorem distributeBlockFees_coherent (coherent : store.Coherent env) (proposer : Address)
    (fees : Nat) (pool : List Address) (params : FeeDistributionParams) :
    (distributeBlockFees env store proposer fees pool params).Coherent env :=
  distributeBlockFees_invariant (motive := StateStore.Coherent env)
    (fun _ _ _ current => creditAccount_coherent current _ _) coherent proposer fees pool params

theorem applyAimdUpdate_coherent (coherent : store.Coherent env) (gasUsed : Nat) :
    (store.applyAimdUpdate env gasUsed).Coherent env :=
  coherent.setFeeMarket _

theorem executeRegistryUpdate_coherent (coherent : store.Coherent env) (proposal : PendingProposal)
    (algId : AlgId) (targetLifecycle : Option Lifecycle) (newMinFee : Option Nat) (height : Nat) :
    (executeRegistryUpdate env store proposal algId targetLifecycle newMinFee height).1.Coherent
      env := by
  unfold executeRegistryUpdate
  split
  · exact coherent
  · split
    · exact coherent.refreshed
        { coherent.fresh with
          algRegistry := coherent.fresh.algRegistry.modify_commit _ _
          governanceReceipts := coherent.fresh.governanceReceipts.insert _ _ } rfl rfl
    · exact coherent

theorem executeAddAlgorithm_coherent (coherent : store.Coherent env)
    (proposal : AddAlgorithmProposal) :
    (executeAddAlgorithm env store proposal).1.Coherent env := by
  have inserted := fun key entry => coherent.fresh.algRegistry.insert key entry
  unfold executeAddAlgorithm
  repeat' split
  all_goals first
    | exact coherent
    | exact coherent.refreshed { coherent.fresh with algRegistry := inserted _ _ } rfl rfl

theorem executeAddSlashingVerifier_coherent (coherent : store.Coherent env)
    (proposal : SlashingVerifierProposal) :
    (executeAddSlashingVerifier env store proposal).1.Coherent env := by
  have inserted := fun key entry => coherent.fresh.slashingRegistry.insert key entry
  unfold executeAddSlashingVerifier
  repeat' split
  all_goals first
    | exact coherent
    | exact coherent.refreshed { coherent.fresh with slashingRegistry := inserted _ _ } rfl rfl

theorem executeAddHash_coherent (coherent : store.Coherent env) (proposal : AddHashProposal) :
    (executeAddHash env store proposal).1.Coherent env := by
  have inserted := fun key entry => coherent.fresh.hashRegistry.insert key entry
  unfold executeAddHash
  repeat' split
  all_goals first
    | exact coherent
    | exact coherent.refreshed { coherent.fresh with hashRegistry := inserted _ _ } rfl rfl

theorem executeEffect_coherent (coherent : store.Coherent env) (proposal : PendingProposal)
    (height : Nat) : (executeEffect env store proposal height).1.Coherent env := by
  unfold executeEffect
  split
  · exact executeRegistryUpdate_coherent coherent proposal _ _ _ height
  · exact coherent.setFeeMarket _
  · exact coherent.setFeeMarket _
  · exact coherent.refreshed { coherent.fresh with
      pendingUpgrades := coherent.fresh.pendingUpgrades.insert _ _ } rfl rfl
  · exact executeAddAlgorithm_coherent coherent _
  · exact executeAddSlashingVerifier_coherent coherent _
  · exact executeAddHash_coherent coherent _
  · unfold executeAddAuthTemplate
    split <;> exact coherent

theorem tallyOne_coherent (coherent : store.Coherent env) (id : Bytes32) (height : Nat) :
    (tallyOne env store id height).Coherent env := by
  unfold tallyOne
  split
  · exact coherent
  · next proposal _ =>
      simp only
      split
      · exact (executeEffect_coherent coherent _ height).updatePendingProposal id _
      · exact coherent.updatePendingProposal id _

theorem processGovernanceTallies_coherent (coherent : store.Coherent env) (height : Nat) :
    (processGovernanceTallies env store height).Coherent env :=
  List.foldlRecOn _ _ coherent fun _ tallied id _ => tallyOne_coherent tallied id height

theorem processValidatorUnbondingExpirations_coherent (coherent : store.Coherent env)
    (height : Nat) : (store.processValidatorUnbondingExpirations env height).1.Coherent env where
  fresh :=
    { coherent.fresh with
      validators := by
        apply coherent.fresh.validators.modifyAll_commit
        intro operator record found changed
        have expired : unbondingExpired height record = true := by
          by_contra standing
          simp [standing] at changed
        have own : record.operator = operator := coherent.validatorsKeyed operator record found
        simp only [List.map_map, List.mem_map, List.mem_filter, mem_values]
        exact ⟨record, ⟨⟨operator, found⟩, expired⟩, own⟩ }
  accountsKeyed := coherent.accountsKeyed
  validatorsKeyed := by
    have marked := coherent.validatorsKeyed.modifyAll
      (fun record =>
        if unbondingExpired height record then { record with status := .exited } else record)
      (by intro record; split <;> rfl)
    exact List.foldlRecOn _ _ marked fun _ keyed operator _ => keyed.commit _ operator

theorem refundExpirations_coherent (coherent : store.Coherent env) (height : Nat) :
    (refundExpirations env store height).Coherent env :=
  List.foldlRecOn _ _ (processValidatorUnbondingExpirations_coherent coherent height)
    fun _ refunded exit _ => refunded.updateAccount exit.1 _ fun _ => rfl

theorem activateRotation_coherent (coherent : store.Coherent env) (operator : Address) :
    (store.activateRotation env operator).Coherent env := by
  unfold activateRotation
  split
  · exact coherent
  · next rotation _ =>
      have rekeyed := coherent.updateValidator operator
        (fun record =>
          { record with consensusAlgId := rotation.newAlgId, consensusPk := rotation.newPkBytes })
        fun _ => rfl
      exact rekeyed.refreshed { rekeyed.fresh with
        consensusKeyRotations := coherent.fresh.consensusKeyRotations.remove _ } rfl rfl

theorem activatePendingConsensusKeyRotations_coherent (coherent : store.Coherent env)
    (height : Nat) : (store.activatePendingConsensusKeyRotations env height).Coherent env :=
  List.foldlRecOn _ _ coherent fun _ activated operator _ =>
    activateRotation_coherent activated operator

theorem activateValidator_coherent (coherent : store.Coherent env) (operator : Address) :
    (store.activateValidator env operator).Coherent env := by
  unfold activateValidator
  split
  · exact coherent
  · split
    · exact coherent.updateValidator operator _ fun _ => rfl
    · exact coherent

theorem processEpochTransitions_coherent (coherent : store.Coherent env) (churn : ChurnConfig) :
    (store.processEpochTransitions env churn).Coherent env :=
  List.foldlRecOn _ _ coherent fun _ activated operator _ =>
    activateValidator_coherent activated operator

theorem activateKeys_eq {height : Nat} {keys : KeySet}
    (idle : (keys.any fun key => key.status = .pending ∧ key.validFromHeight ≤ height) = false) :
    activateKeys height keys = keys := by
  simp only [List.any_eq_false, decide_eq_true_eq] at idle
  rw [activateKeys]
  nth_rewrite 2 [← List.map_id keys]
  apply List.map_congr_left
  intro key member
  simp [idle key member]

theorem advanceHeight_coherent (coherent : store.Coherent env) :
    (store.advanceHeight env).Coherent env where
  fresh :=
    { coherent.fresh with
      accounts := by
        apply coherent.fresh.accounts.modifyAll_commit
        intro address account found changed
        have activating : hasActivatingKey (store.blockHeight + 1) account = true := by
          by_contra idle
          rw [Bool.not_eq_true] at idle
          have same : activateKeys (store.blockHeight + 1) account.keys = account.keys :=
            activateKeys_eq idle
          apply changed
          simp only [same]
        have own : account.address = address := coherent.accountsKeyed address account found
        simp only [List.mem_map, List.mem_filter, mem_values]
        exact ⟨account, ⟨⟨address, found⟩, activating⟩, own⟩ }
  accountsKeyed := by
    have swept := coherent.accountsKeyed.modifyAll
      (fun account => { account with keys := activateKeys (store.blockHeight + 1) account.keys })
      fun _ => rfl
    exact List.foldlRecOn _ _ swept fun _ keyed address _ => keyed.commit _ address
  validatorsKeyed := coherent.validatorsKeyed

end BlockSteps

section Runs

/-- One call on the store. A failed `apply_tx` leaves it alone: the payload runs on a copy, and both
checks of `settle_sender` come before its first write. -/
inductive StoreCall (env : Env) : StateStore → StateStore → Prop
  | applied {store next : StateStore} (tx : Transaction) (context : ExecutionContext)
      (result : ExecutionResult) (executed : applyTx env store tx context = .ok (next, result)) :
      StoreCall env store next
  | failed {store : StateStore} (tx : Transaction) (context : ExecutionContext)
      (error : ApplyError) (refused : applyTx env store tx context = .error error) :
      StoreCall env store store
  | distributeBlockFees {store : StateStore} (proposer : Address) (fees : Nat)
      (pool : List Address) (params : FeeDistributionParams) :
      StoreCall env store (distributeBlockFees env store proposer fees pool params)
  | applyAimdUpdate {store : StateStore} (gasUsed : Nat) :
      StoreCall env store (store.applyAimdUpdate env gasUsed)
  | processGovernanceTallies {store : StateStore} (height : Nat) :
      StoreCall env store (processGovernanceTallies env store height)
  | refundExpirations {store : StateStore} (height : Nat) :
      StoreCall env store (refundExpirations env store height)
  | activateRotations {store : StateStore} (height : Nat) :
      StoreCall env store (store.activatePendingConsensusKeyRotations env height)
  | processEpochTransitions {store : StateStore} (churn : ChurnConfig) :
      StoreCall env store (store.processEpochTransitions env churn)
  | advanceHeight {store : StateStore} : StoreCall env store (store.advanceHeight env)
  | insertAccount {store : StateStore} (account : Account) :
      StoreCall env store (store.insertAccount env account)
  | insertValidator {store : StateStore} (record : ValidatorRecord) :
      StoreCall env store (store.insertValidator env record)

theorem StoreCall.coherent {env : Env} {store next : StateStore} (call : StoreCall env store next)
    (coherent : store.Coherent env) : next.Coherent env := by
  cases call with
  | applied tx context result executed => exact applyTx_coherent coherent executed
  | failed => exact coherent
  | distributeBlockFees => exact distributeBlockFees_coherent coherent _ _ _ _
  | applyAimdUpdate gasUsed => exact applyAimdUpdate_coherent coherent gasUsed
  | processGovernanceTallies height => exact processGovernanceTallies_coherent coherent height
  | refundExpirations height => exact refundExpirations_coherent coherent height
  | activateRotations height => exact activatePendingConsensusKeyRotations_coherent coherent height
  | processEpochTransitions churn => exact processEpochTransitions_coherent coherent churn
  | advanceHeight => exact advanceHeight_coherent coherent
  | insertAccount account => exact coherent.insertAccount account
  | insertValidator record => exact coherent.insertValidator record

def StateStore.Reachable (env : Env) (store : StateStore) : Prop :=
  Relation.ReflTransGen (StoreCall env) (StateStore.new env) store

theorem StateStore.Reachable.coherent {env : Env} {store : StateStore}
    (reachable : store.Reachable env) : store.Coherent env := by
  induction reachable with
  | refl => exact coherent_new env
  | tail _ call ih => exact call.coherent ih

/-- In every reachable store the caches are exact and the root is the root recomputed from
the entities. -/
theorem stateRoot_neverStale (env : Env) (store : StateStore) (reachable : store.Reachable env) :
    store.LeavesFresh env ∧ store.stateRoot env = (store.rehashed env).stateRoot env := by
  have fresh := reachable.coherent.fresh
  exact ⟨fresh, by rw [fresh.rehashed_eq]⟩

def constantEnv : Env where
  shake256 _ := Bytes32.fill 7
  mlDsa _ _ _ _ := .error .verificationFailed
  slhDsa _ _ _ _ := .error .verificationFailed
  cborDecode _ := .error "end of input"
  cborEncode _ := .ok []
  tokenEconomics := true
  pqVerifierFeature := true

def payer : Address := Bytes32.fill 9

def gaslessTx (nonce : Nat) : Transaction where
  txVersion := 1
  chainId := []
  msgType := .tokenTransfer
  sender := payer
  nonce
  fee := 10
  feeTip := 0
  gasLimit := 0
  payload := []
  sigAlgId := .mlDsa65
  sigKeyVersion := 1
  signature := []

def freeParams : FeeParams := ⟨0, 0, 0, 0, 0, 0, 0⟩

def fundedStore (env : Env) : StateStore :=
  distributeBlockFees env (StateStore.new env) payer 500 [] ⟨5000⟩

theorem stateRoot_neverStale_gasless :
    ∃ next result, applyTx constantEnv (fundedStore constantEnv) (gaslessTx 0) ⟨0, freeParams⟩
        = .ok (next, result) ∧
      next.LeavesFresh constantEnv ∧
      next.stateRoot constantEnv = (next.rehashed constantEnv).stateRoot constantEnv := by
  have ran : (applyTx constantEnv (fundedStore constantEnv) (gaslessTx 0)
      ⟨0, freeParams⟩).toOption.isSome = true := by decide +kernel
  cases executed : applyTx constantEnv (fundedStore constantEnv) (gaslessTx 0) ⟨0, freeParams⟩ with
  | error error => simp [executed, Except.toOption] at ran
  | ok outcome =>
      have funded : (fundedStore constantEnv).Reachable constantEnv :=
        .single (.distributeBlockFees payer 500 [] ⟨5000⟩)
      exact ⟨outcome.1, outcome.2, rfl,
        stateRoot_neverStale constantEnv outcome.1 (funded.tail (.applied _ _ outcome.2 executed))⟩

end Runs

end ViperChain
