import ViperChain.State.Genesis

/-!
Attestations, receipts, algorithms, proposals and upgrades are filed under the names
they carry.
-/

namespace ViperChain

open CachedTables CachedTable

structure Catalogue where
  attestations : CachedTable Bytes32 Attestation Bytes32
  governanceReceipts : CachedTable Bytes32 GovernanceReceipt Bytes32
  algRegistry : CachedTable Nat AlgEntry Bytes32
  pendingProposals : CachedTable Bytes32 PendingProposal Bytes32
  pendingUpgrades : CachedTable Bytes32 PendingUpgrade Bytes32

def StateStore.catalogue (store : StateStore) : Catalogue where
  attestations := store.attestations
  governanceReceipts := store.governanceReceipts
  algRegistry := store.algRegistry
  pendingProposals := store.pendingProposals
  pendingUpgrades := store.pendingUpgrades

structure Catalogue.Named (catalogue : Catalogue) : Prop where
  attestations : catalogue.attestations.Keyed Attestation.attestationId
  governanceReceipts : catalogue.governanceReceipts.Keyed GovernanceReceipt.proposalId
  algRegistry : catalogue.algRegistry.Keyed fun entry => entry.algId.asU16
  pendingProposals : catalogue.pendingProposals.Keyed PendingProposal.proposalId
  pendingUpgrades : catalogue.pendingUpgrades.Keyed PendingUpgrade.proposalId

variable {env : Env} {store next : StateStore} {tx : Transaction}

section Filed

namespace Catalogue.Named

theorem updateAlgEntry (named : store.catalogue.Named) (algId : AlgId)
    (change : AlgEntry → AlgEntry) (keeps : ∀ entry, (change entry).algId = entry.algId) :
    ((store.modifyAlgEntry algId change).commitAlgEntryMutation env algId).catalogue.Named where
  attestations := named.attestations
  governanceReceipts := named.governanceReceipts
  algRegistry := by
    have kept : ∀ entry, (change entry).algId.asU16 = entry.algId.asU16 := fun entry => by
      rw [keeps]
    exact (named.algRegistry.modify algId.asU16 change fun entry _ => kept entry).commit
      (fun _ => computeAlgLeafHash env) algId.asU16
  pendingProposals := named.pendingProposals
  pendingUpgrades := named.pendingUpgrades

theorem insertGovernanceReceipt (named : store.catalogue.Named) (receipt : GovernanceReceipt) :
    (store.insertGovernanceReceipt env receipt).catalogue.Named where
  attestations := named.attestations
  governanceReceipts := named.governanceReceipts.insert (fun _ => computeReceiptLeafHash env) receipt
  algRegistry := named.algRegistry
  pendingProposals := named.pendingProposals
  pendingUpgrades := named.pendingUpgrades

theorem updatePendingProposal (named : store.catalogue.Named) (id : Bytes32)
    (change : PendingProposal → PendingProposal)
    (names : ∀ proposal, (change proposal).proposalId = proposal.proposalId) :
    ((store.modifyPendingProposal id change).commitProposalMutation env id).catalogue.Named where
  attestations := named.attestations
  governanceReceipts := named.governanceReceipts
  algRegistry := named.algRegistry
  pendingProposals := (named.pendingProposals.modify id change fun _ _ => names _).commit
    (fun _ => computeProposalLeafHash env) id
  pendingUpgrades := named.pendingUpgrades

end Catalogue.Named

theorem PayloadEffect.named (effect : PayloadEffect env store tx next)
    (named : store.catalogue.Named) : next.catalogue.Named := by
  cases effect with
  | createAccount | updateSender | setStatus | scheduleRotation | anchor | archivalKey | archive
  | pushAnchor | renew => exact named
  | transfer sender recipient amount =>
      obtain ⟨_, credited⟩ := @creditRecipient_frame env (withdraw env store tx.sender amount)
        recipient amount
      exact credited ▸ named
  | register sender record peerId =>
      obtain ⟨_, _, admitted⟩ := @admitValidator_frame env
        (withdraw env store tx.sender record.selfBond) record peerId
      exact admitted ▸ named
  | bindPeer peerId =>
      obtain ⟨_, bound⟩ := @setValidatorPeerId_frame env store tx.sender peerId
      exact bound ▸ named
  | slashed record evidence cutoff _ _ _ amount =>
      obtain ⟨_, _, _, _, cut⟩ := @slash_frame env store evidence.validatorAddress amount
        store.blockHeight cutoff
      exact cut ▸ named
  | attest record =>
      exact { named with
        attestations := named.attestations.insert (fun _ => computeAttestationLeafHash env) record }
  | propose proposal =>
      exact { named with
        pendingProposals := named.pendingProposals.insert (fun _ => computeProposalLeafHash env) proposal }
  | vote id change keeps names => exact named.updatePendingProposal id change names

theorem applyTx_named {context : ExecutionContext} {result : ExecutionResult}
    (named : store.catalogue.Named) (executed : applyTx env store tx context = .ok (next, result)) :
    next.catalogue.Named := by
  obtain ⟨working, settled, rfl | effect⟩ := applyTx_cases executed
  · rw [settled.next_eq]
    exact named
  · rw [settled.next_eq]
    exact effect.named named

theorem executeRegistryUpdate_named (named : store.catalogue.Named) (proposal : PendingProposal)
    (algId : AlgId) (targetLifecycle : Option Lifecycle) (newMinFee : Option Nat) (height : Nat) :
    (executeRegistryUpdate env store proposal algId targetLifecycle newMinFee
      height).1.catalogue.Named := by
  unfold executeRegistryUpdate
  split
  · exact named
  · split
    · exact (named.updateAlgEntry algId (updateAlgEntry targetLifecycle newMinFee)
        fun _ => rfl).insertGovernanceReceipt _
    · exact named

theorem executeEffect_named (named : store.catalogue.Named) (proposal : PendingProposal)
    (height : Nat) : (executeEffect env store proposal height).1.catalogue.Named := by
  unfold executeEffect
  split
  · exact executeRegistryUpdate_named named proposal _ _ _ height
  · exact named
  · exact named
  · exact { named with
      pendingUpgrades := named.pendingUpgrades.insert (fun _ => computeUpgradeLeafHash env) _ }
  · unfold executeAddAlgorithm
    repeat' split
    all_goals first
      | exact named
      | exact { named with algRegistry := named.algRegistry.insert (fun _ => computeAlgLeafHash env) _ }
  · unfold executeAddSlashingVerifier
    repeat' split
    all_goals exact named
  · unfold executeAddHash
    repeat' split
    all_goals exact named
  · unfold executeAddAuthTemplate
    split <;> exact named

theorem setProposalStatus_named (named : store.catalogue.Named) (id : Bytes32)
    (status : ProposalStatus) : (setProposalStatus env store id status).catalogue.Named :=
  named.updatePendingProposal id _ fun _ => rfl

theorem tallyOne_named (named : store.catalogue.Named) (id : Bytes32) (height : Nat) :
    (tallyOne env store id height).catalogue.Named := by
  unfold tallyOne
  split
  · exact named
  · simp only
    split
    · exact setProposalStatus_named (executeEffect_named named _ height) id _
    · exact setProposalStatus_named named id _

theorem processGovernanceTallies_named (named : store.catalogue.Named) (height : Nat) :
    (processGovernanceTallies env store height).catalogue.Named :=
  List.foldlRecOn _ _ (motive := fun current : StateStore => current.catalogue.Named) named
    fun _ tallied id _ => tallyOne_named tallied id height

theorem StoreCall.named (call : StoreCall env store next) (named : store.catalogue.Named) :
    next.catalogue.Named := by
  cases call with
  | applied tx context result executed => exact applyTx_named named executed
  | failed | applyAimdUpdate | advanceHeight | insertAccount | insertValidator => exact named
  | distributeBlockFees proposer fees pool params =>
      obtain ⟨_, paid⟩ := @distributeBlockFees_frame env store proposer fees pool params
      exact paid ▸ named
  | processGovernanceTallies height => exact processGovernanceTallies_named named height
  | refundExpirations height =>
      obtain ⟨_, _, refunded⟩ := @refundExpirations_frame env store height
      exact refunded ▸ named
  | activateRotations height =>
      obtain ⟨_, _, rotated⟩ := @activateRotations_frame env store height
      exact rotated ▸ named
  | processEpochTransitions churn =>
      obtain ⟨_, activated⟩ := @processEpochTransitions_frame env store churn
      exact activated ▸ named

theorem new_named (env : Env) : (StateStore.new env).catalogue.Named where
  attestations := keyed_empty
  governanceReceipts := keyed_empty
  algRegistry := List.foldlRecOn phase1Registry _ keyed_empty
    fun _ keyed entry _ => keyed.insert _ entry
  pendingProposals := keyed_empty
  pendingUpgrades := keyed_empty

theorem buildGenesisState_named {chainId : Bytes} {accounts : List Account}
    {validators : List GenesisValidator}
    (built : buildGenesisState env chainId accounts validators = .ok store) :
    store.catalogue.Named := by
  obtain ⟨_, _, rfl⟩ := buildGenesisState_frame built
  exact new_named env

end Filed

section Rules

structure SameRules (store next : StateStore) : Prop where
  blockHeight : next.blockHeight = store.blockHeight
  algRegistry : next.algRegistry = store.algRegistry

theorem applyTx_sameRules {context : ExecutionContext} {result : ExecutionResult}
    (executed : applyTx env store tx context = .ok (next, result)) : SameRules store next :=
  have terms := applyTx_sameTerms executed
  ⟨terms.blockHeight, terms.algRegistry⟩

end Rules

end ViperChain
