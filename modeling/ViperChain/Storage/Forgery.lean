import ViperChain.State.LeafBinding
import ViperChain.Storage.RoundTrip

/-!
The proposers of pending proposals are in a snapshot and in no leaf, so they can be exchanged
without the root noticing.
-/

namespace ViperChain.Storage

open CachedTables CachedTable Fallible

variable {env : Env}

section Reattribution

def reattribute (choose : Address → Address) (record : StateSnapshotRecord) : StateSnapshotRecord :=
  { record with
    pendingProposals := record.pendingProposals.map fun proposal =>
      { proposal with proposer := choose proposal.proposer } }

def reattributedProposal (choose : Address → Address) (proposal : PendingProposal) :
    PendingProposal :=
  { proposal with proposer := choose proposal.proposer }

def reattributedStore (choose : Address → Address) (store : StateStore) : StateStore :=
  { store with pendingProposals := store.pendingProposals.modifyAll (reattributedProposal choose) }

variable (choose : Address → Address)

theorem recordIntoProposal_reattributed (record : PendingProposalRecord) :
    recordIntoProposal { record with proposer := choose record.proposer } =
      (recordIntoProposal record).map (reattributedProposal choose) := by
  simp only [recordIntoProposal]
  cases okOr (GovernanceProposalType.fromU8 record.proposalType)
    (StorageError.invalidPersistedValue "unknown pending_proposal proposal_type") with
  | error error => rfl
  | ok proposalType =>
      cases okOr (decodeProposalStatus record.status)
        (StorageError.invalidPersistedValue "unknown pending_proposal status") with
      | error error => rfl
      | ok status => cases recordIntoEffect record.effect <;> rfl

theorem proposals_reattributed {records : List PendingProposalRecord}
    {proposals : List PendingProposal} (read : records.mapM recordIntoProposal = .ok proposals) :
    (records.map fun record => { record with proposer := choose record.proposer }).mapM
        recordIntoProposal = .ok (proposals.map (reattributedProposal choose)) := by
  induction records generalizing proposals with
  | nil =>
      simp only [List.mapM_nil, pure_eq_ok] at read
      subst read
      rfl
  | cons record records ih =>
      simp only [List.mapM_cons, bind_eq_ok, pure_eq_ok] at read
      obtain ⟨proposal, first, rest, others, rfl⟩ := read
      simp only [List.map_cons, List.mapM_cons, recordIntoProposal_reattributed, first, ih others]
      rfl

theorem insert_modifyAll {K V H : Type} [LinearOrder K] (digest : K → V → H) (change : V → V)
    (unseen : ∀ key value, digest key (change value) = digest key value)
    (table : CachedTable K V H) (key : K) (value : V) :
    (table.modifyAll change).insert digest key (change value) =
      (table.insert digest key value).modifyAll change := by
  have entries : (table.entries.map fun _ => change).insert key (change value) =
      (table.entries.insert key value).map fun _ => change := by
    refine Std.ExtTreeMap.ext_getElem? fun other => ?_
    simp only [Std.ExtTreeMap.getElem?_insert, Std.ExtTreeMap.getElem?_map]
    split <;> rfl
  simp only [CachedTable.insert, modifyAll, entries, unseen]

theorem insertPendingProposal_reattributed (store : StateStore) (proposal : PendingProposal) :
    (reattributedStore choose store).insertPendingProposal env (reattributedProposal choose proposal) =
      reattributedStore choose (store.insertPendingProposal env proposal) := by
  simp only [StateStore.insertPendingProposal, reattributedStore, reattributedProposal]
  have moved := insert_modifyAll (fun _ => computeProposalLeafHash env)
    (reattributedProposal choose) (fun _ _ => rfl) store.pendingProposals proposal.proposalId
    proposal
  exact congrArg (fun table => { store with pendingProposals := table }) moved

theorem foldl_insertPendingProposal_reattributed (proposals : List PendingProposal)
    (store : StateStore) :
    (proposals.map (reattributedProposal choose)).foldl (StateStore.insertPendingProposal env)
        (reattributedStore choose store) =
      reattributedStore choose (proposals.foldl (StateStore.insertPendingProposal env) store) := by
  induction proposals generalizing store with
  | nil => rfl
  | cons proposal proposals ih =>
      simp only [List.map_cons, List.foldl_cons]
      rw [insertPendingProposal_reattributed]
      exact ih _

theorem reattributedStore_of_empty {store : StateStore} (none : store.pendingProposals = .empty) :
    reattributedStore choose store = store := by
  have empty : (CachedTable.empty : CachedTable Bytes32 PendingProposal Bytes32).modifyAll
      (reattributedProposal choose) = .empty := by
    have entries : (∅ : Std.ExtTreeMap Bytes32 PendingProposal).map
        (fun _ => reattributedProposal choose) = ∅ := by
      refine Std.ExtTreeMap.ext_getElem? fun key => ?_
      simp
    simp only [modifyAll, CachedTable.empty, entries]
  rw [reattributedStore, none, empty, ← none]

theorem inserted_reattributed {base : StateStore} (none : base.pendingProposals = .empty)
    (proposals : List PendingProposal) (upgrades : List PendingUpgrade) :
    upgrades.foldl (StateStore.insertPendingUpgrade env)
        ((proposals.map (reattributedProposal choose)).foldl (StateStore.insertPendingProposal env)
          base) =
      reattributedStore choose (upgrades.foldl (StateStore.insertPendingUpgrade env)
        (proposals.foldl (StateStore.insertPendingProposal env) base)) := by
  have moved : (proposals.map (reattributedProposal choose)).foldl
      (StateStore.insertPendingProposal env) base =
        reattributedStore choose (proposals.foldl (StateStore.insertPendingProposal env) base) := by
    rw [← foldl_insertPendingProposal_reattributed, reattributedStore_of_empty choose none]
  rw [moved, foldl_insertPendingUpgrade, foldl_insertPendingUpgrade]
  rfl

theorem recordIntoState_reattributed {record : StateSnapshotRecord} {chainId : Bytes}
    {after : StateStore} (read : recordIntoState env record chainId = .ok after) :
    recordIntoState env (reattribute choose record) chainId = .ok (reattributedStore choose after) := by
  simp only [recordIntoState, bind_eq_ok, pure_eq_ok] at read ⊢
  obtain ⟨registry, checked, accounts, readAccounts, read⟩ := read
  obtain ⟨attestations, readAttestations, receipts, readReceipts, read⟩ := read
  obtain ⟨validators, readValidators, proposals, readProposals, rfl⟩ := read
  refine ⟨registry, checked, accounts, readAccounts, attestations, readAttestations, receipts,
    readReceipts, validators, readValidators, _, proposals_reattributed choose readProposals, ?_⟩
  have noProposals : (validators.foldl (StateStore.insertValidator env)
      (fromSnapshotFull env accounts attestations receipts registry record.blockHeight
        chainId)).pendingProposals = .empty := by
    simp only [fromSnapshotFull, foldl_insertAccount, foldl_insertAttestation,
      foldl_insertGovernanceReceipt, foldl_insertAlgEntry, foldl_insertValidator]
    rfl
  have unproposed : (if record.feeMarketBlockGasLimit > 0 then
      (validators.foldl (StateStore.insertValidator env)
        (fromSnapshotFull env accounts attestations receipts registry record.blockHeight
          chainId)).setFeeMarket env record.feeMarket
      else validators.foldl (StateStore.insertValidator env)
        (fromSnapshotFull env accounts attestations receipts registry record.blockHeight
          chainId)).pendingProposals = .empty := by
    split <;> exact noProposals
  exact inserted_reattributed choose unproposed proposals _

theorem getPendingProposal_reattributed (store : StateStore) (id : Bytes32) :
    (reattributedStore choose store).getPendingProposal id =
      (store.getPendingProposal id).map (reattributedProposal choose) :=
  get?_modifyAll store.pendingProposals id (reattributedProposal choose)

theorem restored_getPendingProposal {state : StateStore} (named : state.catalogue.Named)
    (id : Bytes32) :
    (restored env state).getPendingProposal id = state.getPendingProposal id := by
  have entries := named.pendingProposals.refill_entries (fun _ => computeProposalLeafHash env)
    (List.perm_insertionSort _ _ : (pendingProposalsInOrder state).Perm _)
  exact congrArg (fun table => table[id]?) entries

/-- Exchanging the proposers keeps the snapshot of any state valid, keeps the root, and puts other
proposals behind the same leaves. -/
theorem snapshot_reattributed {state honest : StateStore} (onChain : state.OnChain env)
    (read : recordIntoState env (stateIntoRecord state) state.chainId = .ok honest)
    {id : Bytes32} {proposal : PendingProposal} (pending : state.getPendingProposal id = some proposal) :
    ∃ forged,
      recordIntoState env (reattribute choose (stateIntoRecord state)) state.chainId = .ok forged ∧
      forged.stateRoot env = honest.stateRoot env ∧
      forged.getPendingProposal id = some (reattributedProposal choose proposal) ∧
      (LeafEntity.proposal proposal).leafHash env =
        (LeafEntity.proposal (reattributedProposal choose proposal)).leafHash env := by
  refine ⟨_, recordIntoState_reattributed choose read, rfl, ?_, rfl⟩
  obtain ⟨_, rfl⟩ := (recordIntoState_eq_ok env state honest).mp read
  rw [getPendingProposal_reattributed, restored_getPendingProposal onChain.named, pending]
  rfl

end Reattribution

section Forged

def feeProposal : Value :=
  .map
    [ (.integer 1, .integer 1), (.integer 2, .integer 2), (.integer 4, .integer 5),
      (.integer 6, .bytes (List.replicate 32 6)) ]

def proposed : StateStore :=
  produce sampleEnv sampleGenesis
    (submit sampleGenesis freeParams (authorTx .governanceProposal 0 10 feeProposal) .new)

/-- Its snapshot is accepted with another proposer, under the root of the honest one: two
proposals that differ have one leaf. -/
theorem proposalLeaf_omitsProposer :
    proposed.OnChain sampleEnv ∧
      ∃ honest forged id left right,
        recordIntoState sampleEnv (stateIntoRecord proposed) proposed.chainId = .ok honest ∧
        recordIntoState sampleEnv
          (reattribute (fun _ => Bytes32.fill 2) (stateIntoRecord proposed)) proposed.chainId
            = .ok forged ∧
        forged.stateRoot sampleEnv = honest.stateRoot sampleEnv ∧
        proposed.getPendingProposal id = some left ∧ forged.getPendingProposal id = some right ∧
        left.proposer ≠ right.proposer ∧
        (LeafEntity.proposal left).leafHash sampleEnv = (LeafEntity.proposal right).leafHash sampleEnv := by
  have onChain := produce_onChain sampleGenesis_onChain
    (submit sampleGenesis freeParams (authorTx .governanceProposal 0 10 feeProposal) .new)
  refine ⟨onChain, ?_⟩
  have proposers : proposed.pendingProposals.values.map PendingProposal.proposer = [author] := by
    decide +kernel
  obtain ⟨left, listed, wrote⟩ := List.mem_map.mp (proposers ▸ List.mem_singleton_self author)
  obtain ⟨id, pending⟩ := proposed.pendingProposals.mem_values.mp listed
  have readable : (recordIntoState sampleEnv (stateIntoRecord proposed)
      proposed.chainId).toOption.isSome = true := by
    decide +kernel
  cases read : recordIntoState sampleEnv (stateIntoRecord proposed) proposed.chainId with
  | error error => simp [read, Except.toOption] at readable
  | ok honest =>
      obtain ⟨forged, accepted, roots, found, leaves⟩ :=
        snapshot_reattributed (fun _ => Bytes32.fill 2) onChain read pending
      refine ⟨honest, forged, id, left, _, rfl, accepted, roots, pending, found, ?_, leaves⟩
      rw [wrote]
      exact ne_of_beq_false rfl

end Forged

end ViperChain.Storage
