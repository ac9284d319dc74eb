import ViperChain.State.Roster
import ViperChain.State.Supply
import ViperChain.Engine.Replay

/-!
Production against replay: a produced block, replayed from the state it was produced on, ends
where production stands before its epoch step.
-/

namespace ViperChain

open Fallible CachedTables CachedTable

variable {env : Env} {store next : StateStore} {tx : Transaction}

section Loops

structure PendingEntry.Admitted (env : Env) (entry : PendingEntry) : Prop where
  decoded : decodeTx env entry.rawBytes = .ok entry.tx
  hashed : entry.txHash = computeTxHash env entry.rawBytes

def PendingEntry.Canonical (env : Env) (entry : PendingEntry) : Prop :=
  encodeTx env entry.tx = .ok entry.rawBytes

def AssemblyState.progress (state : AssemblyState) : ReplayProgress :=
  ⟨state.store, state.feesCollected, state.blockGasUsed⟩

theorem assembleEntry_replay (config : AssemblyConfig) (height : Nat) (state : AssemblyState)
    (entry : PendingEntry) (hashed : entry.txHash = computeTxHash env entry.rawBytes)
    (canonical : entry.Canonical env) :
    ((assembleEntry env config state entry).progress = state.progress ∧
        (assembleEntry env config state entry).includedTransactions = state.includedTransactions ∧
        (assembleEntry env config state entry).includedHashes = state.includedHashes) ∨
      ((assembleEntry env config state entry).store.feeMarket = state.store.feeMarket ∧
        (assembleEntry env config state entry).includedTransactions =
          state.includedTransactions ++ [entry.tx] ∧
        (assembleEntry env config state entry).includedHashes =
          state.includedHashes ++ [entry.txHash] ∧
        ∀ index, replayTx env
          { config.feeParams with baseFeeDynamic := state.store.baseFeeDynamic } height
          state.progress ((entry.tx, entry.txHash), index) =
            .ok (assembleEntry env config state entry).progress) := by
  simp only [assembleEntry]
  split
  · exact .inl ⟨rfl, rfl, rfl⟩
  · split
    case h_1 store execution executed =>
      refine .inr ⟨(applyTx_sameTerms executed).feeMarket, rfl, rfl, fun index => ?_⟩
      have ran : applyTx env state.progress.state entry.tx
          ⟨entry.rawBytes.length,
            { config.feeParams with baseFeeDynamic := state.store.baseFeeDynamic }⟩ =
          .ok (store, execution) := executed
      unfold PendingEntry.Canonical at canonical
      simp only [replayTx, canonical, Except.mapError, bind, Except.bind, hashed, require,
        decide_true, if_true, ran, pure, Except.pure]
      rfl
    case h_2 => exact .inl ⟨rfl, rfl, rfl⟩

theorem assembleEntries_replay (config : AssemblyConfig) (height : Nat)
    (entries : List PendingEntry)
    (hashed : ∀ entry ∈ entries, entry.txHash = computeTxHash env entry.rawBytes)
    (canonical : ∀ entry ∈ entries, entry.Canonical env) :
    ∀ (state : AssemblyState) (index : Nat), ∃ bodies hashes,
      bodies.length = hashes.length ∧
      (entries.foldl (assembleEntry env config) state).includedTransactions =
        state.includedTransactions ++ bodies ∧
      (entries.foldl (assembleEntry env config) state).includedHashes =
        state.includedHashes ++ hashes ∧
      ((bodies.zip hashes).zipIdx index).foldlM
        (replayTx env { config.feeParams with baseFeeDynamic := state.store.baseFeeDynamic } height)
        state.progress = .ok (entries.foldl (assembleEntry env config) state).progress := by
  induction entries with
  | nil => exact fun state index => ⟨[], [], rfl, by simp, by simp, rfl⟩
  | cons entry entries ih =>
      intro state index
      have rest := ih (fun later member => hashed later (List.mem_cons_of_mem _ member))
        (fun later member => canonical later (List.mem_cons_of_mem _ member))
        (assembleEntry env config state entry)
      rw [List.foldl_cons]
      rcases assembleEntry_replay config height state entry (hashed entry List.mem_cons_self)
        (canonical entry List.mem_cons_self) with
        ⟨same, sameBodies, sameHashes⟩ | ⟨market, addedBody, addedHash, replayed⟩
      · obtain ⟨bodies, hashes, lengths, included, hashesIncluded, replayed⟩ := rest index
        have sameStore : (assembleEntry env config state entry).store = state.store :=
          congrArg ReplayProgress.state same
        rw [sameBodies] at included
        rw [sameHashes] at hashesIncluded
        rw [same, sameStore] at replayed
        exact ⟨bodies, hashes, lengths, included, hashesIncluded, replayed⟩
      · obtain ⟨bodies, hashes, lengths, included, hashesIncluded, after⟩ := rest (index + 1)
        have sameFee : (assembleEntry env config state entry).store.baseFeeDynamic =
            state.store.baseFeeDynamic := by
          simp only [StateStore.baseFeeDynamic, market]
        rw [sameFee] at after
        refine ⟨entry.tx :: bodies, entry.txHash :: hashes, by simp [lengths], ?_, ?_, ?_⟩
        · rw [included, addedBody, List.append_assoc, List.singleton_append]
        · rw [hashesIncluded, addedHash, List.append_assoc, List.singleton_append]
        · simp only [List.zip_cons_cons, List.zipIdx_cons, List.foldlM_cons, replayed index]
          exact after

end Loops

section Candidates

structure Uncrowded (places : Nat) (store : StateStore) : Prop where
  waiting : store.validators.total ValidatorRecord.waitingWeight = 0
  active : store.validators.total ValidatorRecord.activeWeight ≤ places

theorem Uncrowded.of_validators {places : Nat} (uncrowded : Uncrowded places store)
    (same : next.validators = store.validators) : Uncrowded places next :=
  ⟨same ▸ uncrowded.waiting, same ▸ uncrowded.active⟩

def placesAsked (tx : Transaction) : Nat := if joinsActiveSet tx then 1 else 0

theorem admittedStatus_active {places : Nat} (uncrowded : Uncrowded places store)
    (room : places < validatorMaxActiveSetSize) : admittedStatus store = .active := by
  have counted := activeValidatorCount_eq_total store
  have active := uncrowded.active
  exact if_pos (by omega)

theorem Uncrowded.updateValidator {places : Nat} (uncrowded : Uncrowded places store)
    {operator : Address} {record : ValidatorRecord}
    (present : store.getValidator operator = some record)
    (change : ValidatorRecord → ValidatorRecord) (taken : Nat)
    (placed : (change record).waitingWeight = 0 ∧ (change record).activeWeight ≤ taken) :
    Uncrowded (places + taken)
      ((store.modifyValidator operator change).commitValidatorMutation env operator) := by
  have waiting := store.validators.total_modify ValidatorRecord.waitingWeight present change
  have active := store.validators.total_modify ValidatorRecord.activeWeight present change
  have before := uncrowded.waiting
  have bound := uncrowded.active
  constructor
  all_goals
    simp only [StateStore.modifyValidator, StateStore.commitValidatorMutation, total_commit]
    omega

theorem Uncrowded.insertValidator {places : Nat} (uncrowded : Uncrowded places store)
    (record : ValidatorRecord) (active : record.status = .active) :
    Uncrowded (places + 1) (store.insertValidator env record) := by
  have waiting := store.validators.total_insert ValidatorRecord.waitingWeight
    (fun _ => computeValidatorLeafHash env) record.operator record
  have taken := store.validators.total_insert ValidatorRecord.activeWeight
    (fun _ => computeValidatorLeafHash env) record.operator record
  have before := uncrowded.waiting
  have bound := uncrowded.active
  simp only [ValidatorRecord.waitingWeight, ValidatorRecord.activeWeight, active, if_true,
    reduceCtorEq, if_false] at waiting taken before bound
  constructor
  all_goals
    simp only [StateStore.insertValidator]
    omega

theorem Uncrowded.slash {places : Nat} (uncrowded : Uncrowded places store) {operator : Address}
    {record : ValidatorRecord} (present : store.getValidator operator = some record)
    (amount height : Nat) : Uncrowded places (slash env store operator amount height) := by
  have cut : Uncrowded places ((store.modifyValidator operator
      (Slashing.slashRecord amount)).commitValidatorMutation env operator) :=
    uncrowded.updateValidator present _ 0 (by
      simp [Slashing.slashRecord, ValidatorRecord.waitingWeight, ValidatorRecord.activeWeight])
  exact cut.of_validators (creditAccount_grows _ Slashing.treasuryAddress amount).validators

theorem PayloadEffect.uncrowded {places : Nat} (effect : PayloadEffect env store tx next)
    (uncrowded : Uncrowded places store)
    (room : places + placesAsked tx ≤ validatorMaxActiveSetSize) :
    Uncrowded (places + placesAsked tx) next := by
  have kept : Uncrowded (places + placesAsked tx) store :=
    ⟨uncrowded.waiting, Nat.le_add_right_of_le uncrowded.active⟩
  cases effect with
  | createAccount account => exact kept.of_validators rfl
  | updateSender change => exact kept.of_validators rfl
  | transfer sender recipient amount =>
      exact kept.of_validators ((withdraw_grows store tx.sender amount).trans
        (creditRecipient_grows _ recipient amount)).validators
  | register sender record peerId present covered operator standing available joins placed =>
      simp only [placesAsked, joins, if_true] at room ⊢
      have active : record.status = .active :=
        placed.trans (admittedStatus_active uncrowded (by omega))
      have withdrawn := uncrowded.of_validators
        (withdraw_grows store tx.sender record.selfBond : AccountsGrow store
          (withdraw env store tx.sender record.selfBond)).validators
      have registered : Uncrowded (places + 1)
          ((withdraw env store tx.sender record.selfBond).insertValidator env record) :=
        withdrawn.insertValidator record active
      simp only [admitValidator]
      split
      · exact registered
      · exact registered.of_validators (setValidatorPeerId_ledger _ _ _).validators
  | setStatus record status present standing stays placed =>
      refine uncrowded.updateValidator present _ (placesAsked tx) ?_
      rcases placed with ⟨start, rfl⟩ | ⟨joins, placed⟩
      · simp [ValidatorRecord.waitingWeight, ValidatorRecord.activeWeight]
      · simp only [placesAsked, joins, if_true] at room ⊢
        rw [placed, admittedStatus_active uncrowded (by omega)]
        simp [ValidatorRecord.waitingWeight, ValidatorRecord.activeWeight]
  | bindPeer peerId =>
      exact kept.of_validators (setValidatorPeerId_ledger store tx.sender peerId).validators
  | slashed record evidence cutoff kind decoded present amount =>
      have pruned : AccountsGrow store (store.pruneRecentSlashesBefore env cutoff) :=
        (pruneRecentSlashesBefore_ledger store cutoff).grows
      rw [← pruned.getValidator] at present
      exact (kept.of_validators pruned.validators).slash present amount _
  | scheduleRotation | anchor | attest | archivalKey | archive | pushAnchor | renew | propose
  | vote => exact kept.of_validators rfl

theorem applyTx_uncrowded {places : Nat} {context : ExecutionContext} {result : ExecutionResult}
    (executed : applyTx env store tx context = .ok (next, result))
    (uncrowded : Uncrowded places store)
    (room : places + placesAsked tx ≤ validatorMaxActiveSetSize) :
    Uncrowded (places + placesAsked tx) next := by
  obtain ⟨working, settled, ran⟩ := applyTx_cases executed
  have before : Uncrowded (places + placesAsked tx) working := by
    rcases ran with rfl | effect
    · exact ⟨uncrowded.waiting, Nat.le_add_right_of_le uncrowded.active⟩
    · exact effect.uncrowded uncrowded room
  exact before.of_validators (settled.next_eq ▸ rfl)

theorem assembleEntries_uncrowded (config : AssemblyConfig) (entries : List PendingEntry) :
    ∀ (state : AssemblyState) (places : Nat), Uncrowded places state.store →
      places + (entries.map fun entry => placesAsked entry.tx).sum ≤ validatorMaxActiveSetSize →
      Uncrowded (places + (entries.map fun entry => placesAsked entry.tx).sum)
        (entries.foldl (assembleEntry env config) state).store := by
  induction entries with
  | nil => exact fun state places uncrowded _ => uncrowded
  | cons entry entries ih =>
      intro state places uncrowded room
      simp only [List.map_cons, List.sum_cons] at room ⊢
      have step : Uncrowded (places + placesAsked entry.tx)
          (assembleEntry env config state entry).store := by
        have kept : Uncrowded (places + placesAsked entry.tx) state.store :=
          ⟨uncrowded.waiting, Nat.le_add_right_of_le uncrowded.active⟩
        simp only [assembleEntry]
        split
        · exact kept
        · split
          case h_1 store execution executed =>
            exact applyTx_uncrowded executed uncrowded (by omega)
          case h_2 => exact kept
      rw [List.foldl_cons, ← Nat.add_assoc]
      exact ih _ _ step (by omega)

def StatusCount (seat : ValidatorStatus → Nat) : Prop :=
  ∀ start, seat (.unbonding start) = seat .exited

variable {seat : ValidatorStatus → Nat}

theorem expirations_total (counts : StatusCount seat) (store : StateStore) (height : Nat) :
    (store.processValidatorUnbondingExpirations env height).1.validators.total
      (fun record => seat record.status) = store.validators.total fun record => seat record.status := by
  simp only [StateStore.processValidatorUnbondingExpirations]
  rw [total_congr _ (foldl_commit_entries _ _ _), total_modifyAll]
  congr 1
  funext record
  simp only [Function.comp_apply]
  split
  case isTrue expired =>
    unfold StateStore.unbondingExpired at expired
    split at expired
    case h_1 start unbonding =>
      rw [unbonding]
      exact (counts start).symm
    case h_2 => cases expired
  case isFalse => rfl

theorem activateRotations_total (seat : ValidatorStatus → Nat) (store : StateStore) (height : Nat) :
    (store.activatePendingConsensusKeyRotations env height).validators.total
      (fun record => seat record.status) = store.validators.total fun record => seat record.status := by
  refine List.foldlRecOn _ _ (motive := fun current : StateStore =>
    current.validators.total (fun record => seat record.status) =
      store.validators.total fun record => seat record.status) rfl fun current kept operator _ => ?_
  refine Eq.trans ?_ kept
  unfold StateStore.activateRotation
  split
  · rfl
  · simp only [total_commit]
    exact current.validators.total_modify_of_eq _ operator _ fun _ _ => rfl

theorem closeBlock_total (counts : StatusCount seat) (store : StateStore) (height gasUsed : Nat) :
    (closeBlock env store height gasUsed).validators.total (fun record => seat record.status) =
      store.validators.total fun record => seat record.status := by
  simp only [closeBlock]
  rw [(advanceHeight_grows _).validators, activateRotations_total, refundExpirations,
    (refundExits_grows _ _).validators, expirations_total counts,
    (processGovernanceTallies_tokens _ _).validators]
  rfl

theorem closeBlock_waiting (height gasUsed : Nat) :
    (closeBlock env store height gasUsed).validators.total ValidatorRecord.waitingWeight =
      store.validators.total ValidatorRecord.waitingWeight :=
  @closeBlock_total env (fun status => if status = .candidate then 1 else 0) (fun _ => rfl) store
    height gasUsed

theorem epochStep_of_waiting (height : Nat) (epochConfig : EpochConfig)
    (waiting : store.validators.total ValidatorRecord.waitingWeight = 0) :
    epochStep env store height epochConfig = store := by
  have nobody : store.validatorCandidatesOrdered = [] := by
    have noCandidate : (store.validators.values.filter fun record => record.status = .candidate) = [] := by
      rw [List.filter_eq_nil_iff]
      intro record member
      have weightless := List.sum_eq_zero_iff.mp waiting record.waitingWeight
        (List.mem_map_of_mem member)
      simpa [ValidatorRecord.waitingWeight] using weightless
    simp only [StateStore.validatorCandidatesOrdered, noCandidate]
    rfl
  unfold epochStep
  split
  · simp only [StateStore.processEpochTransitions, nobody, StateStore.epochActivations,
      List.foldl_nil]
  · rfl

end Candidates

section Agreement

def AssemblyConfig.replayParams (config : AssemblyConfig) : ReplayParams :=
  ⟨config.feeParams, config.feeDist, config.validatorPool⟩

/-- At the end of an epoch nobody may be waiting for a place in the active set, now or after the
pending registrations. -/
structure QuietEpoch (store : StateStore) (pool : Mempool) : Prop where
  nobodyWaits : ∀ record ∈ store.validators.values, record.status ≠ .candidate
  room : store.activeValidatorCount + (pool.allPending.map fun entry => placesAsked entry.tx).sum ≤
    validatorMaxActiveSetSize

theorem QuietEpoch.uncrowded {pool : Mempool} (quiet : QuietEpoch store pool) :
    Uncrowded store.activeValidatorCount store where
  waiting := by
    refine List.sum_eq_zero_iff.mpr fun weight member => ?_
    obtain ⟨record, stored, rfl⟩ := List.mem_map.mp member
    exact if_neg (quiet.nobodyWaits record stored)
  active := (activeValidatorCount_eq_total store).ge

theorem assembleEntries_quiet {pool : Mempool} (config : AssemblyConfig)
    (quiet : QuietEpoch store pool) :
    (assembleEntries env config store pool).store.validators.total ValidatorRecord.waitingWeight =
      0 := by
  have asked : ((pendingInOrder pool).map fun entry => placesAsked entry.tx).sum =
      (pool.allPending.map fun entry => placesAsked entry.tx).sum :=
    ((List.perm_insertionSort _ _).map _).sum_eq
  have after : Uncrowded _ (assembleEntries env config store pool).store :=
    assembleEntries_uncrowded config (pendingInOrder pool) { store, pool } _ quiet.uncrowded
      (asked ▸ quiet.room)
  exact after.waiting

theorem verify_produced (store : StateStore) (pool : Mempool) (context : AssemblyContext)
    (config : AssemblyConfig) (proposer : Address)
    (counted : (assembleEntries env config store pool).includedHashes.length =
      (assembleEntries env config store pool).includedTransactions.length) :
    verifyStoredBlock env context.height context.prevHash
      (storedBlock env (executeAssembly env store pool context config proposer).result) = .ok () := by
  simp [verifyStoredBlock, storedBlock, executeAssembly, assembledBlock, counted]

theorem replayTransactions_produced {store : StateStore} {pool : Mempool}
    (context : AssemblyContext) (config : AssemblyConfig) (proposer : Address)
    (admitted : ∀ entry ∈ pool.allPending, entry.Admitted env)
    (canonical : ∀ entry ∈ pool.allPending, entry.Canonical env) :
    (assembleEntries env config store pool).includedHashes.length =
        (assembleEntries env config store pool).includedTransactions.length ∧
      replayTransactions env config.replayParams store
        (storedBlock env (executeAssembly env store pool context config proposer).result) =
        .ok (assembleEntries env config store pool).progress := by
  obtain ⟨bodies, hashes, lengths, included, hashesIncluded, replayed⟩ :=
    assembleEntries_replay config context.height (pendingInOrder pool)
      (fun entry member => (admitted entry (mem_pendingInOrder.mp member)).hashed)
      (fun entry member => canonical entry (mem_pendingInOrder.mp member)) { store, pool } 0
  rw [List.nil_append] at included hashesIncluded
  rw [← included, ← hashesIncluded] at replayed lengths
  exact ⟨lengths.symm, replayed⟩

def Reproduces (env : Env) (store : StateStore) (context : AssemblyContext)
    (config : AssemblyConfig) (assembled : Assembled) : Prop :=
  ∃ result, replayBlocksFromState env store context.prevHash
      [storedBlock env assembled.result] config.replayParams = .ok result ∧
    result.state = assembled.store ∧ result.stateRoot = assembled.store.stateRoot env

def closedStore (env : Env) (store : StateStore) (pool : Mempool) (config : AssemblyConfig)
    (height : Nat) (proposer : Address) : StateStore :=
  closeBlock env
    (distributeBlockFees env (assembleEntries env config store pool).store proposer
      (assembleEntries env config store pool).feesCollected
      (feePool (assembleEntries env config store pool).store config.validatorPool) config.feeDist)
    height (assembleEntries env config store pool).blockGasUsed

theorem reproduces_iff {pool : Mempool} {context : AssemblyContext} {config : AssemblyConfig}
    {assembled : Assembled} {proposer : Address}
    (address : Bytes32.ofBytes? context.proposer = some proposer)
    (admitted : ∀ entry ∈ pool.allPending, entry.Admitted env)
    (canonical : ∀ entry ∈ pool.allPending, entry.Canonical env)
    (accepted : assembleBlock env store pool context config = .ok assembled) :
    Reproduces env store context config assembled ↔
      epochStep env (closedStore env store pool config context.height proposer) context.height
          config.epochConfig =
        closedStore env store pool config context.height proposer := by
  obtain ⟨height, same, read, rfl⟩ := assembleBlock_eq_ok.mp accepted
  obtain rfl : same = proposer := Option.some.inj (read.symm.trans address)
  obtain ⟨counted, replayed⟩ := replayTransactions_produced context config same admitted canonical
  have ended : finishReplay env config.replayParams
      (executeAssembly env store pool context config same).result.block.header
      (assembleEntries env config store pool).progress =
      closedStore env store pool config context.height same := by
    simp only [finishReplay, executeAssembly, assembledBlock, address]
    rfl
  constructor
  · rintro ⟨result, ran, sameState, _⟩
    have block := (replayBlocksFromState_singleton.mp ran).2
    simp only [replayBlock, bind_eq_ok, require_eq_ok, pure_eq_ok] at block
    obtain ⟨progress, executed, _, _, _, _, _, _, rfl⟩ := block
    obtain rfl := Except.ok.inj (executed.symm.trans replayed)
    exact sameState.symm.trans ended
  · intro unchanged
    have finished : finishReplay env config.replayParams
        (executeAssembly env store pool context config same).result.block.header
        (assembleEntries env config store pool).progress =
        (executeAssembly env store pool context config same).store := ended.trans unchanged.symm
    have structured := verify_produced store pool context config same counted
    have ran := replayBlock_eq_ok (.start env store context.prevHash) replayed rfl
      (congrArg (StateStore.stateRoot env) finished) rfl
    exact ⟨_, replayBlocksFromState_singleton.mpr ⟨height ▸ structured, ran⟩, finished, rfl⟩

end Agreement

end ViperChain
