import ViperChain.Engine.Production
import ViperChain.Engine.RosterRuns

/-!
The size of the active set. Registration and unjailing respect the maximum; the end of an epoch
seats whoever waits.
-/

namespace ViperChain

open Fallible Relation CachedTables CachedTable

variable {env : Env} {store next : StateStore} {tx : Transaction}

def ValidatorRecord.seatedWeight (record : ValidatorRecord) : Nat :=
  record.activeWeight + record.waitingWeight

structure Seats (places : Nat) (store next : StateStore) : Prop where
  active : store.validators.total ValidatorRecord.activeWeight ≤ validatorMaxActiveSetSize →
    next.validators.total ValidatorRecord.activeWeight ≤ validatorMaxActiveSetSize
  seated : next.validators.total ValidatorRecord.seatedWeight ≤
    store.validators.total ValidatorRecord.seatedWeight + places

theorem Seats.of_validators (places : Nat) (same : next.validators = store.validators) :
    Seats places store next := by
  constructor
  · rw [same]
    exact id
  · rw [same]
    exact Nat.le_add_right _ _

theorem Seats.trans {first second : Nat} {later : StateStore} (left : Seats first store next)
    (right : Seats second next later) : Seats (first + second) store later := by
  have seated := left.seated
  have after := right.seated
  exact ⟨fun bound => right.active (left.active bound), by omega⟩

theorem admittedStatus_weights {record : ValidatorRecord}
    (placed : record.status = admittedStatus store) :
    record.seatedWeight = 1 ∧
      (record.activeWeight = 0 ∨
        store.validators.total ValidatorRecord.activeWeight < validatorMaxActiveSetSize ∧
          record.activeWeight = 1) := by
  rw [← activeValidatorCount_eq_total]
  unfold admittedStatus at placed
  split at placed
  case isTrue room =>
    simp [ValidatorRecord.seatedWeight, ValidatorRecord.activeWeight, ValidatorRecord.waitingWeight,
      placed, room]
  case isFalse =>
    simp [ValidatorRecord.seatedWeight, ValidatorRecord.activeWeight, ValidatorRecord.waitingWeight,
      placed]

theorem seats_insert (record : ValidatorRecord) (placed : record.status = admittedStatus store) :
    Seats 1 store (store.insertValidator env record) := by
  have active := store.validators.total_insert ValidatorRecord.activeWeight
    (fun _ => computeValidatorLeafHash env) record.operator record
  have seated := store.validators.total_insert ValidatorRecord.seatedWeight
    (fun _ => computeValidatorLeafHash env) record.operator record
  obtain ⟨weight, room⟩ := admittedStatus_weights placed
  constructor
  all_goals
    simp only [StateStore.insertValidator]
    omega

theorem seats_update {operator : Address} {record : ValidatorRecord}
    (present : store.getValidator operator = some record)
    (change : ValidatorRecord → ValidatorRecord) (places : Nat)
    (seated : (change record).seatedWeight ≤ record.seatedWeight + places)
    (active : (change record).activeWeight ≤ record.activeWeight ∨
      store.validators.total ValidatorRecord.activeWeight < validatorMaxActiveSetSize ∧
        (change record).activeWeight = 1) :
    Seats places store
      ((store.modifyValidator operator change).commitValidatorMutation env operator) := by
  have activeAfter := store.validators.total_modify ValidatorRecord.activeWeight present change
  have seatedAfter := store.validators.total_modify ValidatorRecord.seatedWeight present change
  constructor
  all_goals
    simp only [StateStore.modifyValidator, StateStore.commitValidatorMutation, total_commit]
    omega

theorem seats_slash {operator : Address} {record : ValidatorRecord}
    (present : store.getValidator operator = some record) (amount height : Nat) :
    Seats 0 store (slash env store operator amount height) := by
  have cut : Seats 0 store ((store.modifyValidator operator
      (Slashing.slashRecord amount)).commitValidatorMutation env operator) :=
    seats_update present _ 0
      (by simp [Slashing.slashRecord, ValidatorRecord.seatedWeight, ValidatorRecord.waitingWeight,
        ValidatorRecord.activeWeight])
      (.inl (by simp [Slashing.slashRecord, ValidatorRecord.activeWeight]))
  have paid : Seats 0 _ (slash env store operator amount height) :=
    .of_validators 0 (creditAccount_grows _ Slashing.treasuryAddress amount).validators
  exact cut.trans paid

theorem PayloadEffect.seats (effect : PayloadEffect env store tx next) :
    Seats (placesAsked tx) store next := by
  cases effect with
  | transfer sender recipient amount =>
      exact .of_validators _ ((withdraw_grows store tx.sender amount).trans
        (creditRecipient_grows _ recipient amount)).validators
  | register sender record peerId present covered operator standing available joins placed =>
      simp only [placesAsked, joins, if_true]
      have grows : AccountsGrow store (withdraw env store tx.sender record.selfBond) :=
        withdraw_grows store tx.sender record.selfBond
      have registered : Seats 1 store
          ((withdraw env store tx.sender record.selfBond).insertValidator env record) :=
        (Seats.of_validators 0 grows.validators).trans (seats_insert record placed)
      simp only [admitValidator]
      split
      · exact registered
      · exact registered.trans (.of_validators 0 (setValidatorPeerId_ledger _ _ _).validators)
  | setStatus record status present standing stays placed =>
      rcases placed with ⟨start, rfl⟩ | ⟨joins, placed⟩
      · exact seats_update present _ _
          (by simp [ValidatorRecord.seatedWeight, ValidatorRecord.waitingWeight,
            ValidatorRecord.activeWeight])
          (.inl (by simp [ValidatorRecord.activeWeight]))
      · obtain ⟨weight, room⟩ := @admittedStatus_weights store { record with status } placed
        simp only [placesAsked, joins, if_true]
        refine seats_update present _ 1 ?_ ?_
        · simp only [weight]
          omega
        · rcases room with waits | room
          · exact .inl (waits ▸ Nat.zero_le _)
          · exact .inr room
  | bindPeer peerId =>
      exact .of_validators _ (setValidatorPeerId_ledger store tx.sender peerId).validators
  | slashed record evidence cutoff kind decoded present amount =>
      have pruned : AccountsGrow store (store.pruneRecentSlashesBefore env cutoff) :=
        (pruneRecentSlashesBefore_ledger store cutoff).grows
      rw [← pruned.getValidator] at present
      exact (Seats.of_validators (placesAsked tx) pruned.validators).trans
        (seats_slash present amount _)
  | createAccount | updateSender | scheduleRotation | anchor | attest | archivalKey | archive
  | pushAnchor | renew | propose | vote => exact .of_validators _ rfl

theorem assembleEntry_seats (config : AssemblyConfig) (state : AssemblyState)
    (entry : PendingEntry) :
    Seats (placesAsked entry.tx) state.store (assembleEntry env config state entry).store := by
  simp only [assembleEntry]
  split
  · exact .of_validators _ rfl
  · split
    case h_1 store execution executed =>
      obtain ⟨working, settled, ran⟩ := applyTx_cases executed
      have paid : Seats 0 working store := .of_validators 0 (settled.next_eq ▸ rfl)
      rcases ran with rfl | effect
      · exact .of_validators _ (settled.next_eq ▸ rfl)
      · exact effect.seats.trans paid
    case h_2 => exact .of_validators _ rfl

theorem assembleEntries_seats (config : AssemblyConfig) (entries : List PendingEntry)
    (state : AssemblyState) :
    Seats (entries.map fun entry => placesAsked entry.tx).sum state.store
      (entries.foldl (assembleEntry env config) state).store := by
  induction entries generalizing state with
  | nil => exact .of_validators _ rfl
  | cons entry entries ih =>
      rw [List.map_cons, List.sum_cons, List.foldl_cons]
      exact (assembleEntry_seats config state entry).trans (ih _)

theorem closeBlock_active (height gasUsed : Nat) :
    (closeBlock env store height gasUsed).validators.total ValidatorRecord.activeWeight =
      store.validators.total ValidatorRecord.activeWeight :=
  @closeBlock_total env (fun status => if status = .active then 1 else 0) (fun _ => rfl) store
    height gasUsed

theorem total_seatedWeight (store : StateStore) :
    store.validators.total ValidatorRecord.seatedWeight =
      store.validators.total ValidatorRecord.activeWeight +
        store.validators.total ValidatorRecord.waitingWeight :=
  List.sum_map_add

theorem closeBlock_seats (store : StateStore) (height gasUsed : Nat) :
    Seats 0 store (closeBlock env store height gasUsed) := by
  constructor
  · rw [closeBlock_active]
    exact id
  · rw [total_seatedWeight, total_seatedWeight, closeBlock_active, closeBlock_waiting]
    exact Nat.le_refl _

theorem processEpochTransitions_seated (store : StateStore) (churn : ChurnConfig) :
    (store.processEpochTransitions env churn).validators.total ValidatorRecord.seatedWeight =
      store.validators.total ValidatorRecord.seatedWeight := by
  refine List.foldlRecOn _ _ (motive := fun current : StateStore =>
    current.validators.total ValidatorRecord.seatedWeight =
      store.validators.total ValidatorRecord.seatedWeight) rfl fun current kept operator _ => ?_
  refine Eq.trans ?_ kept
  unfold StateStore.activateValidator
  split
  case h_1 => rfl
  case h_2 record present =>
    split
    case isFalse => rfl
    case isTrue waiting =>
      simp only [StateStore.modifyValidator, StateStore.commitValidatorMutation, total_commit]
      refine current.validators.total_modify_of_eq _ operator _ fun other found => ?_
      have same : other = record := Option.some_inj.mp (found.symm.trans present)
      simp [ValidatorRecord.seatedWeight, ValidatorRecord.activeWeight,
        ValidatorRecord.waitingWeight, same, waiting]

theorem candidates_length (store : StateStore) :
    store.validatorCandidatesOrdered.length =
      store.validators.total ValidatorRecord.waitingWeight := by
  simp only [StateStore.validatorCandidatesOrdered, List.length_map, List.length_insertionSort]
  exact (store.validators.total_indicator fun record => record.status = .candidate).symm

def SeatsSuffice (store : StateStore) (pool : Mempool) (context : AssemblyContext)
    (config : AssemblyConfig) : Prop :=
  isEpochBoundary context.height config.epochConfig.epochDuration = true →
    store.activeValidatorCount + store.validatorCandidatesOrdered.length +
      (pool.allPending.map fun entry => placesAsked entry.tx).sum ≤ validatorMaxActiveSetSize

theorem assembleBlock_activeSet {pool : Mempool} {context : AssemblyContext}
    {config : AssemblyConfig} {assembled : Assembled}
    (accepted : assembleBlock env store pool context config = .ok assembled)
    (enough : SeatsSuffice store pool context config)
    (bounded : store.activeValidatorCount ≤ validatorMaxActiveSetSize) :
    assembled.store.activeValidatorCount ≤ validatorMaxActiveSetSize := by
  obtain ⟨_, proposer, _, rfl⟩ := assembleBlock_eq_ok.mp accepted
  have asked : ((pendingInOrder pool).map fun entry => placesAsked entry.tx).sum =
      (pool.allPending.map fun entry => placesAsked entry.tx).sum :=
    ((List.perm_insertionSort _ _).map _).sum_eq
  obtain ⟨executed, executed_eq⟩ : ∃ executed, assembleEntries env config store pool = executed :=
    ⟨_, rfl⟩
  have closed : Seats (pool.allPending.map fun entry => placesAsked entry.tx).sum store
      (closeBlock env (distributeBlockFees env executed.store proposer executed.feesCollected
        (feePool executed.store config.validatorPool) config.feeDist) context.height
        executed.blockGasUsed) := by
    have ran : Seats _ store (assembleEntries env config store pool).store :=
      assembleEntries_seats config (pendingInOrder pool) { store, pool }
    rw [asked, executed_eq] at ran
    have paid : Seats 0 executed.store (distributeBlockFees env executed.store proposer
        executed.feesCollected (feePool executed.store config.validatorPool) config.feeDist) :=
      .of_validators 0 (distributeBlockFees_grows _ _ _ _ _).validators
    exact (ran.trans paid).trans (closeBlock_seats _ _ _)
  rw [activeValidatorCount_eq_total] at bounded ⊢
  simp only [executeAssembly, finishAssembly, epochStep, executed_eq]
  split
  case isFalse => exact closed.active bounded
  case isTrue boundary =>
    have room := enough boundary
    rw [activeValidatorCount_eq_total, candidates_length, ← total_seatedWeight] at room
    have seated := closed.seated
    rw [← @processEpochTransitions_seated env _ config.epochConfig.churn, total_seatedWeight] at seated
    omega

/-- The active set stays within its maximum along every run whose epochs end with room for
those who wait. -/
theorem activeSet_bounded (env : Env) (genesis store : StateStore)
    (bounded : genesis.activeValidatorCount ≤ validatorMaxActiveSetSize)
    (run : ReflTransGen (ProductionStep env SeatsSuffice) genesis store) :
    store.activeValidatorCount ≤ validatorMaxActiveSetSize := by
  refine Runs.invariant (fun store => store.activeValidatorCount ≤ validatorMaxActiveSetSize) ?_ run
    bounded
  rintro before _ ⟨pool, context, config, assembled, room, accepted⟩ bounded
  exact assembleBlock_activeSet accepted room bounded

def fullSet : List GenesisValidator :=
  (List.range validatorMaxActiveSetSize).map fun index =>
    ⟨Bytes32.fill (Fin.ofNat 256 (10 + index)), [], .mlDsa65, []⟩

def fullGenesis : StateStore :=
  fullSet.foldl (fun store validator => store.insertValidator sampleEnv validator.record)
    (StateStore.fromSnapshotAccounts sampleEnv [authorAccount] 0 [])

def queued : StateStore := produceWith fullGenesis (authorTx .validatorRegister 0 1000 registration)

theorem epoch_overfills_activeSet :
    buildGenesisState sampleEnv [] [authorAccount] fullSet = .ok fullGenesis ∧
      fullGenesis.activeValidatorCount = validatorMaxActiveSetSize ∧
      ReflTransGen (ProductionStep sampleEnv anyBlock) fullGenesis (produceEmpty sampleEnv 59 queued) ∧
      (produceEmpty sampleEnv 59 queued).blockHeight = 60 ∧
      (produceEmpty sampleEnv 59 queued).activeValidatorCount = validatorMaxActiveSetSize + 1 := by
  refine ⟨rfl, by decide +kernel, ?_, by decide +kernel, by decide +kernel⟩
  exact produceEmpty_production 59 (produceWith_production .refl _) fun _ => trivial

theorem activeSet_bounded_queued :
    (queued.getValidator author).map ValidatorRecord.status = some .candidate ∧
      queued.activeValidatorCount ≤ validatorMaxActiveSetSize := by
  refine ⟨by decide +kernel, ?_⟩
  refine activeSet_bounded sampleEnv fullGenesis queued (by decide +kernel)
    (produce_production .refl _ fun boundary => ?_)
  have inside : isEpochBoundary (nextContext fullGenesis).height
      devnetConfig.epochConfig.epochDuration = false := by decide +kernel
  simp [inside] at boundary

end ViperChain
