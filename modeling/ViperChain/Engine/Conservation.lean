import ViperChain.State.FeeShares
import ViperChain.State.Genesis
import ViperChain.Engine.Replay

/-!
Conservation of the token supply by whole blocks, produced or replayed, and along every
run of them.
-/

namespace ViperChain

open Fallible CachedTables CachedTable

variable {env : Env} {store next : StateStore}

section Fees

theorem distributeBlockFees_supply (env : Env) (proposer : Address) (fees : Nat) (pool : List Address)
    (params : FeeDistributionParams) (burnRate : store.feeMarket.burnRateBps ≤ 10000)
    (bound : store.supply + fees ≤ u128Max) :
    (distributeBlockFees env store proposer fees pool params).supply = store.supply + fees := by
  rw [StateStore.supply_eq] at bound
  have total := feePayouts_total proposer pool params burnRate (show fees ≤ u128Max by omega)
  rw [distributeBlockFees_eq_payOut, StateStore.supply_eq, StateStore.supply_eq,
    (payOut_grows _ store).validators, payOut_balances _ store (by omega), total]
  omega

end Fees

section Unbonding

theorem refundExit_supply {exit : Address × Nat}
    (known : exit.2 ≠ 0 → store.accounts.contains exit.1)
    (bound : store.supply + exit.2 ≤ u128Max) :
    (refundExit env store exit).supply = store.supply + exit.2 := by
  cases present : store.getAccount exit.1 with
  | none =>
      have nothing : exit.2 = 0 := by
        by_contra owed
        have held := known owed
        rw [CachedTable.contains, show store.accounts.get? exit.1 = none from present] at held
        cases held
      have kept := store.accounts.total_modify_of_absent Account.balance present
        fun account => { account with balance := satAdd128 account.balance exit.2 }
      simp only [refundExit, StateStore.supply, StateStore.modifyAccount,
        StateStore.commitAccountMutation, total_commit, kept]
      omega
  | some account =>
      have held := balance_le_supply present
      have moved := updateAccount_supply env present
        fun account => { account with balance := satAdd128 account.balance exit.2 }
      simp only at moved
      rw [satAdd128_eq (by omega)] at moved
      simp only [refundExit]
      omega

theorem refundExits_supply (exits : List (Address × Nat)) :
    ∀ store : StateStore, (∀ exit ∈ exits, exit.2 ≠ 0 → store.accounts.contains exit.1) →
      store.supply + (exits.map Prod.snd).sum ≤ u128Max →
      (exits.foldl (refundExit env) store).supply = store.supply + (exits.map Prod.snd).sum := by
  induction exits with
  | nil => simp
  | cons exit exits ih =>
      intro store known bound
      simp only [List.map_cons, List.sum_cons] at bound ⊢
      have refunded : (refundExit env store exit).supply = store.supply + exit.2 :=
        refundExit_supply (known exit (by simp)) (by omega)
      have stillKnown : ∀ later ∈ exits, later.2 ≠ 0 →
          (refundExit env store exit).accounts.contains later.1 :=
        fun later member owed =>
          (refundExit_grows store exit).contains (known later (List.mem_cons_of_mem _ member) owed)
      rw [List.foldl_cons, ih _ stillKnown (by omega), refunded]
      omega

theorem bonded_expired (height : Nat) (record : ValidatorRecord) :
    record.bonded =
      (if StateStore.unbondingExpired height record then { record with status := .exited }
        else record : ValidatorRecord).bonded +
      (if StateStore.unbondingExpired height record then record.selfBond else 0) := by
  unfold StateStore.unbondingExpired ValidatorRecord.bonded
  cases status : record.status <;> simp [status]
  split <;> simp [status]

theorem bonded_split (height : Nat) (records : List ValidatorRecord) :
    (records.map ValidatorRecord.bonded).sum =
      (records.map (ValidatorRecord.bonded ∘ fun record =>
        if StateStore.unbondingExpired height record then { record with status := .exited }
        else record)).sum +
      (((records.filter (StateStore.unbondingExpired height)).map fun record =>
        (record.operator, record.selfBond)).map Prod.snd).sum := by
  induction records with
  | nil => rfl
  | cons record records ih =>
      have first := bonded_expired height record
      simp only [List.map_cons, List.sum_cons, Function.comp_apply, List.filter_cons] at ih ⊢
      split
      case isTrue expired =>
        simp only [expired, if_true, List.map_cons, List.sum_cons] at first ⊢
        omega
      case isFalse standing =>
        simp only [standing] at first ⊢
        omega

theorem expirations_supply (env : Env) (store : StateStore) (height : Nat) :
    (store.processValidatorUnbondingExpirations env height).1.supply +
      ((store.processValidatorUnbondingExpirations env height).2.map Prod.snd).sum =
      store.supply := by
  have split := bonded_split height store.validators.values
  have unchanged := total_congr ValidatorRecord.bonded (foldl_commit_entries
    (fun _ => computeValidatorLeafHash env)
    (store.validators.modifyAll fun record =>
      if StateStore.unbondingExpired height record then { record with status := .exited }
      else record)
    (((store.validators.values.filter (StateStore.unbondingExpired height)).map fun record =>
      (record.operator, record.selfBond)).map Prod.fst))
  rw [total_modifyAll] at unchanged
  simp only [StateStore.processValidatorUnbondingExpirations, StateStore.supply, unchanged]
  simp only [CachedTable.total] at split ⊢
  omega

theorem expirations_solvent (solvent : Solvent env store) (height : Nat) :
    Solvent env (store.processValidatorUnbondingExpirations env height).1 where
  coherent := processValidatorUnbondingExpirations_coherent solvent.coherent height
  operators := by
    intro operator record present owed
    have found : (store.getValidator operator).map (fun record =>
        if StateStore.unbondingExpired height record then { record with status := .exited }
        else record) = some record := by
      simpa [StateStore.processValidatorUnbondingExpirations, StateStore.getValidator,
        CachedTable.get?, CachedTable.modifyAll] using present
    obtain ⟨old, stored, rfl⟩ := Option.map_eq_some_iff.mp found
    refine solvent.operators operator old stored ?_
    have paid := bonded_expired height old
    omega
  burnRate := solvent.burnRate
  proposals := solvent.proposals

theorem expirations_known (solvent : Solvent env store) (height : Nat) :
    ∀ exit ∈ (store.processValidatorUnbondingExpirations env height).2, exit.2 ≠ 0 →
      (store.processValidatorUnbondingExpirations env height).1.accounts.contains exit.1 := by
  intro exit member owed
  simp only [StateStore.processValidatorUnbondingExpirations, List.mem_map, List.mem_filter]
    at member
  obtain ⟨record, ⟨stored, expired⟩, rfl⟩ := member
  obtain ⟨operator, found⟩ := store.validators.mem_values.mp stored
  have keyed : record.operator = operator := solvent.coherent.validatorsKeyed operator record found
  have bonded := bonded_expired height record
  simp only [expired, if_true] at bonded
  exact solvent.operators record.operator record (keyed ▸ found) (by omega)

theorem refundExpirations_supply (solvent : Solvent env store) (height : Nat)
    (bound : store.supply ≤ u128Max) :
    (refundExpirations env store height).supply = store.supply := by
  have owed := expirations_supply env store height
  have known := expirations_known solvent height
  simp only [refundExpirations]
  rw [refundExits_supply _ _ known (by omega), owed]

theorem refundExpirations_solvent (solvent : Solvent env store) (height : Nat) :
    Solvent env (refundExpirations env store height) :=
  (expirations_solvent solvent height).grow (refundExits_grows _ _)
    (refundExpirations_coherent solvent.coherent height)

end Unbonding

section Rotation

theorem activateRotation_supply (store : StateStore) (operator : Address) :
    (store.activateRotation env operator).supply = store.supply := by
  unfold StateStore.activateRotation
  split
  · rfl
  case h_2 rotation _ =>
    have kept := store.validators.total_modify_of_eq ValidatorRecord.bonded operator
      (fun record =>
        { record with consensusAlgId := rotation.newAlgId, consensusPk := rotation.newPkBytes })
      fun _ _ => rfl
    simp only [StateStore.supply, total_commit, kept]

theorem activateRotation_solvent (solvent : Solvent env store) (operator : Address) :
    Solvent env (store.activateRotation env operator) := by
  have coherent := activateRotation_coherent solvent.coherent operator
  unfold StateStore.activateRotation at coherent ⊢
  split
  case h_1 => exact solvent
  case h_2 rotation found =>
    simp only [found] at coherent
    refine ⟨coherent, fun other record present owed => ?_, solvent.burnRate, solvent.proposals⟩
    simp only [StateStore.getValidator, get?_commit, get?_modify] at present
    split at present
    · obtain ⟨old, stored, rfl⟩ := Option.map_eq_some_iff.mp present
      exact solvent.operators other old stored owed
    · exact solvent.operators other record present owed

theorem activateRotations_supply (store : StateStore) (height : Nat) :
    (store.activatePendingConsensusKeyRotations env height).supply = store.supply :=
  List.foldlRecOn _ _ (motive := fun current => current.supply = store.supply) rfl
    fun current kept operator _ => (activateRotation_supply current operator).trans kept

theorem activateRotations_solvent (solvent : Solvent env store) (height : Nat) :
    Solvent env (store.activatePendingConsensusKeyRotations env height) :=
  List.foldlRecOn _ _ solvent fun _ kept operator _ => activateRotation_solvent kept operator

end Rotation

section Height

theorem advanceHeight_supply (store : StateStore) : (store.advanceHeight env).supply = store.supply := by
  have unchanged := total_congr Account.balance (foldl_commit_entries
    (fun _ => computeAccountLeafHash env)
    (store.accounts.modifyAll fun account =>
      { account with keys := StateStore.activateKeys (store.blockHeight + 1) account.keys })
    ((store.accounts.values.filter (StateStore.hasActivatingKey (store.blockHeight + 1))).map
      Account.address))
  rw [total_modifyAll] at unchanged
  simp only [StateStore.advanceHeight, StateStore.supply, unchanged]
  rfl

end Height

section Epoch

theorem activateValidator_solvent (solvent : Solvent env store) (operator : Address) :
    Solvent env (store.activateValidator env operator) := by
  unfold StateStore.activateValidator
  split
  case h_1 => exact solvent
  case h_2 record present =>
    split
    case isTrue waiting =>
      refine solvent.updateValidator operator _ (fun _ => rfl) fun old found bonded => ?_
      cases present.symm.trans found
      simpa [ValidatorRecord.bonded, waiting] using bonded
    case isFalse => exact solvent

theorem activateValidator_supply (store : StateStore) (operator : Address) :
    (store.activateValidator env operator).supply = store.supply := by
  unfold StateStore.activateValidator
  split
  case h_1 => rfl
  case h_2 record present =>
    split
    case isTrue waiting =>
      have moved := updateValidator_supply env present fun record => { record with status := .active }
      simp only [ValidatorRecord.bonded, waiting, reduceCtorEq, if_false] at moved
      omega
    case isFalse => rfl

theorem processEpochTransitions_solvent (solvent : Solvent env store) (churn : ChurnConfig) :
    Solvent env (store.processEpochTransitions env churn) :=
  List.foldlRecOn _ _ solvent fun _ kept operator _ => activateValidator_solvent kept operator

theorem processEpochTransitions_supply (store : StateStore) (churn : ChurnConfig) :
    (store.processEpochTransitions env churn).supply = store.supply :=
  List.foldlRecOn _ _ (motive := fun current => current.supply = store.supply) rfl
    fun current kept operator _ => (activateValidator_supply current operator).trans kept

end Epoch

section Blocks

theorem applyAimdUpdate_solvent (solvent : Solvent env store) (gasUsed : Nat) :
    Solvent env (store.applyAimdUpdate env gasUsed) :=
  ⟨applyAimdUpdate_coherent solvent.coherent gasUsed, solvent.operators, solvent.burnRate,
    solvent.proposals⟩

theorem closeBlock_solvent (solvent : Solvent env store) (height gasUsed : Nat) :
    Solvent env (closeBlock env store height gasUsed) := by
  have priced := applyAimdUpdate_solvent solvent gasUsed
  have tallied := processGovernanceTallies_solvent priced height
  have refunded := refundExpirations_solvent tallied height
  have rotated := activateRotations_solvent refunded height
  exact rotated.grow (advanceHeight_grows _) (advanceHeight_coherent rotated.coherent)

theorem closeBlock_supply (solvent : Solvent env store) (height gasUsed : Nat)
    (bound : store.supply ≤ u128Max) :
    (closeBlock env store height gasUsed).supply = store.supply := by
  have priced := applyAimdUpdate_solvent solvent gasUsed
  have tallied := processGovernanceTallies_solvent priced height
  have counted : (processGovernanceTallies env (store.applyAimdUpdate env gasUsed) height).supply =
      store.supply := (processGovernanceTallies_tokens _ height).supply
  simp only [closeBlock]
  rw [advanceHeight_supply, activateRotations_supply,
    refundExpirations_supply tallied height (counted ▸ bound), counted]

theorem epochStep_solvent (solvent : Solvent env store) (height : Nat) (epochConfig : EpochConfig) :
    Solvent env (epochStep env store height epochConfig) := by
  unfold epochStep
  split
  · exact processEpochTransitions_solvent solvent _
  · exact solvent

theorem epochStep_supply (store : StateStore) (height : Nat) (epochConfig : EpochConfig) :
    (epochStep env store height epochConfig).supply = store.supply := by
  unfold epochStep
  split
  · exact processEpochTransitions_supply store _
  · rfl

end Blocks

section Loops

structure Conserving (env : Env) (start store : StateStore) (fees : Nat) : Prop where
  solvent : Solvent env store
  counted : store.supply + fees = start.supply
  ghosts : ∀ operator, store.isGhost operator = true → start.isGhost operator = true

theorem Conserving.start (solvent : Solvent env store) : Conserving env store store 0 :=
  ⟨solvent, rfl, fun _ => id⟩

theorem satAdd128_assoc (fees charged tip : Nat) :
    satAdd128 (satAdd128 fees charged) tip = satAdd128 fees (satAdd128 charged tip) := by
  simp only [satAdd128]
  omega

theorem Conserving.execute {start : StateStore} {fees : Nat} {tx : Transaction}
    {context : ExecutionContext} {result : ExecutionResult}
    (conserving : Conserving env start store fees) (spared : Spared env start tx)
    (bound : start.supply ≤ u128Max)
    (executed : applyTx env store tx context = .ok (next, result)) :
    Conserving env start next
      (satAdd128 (satAdd128 fees result.feeCharged) tx.feeTip) where
  solvent := applyTx_solvent (spared.le conserving.ghosts) conserving.solvent executed
  counted := by
    have counted := conserving.counted
    have paid := applyTx_supply (spared.le conserving.ghosts) (by omega) executed
    rw [satAdd128_assoc, satAdd128_eq (by omega)]
    omega
  ghosts := fun operator ghost =>
    conserving.ghosts operator (applyTx_isGhost_le executed ghost)

theorem assembleEntry_conserving {start : StateStore} (config : AssemblyConfig)
    (bound : start.supply ≤ u128Max) (state : AssemblyState) (entry : PendingEntry)
    (spared : Spared env start entry.tx)
    (conserving : Conserving env start state.store state.feesCollected) :
    Conserving env start (assembleEntry env config state entry).store
      (assembleEntry env config state entry).feesCollected := by
  simp only [assembleEntry]
  split
  · exact conserving
  · split
    case h_1 store execution executed => exact conserving.execute spared bound executed
    case h_2 => exact conserving

theorem assembleEntries_conserving {start : StateStore} (config : AssemblyConfig)
    (bound : start.supply ≤ u128Max) (entries : List PendingEntry)
    (spared : ∀ entry ∈ entries, Spared env start entry.tx) (state : AssemblyState)
    (conserving : Conserving env start state.store state.feesCollected) :
    Conserving env start (entries.foldl (assembleEntry env config) state).store
      (entries.foldl (assembleEntry env config) state).feesCollected :=
  List.foldlRecOn entries _
    (motive := fun state => Conserving env start state.store state.feesCollected) conserving
    fun state holds entry member =>
      assembleEntry_conserving config bound state entry (spared entry member) holds

theorem finishAssembly_conserves {start : StateStore} {fees : Nat} (config : AssemblyConfig)
    (proposer : Address) (height gasUsed : Nat) (bound : start.supply ≤ u128Max)
    (conserving : Conserving env start store fees) :
    Solvent env (finishAssembly env store proposer height fees gasUsed config) ∧
      (finishAssembly env store proposer height fees gasUsed config).supply = start.supply := by
  have counted := conserving.counted
  have paid := distributeBlockFees_supply env proposer fees
    (feePool store config.validatorPool) config.feeDist conserving.solvent.burnRate (by omega)
  have solvent := conserving.solvent.grow
    (distributeBlockFees_grows store proposer fees (feePool store config.validatorPool)
      config.feeDist)
    (distributeBlockFees_coherent conserving.solvent.coherent _ _ _ _)
  refine ⟨epochStep_solvent (closeBlock_solvent solvent height gasUsed) height _, ?_⟩
  rw [finishAssembly, epochStep_supply, closeBlock_supply solvent height gasUsed (by omega), paid]
  exact counted

theorem assembleBlock_conserves {pool : Mempool} {context : AssemblyContext}
    {config : AssemblyConfig} {assembled : Assembled} (solvent : Solvent env store)
    (bound : store.supply ≤ u128Max)
    (spared : ∀ entry ∈ pool.allPending, Spared env store entry.tx)
    (produced : assembleBlock env store pool context config = .ok assembled) :
    Solvent env assembled.store ∧ assembled.store.supply = store.supply := by
  obtain ⟨_, proposer, _, rfl⟩ := assembleBlock_eq_ok.mp produced
  refine finishAssembly_conserves config proposer _ _ bound ?_
  refine assembleEntries_conserving config bound _ (fun entry member => ?_) _ (.start solvent)
  exact spared entry (mem_pendingInOrder.mp member)

theorem replayTx_conserving {start : StateStore} {feeParams : FeeParams} {height : Nat}
    {progress after : ReplayProgress} {item : (Transaction × TxHash) × Nat}
    (bound : start.supply ≤ u128Max) (spared : Spared env start item.1.1)
    (conserving : Conserving env start progress.state progress.feesCollected)
    (replayed : replayTx env feeParams height progress item = .ok after) :
    Conserving env start after.state after.feesCollected := by
  simp only [replayTx, bind_eq_ok, mapError_eq_ok, require_eq_ok, pure_eq_ok] at replayed
  obtain ⟨raw, _, _, _, ⟨state, execution⟩, executed, rfl⟩ := replayed
  exact conserving.execute spared bound executed

theorem replayTransactions_conserving {params : ReplayParams} {stored : StoredBlock}
    {progress : ReplayProgress} (solvent : Solvent env store) (bound : store.supply ≤ u128Max)
    (spared : ∀ tx ∈ stored.includedTransactions, Spared env store tx)
    (replayed : replayTransactions env params store stored = .ok progress) :
    Conserving env store progress.state progress.feesCollected := by
  refine foldlM_invariant (fun progress : ReplayProgress =>
    Conserving env store progress.state progress.feesCollected) _ _ _ (.start solvent) ?_ replayed
  intro progress item after member conserving stepped
  refine replayTx_conserving bound (spared _ ?_) conserving stepped
  exact (List.of_mem_zip (List.fst_mem_of_mem_zipIdx member)).1

def lostFees (header : BlockHeader) (fees : Nat) : Nat :=
  if (Bytes32.ofBytes? header.proposer).isSome then 0 else fees

theorem finishReplay_supply {start : StateStore} {progress : ReplayProgress}
    (params : ReplayParams) (header : BlockHeader) (bound : start.supply ≤ u128Max)
    (conserving : Conserving env start progress.state progress.feesCollected) :
    Solvent env (finishReplay env params header progress) ∧
      (finishReplay env params header progress).supply + lostFees header progress.feesCollected =
        start.supply := by
  have counted := conserving.counted
  unfold finishReplay lostFees
  cases address : Bytes32.ofBytes? header.proposer with
  | some proposer =>
      have paid := distributeBlockFees_supply env proposer progress.feesCollected
        (feePool progress.state params.validatorPool) params.feeDist conserving.solvent.burnRate
        (by omega)
      have solvent := conserving.solvent.grow
        (distributeBlockFees_grows progress.state proposer progress.feesCollected
          (feePool progress.state params.validatorPool) params.feeDist)
        (distributeBlockFees_coherent conserving.solvent.coherent _ _ _ _)
      refine ⟨closeBlock_solvent solvent _ _, ?_⟩
      simp only [Option.isSome_some, if_true]
      rw [closeBlock_supply solvent _ _ (by omega)]
      omega
  | none =>
      refine ⟨closeBlock_solvent conserving.solvent _ _, ?_⟩
      rw [closeBlock_supply conserving.solvent _ _ (by omega)]
      exact counted

theorem replayBlock_supply {params : ReplayParams} {stored : StoredBlock}
    {result after : ReplayResult} (solvent : Solvent env result.state)
    (bound : result.state.supply ≤ u128Max)
    (spared : ∀ tx ∈ stored.includedTransactions, Spared env result.state tx)
    (replayed : replayBlock env params result stored = .ok after) :
    ∃ progress, replayTransactions env params result.state stored = .ok progress ∧
      Solvent env after.state ∧
      after.state.supply + lostFees stored.block.header progress.feesCollected =
        result.state.supply := by
  simp only [replayBlock, bind_eq_ok, require_eq_ok, pure_eq_ok] at replayed
  obtain ⟨progress, ran, _, _, _, _, _, _, rfl⟩ := replayed
  exact ⟨progress, ran, finishReplay_supply params stored.block.header bound
    (replayTransactions_conserving solvent bound spared ran)⟩

end Loops

section Runs

inductive BlockStep (env : Env) (guard : StateStore → Transaction → Prop) :
    StateStore → StateStore → Prop
  | produced {store : StateStore} (pool : Mempool) (context : AssemblyContext)
      (config : AssemblyConfig) (assembled : Assembled)
      (guarded : ∀ entry ∈ pool.allPending, guard store entry.tx)
      (accepted : assembleBlock env store pool context config = .ok assembled) :
      BlockStep env guard store assembled.store
  | replayed {store : StateStore} (anchor : BlockHash) (stored : StoredBlock)
      (params : ReplayParams) (result : ReplayResult)
      (guarded : ∀ tx ∈ stored.includedTransactions, guard store tx)
      (accepted : replayBlocksFromState env store anchor [stored] params = .ok result) :
      BlockStep env guard store result.state

def SparesGhosts (env : Env) (store : StateStore) (tx : Transaction) : Prop :=
  namesGhost env store tx = false

theorem BlockStep.supply_le (step : BlockStep env (SparesGhosts env) store next)
    (solvent : Solvent env store) (bound : store.supply ≤ u128Max) :
    Solvent env next ∧ next.supply ≤ store.supply := by
  cases step with
  | produced pool context config assembled guarded accepted =>
      have conserved := assembleBlock_conserves solvent bound
        (fun entry pending _ => guarded entry pending) accepted
      exact ⟨conserved.1, conserved.2.le⟩
  | replayed anchor stored params result guarded accepted =>
      have replayed := (replayBlocksFromState_singleton.mp accepted).2
      have spared : ∀ tx ∈ stored.includedTransactions,
          Spared env (ReplayResult.start env store anchor).state tx :=
        fun tx included _ => guarded tx included
      obtain ⟨_, _, solvent, counted⟩ := replayBlock_supply solvent bound spared replayed
      exact ⟨solvent, Nat.le.intro counted⟩

theorem reached_solvent {genesis : StateStore} (start : FundedGenesis env genesis)
    (bound : genesis.supply ≤ u128Max)
    (reached : Relation.ReflTransGen (BlockStep env (SparesGhosts env)) genesis store) :
    Solvent env store ∧ store.supply ≤ u128Max := by
  induction reached with
  | refl => exact ⟨start.solvent, bound⟩
  | tail _ step ih =>
      obtain ⟨solvent, below⟩ := step.supply_le ih.1 ih.2
      exact ⟨solvent, below.trans ih.2⟩

/-- In every run whose blocks spare the exited validators that still have a bond on record: between
any two transactions what is missing is in the fees, after the block nothing is missing, and no
balance leaves the range of `u128`. -/
theorem supply_conserved (env : Env) (genesis store : StateStore)
    (start : FundedGenesis env genesis) (initial : genesis.supply < 2 ^ 128)
    (reached : Relation.ReflTransGen (BlockStep env (SparesGhosts env)) genesis store)
    (pool : Mempool) (context : AssemblyContext) (config : AssemblyConfig) (assembled : Assembled)
    (spared : ∀ entry ∈ pool.allPending, SparesGhosts env store entry.tx)
    (accepted : assembleBlock env store pool context config = .ok assembled) :
    assembled.store.supply = store.supply ∧
      (∀ ran, ran <+: pendingInOrder pool →
        (ran.foldl (assembleEntry env config) { store, pool }).store.supply +
          (ran.foldl (assembleEntry env config) { store, pool }).feesCollected = store.supply) ∧
      ∀ address account, assembled.store.getAccount address = some account →
        account.balance < 2 ^ 128 := by
  obtain ⟨solvent, bound⟩ := reached_solvent start (by simp only [u128Max]; omega) reached
  have conserved := (assembleBlock_conserves solvent bound
    (fun entry pending _ => spared entry pending) accepted).2
  refine ⟨conserved, fun ran started => ?_, fun address account present => ?_⟩
  · refine (assembleEntries_conserving config bound ran (fun entry member => ?_) _
      (.start solvent)).counted
    exact fun _ => spared entry (mem_pendingInOrder.mp (started.subset member))
  · have held := balance_le_supply present
    simp only [u128Max] at bound
    omega

end Runs

section ExitedBond

def leaver : Address := payer

def watcher : Address := Bytes32.fill 8

def consensusKey : Bytes := List.replicate 48 3

def registration : Value :=
  .map
    [ (.integer 1, .bytes []),
      (.integer 2, .integer AlgId.slhDsaShake192s.asU16),
      (.integer 3, .bytes consensusKey),
      (.integer 4, .bytes (List.replicate 15 0 ++ [100])) ]

def signedPrecommit (blockHash : Byte) : Value :=
  .map
    [ (.integer 1, .integer 1), (.integer 2, .integer 0),
      (.integer 3, .bytes (List.replicate 32 blockHash)), (.integer 4, .integer 2),
      (.integer 5, .bytes (consensusKey ++ List.replicate 32 7)) ]

def doubleSigning : Value :=
  .map
    [ (.integer 1, .bytes leaver.data), (.integer 2, .integer 1),
      (.integer 3, signedPrecommit 1), (.integer 4, signedPrecommit 2) ]

def ghostEnv : Env where
  shake256 _ := Bytes32.fill 7
  mlDsa _ key message signature :=
    if signature = key ++ message then .ok () else .error .verificationFailed
  slhDsa _ key message signature :=
    if signature = key ++ message then .ok () else .error .verificationFailed
  cborDecode bytes :=
    if bytes = [1] then .ok registration
    else if bytes = [2] then .ok doubleSigning
    else .error "end of input"
  cborEncode _ := .ok []
  tokenEconomics := true
  pqVerifierFeature := true

def genesisAccount (address : Address) (balance : Nat) : Account :=
  { Account.credited address balance with keys := [⟨.mlDsa65, [], 1, 0, .active, 0⟩] }

def ghostGenesis : StateStore :=
  (StateStore.fromSnapshotAccounts ghostEnv
    [genesisAccount leaver 10000, genesisAccount watcher 0] 0 []).insertValidator ghostEnv
      (GenesisValidator.record ⟨watcher, [], .mlDsa65, []⟩)

theorem ghostGenesis_funded : FundedGenesis ghostEnv ghostGenesis where
  built := ⟨[], [genesisAccount leaver 10000, genesisAccount watcher 0],
    [⟨watcher, [], .mlDsa65, []⟩], rfl⟩
  funded := by decide +kernel

def leaverTx (msgType : MsgType) (nonce : Nat) (payload : Bytes) : Transaction :=
  { gaslessTx nonce with msgType, gasLimit := 100, payload }

def poolWith (tx : Transaction) : Mempool :=
  Mempool.new.insert (pendingEntry ghostEnv tx [])

def devnetConfig : AssemblyConfig where
  maxBlockBytes := 1000
  feeParams := freeParams
  validatorPool := []
  feeDist := ⟨5000⟩
  epochConfig := ⟨60, 120, .viperPq1⟩

def nextContext (store : StateStore) : AssemblyContext where
  height := store.blockHeight + 1
  prevHash := Bytes32.fill 0
  timestamp := 0
  proposer := watcher.data

def produce (env : Env) (store : StateStore) (pool : Mempool) : StateStore :=
  match assembleBlock env store pool (nextContext store) devnetConfig with
  | .ok assembled => assembled.store
  | .error _ => store

def produceEmpty (env : Env) : Nat → StateStore → StateStore
  | 0, store => store
  | count + 1, store => produceEmpty env count (produce env store .new)

theorem produce_reached {guard : StateStore → Transaction → Prop} {genesis : StateStore}
    (reached : Relation.ReflTransGen (BlockStep env guard) genesis store) (pool : Mempool)
    (guarded : ∀ entry ∈ pool.allPending, guard store entry.tx) :
    Relation.ReflTransGen (BlockStep env guard) genesis (produce env store pool) := by
  unfold produce
  split
  case h_1 assembled accepted =>
    exact reached.tail (.produced pool (nextContext store) devnetConfig assembled guarded accepted)
  case h_2 => exact reached

theorem produceEmpty_reached {guard : StateStore → Transaction → Prop} {genesis : StateStore}
    (count : Nat) (reached : Relation.ReflTransGen (BlockStep env guard) genesis store) :
    Relation.ReflTransGen (BlockStep env guard) genesis (produceEmpty env count store) := by
  induction count generalizing store with
  | zero => exact reached
  | succ count ih =>
      exact ih (produce_reached reached .new (by simp only [Mempool.allPending_new, List.not_mem_nil,
        false_imp_iff, implies_true]))

def registered : StateStore :=
  produce ghostEnv ghostGenesis (poolWith (leaverTx .validatorRegister 0 [1]))

def paidBack : StateStore :=
  produceEmpty ghostEnv 119
    (produce ghostEnv registered (poolWith (leaverTx .validatorExit 1 [])))

def evidencePool (nonce : Nat) : Mempool :=
  poolWith (leaverTx .submitEquivocationEvidence nonce [2])

/-- Evidence against the leaver makes it a jailed validator, whose bond counts again: 100
tokens appear. -/
theorem paidBackBond_countsAgain :
    FundedGenesis ghostEnv ghostGenesis ∧ ghostGenesis.supply < 2 ^ 128 ∧
      Relation.ReflTransGen (BlockStep ghostEnv fun _ _ => True) ghostGenesis paidBack ∧
      ∃ assembled,
        assembleBlock ghostEnv paidBack (evidencePool 2) (nextContext paidBack) devnetConfig
          = .ok assembled ∧
        paidBack.supply = 10000 ∧ assembled.store.supply = 10100 := by
  have reached : Relation.ReflTransGen (BlockStep ghostEnv fun _ _ => True) ghostGenesis paidBack :=
    produceEmpty_reached 119 (produce_reached (produce_reached .refl _ fun _ _ => trivial) _
      fun _ _ => trivial)
  refine ⟨ghostGenesis_funded, by decide +kernel, reached, ?_⟩
  have counts : (assembleBlock ghostEnv paidBack (evidencePool 2) (nextContext paidBack)
      devnetConfig).toOption.map (fun assembled => assembled.store.supply) = some 10100 := by
    decide +kernel
  obtain ⟨assembled, accepted, counted⟩ := exists_ok_of_toOption counts
  exact ⟨assembled, accepted, by decide +kernel, counted⟩

theorem spared_of_all {pool : Mempool}
    (checked : pool.allPending.all (fun entry => !namesGhost env store entry.tx) = true) :
    ∀ entry ∈ pool.allPending, SparesGhosts env store entry.tx := by
  intro entry pending
  have spared := List.all_eq_true.mp checked entry pending
  simpa [SparesGhosts] using spared

theorem supply_conserved_bonded :
    ∃ assembled,
      assembleBlock ghostEnv registered (evidencePool 1) (nextContext registered) devnetConfig
        = .ok assembled ∧ assembled.store.supply = registered.supply ∧
      (assembled.store.getValidator leaver).map ValidatorRecord.selfBond = some 95 := by
  have slashed : (assembleBlock ghostEnv registered (evidencePool 1) (nextContext registered)
      devnetConfig).toOption.map (fun assembled =>
        (assembled.store.getValidator leaver).map ValidatorRecord.selfBond) = some (some 95) := by
    decide +kernel
  obtain ⟨assembled, accepted, bond⟩ := exists_ok_of_toOption slashed
  have reached : Relation.ReflTransGen (BlockStep ghostEnv (SparesGhosts ghostEnv)) ghostGenesis
      registered :=
    produce_reached .refl _ (spared_of_all (by decide +kernel))
  have conserved := supply_conserved ghostEnv ghostGenesis registered ghostGenesis_funded
    (by decide +kernel) reached (evidencePool 1) (nextContext registered) devnetConfig assembled
    (spared_of_all (by decide +kernel)) accepted
  exact ⟨assembled, accepted, conserved.1, bond⟩

end ExitedBond

end ViperChain
