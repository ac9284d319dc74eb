import ViperChain.Engine.Production
import ViperChain.Engine.Reach
import ViperChain.State.ActivationQueue

/-!
Where production and replay part: at the end of an epoch only `assemble_block` lets waiting
candidates in.
-/

namespace ViperChain

open CachedTables CachedTable

variable {env : Env} {store : StateStore}

def StateStore.NobodyWaits (store : StateStore) : Prop :=
  ∀ record ∈ store.validators.values, record.status ≠ .candidate

theorem nobodyWaits_iff :
    store.NobodyWaits ↔ store.validators.total ValidatorRecord.waitingWeight = 0 := by
  constructor
  · intro nobody
    refine List.sum_eq_zero_iff.mpr fun weight member => ?_
    obtain ⟨record, stored, rfl⟩ := List.mem_map.mp member
    exact if_neg (nobody record stored)
  · intro weightless record stored waiting
    have none := List.sum_eq_zero_iff.mp weightless record.waitingWeight
      (List.mem_map_of_mem stored)
    simp [ValidatorRecord.waitingWeight, waiting] at none

theorem mem_epochActivations {limit : Nat} {operator : Address} (queue : List Address) :
    ∀ (accumulated : Nat) (chosen : List Address), operator ∈ chosen →
      operator ∈ store.epochActivations limit queue accumulated chosen := by
  induction queue with
  | nil => exact fun _ _ member => member
  | cons next queue ih =>
      intro accumulated chosen member
      unfold StateStore.epochActivations
      split
      · exact ih _ _ member
      · dsimp only
        split
        · exact member
        · exact ih _ _ (List.mem_append_left _ member)

theorem processEpochTransitions_ne (keyed : store.validators.Keyed ValidatorRecord.operator)
    (churn : ChurnConfig) (crowded : ¬ store.NobodyWaits) :
    store.processEpochTransitions env churn ≠ store := by
  intro same
  obtain ⟨record, stored, waiting⟩ : ∃ record ∈ store.validators.values,
      record.status = .candidate := by
    simpa [StateStore.NobodyWaits] using crowded
  obtain ⟨key, found⟩ := store.validators.mem_values.mp stored
  have queued : key ∈ store.validatorCandidatesOrdered :=
    (StateStore.mem_validatorCandidatesOrdered keyed).mpr ⟨record, found, waiting⟩
  cases queue : store.validatorCandidatesOrdered with
  | nil => simp [queue] at queued
  | cons first rest =>
      have listed : first ∈ store.validatorCandidatesOrdered := by simp [queue]
      obtain ⟨leader, present, candidate⟩ :=
        (StateStore.mem_validatorCandidatesOrdered keyed).mp listed
      have chosen : first ∈ store.epochActivations
          (stakeWeightedActivationLimit store.totalActiveSelfBond churn) (first :: rest) 0 [] := by
        unfold StateStore.epochActivations
        simp only [present, List.isEmpty_nil, Bool.not_true, Bool.and_false, Bool.false_eq_true,
          if_false, List.nil_append]
        exact mem_epochActivations rest _ _ List.mem_cons_self
      have seated : (store.processEpochTransitions env churn).getValidator first =
          some (activatedRecord leader) := by
        rw [← queue] at chosen
        exact (getValidator_activateAll _ store first).trans (by rw [if_pos chosen, present]; rfl)
      rw [same, present] at seated
      have unseated := congrArg ValidatorRecord.status (Option.some.inj seated)
      simp [activatedRecord, candidate] at unseated

theorem epochStep_eq_iff (keyed : store.validators.Keyed ValidatorRecord.operator) (height : Nat)
    (epochConfig : EpochConfig) :
    epochStep env store height epochConfig = store ↔
      (isEpochBoundary height epochConfig.epochDuration = true → store.NobodyWaits) := by
  constructor
  · intro unchanged boundary
    by_contra crowded
    rw [epochStep, if_pos boundary] at unchanged
    exact processEpochTransitions_ne keyed _ crowded unchanged
  · intro quiet
    by_cases boundary : isEpochBoundary height epochConfig.epochDuration = true
    · exact epochStep_of_waiting height epochConfig (nobodyWaits_iff.mp (quiet boundary))
    · exact if_neg boundary

theorem closedStore_nobodyWaits (pool : Mempool) (config : AssemblyConfig) (height : Nat)
    (proposer : Address) :
    (closedStore env store pool config height proposer).NobodyWaits ↔
      (assembleEntries env config store pool).store.NobodyWaits := by
  rw [nobodyWaits_iff, nobodyWaits_iff, closedStore, closeBlock_waiting,
    (distributeBlockFees_grows _ _ _ _ _).validators]

theorem closedStore_coherent (coherent : store.Coherent env) (pool : Mempool)
    (config : AssemblyConfig) (height : Nat) (proposer : Address) :
    (closedStore env store pool config height proposer).Coherent env := by
  have entries : (assembleEntries env config store pool).store.Coherent env :=
    Runs.invariant (StateStore.Coherent env) (fun _ _ call => call.storeCall.coherent)
      (Runs.foldl AssemblyState.store (assembleEntry env config) (pendingInOrder pool)
        (fun current entry _ => assembleEntry_calls config current entry) { store, pool }) coherent
  exact Runs.invariant (StateStore.Coherent env) (fun _ _ call => call.storeCall.coherent)
    (closeBlock_calls _ _ _) (distributeBlockFees_coherent entries _ _ _ _)

section Sample

def candidateStore (height : Nat) : StateStore :=
  { sampleGenesis.insertValidator sampleEnv (waitingRecord (Bytes32.fill 2) 5 10) with
    blockHeight := height }

theorem candidateStore_coherent (height : Nat) : (candidateStore height).Coherent sampleEnv := by
  have coherent := sampleGenesis_onChain.coherent.insertValidator (waitingRecord (Bytes32.fill 2) 5 10)
  exact ⟨{ coherent.fresh with }, coherent.accountsKeyed, coherent.validatorsKeyed⟩

theorem candidateStore_crowded (height : Nat) : ¬ (candidateStore height).NobodyWaits := by
  intro nobody
  have listed : waitingRecord (Bytes32.fill 2) 5 10 ∈ (candidateStore height).validators.values :=
    ((candidateStore height).validators.mem_values).mpr ⟨Bytes32.fill 2, by
      simp [candidateStore, StateStore.insertValidator, waitingRecord]⟩
  exact nobody _ listed rfl

def anchorPool : Mempool :=
  submit sampleGenesis freeParams (authorTx .proofAnchor 0 10 anchorPayload) .new

theorem anchorPool_pending : anchorPool.allPending.all (fun entry =>
    decodeTx sampleEnv entry.rawBytes = .ok entry.tx &&
      entry.txHash = computeTxHash sampleEnv entry.rawBytes &&
      encodeTx sampleEnv entry.tx = .ok entry.rawBytes) = true := by decide +kernel

theorem anchorPool_canonical : ∀ entry ∈ anchorPool.allPending,
    entry.Admitted sampleEnv ∧ entry.Canonical sampleEnv := by
  intro entry member
  have fits := List.all_eq_true.mp anchorPool_pending entry member
  simp only [Bool.and_eq_true, decide_eq_true_eq] at fits
  exact ⟨⟨fits.1.1, fits.1.2⟩, fits.2⟩

theorem anchorPool_assembled : ∃ assembled,
    assembleBlock sampleEnv sampleGenesis anchorPool (nextContext sampleGenesis) devnetConfig =
        .ok assembled ∧
      assembled.result.includedTransactions = [authorTx .proofAnchor 0 10 anchorPayload] :=
  ⟨_, assembleBlock_eq_ok.mpr ⟨rfl, watcher, rfl, rfl⟩, by decide +kernel⟩

end Sample

end ViperChain
