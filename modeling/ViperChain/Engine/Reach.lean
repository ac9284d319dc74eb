import ViperChain.Engine.Conservation
import ViperChain.Library.Runs
import ViperChain.State.Catalogue

/-!
The states a chain can be in: those reached from a genesis by produced and replayed
blocks.
-/

namespace ViperChain

open Fallible Relation

variable {env : Env} {store next : StateStore}

section Calls

inductive Upkeep (env : Env) (store : StateStore) : StateStore → Prop
  | distributeBlockFees (proposer : Address) (fees : Nat) (pool : List Address)
      (params : FeeDistributionParams) :
      Upkeep env store (distributeBlockFees env store proposer fees pool params)
  | applyAimdUpdate (gasUsed : Nat) : Upkeep env store (store.applyAimdUpdate env gasUsed)
  | processGovernanceTallies (height : Nat) :
      Upkeep env store (processGovernanceTallies env store height)
  | refundExpirations (height : Nat) : Upkeep env store (refundExpirations env store height)
  | activateRotations (height : Nat) :
      Upkeep env store (store.activatePendingConsensusKeyRotations env height)
  | processEpochTransitions (churn : ChurnConfig) :
      Upkeep env store (store.processEpochTransitions env churn)
  | advanceHeight : Upkeep env store (store.advanceHeight env)

inductive BlockCall (env : Env) (store next : StateStore) : Prop
  | applied (tx : Transaction) (context : ExecutionContext) (result : ExecutionResult)
      (executed : applyTx env store tx context = .ok (next, result))
  | upkeep (kept : Upkeep env store next)

theorem BlockCall.storeCall (call : BlockCall env store next) : StoreCall env store next := by
  cases call with
  | applied tx context result executed => exact .applied tx context result executed
  | upkeep kept =>
      cases kept with
      | distributeBlockFees => exact .distributeBlockFees _ _ _ _
      | applyAimdUpdate => exact .applyAimdUpdate _
      | processGovernanceTallies => exact .processGovernanceTallies _
      | refundExpirations => exact .refundExpirations _
      | activateRotations => exact .activateRotations _
      | processEpochTransitions => exact .processEpochTransitions _
      | advanceHeight => exact .advanceHeight

theorem assembleEntry_calls (config : AssemblyConfig) (state : AssemblyState)
    (entry : PendingEntry) :
    ReflTransGen (BlockCall env) state.store (assembleEntry env config state entry).store := by
  simp only [assembleEntry]
  split
  · exact .refl
  · split
    case h_1 executed => exact .single (.applied _ _ _ executed)
    case h_2 => exact .refl

theorem closeBlock_calls (store : StateStore) (height gasUsed : Nat) :
    ReflTransGen (BlockCall env) store (closeBlock env store height gasUsed) :=
  ((((ReflTransGen.single (.upkeep (.applyAimdUpdate gasUsed))).tail
    (.upkeep (.processGovernanceTallies height))).tail (.upkeep (.refundExpirations height))).tail
    (.upkeep (.activateRotations height))).tail (.upkeep .advanceHeight)

theorem epochStep_calls (store : StateStore) (height : Nat) (epochConfig : EpochConfig) :
    ReflTransGen (BlockCall env) store (epochStep env store height epochConfig) := by
  unfold epochStep
  split
  · exact .single (.upkeep (.processEpochTransitions _))
  · exact .refl

theorem assembleBlock_calls {pool : Mempool} {context : AssemblyContext} {config : AssemblyConfig}
    {assembled : Assembled} (produced : assembleBlock env store pool context config = .ok assembled) :
    ReflTransGen (BlockCall env) store assembled.store := by
  obtain ⟨_, proposer, _, rfl⟩ := assembleBlock_eq_ok.mp produced
  have entries : ReflTransGen (BlockCall env) store (assembleEntries env config store pool).store :=
    Runs.foldl AssemblyState.store (assembleEntry env config) (pendingInOrder pool)
      (fun current entry _ => assembleEntry_calls config current entry) { store, pool }
  exact ((entries.tail (.upkeep (.distributeBlockFees _ _ _ _))).trans (closeBlock_calls _ _ _)).trans
    (epochStep_calls _ _ _)

theorem replayTransactions_calls {params : ReplayParams} {stored : StoredBlock}
    {progress : ReplayProgress} (replayed : replayTransactions env params store stored = .ok progress) :
    ReflTransGen (BlockCall env) store progress.state := by
  refine foldlM_invariant (fun progress : ReplayProgress =>
    ReflTransGen (BlockCall env) store progress.state) _ _ _ .refl ?_ replayed
  intro progress item after _ ran stepped
  simp only [replayTx, bind_eq_ok, mapError_eq_ok, require_eq_ok, pure_eq_ok] at stepped
  obtain ⟨_, _, _, _, ⟨state, execution⟩, executed, rfl⟩ := stepped
  exact ran.tail (.applied _ _ _ executed)

theorem finishReplay_calls (params : ReplayParams) (header : BlockHeader) (progress : ReplayProgress) :
    ReflTransGen (BlockCall env) progress.state (finishReplay env params header progress) := by
  unfold finishReplay
  split
  · exact (ReflTransGen.single (.upkeep (.distributeBlockFees _ _ _ _))).trans (closeBlock_calls _ _ _)
  · exact closeBlock_calls _ _ _

theorem replayBlock_calls {params : ReplayParams} {stored : StoredBlock}
    {result after : ReplayResult} (replayed : replayBlock env params result stored = .ok after) :
    ReflTransGen (BlockCall env) result.state after.state := by
  simp only [replayBlock, bind_eq_ok, require_eq_ok, pure_eq_ok] at replayed
  obtain ⟨progress, ran, _, _, _, _, _, _, rfl⟩ := replayed
  exact (replayTransactions_calls ran).trans (finishReplay_calls params _ progress)

theorem BlockStep.calls {guard : StateStore → Transaction → Prop}
    (step : BlockStep env guard store next) : ReflTransGen (BlockCall env) store next := by
  cases step with
  | produced pool context config assembled _ accepted => exact assembleBlock_calls accepted
  | replayed anchor stored params result _ accepted =>
      exact replayBlock_calls (replayBlocksFromState_singleton.mp accepted).2

theorem blocks_calls {guard : StateStore → Transaction → Prop}
    (blocks : ReflTransGen (BlockStep env guard) store next) :
    ReflTransGen (BlockCall env) store next := by
  induction blocks with
  | refl => exact .refl
  | tail _ step ih => exact ih.trans step.calls

end Calls

theorem reached_invariant (holds : StateStore → Prop) {guard : StateStore → Transaction → Prop}
    {genesis : StateStore} (initial : holds genesis)
    (kept : ∀ store next, StoreCall env store next → holds store → holds next)
    (reached : ReflTransGen (BlockStep env guard) genesis store) : holds store :=
  Runs.invariant holds (fun before after call => kept before after call.storeCall)
    (blocks_calls reached) initial

def StateStore.OnChain (env : Env) (store : StateStore) : Prop :=
  ∃ chainId accounts validators genesis,
    buildGenesisState env chainId accounts validators = .ok genesis ∧
      ReflTransGen (BlockStep env fun _ _ => True) genesis store

theorem StateStore.OnChain.coherent (reached : store.OnChain env) : store.Coherent env := by
  obtain ⟨_, _, _, _, built, blocks⟩ := reached
  exact reached_invariant (StateStore.Coherent env) (buildGenesisState_genesisLike built).coherent
    (fun _ _ call => call.coherent) blocks

theorem StateStore.OnChain.named (reached : store.OnChain env) : store.catalogue.Named := by
  obtain ⟨_, _, _, _, built, blocks⟩ := reached
  exact reached_invariant (fun store => store.catalogue.Named) (buildGenesisState_named built)
    (fun _ _ call => call.named) blocks

section Sample

def author : Address := Bytes32.fill 1

def authorKey : KeyEntry where
  algId := .mlDsa65
  pkBytes := [5]
  keyVersion := 1
  validFromHeight := 0
  status := .active
  allowedTxTypes := 15

def authorAccount : Account := { Account.credited author 1000000 with keys := [authorKey] }

def sampleGenesis : StateStore :=
  (StateStore.fromSnapshotAccounts sampleEnv [authorAccount] 0 []).insertValidator sampleEnv
    (GenesisValidator.record ⟨author, [], .mlDsa65, []⟩)

theorem sampleGenesis_onChain : sampleGenesis.OnChain sampleEnv :=
  ⟨[], [authorAccount], [⟨author, [], .mlDsa65, []⟩], sampleGenesis, rfl, .refl⟩

def signedTx (sender : Address) (msgType : MsgType) (nonce fee : Nat) (payload : Value) :
    Transaction :=
  let unsigned : Transaction :=
    { gaslessTx nonce with
      msgType, sender, fee, gasLimit := 100, payload := CborFormat.write payload }
  match buildPreimage sampleEnv (.viperResearch1 sampleEnv) unsigned with
  | .ok preimage => { unsigned with signature := [5] ++ preimage }
  | .error _ => unsigned

def authorTx (msgType : MsgType) (nonce fee : Nat) (payload : Value) : Transaction :=
  signedTx author msgType nonce fee payload

def anchorPayload : Value :=
  .map
    [ (.integer 1, .integer 1), (.integer 2, .bytes (List.replicate 32 3)),
      (.integer 3, .bytes (List.replicate 32 4)) ]

def submit (store : StateStore) (feeParams : FeeParams) (tx : Transaction) (pool : Mempool) :
    Mempool :=
  match encodeTx sampleEnv tx with
  | .error _ => pool
  | .ok raw =>
      match tryAdmit sampleEnv pool raw store (pqVerifier sampleEnv) feeParams with
      | .ok (admitted, _) => admitted
      | .error _ => pool

theorem produce_onChain (onChain : store.OnChain env) (pool : Mempool) :
    (produce env store pool).OnChain env := by
  obtain ⟨chainId, accounts, validators, genesis, built, reached⟩ := onChain
  exact ⟨chainId, accounts, validators, genesis, built,
    produce_reached reached pool fun _ _ => trivial⟩

end Sample

end ViperChain
