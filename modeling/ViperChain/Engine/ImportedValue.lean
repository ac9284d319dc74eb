import ViperChain.Engine.Reach

/-!
The supply across imported blocks. A header whose proposer is not an address makes replay
collect the fees and pay them to nobody.
-/

namespace ViperChain

open Fallible

variable {env : Env}

section Replay

def blockFees (env : Env) (params : ReplayParams) (state : StateStore) (stored : StoredBlock) : Nat :=
  match replayTransactions env params state stored with
  | .ok progress => progress.feesCollected
  | .error _ => 0

def FeesReachSomebody (env : Env) (params : ReplayParams) (start : ReplayResult)
    (blocks : List StoredBlock) : Prop :=
  ∀ earlier stored later reached, blocks = earlier ++ stored :: later →
    earlier.foldlM (replayBlock env params) start = .ok reached →
    (Bytes32.ofBytes? stored.block.header.proposer).isSome = true ∨
      blockFees env params reached.state stored = 0

theorem feesReachSomebody_nil (params : ReplayParams) (start : ReplayResult) :
    FeesReachSomebody env params start [] := by
  intro earlier stored later reached split
  simp at split

theorem feesReachSomebody_cons {params : ReplayParams} {start after : ReplayResult}
    {stored : StoredBlock} {blocks : List StoredBlock}
    (replayed : replayBlock env params start stored = .ok after) :
    FeesReachSomebody env params start (stored :: blocks) ↔
      ((Bytes32.ofBytes? stored.block.header.proposer).isSome = true ∨
        blockFees env params start.state stored = 0) ∧
      FeesReachSomebody env params after blocks := by
  constructor
  · intro reach
    refine ⟨reach [] stored blocks start rfl rfl, ?_⟩
    intro earlier block later reached split ran
    refine reach (stored :: earlier) block later reached (by rw [split]; rfl) ?_
    rw [List.foldlM_cons, bind_eq_ok]
    exact ⟨after, replayed, ran⟩
  · rintro ⟨first, rest⟩ earlier block later reached split ran
    cases earlier with
    | nil =>
        cases split
        cases ran
        exact first
    | cons head earlier =>
        cases split
        rw [List.foldlM_cons, bind_eq_ok] at ran
        obtain ⟨middle, stepped, ran⟩ := ran
        cases replayed.symm.trans stepped
        exact rest earlier block later reached rfl ran

theorem lostFees_eq_zero {header : BlockHeader} {fees : Nat} :
    lostFees header fees = 0 ↔ (Bytes32.ofBytes? header.proposer).isSome = true ∨ fees = 0 := by
  unfold lostFees
  split
  case isTrue named => simp [named]
  case isFalse unnamed => simp [unnamed]

theorem replayBlocks_supply (off : env.tokenEconomics = false) {params : ReplayParams}
    (blocks : List StoredBlock) {start result : ReplayResult} (solvent : Solvent env start.state)
    (bound : start.state.supply ≤ u128Max)
    (replayed : blocks.foldlM (replayBlock env params) start = .ok result) :
    result.state.supply ≤ start.state.supply ∧
      (result.state.supply = start.state.supply ↔ FeesReachSomebody env params start blocks) := by
  induction blocks generalizing start with
  | nil =>
      cases replayed
      exact ⟨le_rfl, fun _ => feesReachSomebody_nil params _, fun _ => rfl⟩
  | cons stored blocks ih =>
      rw [List.foldlM_cons, bind_eq_ok] at replayed
      obtain ⟨after, first, rest⟩ := replayed
      have spared : ∀ tx ∈ stored.includedTransactions, Spared env start.state tx := by
        intro tx _ economics
        rw [off] at economics
        cases economics
      obtain ⟨progress, ran, solvent, counted⟩ := replayBlock_supply solvent bound spared first
      obtain ⟨falls, kept⟩ := ih solvent (by omega) rest
      have fees : blockFees env params start.state stored = progress.feesCollected := by
        simp only [blockFees, ran]
      refine ⟨by omega, ?_⟩
      rw [feesReachSomebody_cons first, fees, ← lostFees_eq_zero, ← kept]
      omega

structure BurnsBounded (store : StateStore) : Prop where
  inForce : store.feeMarket.burnRateBps ≤ 10000
  proposed : ∀ id proposal, store.getPendingProposal id = some proposal →
    proposal.effect.BurnBounded

end Replay

section Unnamed

def draftHeader (env : Env) (base : StateStore) (anchor : BlockHash) (proposer : Bytes)
    (hashes : List TxHash) : BlockHeader where
  headerVersion := headerVersionV1
  height := base.blockHeight + 1
  prevHash := anchor
  stateRoot := Bytes32.fill 0
  txRoot := computeTxRoot env hashes
  timestamp := 0
  proposer
  extensionRoot := emptyExtensionRoot env

def peerBlock (env : Env) (draft : BlockHeader) (stateRoot : BlockHash) (bodies : List Transaction)
    (hashes : List TxHash) : StoredBlock :=
  storedBlock env
    { block := { header := { draft with stateRoot }, txHashes := hashes, commitSignatures := [] }
      included := hashes
      includedTransactions := bodies
      deferred := []
      newHeight := draft.height
      stateRoot
      txRoot := draft.txRoot
      bytesUsed := 0
      vcBudgetConsumed := 0
      skipped := [] }

theorem replay_peerBlock {base : StateStore} {anchor root : BlockHash} {params : ReplayParams}
    {draft : BlockHeader} {bodies : List Transaction} {hashes : List TxHash}
    {progress : ReplayProgress} (height : draft.height = satAdd64 base.blockHeight 1)
    (parent : draft.prevHash = anchor) (listed : draft.txRoot = computeTxRoot env hashes)
    (counted : hashes.length = bodies.length)
    (ran : (bodies.zip hashes).zipIdx.foldlM
      (replayTx env { params.feeParams with baseFeeDynamic := base.baseFeeDynamic } draft.height)
      { state := base } = .ok progress)
    (computed : (finishReplay env params draft progress).stateRoot env = root) :
    replayTransactions env params base (peerBlock env draft root bodies hashes) = .ok progress ∧
      ∃ result,
        replayBlock env params (.start env base anchor) (peerBlock env draft root bodies hashes) =
          .ok result ∧
        replayBlocksFromState env base anchor [peerBlock env draft root bodies hashes] params =
          .ok result ∧
        result.state = finishReplay env params draft progress := by
  have replayed : replayTransactions env params base (peerBlock env draft root bodies hashes) =
      .ok progress := by
    simpa only [replayTransactions, peerBlock, storedBlock] using ran
  have finished : finishReplay env params (peerBlock env draft root bodies hashes).block.header
      progress = finishReplay env params draft progress := finishReplay_congr params progress rfl rfl
  have first := replayBlock_eq_ok (ReplayResult.start env base anchor) replayed
    (by simp only [peerBlock, storedBlock, listed]) (by rw [finished, computed]; rfl) rfl
  have structured : verifyStoredBlock env (satAdd64 base.blockHeight 1) anchor
      (peerBlock env draft root bodies hashes) = .ok () := by
    simp [verifyStoredBlock, peerBlock, storedBlock, height, parent, counted]
  exact ⟨replayed, _, first, replayBlocksFromState_singleton.mpr ⟨structured, first⟩, finished⟩

theorem exists_importable (env : Env) (base : StateStore) (anchor : BlockHash)
    (params : ReplayParams) (proposer : Bytes) (bodies : List Transaction) (hashes : List TxHash)
    (progress : ReplayProgress) (height : base.blockHeight + 1 ≤ u64Max)
    (counted : hashes.length = bodies.length)
    (ran : (bodies.zip hashes).zipIdx.foldlM
      (replayTx env { params.feeParams with baseFeeDynamic := base.baseFeeDynamic }
        (base.blockHeight + 1)) { state := base } = .ok progress) :
    ∃ stored result, stored.block.header.proposer = proposer ∧
      replayTransactions env params base stored = .ok progress ∧
      replayBlock env params (.start env base anchor) stored = .ok result ∧
      replayBlocksFromState env base anchor [stored] params = .ok result := by
  have next : base.blockHeight + 1 = satAdd64 base.blockHeight 1 := (min_eq_left height).symm
  obtain ⟨replayed, result, first, whole, _⟩ := @replay_peerBlock env base anchor _ params
    (draftHeader env base anchor proposer hashes) bodies hashes progress next rfl rfl counted ran rfl
  exact ⟨_, result, rfl, replayed, first, whole⟩

def pricedParams : ReplayParams := ⟨{ freeParams with baseFee := 10 }, ⟨5000⟩, []⟩

def pricedBody : Transaction := authorTx .proofAnchor 0 10 anchorPayload

def pricedHash : TxHash :=
  match encodeTx sampleEnv pricedBody with
  | .ok raw => computeTxHash sampleEnv raw
  | .error _ => Bytes32.fill 0

theorem sampleGenesis_funded : FundedGenesis sampleEnv sampleGenesis where
  built := ⟨[], [authorAccount], [⟨author, [], .mlDsa65, []⟩], rfl⟩
  funded := by decide +kernel

theorem exists_pricedBlock (proposer : Bytes) :
    ∃ stored result, stored.block.header.proposer = proposer ∧
      blockFees sampleEnv pricedParams sampleGenesis stored = 10 ∧
      replayBlock sampleEnv pricedParams (.start sampleEnv sampleGenesis (Bytes32.fill 0)) stored =
        .ok result ∧
      replayBlocksFromState sampleEnv sampleGenesis (Bytes32.fill 0) [stored] pricedParams =
        .ok result := by
  have collects : (([pricedBody].zip [pricedHash]).zipIdx.foldlM (replayTx sampleEnv
      { pricedParams.feeParams with baseFeeDynamic := sampleGenesis.baseFeeDynamic }
      (sampleGenesis.blockHeight + 1)) { state := sampleGenesis }).toOption.map
        (fun progress => progress.feesCollected) = some 10 := by
    decide +kernel
  obtain ⟨progress, ran, fees⟩ := exists_ok_of_toOption collects
  obtain ⟨stored, result, named, replayed, first, whole⟩ := exists_importable sampleEnv sampleGenesis
    (Bytes32.fill 0) pricedParams proposer [pricedBody] [pricedHash] progress (by decide) rfl ran
  exact ⟨stored, result, named, by simp only [blockFees, replayed, fees], first, whole⟩

end Unnamed

end ViperChain
