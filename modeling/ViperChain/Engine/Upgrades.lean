import ViperChain.Engine.ImportedValue

/-!
Scheduled upgrades. `checkPendingUpgrades` is meant for the start of every block; neither
production nor replay calls it.
-/

namespace ViperChain

open Fallible

variable {env : Env}

def stateFormatVersion : Nat := 3

theorem checkPendingUpgrades_passes_iff (store : StateStore) (now version : Nat) :
    (∃ next, checkPendingUpgrades store now version = .ok next) ↔
      ∀ upgrade ∈ pendingUpgradesInOrder store, upgrade.activateAtTimestampNs ≤ now →
        version = upgrade.expectedVersion := by
  unfold checkPendingUpgrades
  rw [foldlM_require_isOk]
  simp only [List.mem_filter, decide_eq_true_eq, and_imp]

theorem assembleBlock_any_timestamp (store : StateStore) (pool : Mempool)
    (context : AssemblyContext) (config : AssemblyConfig)
    (height : context.height = satAdd64 store.blockHeight 1)
    (proposer : ∃ address, Bytes32.ofBytes? context.proposer = some address) :
    ∃ assembled, assembleBlock env store pool context config = .ok assembled ∧
      assembled.result.block.header.timestamp = context.timestamp := by
  obtain ⟨address, named⟩ := proposer
  exact ⟨executeAssembly env store pool context config address,
    assembleBlock_eq_ok.mpr ⟨height, address, named, rfl⟩, rfl⟩

def timedDraft (env : Env) (base : StateStore) (anchor : BlockHash) (timestamp : Nat) : BlockHeader :=
  { draftHeader env base anchor [] [] with
    height := satAdd64 base.blockHeight 1
    timestamp }

theorem replay_any_timestamp (env : Env) (base : StateStore) (anchor : BlockHash)
    (params : ReplayParams) (timestamp : Nat) :
    ∃ stored result, stored.block.header.timestamp = timestamp ∧
      replayBlocksFromState env base anchor [stored] params = .ok result := by
  obtain ⟨_, result, _, replayed, _⟩ := @replay_peerBlock env base anchor _ params
    (timedDraft env base anchor timestamp) [] [] _ rfl rfl rfl rfl rfl rfl
  exact ⟨_, result, rfl, replayed⟩

def Passes (upgrade : PendingUpgrade) (header : BlockHeader) : Prop :=
  upgrade.activateAtTimestampNs ≤ header.timestamp

/-- No pending upgrade that asks for another version is enforced: the check refuses every block
that passes it, production assembles such a block, and replay accepts one from every anchor. -/
theorem pendingUpgrade_unenforced (env : Env) (store : StateStore) (upgrade : PendingUpgrade)
    (pending : upgrade ∈ pendingUpgradesInOrder store)
    (incompatible : upgrade.expectedVersion ≠ stateFormatVersion) :
    (∀ header : BlockHeader, Passes upgrade header →
      ¬ ∃ next, checkPendingUpgrades store header.timestamp stateFormatVersion = .ok next) ∧
    (∀ pool config prevHash (proposer : Address), ∃ context assembled,
      context.prevHash = prevHash ∧ context.proposer = proposer.data ∧
        assembleBlock env store pool context config = .ok assembled ∧
        Passes upgrade assembled.result.block.header) ∧
    (∀ anchor params, ∃ stored result,
      replayBlocksFromState env store anchor [stored] params = .ok result ∧
        Passes upgrade stored.block.header) := by
  refine ⟨fun header passes checked => ?_, fun pool config prevHash proposer => ?_,
    fun anchor params => ?_⟩
  · exact incompatible
      ((checkPendingUpgrades_passes_iff store _ _).mp checked upgrade pending passes).symm
  · obtain ⟨assembled, accepted, timestamp⟩ := @assembleBlock_any_timestamp env store pool
      { height := satAdd64 store.blockHeight 1
        prevHash
        timestamp := upgrade.activateAtTimestampNs
        proposer := proposer.data } config rfl ⟨proposer, by simp [Bytes32.ofBytes?, proposer.length_eq]⟩
    exact ⟨_, assembled, rfl, rfl, accepted, timestamp.ge⟩
  · obtain ⟨stored, result, timestamp, replayed⟩ :=
      replay_any_timestamp env store anchor params upgrade.activateAtTimestampNs
    exact ⟨stored, result, replayed, timestamp.ge⟩

section Sample

def nextVersion : PendingUpgrade where
  proposalId := Bytes32.fill 7
  activateAtTimestampNs := 1000
  expectedVersion := 4

def upgradingStore : StateStore := sampleGenesis.insertPendingUpgrade sampleEnv nextVersion

theorem nextVersion_pending : nextVersion ∈ pendingUpgradesInOrder upgradingStore := by
  have single : upgradingStore.pendingUpgrades.values = [nextVersion] := rfl
  rw [pendingUpgradesInOrder, single]
  simp

/-- The node goes on past the activation time, and so does a node that replays its block. -/
theorem nextVersion_passed :
    (∃ context assembled,
      assembleBlock sampleEnv upgradingStore Mempool.new context devnetConfig = .ok assembled ∧
        Passes nextVersion assembled.result.block.header) ∧
    ∃ stored result,
      replayBlocksFromState sampleEnv upgradingStore (Bytes32.fill 0) [stored] pricedParams =
        .ok result ∧
      Passes nextVersion stored.block.header := by
  constructor
  · obtain ⟨assembled, accepted, timestamp⟩ := @assembleBlock_any_timestamp sampleEnv upgradingStore
      Mempool.new ⟨1, Bytes32.fill 0, 1000, author.data⟩ devnetConfig rfl ⟨author, rfl⟩
    exact ⟨_, assembled, accepted, timestamp.ge⟩
  · obtain ⟨stored, result, timestamp, replayed⟩ := replay_any_timestamp sampleEnv upgradingStore
      (Bytes32.fill 0) pricedParams 1000
    exact ⟨stored, result, replayed, timestamp.ge⟩

theorem pendingUpgrade_unenforced_next : ∃ stored result,
    (¬ ∃ next, checkPendingUpgrades upgradingStore stored.block.header.timestamp
      stateFormatVersion = .ok next) ∧
    replayBlocksFromState sampleEnv upgradingStore (Bytes32.fill 0) [stored] pricedParams =
      .ok result := by
  obtain ⟨refuses, _, replays⟩ := pendingUpgrade_unenforced sampleEnv upgradingStore nextVersion
    nextVersion_pending (by decide)
  obtain ⟨stored, result, replayed, passes⟩ := replays (Bytes32.fill 0) pricedParams
  exact ⟨stored, result, refuses _ passes, replayed⟩

end Sample

end ViperChain
