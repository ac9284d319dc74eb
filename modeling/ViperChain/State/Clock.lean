import ViperChain.Engine.Replay
import ViperChain.State.Frames

/-!
The height and the chain id of a state. No transaction moves either; the end of a block moves the
height by one.
-/

namespace ViperChain

open Fallible

variable {env : Env} {store next : StateStore}

structure SameClock (store next : StateStore) : Prop where
  blockHeight : next.blockHeight = store.blockHeight
  chainId : next.chainId = store.chainId

namespace SameClock

theorem refl (store : StateStore) : SameClock store store := ⟨rfl, rfl⟩

theorem trans {last : StateStore} (first : SameClock store next) (second : SameClock next last) :
    SameClock store last :=
  ⟨second.blockHeight.trans first.blockHeight, second.chainId.trans first.chainId⟩

end SameClock

section BlockEnd

theorem closeBlock_clock (store : StateStore) (height gasUsed : Nat) :
    (closeBlock env store height gasUsed).blockHeight = store.blockHeight + 1 ∧
      (closeBlock env store height gasUsed).chainId = store.chainId := by
  have closed : ∀ tallied : StateStore, ((refundExpirations env tallied height
      |>.activatePendingConsensusKeyRotations env height).advanceHeight env).blockHeight =
        tallied.blockHeight + 1 ∧
      ((refundExpirations env tallied height
        |>.activatePendingConsensusKeyRotations env height).advanceHeight env).chainId =
          tallied.chainId := by
    intro tallied
    obtain ⟨_, _, refunded⟩ := @refundExpirations_frame env tallied height
    obtain ⟨_, _, rotated⟩ := @activateRotations_frame env (refundExpirations env tallied height)
      height
    rw [rotated, refunded]
    exact ⟨rfl, rfl⟩
  simp only [closeBlock, closed]
  rw [processGovernanceTallies_frame]
  exact ⟨rfl, rfl⟩

end BlockEnd

section Replay

variable {params : ReplayParams} {stored : StoredBlock}

theorem replayTransactions_clock {progress : ReplayProgress}
    (ran : replayTransactions env params store stored = .ok progress) :
    SameClock store progress.state := by
  refine foldlM_invariant (fun progress : ReplayProgress => SameClock store progress.state) _ _ _
    (.refl store) ?_ ran
  rintro current ⟨⟨tx, hash⟩, index⟩ later _ same stepped
  simp only [replayTx, bind_eq_ok, mapError_eq_ok, pure_eq_ok] at stepped
  obtain ⟨raw, _, _, _, ⟨state, execution⟩, applied, rfl⟩ := stepped
  have terms := applyTx_sameTerms applied
  exact same.trans ⟨terms.blockHeight, terms.chainId⟩

theorem replayBlock_clock {result after : ReplayResult}
    (ran : replayBlock env params result stored = .ok after) :
    after.state.blockHeight = result.state.blockHeight + 1 ∧
      after.state.chainId = result.state.chainId := by
  simp only [replayBlock, bind_eq_ok, require_eq_ok, pure_eq_ok] at ran
  obtain ⟨progress, executed, _, _, _, _, _, _, rfl⟩ := ran
  have same := replayTransactions_clock executed
  simp only [finishReplay]
  rw [(closeBlock_clock _ _ _).1, (closeBlock_clock _ _ _).2]
  split
  · next proposer _ =>
      obtain ⟨_, paid⟩ := @distributeBlockFees_frame env progress.state proposer
        progress.feesCollected (feePool progress.state params.validatorPool) params.feeDist
      rw [paid, same.blockHeight, same.chainId]
      exact ⟨rfl, rfl⟩
  · rw [same.blockHeight, same.chainId]
    exact ⟨rfl, rfl⟩

end Replay

end ViperChain
