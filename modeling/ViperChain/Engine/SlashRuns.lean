import ViperChain.Engine.Reach
import ViperChain.State.Proposals
import ViperChain.State.SlashWindow

/-!
The correlation ledger against the log of all slashes: it is the end of the log, and what is
missing is older than the window.
-/

namespace ViperChain

open Relation Slashing

inductive SlashRun (env : Env) (genesis : StateStore) : StateStore → List RecentSlashEntry → Prop
  | start : SlashRun env genesis genesis []
  | applied {store next : StateStore} {log : List RecentSlashEntry}
      (run : SlashRun env genesis store log) (tx : Transaction) (context : ExecutionContext)
      (result : ExecutionResult) (executed : applyTx env store tx context = .ok (next, result)) :
      SlashRun env genesis next (log ++ appliedSlash env store next tx)
  | upkeep {store next : StateStore} {log : List RecentSlashEntry}
      (run : SlashRun env genesis store log) (kept : Upkeep env store next) :
      SlashRun env genesis next log

variable {env : Env} {genesis store next : StateStore} {log : List RecentSlashEntry}

theorem exists_slashRun (calls : ReflTransGen (BlockCall env) genesis store) :
    ∃ log, SlashRun env genesis store log := by
  induction calls with
  | refl => exact ⟨[], .start⟩
  | tail _ call ih =>
      obtain ⟨log, run⟩ := ih
      cases call with
      | applied tx context result executed => exact ⟨_, run.applied tx context result executed⟩
      | upkeep kept => exact ⟨log, run.upkeep kept⟩

theorem Upkeep.ledger (kept : Upkeep env store next) :
    next.recentSlashes = store.recentSlashes ∧ store.blockHeight ≤ next.blockHeight := by
  cases kept with
  | distributeBlockFees proposer fees pool params =>
      obtain ⟨_, paid⟩ := @distributeBlockFees_frame env store proposer fees pool params
      exact paid ▸ ⟨rfl, le_rfl⟩
  | applyAimdUpdate gasUsed => exact ⟨rfl, le_rfl⟩
  | processGovernanceTallies height =>
      rw [processGovernanceTallies_frame]
      exact ⟨rfl, le_rfl⟩
  | refundExpirations height =>
      obtain ⟨_, _, refunded⟩ := @refundExpirations_frame env store height
      exact refunded ▸ ⟨rfl, le_rfl⟩
  | activateRotations height =>
      obtain ⟨_, _, rotated⟩ := @activateRotations_frame env store height
      exact rotated ▸ ⟨rfl, le_rfl⟩
  | processEpochTransitions churn =>
      obtain ⟨_, activated⟩ := @processEpochTransitions_frame env store churn
      exact activated ▸ ⟨rfl, le_rfl⟩
  | advanceHeight => exact ⟨rfl, Nat.le_succ _⟩

structure EndsLog (store : StateStore) (log : List RecentSlashEntry) : Prop where
  ordered : ByHeight log
  past : ∀ entry ∈ log, entry.height ≤ store.blockHeight
  tail : ∃ pruned, log = pruned ++ store.recentSlashes ∧
    ∀ entry ∈ pruned, entry.height < store.blockHeight - correlationWindowBlocks

namespace EndsLog

theorem wait (ends : EndsLog store log) (same : next.recentSlashes = store.recentSlashes)
    (later : store.blockHeight ≤ next.blockHeight) : EndsLog next log where
  ordered := ends.ordered
  past := fun entry member => (ends.past entry member).trans later
  tail := by
    obtain ⟨pruned, split, old⟩ := ends.tail
    exact ⟨pruned, same ▸ split, fun entry member =>
      (old entry member).trans_le (Nat.sub_le_sub_right later _)⟩

theorem record (ends : EndsLog store log) (height : next.blockHeight = store.blockHeight)
    {amount : Nat}
    (appended : next.recentSlashes = (store.recentSlashes.dropWhile fun entry =>
      entry.height < store.blockHeight - correlationWindowBlocks) ++ [⟨store.blockHeight, amount⟩]) :
    EndsLog next (log ++ [⟨store.blockHeight, amount⟩]) where
  ordered := by
    refine List.pairwise_append.mpr ⟨ends.ordered, List.pairwise_singleton _ _, ?_⟩
    intro entry member last only
    rw [List.mem_singleton.mp only]
    exact ends.past entry member
  past := by
    intro entry member
    rw [height]
    rcases List.mem_append.mp member with inLog | only
    · exact ends.past entry inLog
    · rw [List.mem_singleton.mp only]
  tail := by
    obtain ⟨pruned, split, old⟩ := ends.tail
    refine ⟨pruned ++ store.recentSlashes.takeWhile fun entry =>
      entry.height < store.blockHeight - correlationWindowBlocks, ?_, ?_⟩
    · rw [appended, List.append_assoc, ← List.append_assoc (List.takeWhile _ _),
        List.takeWhile_append_dropWhile, ← List.append_assoc, ← split]
    · intro entry member
      rw [height]
      rcases List.mem_append.mp member with inPruned | taken
      · exact old entry inPruned
      · simpa using List.mem_takeWhile_imp taken

theorem byHeight (ends : EndsLog store log) : ByHeight store.recentSlashes := by
  obtain ⟨pruned, split, _⟩ := ends.tail
  have ordered := ends.ordered
  rw [split] at ordered
  exact (List.pairwise_append.mp ordered).2.1

theorem windowTotal_eq (ends : EndsLog store log) :
    windowTotal store.blockHeight store.recentSlashes = windowTotal store.blockHeight log := by
  obtain ⟨pruned, split, old⟩ := ends.tail
  have none : (pruned.filter fun entry => store.blockHeight - correlationWindowBlocks ≤ entry.height ∧
      entry.height ≤ store.blockHeight) = [] := by
    refine List.filter_eq_nil_iff.mpr fun entry member => ?_
    have before := old entry member
    simp only [decide_eq_true_eq, not_and]
    omega
  simp only [windowTotal, split, List.filter_append, none, List.nil_append]

end EndsLog

theorem SlashRun.endsLog (initial : genesis.recentSlashes = []) (run : SlashRun env genesis store log) :
    EndsLog store log := by
  induction run with
  | start => exact ⟨.nil, by simp, [], by simp [initial], by simp⟩
  | applied _ tx context result executed ih =>
      have height := (applyTx_sameRules executed).blockHeight
      cases applyTx_ledgerMove executed with
      | kept same none =>
          rw [none, List.append_nil]
          exact ih.wait same height.ge
      | recorded operator record amount _ _ _ appended one =>
          rw [one]
          exact ih.record height appended
  | upkeep _ kept ih => exact ih.wait kept.ledger.1 kept.ledger.2

theorem genesis_recentSlashes {chainId : Bytes} {accounts : List Account}
    {validators : List GenesisValidator}
    (built : buildGenesisState env chainId accounts validators = .ok genesis) :
    genesis.recentSlashes = [] := by
  obtain ⟨_, _, rfl⟩ := buildGenesisState_frame built
  rfl

structure ExactWindow (env : Env) (store : StateStore) (log : List RecentSlashEntry) : Prop where
  ordered : ByHeight store.recentSlashes
  pruned : (store.pruneRecentSlashesBefore env
      (store.blockHeight - correlationWindowBlocks)).recentSlashes =
    store.recentSlashes.filter fun entry => store.blockHeight - correlationWindowBlocks ≤ entry.height
  sum : (store.pruneRecentSlashesBefore env
      (store.blockHeight - correlationWindowBlocks)).recentSlashedStakeInWindow store.blockHeight
        correlationWindowBlocks = min (windowTotal store.blockHeight log) u128Max
  slash : ∀ tx context next result, applyTx env store tx context = .ok (next, result) →
    appliedSlash env store next tx ≠ [] → ∃ operator record,
      accusedOperator env tx = some operator ∧ store.getValidator operator = some record ∧
      appliedSlash env store next tx =
        [⟨store.blockHeight, computeSlashAmount record.selfBond
          (correlationAdjustedSlashFractionBps slashFractionBps
            (min (windowTotal store.blockHeight log) u128Max) store.totalActiveSelfBond)⟩]

theorem windowTotal_filter (height : Nat) (slashes : List RecentSlashEntry) :
    windowTotal height (slashes.filter fun entry => height - correlationWindowBlocks ≤ entry.height) =
      windowTotal height slashes := by
  unfold windowTotal
  generalize height - correlationWindowBlocks = cutoff
  have same : ((slashes.filter fun entry => cutoff ≤ entry.height).filter fun entry =>
      cutoff ≤ entry.height ∧ entry.height ≤ height) =
      slashes.filter fun entry => cutoff ≤ entry.height ∧ entry.height ≤ height := by
    rw [List.filter_filter]
    refine List.filter_congr fun entry _ => ?_
    by_cases recent : cutoff ≤ entry.height <;> simp [recent]
  rw [same]

theorem totalActiveSelfBond_prune (store : StateStore) (cutoff : Nat) :
    (store.pruneRecentSlashesBefore env cutoff).totalActiveSelfBond = store.totalActiveSelfBond := by
  have same := (@pruneRecentSlashesBefore_ledger env store cutoff).validators
  simp only [StateStore.totalActiveSelfBond, StateStore.activeValidators, same]

theorem EndsLog.exactWindow (ends : EndsLog store log) : ExactWindow env store log := by
  have pruned : (store.pruneRecentSlashesBefore env
      (store.blockHeight - correlationWindowBlocks)).recentSlashes = _ :=
    (prune_recentSlashes env store _).trans (ends.byHeight.dropWhile_eq_filter _)
  have sum : (store.pruneRecentSlashesBefore env
      (store.blockHeight - correlationWindowBlocks)).recentSlashedStakeInWindow store.blockHeight
        correlationWindowBlocks = min (windowTotal store.blockHeight log) u128Max := by
    rw [recentSlashedStake_eq, pruned, windowTotal_filter, ends.windowTotal_eq]
  refine ⟨ends.byHeight, pruned, sum, fun tx context next result executed applied => ?_⟩
  cases applyTx_ledgerMove executed with
  | kept _ none => exact absurd none applied
  | recorded operator record amount accused present computed _ one =>
      refine ⟨operator, record, accused, present, ?_⟩
      rw [one, computed, slashAmount, sum, totalActiveSelfBond_prune]

structure BoundedFraction (base : Nat) : Prop where
  bounds : ∀ window stake, base ≤ correlationAdjustedSlashFractionBps base window stake ∧
    correlationAdjustedSlashFractionBps base window stake ≤ 10000
  rises : ∀ early late stake, early ≤ late →
    correlationAdjustedSlashFractionBps base early stake ≤
      correlationAdjustedSlashFractionBps base late stake
  falls : ∀ window small large, 0 < small → small ≤ large →
    correlationAdjustedSlashFractionBps base window large ≤
      correlationAdjustedSlashFractionBps base window small
  covered : ∀ window stake selfBond, computeSlashAmount selfBond
    (correlationAdjustedSlashFractionBps base window stake) ≤ selfBond

theorem boundedFraction {base : Nat} (bounded : base ≤ 10000) : BoundedFraction base where
  bounds := fun window stake => ⟨le_fraction bounded window stake, fraction_le bounded window stake⟩
  rises := fun _ _ stake le => fraction_mono_window base le stake
  falls := fun window _ _ positive le => fraction_anti_stake base window positive le
  covered := fun window stake selfBond =>
    computeSlashAmount_le (fraction_le bounded window stake) selfBond

end ViperChain
