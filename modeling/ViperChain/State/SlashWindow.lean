import ViperChain.State.FeeMarket
import ViperChain.State.KeyLife
import ViperChain.State.Roster

/-!
The correlation ledger. Entries are appended at the current height and pruned at the front; the
sum and the fraction are monotone below their caps.
-/

namespace ViperChain

open Slashing

section Fraction

variable {base window stake : Nat}

def boostBps (window stake : Nat) : Nat :=
  let ratioBps := min (satMul128 window basisPointsTotal / stake) basisPointsTotal
  let multiplierBps := min (satMul128 ratioBps correlationBaseMult) basisPointsTotal
  satAdd128 basisPointsTotal (satMul128 multiplierBps maxMultBoost)

theorem fraction_eq_boost (base window : Nat) (positive : stake ≠ 0) :
    correlationAdjustedSlashFractionBps base window stake =
      min (satMul128 base (boostBps window stake) / basisPointsTotal) basisPointsTotal := by
  rw [correlationAdjustedSlashFractionBps, if_neg positive]
  rfl

theorem boostBps_eq (window stake : Nat) :
    boostBps window stake =
      10000 + min (min (satMul128 window 10000 / stake) 10000 * 3) 10000 * 19 := by
  simp only [boostBps, basisPointsTotal, correlationBaseMult, maxMultBoost, satMul128, satAdd128,
    u128Max]
  omega

theorem boostBps_le (window stake : Nat) : boostBps window stake ≤ 200000 := by
  rw [boostBps_eq]
  omega

theorem boostBps_mono {early late : Nat} (le : early ≤ late) (stake : Nat) :
    boostBps early stake ≤ boostBps late stake := by
  have ratio : satMul128 early 10000 / stake ≤ satMul128 late 10000 / stake :=
    Nat.div_le_div_right (satMul128_mono le le_rfl)
  rw [boostBps_eq, boostBps_eq]
  omega

theorem boostBps_anti {small large : Nat} (positive : 0 < small) (le : small ≤ large) (window : Nat) :
    boostBps window large ≤ boostBps window small := by
  have ratio : satMul128 window 10000 / large ≤ satMul128 window 10000 / small :=
    Nat.div_le_div_left le positive
  rw [boostBps_eq, boostBps_eq]
  omega

theorem satMul128_boost (bounded : base ≤ 10000) (window stake : Nat) :
    satMul128 base (boostBps window stake) = base * boostBps window stake := by
  refine Nat.min_eq_left ?_
  calc base * boostBps window stake ≤ 10000 * 200000 :=
        Nat.mul_le_mul bounded (boostBps_le window stake)
    _ ≤ u128Max := by decide

theorem fraction_le (bounded : base ≤ 10000) (window stake : Nat) :
    correlationAdjustedSlashFractionBps base window stake ≤ 10000 := by
  unfold correlationAdjustedSlashFractionBps
  split
  · exact bounded
  · exact Nat.min_le_right _ _

theorem le_fraction (bounded : base ≤ 10000) (window stake : Nat) :
    base ≤ correlationAdjustedSlashFractionBps base window stake := by
  by_cases none : stake = 0
  · rw [correlationAdjustedSlashFractionBps, if_pos none]
  · rw [fraction_eq_boost base window none, satMul128_boost bounded]
    refine Nat.le_min.mpr ⟨?_, bounded⟩
    rw [Nat.le_div_iff_mul_le (by decide)]
    exact Nat.mul_le_mul_left base (by rw [boostBps_eq]; exact Nat.le_add_right _ _)

theorem fraction_mono_window {early late : Nat} (base : Nat) (le : early ≤ late) (stake : Nat) :
    correlationAdjustedSlashFractionBps base early stake ≤
      correlationAdjustedSlashFractionBps base late stake := by
  by_cases none : stake = 0
  · simp [correlationAdjustedSlashFractionBps, none]
  · have product : satMul128 base (boostBps early stake) ≤ satMul128 base (boostBps late stake) :=
      min_le_min (Nat.mul_le_mul_left base (boostBps_mono le stake)) le_rfl
    rw [fraction_eq_boost base early none, fraction_eq_boost base late none]
    exact min_le_min (Nat.div_le_div_right product) le_rfl

theorem fraction_anti_stake {small large : Nat} (base window : Nat) (positive : 0 < small)
    (le : small ≤ large) :
    correlationAdjustedSlashFractionBps base window large ≤
      correlationAdjustedSlashFractionBps base window small := by
  have product : satMul128 base (boostBps window large) ≤ satMul128 base (boostBps window small) :=
    min_le_min (Nat.mul_le_mul_left base (boostBps_anti positive le window)) le_rfl
  rw [fraction_eq_boost base window (by omega), fraction_eq_boost base window (by omega)]
  exact min_le_min (Nat.div_le_div_right product) le_rfl

theorem computeSlashAmount_le {fraction : Nat} (bounded : fraction ≤ 10000) (selfBond : Nat) :
    computeSlashAmount selfBond fraction ≤ selfBond :=
  share_le bounded

end Fraction

section Ledger

def ByHeight (slashes : List RecentSlashEntry) : Prop :=
  slashes.Pairwise fun earlier later => earlier.height ≤ later.height

def windowTotal (height : Nat) (slashes : List RecentSlashEntry) : Nat :=
  ((slashes.filter fun entry => height - correlationWindowBlocks ≤ entry.height ∧
    entry.height ≤ height).map RecentSlashEntry.slashedStake).sum

variable {slashes : List RecentSlashEntry}

theorem ByHeight.dropWhile_eq_filter (ordered : ByHeight slashes) (cutoff : Nat) :
    (slashes.dropWhile fun entry => entry.height < cutoff) =
      slashes.filter fun entry => cutoff ≤ entry.height := by
  induction slashes with
  | nil => rfl
  | cons entry rest ih =>
      obtain ⟨first, ordered⟩ := List.pairwise_cons.mp ordered
      by_cases old : entry.height < cutoff
      · rw [List.dropWhile_cons_of_pos (by simpa using old),
          List.filter_cons_of_neg (by simpa using old)]
        exact ih ordered
      · have recent : ∀ later ∈ entry :: rest, decide (cutoff ≤ later.height) = true := by
          intro later member
          rcases List.mem_cons.mp member with rfl | inRest
          · simpa using old
          · exact decide_eq_true ((Nat.le_of_not_lt old).trans (first later inRest))
        rw [List.dropWhile_cons_of_neg (by simpa using old), List.filter_eq_self.mpr recent]

theorem prune_recentSlashes (env : Env) (store : StateStore) (cutoff : Nat) :
    (store.pruneRecentSlashesBefore env cutoff).recentSlashes =
      store.recentSlashes.dropWhile fun entry => entry.height < cutoff := by
  unfold StateStore.pruneRecentSlashesBefore
  simp only
  split
  case isTrue same =>
    exact ((List.dropWhile_sublist _).eq_of_length same).symm
  case isFalse => rfl

theorem saturatingSum_eq (slashes : List RecentSlashEntry) (start : Nat) (bound : start ≤ u128Max) :
    slashes.foldl (fun total entry => satAdd128 total entry.slashedStake) start =
      min (start + (slashes.map RecentSlashEntry.slashedStake).sum) u128Max := by
  induction slashes generalizing start with
  | nil => simpa using bound
  | cons entry rest ih =>
      have capped : satAdd128 start entry.slashedStake ≤ u128Max := Nat.min_le_right _ _
      rw [List.foldl_cons, ih _ capped, List.map_cons, List.sum_cons, satAdd128]
      omega

theorem recentSlashedStake_eq (store : StateStore) (height : Nat) :
    store.recentSlashedStakeInWindow height correlationWindowBlocks =
      min (windowTotal height store.recentSlashes) u128Max := by
  simp only [StateStore.recentSlashedStakeInWindow, windowTotal]
  rw [saturatingSum_eq _ 0 (Nat.zero_le _), Nat.zero_add]

end Ledger

section Transactions

variable {env : Env} {store next : StateStore} {tx : Transaction}

def appliedSlash (env : Env) (store next : StateStore) (tx : Transaction) : List RecentSlashEntry :=
  match accusedOperator env tx with
  | none => []
  | some operator =>
      match store.getValidator operator, next.getValidator operator with
      | some before, some after =>
          if before.tombstoned = false ∧ after.tombstoned = true then
            [⟨store.blockHeight, before.selfBond - after.selfBond⟩]
          else []
      | _, _ => []

theorem appliedSlash_eq_nil (unburied : ∀ operator before after,
    accusedOperator env tx = some operator → store.getValidator operator = some before →
      next.getValidator operator = some after → after.tombstoned = before.tombstoned) :
    appliedSlash env store next tx = [] := by
  unfold appliedSlash
  cases accused : accusedOperator env tx with
  | none => rfl
  | some operator =>
      simp only
      split
      case h_1 before after found foundNext =>
        have same := unburied operator before after accused found foundNext
        simp [same]
      case h_2 => rfl

inductive LedgerMove (env : Env) (store next : StateStore) (tx : Transaction) : Prop
  | kept (same : next.recentSlashes = store.recentSlashes)
      (none : appliedSlash env store next tx = [])
  | recorded (operator : Address) (record : ValidatorRecord) (amount : Nat)
      (accused : accusedOperator env tx = some operator)
      (present : store.getValidator operator = some record)
      (computed : amount = slashAmount (store.pruneRecentSlashesBefore env
        (store.blockHeight - correlationWindowBlocks)) record.selfBond store.blockHeight)
      (appended : next.recentSlashes = (store.recentSlashes.dropWhile fun entry =>
        entry.height < store.blockHeight - correlationWindowBlocks) ++ [⟨store.blockHeight, amount⟩])
      (one : appliedSlash env store next tx = [⟨store.blockHeight, amount⟩])

theorem LedgerMove.of_roster (same : next.recentSlashes = store.recentSlashes)
    (roster : next.roster.validator = store.roster.validator) : LedgerMove env store next tx := by
  refine .kept same (appliedSlash_eq_nil fun operator before after _ found foundNext => ?_)
  have unchanged : next.getValidator operator = store.getValidator operator := congrFun roster operator
  rw [unchanged, found] at foundNext
  rw [Option.some.inj foundNext]

theorem slash_recentSlashes (store : StateStore) (operator : Address) (amount height : Nat) :
    (slash env store operator amount height).recentSlashes =
      store.recentSlashes ++ [⟨height, amount⟩] := by
  obtain ⟨_, credited⟩ := @creditAccount_frame env ((store.modifyValidator operator
    (slashRecord amount)).commitValidatorMutation env operator) treasuryAddress amount
  simp only [slash, StateStore.recordRecentSlash, creditTreasury, credited]
  rfl

theorem appliedSlash_slash {operator : Address} {record : ValidatorRecord} {amount cutoff : Nat}
    (accused : accusedOperator env tx = some operator)
    (present : store.getValidator operator = some record) (untombstoned : record.tombstoned = false)
    (covered : amount ≤ record.selfBond) :
    appliedSlash env store (slash env (store.pruneRecentSlashesBefore env cutoff) operator amount
      store.blockHeight) tx = [⟨store.blockHeight, amount⟩] := by
  have roster := congrArg (fun roster => roster.validator operator)
    (@roster_slash env (store.pruneRecentSlashesBefore env cutoff) operator amount store.blockHeight)
  have before : store.roster.validator operator = some record := present
  simp only [roster_pruneRecentSlashesBefore, Roster.perform, Roster.validator_revise, if_true, before,
    Option.map_some] at roster
  have buried : (slash env (store.pruneRecentSlashesBefore env cutoff) operator amount
      store.blockHeight).getValidator operator = some (slashRecord amount record) := roster
  simp only [appliedSlash, accused, present, buried, untombstoned, slashRecord, and_self, if_true,
    Nat.sub_sub_self covered]

theorem PayloadEffect.ledgerMove (effect : PayloadEffect env store tx next) :
    LedgerMove env store next tx := by
  cases effect with
  | transfer sender recipient amount =>
      obtain ⟨_, credited⟩ := @creditRecipient_frame env (withdraw env store tx.sender amount)
        recipient amount
      exact credited ▸ .of_roster rfl rfl
  | register sender record peerId _ _ _ _ _ _ _ _ checked =>
      obtain ⟨_, _, admitted⟩ := @admitValidator_frame env
        (withdraw env store tx.sender record.selfBond) record peerId
      refine .kept (admitted ▸ rfl) (appliedSlash_eq_nil fun operator _ _ accused => ?_)
      simp [accusedOperator, checked.kind] at accused
  | scheduleRotation rotation kind =>
      refine .kept rfl (appliedSlash_eq_nil fun operator _ _ accused => ?_)
      simp [accusedOperator, kind] at accused
  | setStatus record status =>
      refine .kept rfl (appliedSlash_eq_nil fun operator before after _ found foundNext => ?_)
      have roster := congrArg (fun roster => roster.validator operator)
        (@roster_updateValidator env store tx.sender fun record => { record with status })
      have revised : some after = _ := foundNext.symm.trans roster
      rw [Roster.validator_revise, show store.roster.validator operator = some before from found]
        at revised
      split at revised <;> rw [Option.some.inj revised]
  | bindPeer peerId =>
      obtain ⟨_, bound⟩ := @setValidatorPeerId_frame env store tx.sender peerId
      exact bound ▸ .of_roster rfl rfl
  | slashed record evidence cutoff kind decoded present amount amount_eq _ untombstoned window =>
      have accused : accusedOperator env tx = some evidence.validatorAddress := by
        simp [accusedOperator, kind, decoded, Except.toOption]
      refine .recorded _ record amount accused present (window ▸ amount_eq) ?_
        (appliedSlash_slash accused present untombstoned (amount_eq ▸ slashAmount_le _ _ _))
      rw [slash_recentSlashes, prune_recentSlashes, window]
  | createAccount | updateSender | anchor | attest | archivalKey | archive | pushAnchor | renew
  | propose | vote => exact .of_roster rfl rfl

theorem applyTx_ledgerMove {context : ExecutionContext} {result : ExecutionResult}
    (executed : applyTx env store tx context = .ok (next, result)) :
    LedgerMove env store next tx := by
  obtain ⟨working, settled, ran⟩ := applyTx_cases executed
  rw [settled.next_eq]
  rcases ran with rfl | effect
  · exact .of_roster rfl rfl
  -- the fee changes an account, and both the ledger and the records stand elsewhere
  · cases effect.ledgerMove with
    | kept same none => exact .kept same none
    | recorded operator record amount accused present computed appended one =>
        exact .recorded operator record amount accused present computed appended one

end Transactions

end ViperChain
