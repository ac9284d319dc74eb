import ViperChain.Library.Runs
import ViperChain.State.Frames

/-!
Who the validators are. A roster is the part of the state that registration, exit,
jailing and key rotation are about, as three partial functions from operators.
-/

namespace ViperChain

open Relation CachedTables CachedTable

def ValidatorRecord.Seated (record : ValidatorRecord) : Prop :=
  record.status = .active ∨ record.status = .candidate

def ValidatorRecord.Live (record : ValidatorRecord) : Prop := isRotatable record.status = true

def ValidatorRecord.expire (height : Nat) (record : ValidatorRecord) : ValidatorRecord :=
  if StateStore.unbondingExpired height record then { record with status := .exited } else record

def ValidatorRecord.takeKey (rotation : ConsensusKeyRotation) (record : ValidatorRecord) :
    ValidatorRecord :=
  { record with consensusAlgId := rotation.newAlgId, consensusPk := rotation.newPkBytes }

@[ext] structure Roster where
  validator : Address → Option ValidatorRecord
  rotation : Address → Option ConsensusKeyRotation
  peer : Address → Option Bytes

inductive RosterAction where
  | register (record : ValidatorRecord) (peerId : Bytes)
  | exit (operator : Address) (start : Nat)
  | unjail (operator : Address) (status : ValidatorStatus)
  | bindPeer (operator : Address) (peerId : Bytes)
  | schedule (rotation : ConsensusKeyRotation)
  | slash (operator : Address) (amount : Nat)
  | expire (height : Nat)
  | rotate (operator : Address)
  | activate (operator : Address)

namespace Roster

variable (roster : Roster)

def revise (operator : Address) (change : ValidatorRecord → ValidatorRecord) : Roster :=
  { roster with
    validator := Function.update roster.validator operator
      ((roster.validator operator).map change) }

def perform : RosterAction → Roster
  | .register record peerId =>
      { roster with
        validator := Function.update roster.validator record.operator (some record)
        peer := if peerId.isEmpty then roster.peer
          else Function.update roster.peer record.operator (some peerId) }
  | .exit operator start => roster.revise operator fun record => { record with status := .unbonding start }
  | .unjail operator status => roster.revise operator fun record => { record with status }
  | .bindPeer operator peerId =>
      { roster with peer := Function.update roster.peer operator (some peerId) }
  | .schedule rotation =>
      { roster with
        rotation := Function.update roster.rotation rotation.operator (some rotation) }
  | .slash operator amount => roster.revise operator (Slashing.slashRecord amount)
  | .expire height =>
      { roster with validator := fun operator => (roster.validator operator).map (.expire height) }
  | .rotate operator =>
      match roster.rotation operator with
      | none => roster
      | some rotation =>
          { roster.revise operator (.takeKey rotation) with
            rotation := Function.update roster.rotation operator none }
  | .activate operator => roster.revise operator fun record => { record with status := .active }

def KeyFree (pk : Bytes) : Prop :=
  ∀ operator record, roster.validator operator = some record → record.Seated →
    record.consensusPk ≠ pk

def PeerFree (peerId : Bytes) : Prop :=
  ∀ operator record, roster.validator operator = some record → record.Live →
    roster.peer operator ≠ some peerId

inductive Allows : RosterAction → Prop
  | register {record : ValidatorRecord} {peerId : Bytes}
      (gone : ∀ old, roster.validator record.operator = some old → old.status = .exited)
      (seated : record.Seated) (untombstoned : record.tombstoned = false)
      (keyFree : roster.KeyFree record.consensusPk)
      (peerFree : peerId.isEmpty = false → roster.PeerFree peerId) :
      Allows (.register record peerId)
  | exit {operator other : Address} {record another : ValidatorRecord} (start : Nat)
      (present : roster.validator operator = some record) (active : record.status = .active)
      (different : other ≠ operator) (remains : roster.validator other = some another)
      (otherActive : another.status = .active) : Allows (.exit operator start)
  | unjail {operator : Address} {record : ValidatorRecord} {status : ValidatorStatus}
      (present : roster.validator operator = some record) (jailed : record.status = .jailed)
      (untombstoned : record.tombstoned = false) (seated : status = .active ∨ status = .candidate) :
      Allows (.unjail operator status)
  | bindPeer {operator : Address} {record : ValidatorRecord} {peerId : Bytes}
      (present : roster.validator operator = some record) (live : record.Live)
      (free : roster.peer operator = some peerId ∨ roster.PeerFree peerId) :
      Allows (.bindPeer operator peerId)
  | schedule (rotation : ConsensusKeyRotation) : Allows (.schedule rotation)
  | slash {operator : Address} {record : ValidatorRecord} (amount : Nat)
      (present : roster.validator operator = some record)
      (untombstoned : record.tombstoned = false) : Allows (.slash operator amount)
  | expire (height : Nat) : Allows (.expire height)
  | rotate (operator : Address) : Allows (.rotate operator)
  | activate {operator : Address} {record : ValidatorRecord}
      (present : roster.validator operator = some record) (waiting : record.status = .candidate) :
      Allows (.activate operator)

def Step (permitted : RosterAction → Prop) (roster next : Roster) : Prop :=
  ∃ action, permitted action ∧ roster.Allows action ∧ next = roster.perform action

variable {roster}

@[simp] theorem validator_revise (operator other : Address)
    (change : ValidatorRecord → ValidatorRecord) :
    (roster.revise operator change).validator other =
      if other = operator then (roster.validator other).map change else roster.validator other := by
  simp only [revise, Function.update_apply]
  split
  case isTrue same => rw [same]
  case isFalse => rfl

@[simp] theorem peer_revise (operator : Address) (change : ValidatorRecord → ValidatorRecord) :
    (roster.revise operator change).peer = roster.peer := rfl

@[simp] theorem rotation_revise (operator : Address) (change : ValidatorRecord → ValidatorRecord) :
    (roster.revise operator change).rotation = roster.rotation := rfl

@[simp] theorem peer_rotate (operator : Address) :
    (roster.perform (.rotate operator)).peer = roster.peer := by
  simp only [perform]
  split <;> rfl

theorem validator_rotate_cases (operator other : Address) :
    (roster.perform (.rotate operator)).validator other = roster.validator other ∨
      ∃ rotation, roster.rotation operator = some rotation ∧ other = operator ∧
        (roster.perform (.rotate operator)).validator other =
          (roster.validator other).map (.takeKey rotation) := by
  simp only [perform]
  cases scheduled : roster.rotation operator with
  | none => exact .inl rfl
  | some rotation =>
      by_cases same : other = operator
      · exact .inr ⟨rotation, rfl, same, by simp [same]⟩
      · exact .inl (by simp [same])

inductive Moves (roster : Roster) (operator : Address) (old : ValidatorRecord) :
    RosterAction → ValidatorRecord → Prop
  | exit (start : Nat) (active : old.status = .active) :
      Moves roster operator old (.exit operator start) { old with status := .unbonding start }
  | unjail (status : ValidatorStatus) (jailed : old.status = .jailed)
      (untombstoned : old.tombstoned = false) (seated : status = .active ∨ status = .candidate) :
      Moves roster operator old (.unjail operator status) { old with status }
  | slash (amount : Nat) (untombstoned : old.tombstoned = false) :
      Moves roster operator old (.slash operator amount) (Slashing.slashRecord amount old)
  | expire (height start : Nat) (unbonding : old.status = .unbonding start) :
      Moves roster operator old (.expire height) { old with status := .exited }
  | rotate (rotation : ConsensusKeyRotation) (scheduled : roster.rotation operator = some rotation) :
      Moves roster operator old (.rotate operator) (old.takeKey rotation)
  | activate (waiting : old.status = .candidate) :
      Moves roster operator old (.activate operator) { old with status := .active }

theorem found_cases {action : RosterAction} {operator : Address} {record : ValidatorRecord}
    (allowed : roster.Allows action)
    (found : (roster.perform action).validator operator = some record) :
    roster.validator operator = some record ∨
      (∃ peerId, action = .register record peerId ∧ record.operator = operator) ∨
      ∃ old, roster.validator operator = some old ∧ Moves roster operator old action record := by
  have revised {acted : Address} {change : ValidatorRecord → ValidatorRecord}
      (found : (roster.revise acted change).validator operator = some record) :
      roster.validator operator = some record ∨ ∃ old, operator = acted ∧
        roster.validator operator = some old ∧ record = change old := by
    rw [validator_revise] at found
    split at found
    case isFalse => exact .inl found
    case isTrue same =>
      obtain ⟨old, present, changed⟩ := Option.map_eq_some_iff.mp found
      exact .inr ⟨old, same, present, changed.symm⟩
  have same {old other : ValidatorRecord} (left : roster.validator operator = some old)
      (right : roster.validator operator = some other) : old = other :=
    Option.some_inj.mp (left.symm.trans right)
  cases allowed with
  | @register joining peerId =>
      simp only [perform, Function.update_apply] at found
      split at found
      · next same =>
          cases found
          exact .inr (.inl ⟨peerId, rfl, same.symm⟩)
      · exact .inl found
  | exit start present active =>
      rcases revised found with kept | ⟨old, rfl, stored, rfl⟩
      · exact .inl kept
      · exact .inr (.inr ⟨old, stored, .exit start (same stored present ▸ active)⟩)
  | unjail present jailed untombstoned seated =>
      rcases revised found with kept | ⟨old, rfl, stored, rfl⟩
      · exact .inl kept
      · obtain rfl := same stored present
        exact .inr (.inr ⟨old, stored, .unjail _ jailed untombstoned seated⟩)
  | bindPeer | schedule => exact .inl found
  | slash amount present untombstoned =>
      rcases revised found with kept | ⟨old, rfl, stored, rfl⟩
      · exact .inl kept
      · exact .inr (.inr ⟨old, stored, .slash amount (same stored present ▸ untombstoned)⟩)
  | expire height =>
      obtain ⟨old, present, rfl⟩ := Option.map_eq_some_iff.mp found
      unfold ValidatorRecord.expire
      split
      case isTrue expired =>
        unfold StateStore.unbondingExpired at expired
        split at expired
        case h_1 start unbonding =>
          exact .inr (.inr ⟨old, present, .expire height start unbonding⟩)
        case h_2 => cases expired
      case isFalse => exact .inl present
  | rotate acted =>
      rcases validator_rotate_cases acted operator with same | ⟨rotation, scheduled, rfl, taken⟩
      · exact .inl (same.symm.trans found)
      · obtain ⟨old, present, rfl⟩ := Option.map_eq_some_iff.mp (taken.symm.trans found)
        exact .inr (.inr ⟨old, present, .rotate rotation scheduled⟩)
  | activate present waiting =>
      rcases revised found with kept | ⟨old, rfl, stored, rfl⟩
      · exact .inl kept
      · exact .inr (.inr ⟨old, stored, .activate (same stored present ▸ waiting)⟩)

theorem Step.mono {permitted wider : RosterAction → Prop} {roster next : Roster}
    (step : Step permitted roster next) (widen : ∀ action, permitted action → wider action) :
    Step wider roster next := by
  obtain ⟨action, allowed, rest⟩ := step
  exact ⟨action, widen action allowed, rest⟩

theorem steps_mono {permitted wider : RosterAction → Prop} {roster next : Roster}
    (run : ReflTransGen (Step permitted) roster next)
    (widen : ∀ action, permitted action → wider action) : ReflTransGen (Step wider) roster next :=
  ReflTransGen.mono (fun _ _ step => step.mono widen) _ _ run

end Roster

def RosterAction.Systemic : RosterAction → Prop
  | .expire _ | .rotate _ | .activate _ => True
  | _ => False

def accusedOperator (env : Env) (tx : Transaction) : Option Address :=
  match tx.msgType with
  | .submitEquivocationEvidence =>
      (Slashing.decodeEquivocationEvidence env tx.payload).toOption.map
        Slashing.EquivocationEvidence.validatorAddress
  | _ => none

def RosterAction.Named (env : Env) (tx : Transaction) : RosterAction → Prop
  | .register record peerId =>
      tx.msgType = .validatorRegister ∧ record.operator = tx.sender ∧
        namedConsensusKey env tx = some record.consensusPk ∧ registeredPeerId env tx = some peerId
  | .exit operator _ => tx.msgType = .validatorExit ∧ operator = tx.sender
  | .unjail operator _ => operator = tx.sender
  | .bindPeer operator peerId => operator = tx.sender ∧ peerId.isEmpty = false
  | .schedule rotation =>
      tx.msgType = .consensusKeyRotate ∧ rotation.operator = tx.sender ∧
        namedConsensusKey env tx = some rotation.newPkBytes
  | .slash operator _ => env.tokenEconomics = true ∧ accusedOperator env tx = some operator
  | .expire _ | .rotate _ | .activate _ => False

def StateStore.roster (store : StateStore) : Roster where
  validator := store.getValidator
  rotation := store.consensusKeyRotations.get?
  peer := store.getValidatorPeerId

variable {env : Env} {store next : StateStore} {tx : Transaction}

section Lookups

theorem roster_updateValidator (store : StateStore) (operator : Address)
    (change : ValidatorRecord → ValidatorRecord) :
    ((store.modifyValidator operator change).commitValidatorMutation env operator).roster =
      store.roster.revise operator change := by
  ext1
  case validator =>
    funext other
    by_cases same : operator = other
    · subst same
      simp [StateStore.roster, StateStore.getValidator, StateStore.modifyValidator,
        StateStore.commitValidatorMutation]
    · simp [StateStore.roster, StateStore.getValidator, StateStore.modifyValidator,
        StateStore.commitValidatorMutation, same, Ne.symm same]
  case rotation => rfl
  case peer => rfl

theorem roster_setValidatorPeerId (store : StateStore) (operator : Address) {peerId : Bytes}
    (nonempty : peerId.isEmpty = false) :
    (store.setValidatorPeerId env operator peerId).roster =
      { store.roster with peer := Function.update store.roster.peer operator (some peerId) } := by
  simp only [StateStore.setValidatorPeerId, nonempty, Bool.false_eq_true, if_false]
  ext1
  case validator => rfl
  case rotation => rfl
  case peer =>
    funext other
    by_cases same : operator = other
    · subst same
      simp [StateStore.roster, StateStore.getValidatorPeerId]
    · simp [StateStore.roster, StateStore.getValidatorPeerId, same, Ne.symm same]

theorem roster_insertConsensusKeyRotation (store : StateStore) (rotation : ConsensusKeyRotation) :
    (store.insertConsensusKeyRotation env rotation).roster =
      store.roster.perform (.schedule rotation) := by
  ext1
  case validator => rfl
  case rotation =>
    funext other
    by_cases same : rotation.operator = other
    · subst same
      simp [StateStore.roster, StateStore.insertConsensusKeyRotation, Roster.perform]
    · simp [StateStore.roster, StateStore.insertConsensusKeyRotation, Roster.perform, same,
        Ne.symm same]
  case peer => rfl

theorem roster_creditAccount (store : StateStore) (address : Address) (amount : Nat) :
    (creditAccount env store address amount).roster = store.roster := by
  obtain ⟨_, credited⟩ := @creditAccount_frame env store address amount
  rw [credited]
  rfl

theorem roster_creditRecipient (store : StateStore) (recipient : Address) (amount : Nat) :
    (creditRecipient env store recipient amount).roster = store.roster := by
  obtain ⟨_, credited⟩ := @creditRecipient_frame env store recipient amount
  rw [credited]
  rfl

theorem roster_pruneRecentSlashesBefore (store : StateStore) (cutoff : Nat) :
    (store.pruneRecentSlashesBefore env cutoff).roster = store.roster := by
  obtain ⟨_, _, pruned⟩ := @pruneRecentSlashesBefore_frame env store cutoff
  rw [pruned]
  rfl

theorem roster_slash (store : StateStore) (operator : Address) (amount height : Nat) :
    (slash env store operator amount height).roster = store.roster.perform (.slash operator amount) :=
  (roster_creditAccount _ Slashing.treasuryAddress amount).trans
    (roster_updateValidator store operator (Slashing.slashRecord amount))

theorem roster_admitValidator (store : StateStore) (record : ValidatorRecord) (peerId : Bytes) :
    (admitValidator env store record peerId).roster =
      store.roster.perform (.register record peerId) := by
  have registered : (store.insertValidator env record).roster =
      { store.roster with
        validator := Function.update store.roster.validator record.operator (some record) } := by
    ext1
    case validator =>
      funext other
      by_cases same : record.operator = other
      · subst same
        simp [StateStore.roster, StateStore.getValidator, StateStore.insertValidator]
      · simp [StateStore.roster, StateStore.getValidator, StateStore.insertValidator, same,
          Ne.symm same]
    case rotation => rfl
    case peer => rfl
  simp only [admitValidator, Roster.perform]
  split
  case isTrue => exact registered
  case isFalse nonempty =>
    rw [roster_setValidatorPeerId _ _ (by simpa using nonempty), registered]

theorem keyFree_of_consensusKeyInUse {pk : Bytes} (unused : store.consensusKeyInUse pk = false) :
    store.roster.KeyFree pk := by
  intro operator record present seated same
  have stored := store.validators.mem_values.mpr ⟨operator, present⟩
  simp only [StateStore.consensusKeyInUse, List.any_eq_false] at unused
  refine unused record stored ?_
  rcases seated with active | candidate
  · simp [active, same]
  · simp [candidate, same]

theorem peerFree_of_peerIdInUse {peerId : Bytes} (nonempty : peerId.isEmpty = false)
    (unused : store.peerIdInUse peerId = false) : store.roster.PeerFree peerId := by
  intro operator record present live bound
  simp only [StateStore.peerIdInUse, nonempty, Bool.false_eq_true, if_false, List.any_eq_false]
    at unused
  have stored : (operator, peerId) ∈ store.peerIdBindings.entries.toList :=
    Std.ExtTreeMap.mem_toList_iff_getElem?_eq_some.mpr bound
  refine unused _ stored ?_
  have found : store.getValidator operator = some record := present
  simp only [found, Option.map_some, decide_true, Bool.true_and]
  unfold ValidatorRecord.Live isRotatable at live
  cases status : record.status <;> simp_all

end Lookups

section Counting

def ValidatorRecord.activeWeight (record : ValidatorRecord) : Nat :=
  if record.status = .active then 1 else 0

def ValidatorRecord.waitingWeight (record : ValidatorRecord) : Nat :=
  if record.status = .candidate then 1 else 0

theorem activeValidatorCount_eq_total (store : StateStore) :
    store.activeValidatorCount = store.validators.total ValidatorRecord.activeWeight :=
  (store.validators.total_indicator fun record => record.status = .active).symm

theorem ValidatorRecord.active_of_weight {record : ValidatorRecord}
    (counted : 0 < record.activeWeight) : record.status = .active := by
  by_contra inactive
  simp [activeWeight, inactive] at counted

theorem activeValidatorCount_pos :
    0 < store.activeValidatorCount ↔
      ∃ operator record, store.getValidator operator = some record ∧ record.status = .active := by
  simp only [StateStore.activeValidatorCount, List.length_pos_iff_exists_mem,
    StateStore.activeValidators, List.mem_filter, decide_eq_true_eq, mem_values,
    StateStore.getValidator]
  constructor
  · rintro ⟨record, ⟨operator, present⟩, active⟩
    exact ⟨operator, record, present, active⟩
  · rintro ⟨operator, record, present, active⟩
    exact ⟨record, ⟨operator, present⟩, active⟩

theorem exists_other_active (operator : Address) (several : 1 < store.activeValidatorCount) :
    ∃ other record, other ≠ operator ∧ store.getValidator other = some record ∧
      record.status = .active := by
  rw [activeValidatorCount_eq_total] at several
  have single : store.validators.weightAt ValidatorRecord.activeWeight operator ≤ 1 := by
    unfold weightAt
    cases store.validators.get? operator with
    | none => exact Nat.zero_le 1
    | some record =>
        simp only [Option.map_some, Option.getD_some, ValidatorRecord.activeWeight]
        split <;> omega
  obtain ⟨other, record, different, present, counted⟩ :=
    store.validators.exists_other_of_weightAt_lt ValidatorRecord.activeWeight
      (single.trans_lt several)
  exact ⟨other, record, different, present, ValidatorRecord.active_of_weight counted⟩

end Counting

section Transactions

theorem admittedStatus_seated (store : StateStore) :
    admittedStatus store = .active ∨ admittedStatus store = .candidate := by
  unfold admittedStatus
  split
  · exact .inl rfl
  · exact .inr rfl

theorem PayloadEffect.roster (effect : PayloadEffect env store tx next) :
    next.roster = store.roster ∨ Roster.Step (RosterAction.Named env tx) store.roster next.roster := by
  cases effect with
  | transfer sender recipient amount => exact .inl (roster_creditRecipient _ recipient amount)
  | register sender record peerId present covered operator standing available joins placed named
      checked =>
      refine .inr ⟨.register record peerId, ⟨checked.kind, operator, checked.key, checked.peer⟩, ?_,
        roster_admitValidator _ record peerId⟩
      have seated : record.Seated := by
        unfold ValidatorRecord.Seated
        rw [placed]
        exact admittedStatus_seated store
      refine .register ?_ seated checked.untombstoned
        (keyFree_of_consensusKeyInUse checked.keyFree)
        fun nonempty => peerFree_of_peerIdInUse nonempty (checked.peerFree nonempty)
      intro old present
      rw [operator] at present
      have found : store.getValidator tx.sender = some old := present
      simpa [found, isExited] using available
  | setStatus record status present standing stays placed checked =>
      cases checked with
      | exit start kind active others =>
          obtain ⟨other, another, different, remains, otherActive⟩ :=
            exists_other_active tx.sender others
          exact .inr ⟨.exit tx.sender start, ⟨kind, rfl⟩,
            .exit start present active different remains otherActive,
            roster_updateValidator store tx.sender _⟩
      | unjail jailed untombstoned =>
          exact .inr ⟨.unjail tx.sender _, rfl,
            .unjail present jailed untombstoned (admittedStatus_seated store),
            roster_updateValidator store tx.sender _⟩
  | bindPeer peerId checked =>
      obtain ⟨record, present, live⟩ := checked.live
      exact .inr ⟨.bindPeer tx.sender peerId, ⟨rfl, checked.nonempty⟩,
        .bindPeer present live
          (checked.free.imp_right (peerFree_of_peerIdInUse checked.nonempty)),
        roster_setValidatorPeerId store tx.sender checked.nonempty⟩
  | scheduleRotation rotation kind operator key =>
      exact .inr ⟨.schedule rotation, ⟨kind, operator, key⟩, .schedule rotation,
        roster_insertConsensusKeyRotation store rotation⟩
  | slashed record evidence cutoff kind decoded present amount _ economics untombstoned =>
      refine .inr ⟨.slash evidence.validatorAddress amount, ⟨economics, ?_⟩,
        .slash amount present untombstoned, ?_⟩
      · simp [accusedOperator, kind, decoded, Except.toOption]
      · rw [roster_slash, roster_pruneRecentSlashesBefore]
  | createAccount | updateSender | anchor | attest | archivalKey | archive | pushAnchor | renew
  | propose | vote => exact .inl rfl

theorem applyTx_roster {context : ExecutionContext} {result : ExecutionResult}
    (executed : applyTx env store tx context = .ok (next, result)) :
    next.roster = store.roster ∨ Roster.Step (RosterAction.Named env tx) store.roster next.roster := by
  obtain ⟨working, settled, ran⟩ := applyTx_cases executed
  have same : next.roster = working.roster := by rw [settled.next_eq]; rfl
  rw [same]
  rcases ran with rfl | effect
  · exact .inl rfl
  · exact effect.roster

end Transactions

section BlockSteps

theorem roster_applyAimdUpdate (store : StateStore) (gasUsed : Nat) :
    (store.applyAimdUpdate env gasUsed).roster = store.roster := rfl

theorem roster_advanceHeight (store : StateStore) :
    (store.advanceHeight env).roster = store.roster := rfl

theorem roster_distributeBlockFees (store : StateStore) (proposer : Address) (fees : Nat)
    (pool : List Address) (params : FeeDistributionParams) :
    (distributeBlockFees env store proposer fees pool params).roster = store.roster := by
  obtain ⟨_, paid⟩ := @distributeBlockFees_frame env store proposer fees pool params
  rw [paid]
  rfl

theorem roster_processGovernanceTallies (store : StateStore) (height : Nat) :
    (processGovernanceTallies env store height).roster = store.roster := by
  rw [processGovernanceTallies_frame]
  rfl

theorem roster_refundExpirations (store : StateStore) (height : Nat) :
    (refundExpirations env store height).roster = store.roster.perform (.expire height) := by
  have refunded (exits : List (Address × Nat)) (start : StateStore) :
      (exits.foldl (refundExit env) start).roster = start.roster :=
    List.foldlRecOn exits _ (motive := fun current : StateStore => current.roster = start.roster) rfl
      fun _ same _ _ => same
  simp only [refundExpirations, refunded]
  ext1
  case validator =>
    funext operator
    simp only [StateStore.roster, StateStore.getValidator,
      StateStore.processValidatorUnbondingExpirations, CachedTable.get?, foldl_commit_entries]
    exact get?_modifyAll store.validators operator _
  case rotation => rfl
  case peer => rfl

theorem roster_activateRotation (store : StateStore) (operator : Address) :
    (store.activateRotation env operator).roster = store.roster.perform (.rotate operator) := by
  simp only [StateStore.activateRotation, Roster.perform]
  cases scheduled : store.consensusKeyRotations.get? operator with
  | none => simp [StateStore.roster, scheduled]
  | some rotation =>
      simp only [StateStore.roster, scheduled]
      ext1
      case validator =>
        have updated := congrArg Roster.validator
          (@roster_updateValidator env store operator (.takeKey rotation))
        exact updated
      case rotation =>
        funext other
        by_cases same : operator = other
        · subst same
          simp
        · simp [same, Ne.symm same]
      case peer => rfl

theorem activateRotations_roster (store : StateStore) (height : Nat) :
    ReflTransGen (Roster.Step RosterAction.Systemic) store.roster
      (store.activatePendingConsensusKeyRotations env height).roster :=
  Runs.foldl StateStore.roster _ _
    (fun current operator _ => .single
      ⟨.rotate operator, trivial, .rotate operator, roster_activateRotation current operator⟩) store

theorem activateValidator_roster (store : StateStore) (operator : Address) :
    ReflTransGen (Roster.Step RosterAction.Systemic) store.roster (store.activateValidator env operator).roster := by
  unfold StateStore.activateValidator
  split
  case h_1 => exact .refl
  case h_2 record present =>
    split
    case isTrue waiting =>
      exact .single ⟨.activate operator, trivial, .activate present waiting,
        roster_updateValidator store operator _⟩
    case isFalse => exact .refl

theorem processEpochTransitions_roster (store : StateStore) (churn : ChurnConfig) :
    ReflTransGen (Roster.Step RosterAction.Systemic) store.roster
      (store.processEpochTransitions env churn).roster :=
  Runs.foldl StateStore.roster _ _
    (fun current operator _ => activateValidator_roster current operator) store

end BlockSteps

end ViperChain
