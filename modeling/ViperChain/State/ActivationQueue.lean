import ViperChain.Assumptions
import ViperChain.State.Store

/-!
The activation queue of an epoch boundary: who stands in it and in which order, which part
of it the budget lets through, and what becomes of the validators.
-/

namespace ViperChain

open CachedTables CachedTable

variable {env : Env} {store : StateStore}

namespace StateStore

section Queue

def Before (left right : ValidatorRecord) : Prop :=
  left.registeredHeight < right.registeredHeight ∨
    left.registeredHeight = right.registeredHeight ∧ left.operator ≤ right.operator

instance : DecidableRel Before := fun _ _ => inferInstanceAs (Decidable (_ ∨ _))

instance : Std.Total Before where
  total left right := by
    unfold Before
    rcases Nat.lt_trichotomy left.registeredHeight right.registeredHeight with lower | same | higher
    · exact .inl (.inl lower)
    · rcases le_total left.operator right.operator with le | ge
      · exact .inl (.inr ⟨same, le⟩)
      · exact .inr (.inr ⟨same.symm, ge⟩)
    · exact .inr (.inl higher)

instance : IsTrans ValidatorRecord Before where
  trans left middle right := by
    unfold Before
    rintro (lower | ⟨same, le⟩) (lowerToo | ⟨sameToo, leToo⟩)
    · exact .inl (by omega)
    · exact .inl (by omega)
    · exact .inl (by omega)
    · exact .inr ⟨by omega, le.trans leToo⟩

def candidateRecords (store : StateStore) : List ValidatorRecord :=
  (store.validators.values.filter fun record => record.status = .candidate).insertionSort Before

theorem validatorCandidatesOrdered_eq (store : StateStore) :
    store.validatorCandidatesOrdered = store.candidateRecords.map ValidatorRecord.operator := rfl

theorem mem_candidateRecords {record : ValidatorRecord} :
    record ∈ store.candidateRecords ↔
      (∃ key, store.validators.get? key = some record) ∧ record.status = .candidate := by
  rw [candidateRecords, List.mem_insertionSort, List.mem_filter, mem_values, decide_eq_true_eq]

variable (keyed : store.validators.Keyed ValidatorRecord.operator)
include keyed

theorem getValidator_of_candidate {record : ValidatorRecord}
    (listed : record ∈ store.candidateRecords) : store.getValidator record.operator = some record := by
  obtain ⟨⟨key, found⟩, _⟩ := mem_candidateRecords.mp listed
  have named := keyed key record found
  rw [getValidator, named, found]

theorem mem_validatorCandidatesOrdered {operator : Address} :
    operator ∈ store.validatorCandidatesOrdered ↔
      ∃ record, store.getValidator operator = some record ∧ record.status = .candidate := by
  rw [validatorCandidatesOrdered_eq, List.mem_map]
  constructor
  · rintro ⟨record, listed, rfl⟩
    exact ⟨record, getValidator_of_candidate keyed listed, (mem_candidateRecords.mp listed).2⟩
  · rintro ⟨record, found, waiting⟩
    exact ⟨record, mem_candidateRecords.mpr ⟨⟨operator, found⟩, waiting⟩,
      keyed operator record found⟩

theorem validatorCandidatesOrdered_nodup : store.validatorCandidatesOrdered.Nodup := by
  rw [validatorCandidatesOrdered_eq, candidateRecords,
    ((List.perm_insertionSort _ _).map ValidatorRecord.operator).nodup_iff]
  exact keyed.distinct.sublist (List.filter_sublist.map _)

end Queue

end StateStore

section Budget

def StateStore.bondOf (store : StateStore) (operator : Address) : Nat :=
  ((store.getValidator operator).map ValidatorRecord.selfBond).getD 0

def StateStore.bondTotal (store : StateStore) (operators : List Address) : Nat :=
  (operators.map store.bondOf).sum

theorem bondTotal_append (left right : List Address) :
    store.bondTotal (left ++ right) = store.bondTotal left + store.bondTotal right := by
  simp [StateStore.bondTotal]

theorem bondTotal_singleton (operator : Address) :
    store.bondTotal [operator] = store.bondOf operator := by
  simp [StateStore.bondTotal]

structure LetThrough (store : StateStore) (limit : Nat) (queue activated waiting : List Address) :
    Prop where
  split : queue = activated ++ waiting
  progress : queue ≠ [] → activated ≠ []
  within : activated.length = 1 ∨ store.bondTotal activated ≤ limit
  maximal : ∀ operator rest, waiting = operator :: rest →
    limit < store.bondTotal (activated ++ [operator])

theorem epochActivations_letThrough {limit : Nat} (rest chosen : List Address)
    (known : ∀ operator ∈ rest, ∃ record, store.getValidator operator = some record)
    (within : chosen.length = 1 ∨ store.bondTotal chosen ≤ limit)
    (fits : store.bondTotal (chosen ++ rest) ≤ u128Max) :
    ∃ waiting, LetThrough store limit (chosen ++ rest)
      (store.epochActivations limit rest (store.bondTotal chosen) chosen) waiting := by
  induction rest generalizing chosen with
  | nil =>
      refine ⟨[], by simp [StateStore.epochActivations], ?_, within, ?_⟩
      · simp [StateStore.epochActivations]
      · simp
  | cons operator rest ih =>
      obtain ⟨record, found⟩ := known operator List.mem_cons_self
      have bond : store.bondOf operator = record.selfBond := by simp [StateStore.bondOf, found]
      have extended : chosen ++ operator :: rest = (chosen ++ [operator]) ++ rest := by simp
      have total : store.bondTotal (chosen ++ [operator]) =
          store.bondTotal chosen + record.selfBond := by
        rw [bondTotal_append, bondTotal_singleton, bond]
      have sum : satAdd128 (store.bondTotal chosen) record.selfBond =
          store.bondTotal (chosen ++ [operator]) := by
        rw [extended, bondTotal_append] at fits
        rw [total]
        exact Nat.min_eq_left (by omega)
      simp only [StateStore.epochActivations, found, sum]
      split
      case isTrue stopped =>
        simp only [Bool.and_eq_true, decide_eq_true_eq, Bool.not_eq_true', List.isEmpty_eq_false_iff]
          at stopped
        refine ⟨operator :: rest, rfl, fun _ => stopped.2, within, ?_⟩
        rintro next later same
        obtain ⟨rfl, rfl⟩ := List.cons.inj same
        exact stopped.1
      case isFalse taken =>
        simp only [Bool.and_eq_true, decide_eq_true_eq, Bool.not_eq_true', List.isEmpty_eq_false_iff,
          not_and, Decidable.not_not] at taken
        rw [extended] at fits ⊢
        refine ih (chosen ++ [operator]) (fun later member => known later (List.mem_cons_of_mem _ member))
          ?_ fits
        by_cases exceeded : limit < store.bondTotal (chosen ++ [operator])
        · exact .inl (by simp [taken exceeded])
        · exact .inr (Nat.le_of_not_lt exceeded)

end Budget

section Activation

def activatedRecord (record : ValidatorRecord) : ValidatorRecord :=
  if record.status = .candidate then { record with status := .active } else record

theorem getValidator_activateValidator (store : StateStore) (operator other : Address) :
    (store.activateValidator env operator).getValidator other =
      if operator = other then (store.getValidator other).map activatedRecord
      else store.getValidator other := by
  unfold StateStore.activateValidator
  split
  case h_1 missing =>
    split
    case isTrue same => rw [← same, missing]; rfl
    case isFalse => rfl
  case h_2 record found =>
    split
    case isTrue waiting =>
      simp only [StateStore.getValidator, StateStore.modifyValidator,
        StateStore.commitValidatorMutation, get?_commit, get?_modify] at found ⊢
      split
      case isTrue same =>
        subst same
        simp [found, activatedRecord, waiting]
      case isFalse => rfl
    case isFalse idle =>
      split
      case isTrue same =>
        subst same
        simp [found, activatedRecord, idle]
      case isFalse => rfl

theorem activatedRecord_idempotent (record : ValidatorRecord) :
    activatedRecord (activatedRecord record) = activatedRecord record := by
  unfold activatedRecord
  split
  · simp
  · rfl

theorem getValidator_activateAll (operators : List Address) (store : StateStore) (other : Address) :
    (operators.foldl (fun current operator => current.activateValidator env operator) store).getValidator
        other =
      if other ∈ operators then (store.getValidator other).map activatedRecord
      else store.getValidator other := by
  induction operators generalizing store with
  | nil => simp
  | cons operator operators ih =>
      rw [List.foldl_cons, ih, getValidator_activateValidator]
      by_cases same : operator = other
      · subst same
        simp only [List.mem_cons_self, if_true, Option.map_map]
        split
        · cases store.getValidator operator with
          | none => rfl
          | some record => exact congrArg some (activatedRecord_idempotent record)
        · rfl
      · have member : other ∈ operator :: operators ↔ other ∈ operators := by
          simp [List.mem_cons, Ne.symm same]
        simp only [same, if_false, member]

end Activation

/-- An epoch boundary activates a prefix of the queue, as long as the budget allows and at
least one candidate, and touches no other validator. The queue holds the candidates by
registration height, then by operator. -/
theorem processEpochTransitions_prefix (env : Env) (store : StateStore)
    (keyed : store.validators.Keyed ValidatorRecord.operator) (churn : ChurnConfig)
    (fits : store.bondTotal store.validatorCandidatesOrdered < 2 ^ 128) :
    (∀ operator, operator ∈ store.validatorCandidatesOrdered ↔
        ∃ record, store.getValidator operator = some record ∧ record.status = .candidate) ∧
    store.validatorCandidatesOrdered.Nodup ∧
    (∃ records : List ValidatorRecord, records.Pairwise StateStore.Before ∧
      (∀ record ∈ records, store.getValidator record.operator = some record) ∧
      store.validatorCandidatesOrdered = records.map ValidatorRecord.operator) ∧
    ∃ activated waiting,
      LetThrough store (stakeWeightedActivationLimit store.totalActiveSelfBond churn)
        store.validatorCandidatesOrdered activated waiting ∧
      (∀ operator ∈ activated, ∃ record, store.getValidator operator = some record ∧
        (store.processEpochTransitions env churn).getValidator operator =
          some { record with status := .active }) ∧
      ∀ operator, operator ∉ activated →
        (store.processEpochTransitions env churn).getValidator operator =
          store.getValidator operator := by
  have members := @StateStore.mem_validatorCandidatesOrdered store keyed
  have known : ∀ operator ∈ store.validatorCandidatesOrdered,
      ∃ record, store.getValidator operator = some record := by
    intro operator listed
    obtain ⟨record, found, _⟩ := members.mp listed
    exact ⟨record, found⟩
  refine ⟨fun operator => members, StateStore.validatorCandidatesOrdered_nodup keyed, ?_, ?_⟩
  · exact ⟨store.candidateRecords, List.pairwise_insertionSort _ _,
      fun record listed => StateStore.getValidator_of_candidate keyed listed,
      store.validatorCandidatesOrdered_eq⟩
  · obtain ⟨waiting, through⟩ := epochActivations_letThrough
      store.validatorCandidatesOrdered [] known (.inr (Nat.zero_le _)) (Nat.le_pred_of_lt fits)
    have chosen : LetThrough store _ store.validatorCandidatesOrdered
        (store.epochActivations _ store.validatorCandidatesOrdered 0 []) waiting := through
    refine ⟨_, waiting, chosen, ?_, ?_⟩
    · intro operator listed
      have queued : operator ∈ store.validatorCandidatesOrdered := by
        rw [chosen.split]
        exact List.mem_append_left _ listed
      obtain ⟨record, found, candidate⟩ := members.mp queued
      refine ⟨record, found, ?_⟩
      exact (getValidator_activateAll _ store operator).trans
        (by rw [if_pos listed, found]; simp [activatedRecord, candidate])
    · intro operator spared
      exact (getValidator_activateAll _ store operator).trans (if_neg spared)

section Sample

def waitingRecord (operator : Address) (registeredHeight selfBond : Nat) : ValidatorRecord :=
  ⟨operator, [], .mlDsa65, [], selfBond, .candidate, registeredHeight, false⟩

def waitingStore : StateStore :=
  ((StateStore.new sampleEnv).insertValidator sampleEnv
      (waitingRecord (Bytes32.fill 1) 5 10)).insertValidator sampleEnv
    (waitingRecord (Bytes32.fill 2) 4 7)

theorem waitingStore_queue :
    waitingStore.validatorCandidatesOrdered = [Bytes32.fill 2, Bytes32.fill 1] := by
  decide +kernel

theorem processEpochTransitions_prefix_first :
    waitingStore.validators.Keyed ValidatorRecord.operator ∧
      waitingStore.bondTotal waitingStore.validatorCandidatesOrdered < 2 ^ 128 ∧
      ∃ activated waiting, LetThrough waitingStore
        (stakeWeightedActivationLimit waitingStore.totalActiveSelfBond ⟨39, 12, 313, 0⟩)
        [Bytes32.fill 2, Bytes32.fill 1] activated waiting := by
  have keyed : waitingStore.validators.Keyed ValidatorRecord.operator :=
    (keyed_empty.insert _ _).insert _ _
  have fits : waitingStore.bondTotal waitingStore.validatorCandidatesOrdered < 2 ^ 128 := by
    rw [waitingStore_queue]
    decide +kernel
  obtain ⟨_, _, _, activated, waiting, through, _⟩ :=
    processEpochTransitions_prefix sampleEnv waitingStore keyed ⟨39, 12, 313, 0⟩ fits
  rw [waitingStore_queue] at through
  exact ⟨keyed, fits, activated, waiting, through⟩

end Sample

end ViperChain
