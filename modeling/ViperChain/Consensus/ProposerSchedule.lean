import ViperChain.Assumptions
import ViperChain.Consensus.RoundCore

/-!
Who proposes. The round robin goes through the sorted validators; with a RANDAO accumulator
the choice is by height alone.
-/

namespace ViperChain

section Selection

variable (env : Env)

def selectEpochProposer (validators : List Address) (height : Nat) (randaoAccumulator : Bytes32) :
    Option Nat :=
  if validators.isEmpty then none
  else
    let hash := env.shake256 (randaoAccumulator.data ++ toBeBytes 8 height)
    some (ofBeBytes (hash.data.take 8) % validators.length)

def selectProposer (validators : List Address) (height round : Nat)
    (randaoAccumulator : Option Bytes32) : Option Address :=
  if validators.isEmpty then none
  else
    match randaoAccumulator with
    | some randao => do
        let index ← selectEpochProposer env validators height randao
        validators[index]?
    | none =>
        let sorted := validators.insertionSort (· ≤ ·)
        sorted[(height + round) % sorted.length]?

end Selection

variable {env : Env} {validators : List Address}

section RoundRobin

theorem sorted_nodup (distinct : validators.Nodup) :
    (validators.insertionSort (· ≤ ·)).Nodup :=
  (List.perm_insertionSort _ _).nodup_iff.mpr distinct

theorem selectProposer_none (occupied : 0 < validators.length) (height round : Nat) :
    selectProposer env validators height round none =
      (validators.insertionSort (· ≤ ·))[(height + round) % validators.length]? := by
  have filled : validators.isEmpty = false := by
    cases validators <;> simp_all
  simp [selectProposer, filled]

theorem selectProposer_perm {reordered : List Address} (perm : reordered.Perm validators)
    (height round : Nat) :
    selectProposer env reordered height round none =
      selectProposer env validators height round none := by
  have sorted : reordered.insertionSort (· ≤ ·) = validators.insertionSort (· ≤ ·) :=
    List.Perm.eq_of_pairwise (fun _ _ _ _ => le_antisymm) (List.pairwise_insertionSort _ _)
      (List.pairwise_insertionSort _ _)
      ((List.perm_insertionSort _ _).trans (perm.trans (List.perm_insertionSort _ _).symm))
  have empty : reordered.isEmpty = validators.isEmpty := by
    rw [Bool.eq_iff_iff, List.isEmpty_iff, List.isEmpty_iff]
    exact ⟨fun none => by simpa [none] using perm, fun none => by simpa [none] using perm⟩
  simp only [selectProposer, sorted, empty]

theorem round_unique {count height start left right : Nat}
    (met : (height + left) % count = (height + right) % count) (leftAfter : start ≤ left)
    (leftBefore : left < start + count) (rightAfter : start ≤ right)
    (rightBefore : right < start + count) : left = right := by
  have congruent : left ≡ right [MOD count] := Nat.ModEq.add_left_cancel' height met
  refine congruent.eq_of_abs_lt ?_
  rw [abs_lt]
  omega

theorem existsUnique_round {count : Nat} (height start index : Nat) (small : index < count) :
    ∃! round, start ≤ round ∧ round < start + count ∧ (height + round) % count = index := by
  have offset := Nat.mod_lt (height + start) (Nat.zero_lt_of_lt small)
  have wait := Nat.mod_lt (index + count - (height + start) % count) (Nat.zero_lt_of_lt small)
  have met : (height + (start + (index + count - (height + start) % count) % count)) % count =
      index := by
    rw [← Nat.add_assoc, Nat.add_mod, Nat.mod_mod, ← Nat.add_mod, Nat.add_mod (height + start),
      Nat.add_mod_mod]
    rw [show (height + start) % count + (index + count - (height + start) % count) = index + count by
      omega]
    rw [Nat.add_mod_right, Nat.mod_eq_of_lt small]
  refine ⟨_, ⟨by omega, by omega, met⟩, ?_⟩
  rintro round ⟨after, before, also⟩
  exact round_unique (also.trans met.symm) after before (by omega) (by omega)

theorem selectProposer_eq_iff (distinct : validators.Nodup) (occupied : 0 < validators.length)
    {validator : Address} (member : validator ∈ validators) (height round : Nat) :
    selectProposer env validators height round none = some validator ↔
      (height + round) % validators.length =
        (validators.insertionSort (· ≤ ·)).idxOf validator := by
  have listed : validator ∈ validators.insertionSort (· ≤ ·) :=
    (List.perm_insertionSort _ _).mem_iff.mpr member
  have inside := List.idxOf_lt_length_of_mem listed
  have elected : (height + round) % validators.length <
      (validators.insertionSort (· ≤ ·)).length := by
    rw [List.length_insertionSort]
    exact Nat.mod_lt _ occupied
  have position : (validators.insertionSort (· ≤ ·))[
      (validators.insertionSort (· ≤ ·)).idxOf validator]? = some validator := by
    rw [List.getElem?_eq_getElem inside, List.getElem_idxOf]
  rw [selectProposer_none occupied, ← position]
  exact List.getElem?_inj elected (sorted_nodup distinct)

end RoundRobin

structure Rotates (env : Env) (validators : List Address) (height : Nat)
    (randaoAccumulator : Option Bytes32) : Prop where
  orderFree : ∀ reordered, reordered.Perm validators → ∀ round,
    selectProposer env reordered height round randaoAccumulator =
      selectProposer env validators height round randaoAccumulator
  passes : ∀ validator ∈ validators, ∃ round < validators.length,
    selectProposer env validators height round randaoAccumulator ≠ some validator
  everybody : randaoAccumulator = none → ∀ start, start + validators.length ≤ 2 ^ 32 →
    ∀ validator ∈ validators, ∃! round, start ≤ round ∧ round < start + validators.length ∧
      selectProposer env validators height round randaoAccumulator = some validator

theorem roundRobin_rotates (distinct : validators.Nodup) (several : 2 ≤ validators.length)
    (height : Nat) : Rotates env validators height none := by
  have occupied : 0 < validators.length := by omega
  constructor
  · exact fun reordered perm round => selectProposer_perm perm height round
  · intro validator member
    by_contra stuck
    push Not at stuck
    have first := (selectProposer_eq_iff distinct occupied member height 0).mp (stuck 0 (by omega))
    have second := (selectProposer_eq_iff distinct occupied member height 1).mp (stuck 1 (by omega))
    have same := round_unique (first.trans second.symm) (Nat.zero_le 0) (by omega) (Nat.zero_le 1)
      (by omega)
    omega
  · intro _ start _ validator member
    simp only [selectProposer_eq_iff distinct occupied member]
    refine existsUnique_round height start _ ?_
    rw [← List.length_insertionSort (· ≤ ·) validators]
    exact List.idxOf_lt_length_of_mem ((List.perm_insertionSort _ _).mem_iff.mpr member)

theorem selectProposer_some (occupied : 0 < validators.length) (height : Nat) (randao : Bytes32) :
    ∃ proposer ∈ validators, ∀ round,
      selectProposer env validators height round (some randao) = some proposer := by
  have filled : validators.isEmpty = false := by
    cases validators <;> simp_all
  have inside : ofBeBytes ((env.shake256 (randao.data ++ toBeBytes 8 height)).data.take 8) %
      validators.length < validators.length := Nat.mod_lt _ occupied
  refine ⟨_, List.getElem_mem inside, fun round => ?_⟩
  simp [selectProposer, selectEpochProposer, filled, List.getElem?_eq_getElem inside]

theorem proposers_rotate_iff (env : Env) (validators : List Address) (distinct : validators.Nodup)
    (several : 2 ≤ validators.length) (height : Nat) (randaoAccumulator : Option Bytes32) :
    Rotates env validators height randaoAccumulator ↔ randaoAccumulator = none := by
  constructor
  · intro rotates
    cases randaoAccumulator with
    | none => rfl
    | some randao =>
        obtain ⟨proposer, member, elected⟩ :=
          selectProposer_some (show 0 < validators.length by omega) height randao
        obtain ⟨round, _, passed⟩ := rotates.passes proposer member
        exact absurd (elected round) passed
  · rintro rfl
    exact roundRobin_rotates distinct several height

theorem proposers_rotate_iff_three :
    [Bytes32.fill 3, Bytes32.fill 1, Bytes32.fill 2].Nodup ∧
      Rotates sampleEnv [Bytes32.fill 3, Bytes32.fill 1, Bytes32.fill 2] 5 none := by
  have distinct : [Bytes32.fill 3, Bytes32.fill 1, Bytes32.fill 2].Nodup := by decide
  exact ⟨distinct, (proposers_rotate_iff sampleEnv _ distinct (by decide) 5 none).mpr rfl⟩

/-- Of two validators one is elected in every round of the height, and the other one when the
list is turned round. -/
theorem randaoProposer_stays :
    ∃ proposer, (∀ round, selectProposer sampleEnv [Bytes32.fill 1, Bytes32.fill 2] 1 round
        (some (Bytes32.fill 0)) = some proposer) ∧
      selectProposer sampleEnv [Bytes32.fill 2, Bytes32.fill 1] 1 0 (some (Bytes32.fill 0)) ≠
        some proposer := by
  obtain ⟨proposer, _, elected⟩ := @selectProposer_some sampleEnv [Bytes32.fill 1, Bytes32.fill 2]
    (by decide) 1 (Bytes32.fill 0)
  refine ⟨proposer, elected, ?_⟩
  rw [← elected 0]
  decide +kernel

end ViperChain
