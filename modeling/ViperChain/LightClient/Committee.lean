import ViperChain.State.FeeMarket

/-!
The sync committee of an epoch: sixteen members drawn by stake without replacement. A `none` is
a panic of the checked arithmetic.
-/

namespace ViperChain

def syncCommitteeSize : Nat := 16

section Reduction

def reduceBit (modulus pow128ModM acc bit : Nat) : Option Nat :=
  let highCarry := acc / 2 ^ 127
  let shifted := (acc * 2 % 2 ^ 128) ||| bit
  if highCarry = 1 then do
    let sum ← checkedAdd128 (shifted % modulus) pow128ModM
    return sum % modulus
  else return shifted % modulus

def byteBits (byte : Byte) : List Nat :=
  [7, 6, 5, 4, 3, 2, 1, 0].map fun shift => byte.val / 2 ^ shift % 2

def reduceU256BeModU128 (chunk : Bytes32) (modulus : Nat) : Option Nat :=
  let pow128ModM := (u128Max % modulus + 1) % 2 ^ 128 % modulus
  chunk.data.foldlM (fun acc byte => (byteBits byte).foldlM (reduceBit modulus pow128ModM) acc) 0

end Reduction

section Selection

variable (stakeOf : Nat → Nat)

def pickPosition (selector : Nat) : List Nat → Nat → Nat → Option Nat
  | [], _, _ => none
  | index :: rest, cumulative, position =>
      let total := satAdd128 cumulative (stakeOf index)
      if total > selector then some position else pickPosition selector rest total (position + 1)

def committeeRounds (draw : Nat → Bytes32) :
    List Nat → Nat → List Nat → List Nat → Option (List Nat)
  | [], _, _, committee => some committee
  | round :: rounds, totalStake, remaining, committee =>
      if remaining.isEmpty || totalStake = 0 then some committee
      else do
        let selector ← reduceU256BeModU128 (draw round) totalStake
        let position := (pickPosition stakeOf selector remaining 0 0).getD (remaining.length - 1)
        let picked ← remaining[position]?
        committeeRounds draw rounds (totalStake - stakeOf picked) (remaining.eraseIdx position)
          (committee ++ [picked])

end Selection

def stakeOrder (left right : Nat × Address × Nat) : Prop :=
  right.2.2 < left.2.2 ∨ right.2.2 = left.2.2 ∧ left.2.1 ≤ right.2.1

instance : DecidableRel stakeOrder := fun _ _ => inferInstanceAs (Decidable (_ ∨ _))

def selectCommittee (env : Env) (stateRoot : Bytes32) (epoch : Nat)
    (validators : List (Address × Nat)) : Option (List Nat) :=
  if validators.isEmpty then some []
  else if validators.length ≤ syncCommitteeSize then
    let order := validators.zipIdx.map fun entry => (entry.2, entry.1)
    some ((order.insertionSort stakeOrder).map Prod.fst)
  else do
    let seed := taggedHash env (ascii "VIPER-SYNC-COMMITTEE-V1") (toBeBytes 8 epoch ++ stateRoot.data)
    let stakeOf := fun index => (validators[index]?.map Prod.snd).getD 0
    let totalStake ← (validators.map Prod.snd).foldlM checkedAdd128 0
    committeeRounds stakeOf (fun round => env.shake256 (seed.data ++ toBeBytes 8 round))
      (List.range syncCommitteeSize) totalStake (List.range validators.length) []

section Arithmetic

variable {modulus : Nat}

theorem checkedAdd128_eq {left right : Nat} (fits : left + right < 2 ^ 128) :
    checkedAdd128 left right = some (left + right) :=
  if_pos (Nat.le_pred_of_lt fits)

theorem shifted_eq {acc bit : Nat} (binary : bit < 2) :
    (acc * 2 % 2 ^ 128) ||| bit = acc * 2 % 2 ^ 128 + bit := by
  have even : acc * 2 % 2 ^ 128 = 2 ^ 1 * (acc % 2 ^ 127) := by omega
  rw [even]
  exact (Nat.two_pow_add_eq_or_of_lt (by simpa using binary) _).symm

theorem pow128_eq (positive : 0 < modulus) (small : modulus < 2 ^ 128) :
    (u128Max % modulus + 1) % 2 ^ 128 % modulus = 2 ^ 128 % modulus := by
  have below := Nat.mod_lt u128Max positive
  rw [Nat.mod_eq_of_lt (show u128Max % modulus + 1 < 2 ^ 128 by omega), Nat.mod_add_mod]
  rfl

structure StepFits (modulus pow128ModM acc bit : Nat) : Prop where
  reduced : acc < modulus
  carried : acc / 2 ^ 127 * 2 ^ 128 + ((acc * 2 % 2 ^ 128) ||| bit) = acc * 2 + bit
  shifted : (acc * 2 % 2 ^ 128) ||| bit ≤ u128Max
  summed : acc / 2 ^ 127 = 1 → ((acc * 2 % 2 ^ 128) ||| bit) % modulus + pow128ModM ≤ u128Max

theorem stepFits_of_lt {acc bit : Nat} (small : modulus < 2 ^ 128) (reduced : acc < modulus)
    (binary : bit < 2) : StepFits modulus (2 ^ 128 % modulus) acc bit := by
  refine ⟨reduced, ?_, ?_, ?_⟩
  · rw [shifted_eq binary]
    omega
  · rw [shifted_eq binary, u128Max]
    omega
  · intro carry
    have power : 2 ^ 128 % modulus = 2 ^ 128 - modulus := by
      rw [Nat.mod_eq_sub_mod small.le, Nat.mod_eq_of_lt (by omega)]
    have inside : acc * 2 % 2 ^ 128 + bit < modulus := by omega
    rw [shifted_eq binary, Nat.mod_eq_of_lt inside, power, u128Max]
    omega

theorem reduceBit_eq {acc bit : Nat} (small : modulus < 2 ^ 128) (reduced : acc < modulus)
    (binary : bit < 2) :
    reduceBit modulus (2 ^ 128 % modulus) acc bit = some ((acc * 2 + bit) % modulus) := by
  have fits := stepFits_of_lt small reduced binary
  have whole := fits.carried
  unfold reduceBit
  by_cases carry : acc / 2 ^ 127 = 1
  · rw [carry, Nat.one_mul] at whole
    simp only [if_pos carry, checkedAdd128, if_pos (fits.summed carry)]
    refine congrArg some ?_
    rw [← whole, Nat.add_comm (2 ^ 128), ← Nat.add_mod]
  · have none : acc / 2 ^ 127 = 0 := by omega
    rw [none, Nat.zero_mul, Nat.zero_add] at whole
    simp only [if_neg carry, whole]
    rfl

theorem foldl_digits_modEq {α : Type} (base : Nat) (value : α → Nat) (digits : List α) :
    ∀ {left right : Nat}, left ≡ right [MOD modulus] →
      digits.foldl (fun total digit => total * base + value digit) left ≡
        digits.foldl (fun total digit => total * base + value digit) right [MOD modulus] := by
  induction digits with
  | nil => exact fun same => same
  | cons digit digits ih => exact fun same => ih ((same.mul_right base).add_right (value digit))

theorem foldlM_digits_eq {α : Type} (base : Nat) (value : α → Nat) (step : Nat → α → Option Nat)
    (positive : 0 < modulus) (digits : List α)
    (reads : ∀ digit ∈ digits, ∀ acc < modulus,
      step acc digit = some ((acc * base + value digit) % modulus)) :
    ∀ acc < modulus, digits.foldlM step acc =
      some (digits.foldl (fun total digit => total * base + value digit) acc % modulus) := by
  induction digits with
  | nil =>
      intro acc reduced
      rw [List.foldlM_nil, List.foldl_nil, Nat.mod_eq_of_lt reduced]
      rfl
  | cons digit digits ih =>
      intro acc reduced
      have rest := ih (fun later member => reads later (List.mem_cons_of_mem _ member))
        ((acc * base + value digit) % modulus) (Nat.mod_lt _ positive)
      rw [List.foldlM_cons, reads digit List.mem_cons_self acc reduced]
      refine rest.trans (congrArg some ?_)
      exact foldl_digits_modEq base value digits (Nat.mod_modEq _ modulus)

theorem byteBits_value (byte : Byte) (acc : Nat) :
    (byteBits byte).foldl (fun total bit => total * 2 + bit) acc = acc * 256 + byte.val := by
  have alone : ∀ byte : Byte, (byteBits byte).foldl (fun total bit => total * 2 + bit) 0 = byte.val := by
    decide +kernel
  rw [← alone byte]
  simp only [byteBits, List.map_cons, List.map_nil, List.foldl_cons, List.foldl_nil]
  ring

theorem byteBits_binary (byte : Byte) : ∀ bit ∈ byteBits byte, bit < 2 := by
  intro bit member
  obtain ⟨shift, -, rfl⟩ := List.mem_map.mp member
  exact Nat.mod_lt _ (by decide)

theorem reduceBits_eq (positive : 0 < modulus) (small : modulus < 2 ^ 128) {bits : List Nat}
    (binary : ∀ bit ∈ bits, bit < 2) :
    ∀ acc < modulus, bits.foldlM (reduceBit modulus (2 ^ 128 % modulus)) acc =
      some (bits.foldl (fun total bit => total * 2 + bit) acc % modulus) :=
  foldlM_digits_eq 2 id _ positive bits
    fun bit member _ reduced => reduceBit_eq small reduced (binary bit member)

theorem reduceU256BeModU128_eq (chunk : Bytes32) (positive : 0 < modulus)
    (small : modulus < 2 ^ 128) :
    reduceU256BeModU128 chunk modulus = some (ofBeBytes chunk.data % modulus) := by
  unfold reduceU256BeModU128
  rw [pow128_eq positive small]
  refine foldlM_digits_eq 256 Fin.val _ positive chunk.data ?_ 0 positive
  intro byte _ acc reduced
  have bits := reduceBits_eq positive small (byteBits_binary byte) acc reduced
  exact bits.trans (congrArg (some <| · % modulus) (byteBits_value byte acc))

def chunkBits (chunk : Bytes32) : List Nat := chunk.data.flatMap byteBits

theorem foldlM_byteBits (step : Nat → Nat → Option Nat) (bytes : Bytes) :
    ∀ acc, bytes.foldlM (fun acc byte => (byteBits byte).foldlM step acc) acc =
      (bytes.flatMap byteBits).foldlM step acc := by
  induction bytes with
  | nil => exact fun acc => rfl
  | cons byte rest ih =>
      intro acc
      rw [List.foldlM_cons, List.flatMap_cons, List.foldlM_append]
      exact congrArg _ (funext ih)

theorem chunkBits_binary (chunk : Bytes32) : ∀ bit ∈ chunkBits chunk, bit < 2 := by
  intro bit member
  obtain ⟨byte, _, listed⟩ := List.mem_flatMap.mp member
  exact byteBits_binary byte bit listed

/-- The reduction is exact for every modulus: the two loops read the bits one after the other,
and wherever they stand the next step fits into `u128` and keeps its carry. -/
theorem reduceU256BeModU128_exact (chunk : Bytes32) (modulus : Nat) (positive : 0 < modulus)
    (small : modulus ≤ u128Max) :
    let pow128ModM := (u128Max % modulus + 1) % modulus
    reduceU256BeModU128 chunk modulus = some (ofBeBytes chunk.data % modulus) ∧
      reduceU256BeModU128 chunk modulus = (chunkBits chunk).foldlM (reduceBit modulus pow128ModM) 0 ∧
      u128Max % modulus + 1 ≤ u128Max ∧
      ∀ read bit rest, chunkBits chunk = read ++ bit :: rest → ∃ acc,
        read.foldlM (reduceBit modulus pow128ModM) 0 = some acc ∧
          StepFits modulus pow128ModM acc bit := by
  have fits : modulus < 2 ^ 128 := Nat.lt_of_le_pred (by decide) small
  have unwrapped : u128Max % modulus + 1 ≤ u128Max := by
    have := Nat.mod_lt u128Max positive
    omega
  have power : (u128Max % modulus + 1) % modulus = 2 ^ 128 % modulus := by
    have below : u128Max % modulus + 1 < 2 ^ 128 := Nat.lt_of_le_pred (by decide) unwrapped
    rw [← pow128_eq positive fits, Nat.mod_eq_of_lt below]
  simp only [power]
  refine ⟨reduceU256BeModU128_eq chunk positive fits, ?_, unwrapped, ?_⟩
  · rw [reduceU256BeModU128, pow128_eq positive fits]
    exact foldlM_byteBits _ chunk.data 0
  · intro read bit rest split
    have binary := chunkBits_binary chunk
    rw [split] at binary
    have ran := reduceBits_eq positive fits
      (fun earlier member => binary earlier (List.mem_append_left _ member)) 0 positive
    exact ⟨_, ran, stepFits_of_lt fits (Nat.mod_lt _ positive) (binary bit (by simp))⟩

theorem reduceU256BeModU128_exact_greatest :
    reduceU256BeModU128 (Bytes32.fill 255) u128Max = some 0 := by
  have exact := (reduceU256BeModU128_exact (Bytes32.fill 255) u128Max (by decide) le_rfl).1
  have multiple : ofBeBytes (Bytes32.fill 255).data % u128Max = 0 := by decide +kernel
  rw [exact, multiple]

end Arithmetic

section Draws

variable {stakeOf : Nat → Nat}

theorem pickPosition_spec {selector : Nat} : ∀ (remaining : List Nat) (cumulative position : Nat),
    cumulative ≤ selector → selector < cumulative + (remaining.map stakeOf).sum →
    cumulative + (remaining.map stakeOf).sum < 2 ^ 128 →
    ∃ (offset : Nat) (inside : offset < remaining.length),
      pickPosition stakeOf selector remaining cumulative position = some (position + offset) ∧
      0 < stakeOf remaining[offset] := by
  intro remaining
  induction remaining with
  | nil =>
      intro cumulative position passed below _
      simp only [List.map_nil, List.sum_nil] at below
      omega
  | cons index rest ih =>
      intro cumulative position passed below fits
      rw [List.map_cons, List.sum_cons] at below fits
      have exact_sum : satAdd128 cumulative (stakeOf index) = cumulative + stakeOf index := by
        unfold satAdd128 u128Max
        omega
      by_cases here : cumulative + stakeOf index > selector
      · refine ⟨0, by simp, ?_, ?_⟩
        · simp only [pickPosition, exact_sum, if_pos here, Nat.add_zero]
        · simp only [List.getElem_cons_zero]
          omega
      · obtain ⟨offset, inside, found, staked⟩ :=
          ih (cumulative + stakeOf index) (position + 1) (by omega) (by omega) (by omega)
        refine ⟨offset + 1, by simpa using inside, ?_, ?_⟩
        · simp only [pickPosition, exact_sum, if_neg here, found]
          congr 1
          omega
        · simpa using staked

structure Drawn (stakeOf : Nat → Nat) (rounds : Nat) (remaining picked rest : List Nat) : Prop where
  parts : (picked ++ rest).Perm remaining
  staked : ∀ index ∈ picked, 0 < stakeOf index
  bounded : picked.length ≤ rounds
  exhausted : picked.length < rounds → (rest.map stakeOf).sum = 0

theorem Drawn.length_eq {rounds : Nat} {remaining picked rest : List Nat}
    (drawn : Drawn stakeOf rounds remaining picked rest) :
    picked.length = min rounds (remaining.countP fun index => 0 < stakeOf index) := by
  have all : picked.countP (fun index => 0 < stakeOf index) = picked.length :=
    List.countP_eq_length.mpr fun index member => decide_eq_true (drawn.staked index member)
  have counted := drawn.parts.countP_eq fun index => decide (0 < stakeOf index)
  rw [List.countP_append, all] at counted
  have bounded := drawn.bounded
  by_cases full : picked.length = rounds
  · omega
  · have empty := drawn.exhausted (by omega)
    have none_left : rest.countP (fun index => decide (0 < stakeOf index)) = 0 := by
      rw [List.countP_eq_zero]
      intro index member
      have single := List.single_le_sum (by simp) _ (List.mem_map_of_mem (f := stakeOf) member)
      simp only [decide_eq_true_eq]
      omega
    omega

theorem committeeRounds_spec (draw : Nat → Bytes32) :
    ∀ (rounds : List Nat) (remaining committee : List Nat),
      (remaining.map stakeOf).sum < 2 ^ 128 →
      ∃ picked rest, committeeRounds stakeOf draw rounds (remaining.map stakeOf).sum remaining
          committee = some (committee ++ picked) ∧
        Drawn stakeOf rounds.length remaining picked rest := by
  intro rounds
  induction rounds with
  | nil =>
      intro remaining committee _
      refine ⟨[], remaining, by simp [committeeRounds], ⟨.refl _, by simp, by simp, ?_⟩⟩
      intro early
      exact absurd early (by simp)
  | cons round rounds ih =>
      intro remaining committee fits
      by_cases spent : (remaining.map stakeOf).sum = 0
      · refine ⟨[], remaining, by simp [committeeRounds, spent], ⟨.refl _, by simp, by simp, ?_⟩⟩
        exact fun _ => spent
      · have positive : 0 < (remaining.map stakeOf).sum := by omega
        obtain ⟨offset, inside, found, staked⟩ := @pickPosition_spec stakeOf
          (ofBeBytes (draw round).data % (remaining.map stakeOf).sum) remaining 0 0
          (Nat.zero_le _) (by simpa using Nat.mod_lt _ positive) (by simpa using fits)
        rw [Nat.zero_add] at found
        -- Taking the picked one out takes exactly its stake out of the total.
        have taken := List.getElem_cons_eraseIdx_perm inside
        have total : (remaining.map stakeOf).sum - stakeOf remaining[offset] =
            ((remaining.eraseIdx offset).map stakeOf).sum := by
          have sums := (taken.map stakeOf).sum_eq
          rw [List.map_cons, List.sum_cons] at sums
          omega
        obtain ⟨picked, rest, ran, drawn⟩ := ih (remaining.eraseIdx offset)
          (committee ++ [remaining[offset]]) (by omega)
        have occupied : remaining.isEmpty = false := by
          cases remaining with
          | nil => simp at inside
          | cons _ _ => rfl
        refine ⟨remaining[offset] :: picked, rest, ?_, ?_, ?_, ?_, ?_⟩
        · simp only [committeeRounds, occupied, Bool.false_or, decide_eq_true_eq, if_neg spent,
            reduceU256BeModU128_eq (draw round) positive fits, found, Option.getD_some,
            List.getElem?_eq_getElem inside, Option.bind_eq_bind, Option.bind_some, total, ran]
          simp
        · exact (List.Perm.cons _ drawn.parts).trans taken
        · intro index member
          rcases List.mem_cons.mp member with rfl | later
          · exact staked
          · exact drawn.staked index later
        · simpa using drawn.bounded
        · intro early
          exact drawn.exhausted (by simpa using early)

theorem checkedSum_eq (stakes : List Nat) : ∀ acc : Nat, acc + stakes.sum < 2 ^ 128 →
    stakes.foldlM checkedAdd128 acc = some (acc + stakes.sum) := by
  induction stakes with
  | nil => simp
  | cons stake stakes ih =>
      intro acc fits
      rw [List.sum_cons] at fits ⊢
      rw [List.foldlM_cons, checkedAdd128_eq (by omega)]
      refine (ih (acc + stake) (by omega)).trans (congrArg some ?_)
      omega

end Draws

section Committee

variable {env : Env} {validators : List (Address × Nat)}

def stakeAt (validators : List (Address × Nat)) (index : Nat) : Nat :=
  (validators[index]?.map Prod.snd).getD 0

theorem map_stakeAt : (List.range validators.length).map (stakeAt validators) =
    validators.map Prod.snd := by
  apply List.ext_getElem
  · simp
  · intro index _ inside
    have bound : index < validators.length := by simpa using inside
    simp [stakeAt, List.getElem?_eq_getElem bound]

theorem countP_stakeAt : (List.range validators.length).countP (fun index => 0 < stakeAt validators index) =
    validators.countP fun validator => 0 < validator.2 := by
  have both := congrArg (List.countP fun stake => decide (0 < stake)) (@map_stakeAt validators)
  simpa [List.countP_map, Function.comp_def] using both

theorem selectCommittee_spec (stateRoot : Bytes32) (epoch : Nat)
    (many : syncCommitteeSize < validators.length) (fits : (validators.map Prod.snd).sum < 2 ^ 128) :
    ∃ committee, selectCommittee env stateRoot epoch validators = some committee ∧
      committee.length = min syncCommitteeSize (validators.countP fun validator => 0 < validator.2) ∧
      committee.Nodup ∧
      ∀ index ∈ committee, ∃ validator, validators[index]? = some validator ∧ 0 < validator.2 := by
  have occupied : validators.isEmpty = false := by
    cases validators with
    | nil => simp at many
    | cons _ _ => rfl
  obtain ⟨picked, rest, ran, drawn⟩ := @committeeRounds_spec (stakeAt validators)
    (fun round => env.shake256 ((taggedHash env (ascii "VIPER-SYNC-COMMITTEE-V1")
      (toBeBytes 8 epoch ++ stateRoot.data)).data ++ toBeBytes 8 round))
    (List.range syncCommitteeSize) (List.range validators.length) [] (by rwa [map_stakeAt])
  rw [map_stakeAt, List.nil_append] at ran
  have total := checkedSum_eq (validators.map Prod.snd) 0 (by omega)
  rw [Nat.zero_add] at total
  refine ⟨picked, ?_, ?_, ?_, ?_⟩
  · unfold selectCommittee
    rw [occupied, if_neg (by simp), if_neg (by omega), total]
    exact (Option.bind_some _ _).trans ran
  · rw [drawn.length_eq, List.length_range, countP_stakeAt]
  · have distinct := drawn.parts.nodup_iff.mpr List.nodup_range
    exact (List.nodup_append.mp distinct).1
  · intro index member
    have positive := drawn.staked index member
    have bound : index < validators.length :=
      List.mem_range.mp (drawn.parts.subset (List.mem_append_left _ member))
    refine ⟨validators[index], List.getElem?_eq_getElem bound, ?_⟩
    simpa [stakeAt, List.getElem?_eq_getElem bound] using positive

def staggeredStakes : List (Address × Nat) :=
  (List.range 17).map fun number => (Bytes32.fill (Fin.ofNat 256 number), number % 2)

theorem selectCommittee_spec_staggered :
    ∃ committee, selectCommittee sampleEnv (Bytes32.fill 1) 3 staggeredStakes = some committee ∧
      committee.length = 8 ∧ committee.Nodup ∧
      ∀ index ∈ committee, ∃ validator, staggeredStakes[index]? = some validator ∧ 0 < validator.2 :=
  selectCommittee_spec (Bytes32.fill 1) 3 (by decide) (by decide)

end Committee

end ViperChain
