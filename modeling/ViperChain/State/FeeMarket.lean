import ViperChain.Assumptions
import ViperChain.State.Store

/-!
The fee market. The terms of the series grow with the excess, in spite of rounding and
saturation.
-/

namespace ViperChain

section Arithmetic

theorem satAdd64_mono {left right left' right' : Nat} (first : left ≤ left') (second : right ≤ right') :
    satAdd64 left right ≤ satAdd64 left' right' :=
  min_le_min_right _ (Nat.add_le_add first second)

theorem satAdd128_mono {left right left' right' : Nat} (first : left ≤ left')
    (second : right ≤ right') : satAdd128 left right ≤ satAdd128 left' right' :=
  min_le_min_right _ (Nat.add_le_add first second)

theorem satMul128_mono {left right left' right' : Nat} (first : left ≤ left')
    (second : right ≤ right') : satMul128 left right ≤ satMul128 left' right' :=
  min_le_min_right _ (Nat.mul_le_mul first second)

theorem satMul128_pos {left right : Nat} (first : 0 < left) (second : 0 < right) :
    0 < satMul128 left right :=
  lt_min (Nat.mul_pos first second) (by decide)

theorem satMul64_pos {left right : Nat} (first : 0 < left) (second : 0 < right) :
    0 < satMul64 left right :=
  lt_min (Nat.mul_pos first second) (by decide)

theorem clamp_eq {low high : Nat} (ordered : low ≤ high) (value : Nat) :
    clamp low high value = max low (min high value) := by
  unfold clamp
  split
  · omega
  · split <;> omega

theorem clamp_mono {low high : Nat} (ordered : low ≤ high) {left right : Nat} (le : left ≤ right) :
    clamp low high left ≤ clamp low high right := by
  rw [clamp_eq ordered, clamp_eq ordered]
  exact max_le_max_left low (min_le_min_left high le)

theorem clamp_mem {low high : Nat} (ordered : low ≤ high) (value : Nat) :
    low ≤ clamp low high value ∧ clamp low high value ≤ high := by
  rw [clamp_eq ordered]
  exact ⟨le_max_left _ _, max_le ordered (min_le_left _ _)⟩

theorem clamp_self {low high : Nat} (ordered : low ≤ high) : clamp low high low = low := by
  rw [clamp_eq ordered, min_eq_right ordered, max_self]

end Arithmetic

section Series

variable {numerator denominator : Nat}

theorem le_fakeExponentialLoop (fuel index output accumulator : Nat) (fits : output ≤ u128Max) :
    output ≤ fakeExponentialLoop numerator denominator fuel index output accumulator := by
  induction fuel generalizing index output accumulator with
  | zero => exact le_rfl
  | succ fuel ih =>
      unfold fakeExponentialLoop
      split
      · exact le_rfl
      · have grown : output ≤ satAdd128 output accumulator :=
          le_min (Nat.le_add_right _ _) fits
        exact grown.trans (ih _ _ _ (min_le_right _ _))

theorem fakeExponentialLoop_mono {larger : Nat} (le : numerator ≤ larger) (fuel index : Nat)
    {output output' accumulator accumulator' : Nat} (outputs : output ≤ output')
    (accumulators : accumulator ≤ accumulator') (fits : output' ≤ u128Max) :
    fakeExponentialLoop numerator denominator fuel index output accumulator ≤
      fakeExponentialLoop larger denominator fuel index output' accumulator' := by
  induction fuel generalizing index output output' accumulator accumulator' with
  | zero => exact outputs
  | succ fuel ih =>
      by_cases ended : accumulator = 0
      · have stays : fakeExponentialLoop numerator denominator (fuel + 1) index output accumulator =
            output := by simp [fakeExponentialLoop, ended]
        rw [stays]
        exact outputs.trans (le_fakeExponentialLoop _ _ _ _ fits)
      · have continues : accumulator' ≠ 0 := by omega
        simp only [fakeExponentialLoop, ended, continues, if_false]
        refine ih _ (satAdd128_mono outputs accumulators) ?_ (min_le_right _ _)
        exact Nat.div_le_div_right (satMul128_mono accumulators le)

theorem fakeExponential_mono (factor : Nat) {smaller larger : Nat} (le : smaller ≤ larger) :
    fakeExponential factor smaller denominator ≤ fakeExponential factor larger denominator := by
  unfold fakeExponential
  split
  · exact le_rfl
  · have sums := @fakeExponentialLoop_mono _ denominator _ le 128 1 _ _ _ _ (le_refl 0)
      (le_refl (satMul128 factor denominator)) (Nat.zero_le _)
    exact min_le_min_right _ (Nat.div_le_div_right sums)

theorem satMul128_u64 {left right : Nat} (first : left ≤ u64Max) (second : right ≤ u64Max) :
    satMul128 left right = left * right := by
  refine min_eq_left ((Nat.mul_le_mul first second).trans ?_)
  decide

theorem le_fakeExponential {factor : Nat} (positive : 0 < denominator) (small : factor ≤ u64Max)
    (width : denominator ≤ u64Max) : factor ≤ fakeExponential factor numerator denominator := by
  have first : factor * denominator ≤
      fakeExponentialLoop numerator denominator 128 1 0 (factor * denominator) := by
    by_cases zero : factor * denominator = 0
    · simp [zero]
    · have fits : factor * denominator ≤ u128Max := by
        rw [← satMul128_u64 small width]
        exact min_le_right _ _
      have start : satAdd128 0 (factor * denominator) = factor * denominator := by
        simpa [satAdd128] using fits
      rw [fakeExponentialLoop, if_neg zero, start]
      exact le_fakeExponentialLoop _ _ _ _ fits
  rw [fakeExponential, if_neg positive.ne', satMul128_u64 small width]
  exact le_min ((Nat.le_div_iff_mul_le positive).mpr first) small

theorem fakeExponential_zero {factor : Nat} (positive : 0 < denominator) (small : factor ≤ u64Max)
    (width : denominator ≤ u64Max) : fakeExponential factor 0 denominator = factor := by
  have fits : factor * denominator ≤ u128Max := by
    rw [← satMul128_u64 small width]
    exact min_le_right _ _
  have sum : fakeExponentialLoop 0 denominator 128 1 0 (factor * denominator) =
      factor * denominator := by
    by_cases zero : factor * denominator = 0
    · simp [fakeExponentialLoop, zero]
    · have start : satAdd128 0 (factor * denominator) = factor * denominator := by
        simpa [satAdd128] using fits
      have next : satMul128 (factor * denominator) 0 / satMul128 denominator 1 = 0 := by
        simp [satMul128]
      rw [fakeExponentialLoop, if_neg zero, start, next]
      simp [fakeExponentialLoop]
  simp only [fakeExponential, if_neg positive.ne', satMul128_u64 small width, sum,
    Nat.mul_div_cancel _ positive]
  exact min_eq_left small

end Series

section Checked

def checkedDiv (left right : Nat) : Option Nat := if right = 0 then none else some (left / right)

def checkedAdd128 (left right : Nat) : Option Nat :=
  if left + right ≤ u128Max then some (left + right) else none

def fakeExponentialLoopChecked (numerator denominator : Nat) : Nat → Nat → Nat → Nat → Option Nat
  | 0, _, output, _ => some output
  | fuel + 1, index, output, accumulator =>
      if accumulator = 0 then some output
      else do
        let next ← checkedDiv (satMul128 accumulator numerator) (satMul128 denominator index)
        let following ← checkedAdd128 index 1
        fakeExponentialLoopChecked numerator denominator fuel following
          (satAdd128 output accumulator) next

/-- `fake_exponential`, and `none` where an operation of it panics or loses bits. -/
def fakeExponentialChecked (factor numerator denominator : Nat) : Option Nat :=
  if denominator = 0 then some factor
  else do
    let output ←
      fakeExponentialLoopChecked numerator denominator 128 1 0 (satMul128 factor denominator)
    let clamped ← checkedDiv output denominator
    let narrowed := min clamped u64Max
    if narrowed < 2 ^ 64 then some narrowed else none

theorem fakeExponentialLoopChecked_eq {numerator denominator : Nat} (positive : 0 < denominator)
    (fuel index output accumulator : Nat) (counting : 0 < index) (bounded : index + fuel ≤ u128Max) :
    fakeExponentialLoopChecked numerator denominator fuel index output accumulator =
      some (fakeExponentialLoop numerator denominator fuel index output accumulator) := by
  induction fuel generalizing index output accumulator with
  | zero => rfl
  | succ fuel ih =>
      unfold fakeExponentialLoopChecked fakeExponentialLoop
      split
      · rfl
      · have divides : checkedDiv (satMul128 accumulator numerator) (satMul128 denominator index) =
            some (satMul128 accumulator numerator / satMul128 denominator index) :=
          if_neg (satMul128_pos positive counting).ne'
        have counts : checkedAdd128 index 1 = some (index + 1) := if_pos (by omega)
        rw [divides, counts]
        exact ih (index + 1) _ _ (Nat.succ_pos _) (by omega)

theorem fakeExponentialChecked_eq (factor numerator denominator : Nat) :
    fakeExponentialChecked factor numerator denominator =
      some (fakeExponential factor numerator denominator) := by
  unfold fakeExponentialChecked fakeExponential
  split
  case isTrue => rfl
  case isFalse nonzero =>
    have runs := @fakeExponentialLoopChecked_eq numerator _ (Nat.pos_of_ne_zero nonzero) 128 1 0
      (satMul128 factor denominator) (by decide) (by decide)
    rw [runs]
    have narrow : min (fakeExponentialLoop numerator denominator 128 1 0
        (satMul128 factor denominator) / denominator) u64Max < 2 ^ 64 :=
      (min_le_right _ _).trans_lt (by decide)
    simp only [Option.bind_eq_bind, Option.bind_some, checkedDiv, if_neg nonzero, if_pos narrow]

end Checked

section Market

inductive FeeDimension where
  | compute | storage | witness | contention
deriving DecidableEq

def FeeMarketState.dimension (market : FeeMarketState) : FeeDimension → FeeMarketDimension
  | .compute => market.compute
  | .storage => market.storage
  | .witness => market.witness
  | .contention => market.contention

structure FeeMarketDimension.Sound (dimension : FeeMarketDimension) : Prop where
  floor_pos : 1 ≤ dimension.reserveFloor
  floor_le : dimension.reserveFloor ≤ baseFeeMax
  fraction_pos : 1 ≤ dimension.updateFraction

def StateStore.afterUsage (env : Env) (store : StateStore) (used : FeeDimension → Nat) : StateStore :=
  store.applyFeeMarketStep env (used .compute) (used .storage) (used .witness) (used .contention)

theorem dimension_afterUsage (env : Env) (store : StateStore) (used : FeeDimension → Nat)
    (kind : FeeDimension) :
    (store.afterUsage env used).feeMarket.dimension kind =
      (store.feeMarket.dimension kind).step (used kind) := by
  cases kind <;> rfl

namespace FeeMarketDimension

variable {dimension : FeeMarketDimension}

theorem Sound.denominator_pos (sound : dimension.Sound) :
    0 < satMul64 dimension.reserveFloor dimension.updateFraction :=
  satMul64_pos sound.floor_pos sound.fraction_pos

theorem Sound.floor_le_u64 (sound : dimension.Sound) : dimension.reserveFloor ≤ u64Max :=
  sound.floor_le.trans (by decide)

theorem Sound.step_bounds (sound : dimension.Sound) (used : Nat) :
    dimension.reserveFloor ≤ (dimension.step used).baseFee ∧
      (dimension.step used).baseFee ≤ baseFeeMax :=
  clamp_mem sound.floor_le _

theorem Sound.step_rested (sound : dimension.Sound) {used : Nat}
    (rested : (dimension.step used).excess = 0) :
    (dimension.step used).baseFee = dimension.reserveFloor := by
  have excess : satAdd64 dimension.excess used - dimension.target = 0 := rested
  simp only [step, excess]
  rw [fakeExponential_zero sound.denominator_pos sound.floor_le_u64 (min_le_right _ _)]
  exact clamp_self sound.floor_le

structure SameCurve (left right : FeeMarketDimension) : Prop where
  target : left.target = right.target
  reserveFloor : left.reserveFloor = right.reserveFloor
  updateFraction : left.updateFraction = right.updateFraction

theorem Sound.step_mono {other : FeeMarketDimension} (sound : dimension.Sound)
    (same : SameCurve dimension other) {used more : Nat} (excess : dimension.excess ≤ other.excess)
    (usage : used ≤ more) : (dimension.step used).baseFee ≤ (other.step more).baseFee := by
  simp only [step, ← same.target, ← same.reserveFloor, ← same.updateFraction]
  refine clamp_mono sound.floor_le (fakeExponential_mono _ ?_)
  exact Nat.sub_le_sub_right (satAdd64_mono excess usage) _

end FeeMarketDimension

/-- Every base fee stays between its floor and the maximum, is the floor when nothing is in excess,
and grows with the excess and the usage; the series grows with its argument and never panics. -/
theorem feeMarket_bounded_monotone (env : Env) (store other : StateStore)
    (sound : ∀ kind, (store.feeMarket.dimension kind).Sound)
    (used more : FeeDimension → Nat) (kind : FeeDimension) :
    (let before := store.feeMarket.dimension kind
     let after := (store.afterUsage env used).feeMarket.dimension kind
     (before.reserveFloor ≤ after.baseFee ∧ after.baseFee ≤ baseFeeMax) ∧
      (after.excess = 0 → after.baseFee = before.reserveFloor) ∧
      (before.SameCurve (other.feeMarket.dimension kind) →
        before.excess ≤ (other.feeMarket.dimension kind).excess → used kind ≤ more kind →
        after.baseFee ≤ ((other.afterUsage env more).feeMarket.dimension kind).baseFee)) ∧
    ∀ factor numerator denominator, factor ≤ u64Max → numerator ≤ u64Max → 1 ≤ denominator →
      denominator ≤ u64Max →
      factor ≤ fakeExponential factor numerator denominator ∧
      (∀ larger, numerator ≤ larger → larger ≤ u64Max →
        fakeExponential factor numerator denominator ≤ fakeExponential factor larger denominator) ∧
      fakeExponentialChecked factor numerator denominator =
        some (fakeExponential factor numerator denominator) := by
  constructor
  · simp only [dimension_afterUsage]
    refine ⟨(sound kind).step_bounds _, (sound kind).step_rested, fun same excess usage => ?_⟩
    exact (sound kind).step_mono same excess usage
  · intro factor numerator denominator small _ positive width
    exact ⟨le_fakeExponential positive small width, fun larger le _ => fakeExponential_mono factor le,
      fakeExponentialChecked_eq factor numerator denominator⟩

theorem feeMarket_bounded_monotone_full :
    (∀ kind, ((StateStore.new sampleEnv).feeMarket.dimension kind).Sound) ∧
      computeReserveFloor ≤ (((StateStore.new sampleEnv).afterUsage sampleEnv fun _ =>
        defaultBlockGasLimit).feeMarket.dimension .compute).baseFee := by
  have sound : ∀ kind, ((StateStore.new sampleEnv).feeMarket.dimension kind).Sound := by
    intro kind
    cases kind <;> exact ⟨by decide, by decide, by decide⟩
  exact ⟨sound, (feeMarket_bounded_monotone sampleEnv (StateStore.new sampleEnv)
    (StateStore.new sampleEnv) sound (fun _ => defaultBlockGasLimit) (fun _ => 0) .compute).1.1.1⟩

end Market

end ViperChain
