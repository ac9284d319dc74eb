import Mathlib.Data.Finset.Card

/-!
Agreement for two-phase voting with locks, over an arbitrary history of votes; `LockDiscipline`
says what a correct voter never does.
-/

namespace LockingVotes

structure Committee (V : Type) [DecidableEq V] where
  members : Finset V
  faulty : Finset V
  quorum : Nat
  intersecting : members.card + faulty.card < 2 * quorum

variable {V X : Type} [DecidableEq V]

/-- A quorum whose correct members all cast `vote` for `value` in `round`. The faulty
members of the quorum are not constrained: they may support every value at once. -/
def Backed (committee : Committee V) (vote : V → Nat → X → Prop) (round : Nat) (value : X) :
    Prop :=
  ∃ voters ⊆ committee.members, committee.quorum ≤ voters.card ∧
    ∀ voter ∈ voters, voter ∉ committee.faulty → vote voter round value

theorem Committee.shared_correct (committee : Committee V) {left right : Finset V}
    (leftMembers : left ⊆ committee.members) (rightMembers : right ⊆ committee.members)
    (leftQuorum : committee.quorum ≤ left.card) (rightQuorum : committee.quorum ≤ right.card) :
    ∃ voter, voter ∈ left ∧ voter ∈ right ∧ voter ∉ committee.faulty := by
  have unionBound : (left ∪ right).card ≤ committee.members.card :=
    Finset.card_le_card (Finset.union_subset leftMembers rightMembers)
  have counted := Finset.card_union_add_card_inter left right
  have enough : committee.faulty.card < (left ∩ right).card := by
    have := committee.intersecting
    omega
  obtain ⟨voter, shared, correct⟩ := Finset.exists_mem_notMem_of_card_lt_card enough
  rw [Finset.mem_inter] at shared
  exact ⟨voter, shared.1, shared.2, correct⟩

theorem Backed.shared_correct {committee : Committee V} {first second : V → Nat → X → Prop}
    {firstRound secondRound : Nat} {firstValue secondValue : X}
    (left : Backed committee first firstRound firstValue)
    (right : Backed committee second secondRound secondValue) :
    ∃ voter, voter ∉ committee.faulty ∧ first voter firstRound firstValue ∧
      second voter secondRound secondValue := by
  obtain ⟨leftVoters, leftMembers, leftQuorum, leftVotes⟩ := left
  obtain ⟨rightVoters, rightMembers, rightQuorum, rightVotes⟩ := right
  obtain ⟨voter, inLeft, inRight, correct⟩ :=
    committee.shared_correct leftMembers rightMembers leftQuorum rightQuorum
  exact ⟨voter, correct, leftVotes voter inLeft correct, rightVotes voter inRight correct⟩

theorem Backed.mono {committee : Committee V} {vote later : V → Nat → X → Prop}
    {round : Nat} {value : X}
    (grows : ∀ voter, vote voter round value → later voter round value)
    (backed : Backed committee vote round value) : Backed committee later round value := by
  obtain ⟨voters, members, quorum, votes⟩ := backed
  exact ⟨voters, members, quorum, fun voter member correct =>
    grows voter (votes voter member correct)⟩

/-- What the history of every correct voter satisfies. `relock` is the locking rule: after
a precommit, a prevote for something else needs a quorum of prevotes cast in between. -/
structure LockDiscipline (committee : Committee V) (prevoted precommitted : V → Nat → X → Prop) :
    Prop where
  prevoteUnique : ∀ voter round left right, voter ∉ committee.faulty →
    prevoted voter round left → prevoted voter round right → left = right
  justified : ∀ voter round value, voter ∉ committee.faulty →
    precommitted voter round value → Backed committee prevoted round value
  relock : ∀ voter early late locked value, voter ∉ committee.faulty → early < late →
    precommitted voter early locked → prevoted voter late value →
    locked = value ∨ ∃ between, early < between ∧ between < late ∧
      Backed committee prevoted between value

section Agreement

variable {committee : Committee V} {prevoted precommitted : V → Nat → X → Prop}

theorem LockDiscipline.backed_unique (discipline : LockDiscipline committee prevoted precommitted)
    {round : Nat} {left right : X} (leftBacked : Backed committee prevoted round left)
    (rightBacked : Backed committee prevoted round right) : left = right := by
  obtain ⟨voter, correct, leftVote, rightVote⟩ := leftBacked.shared_correct rightBacked
  exact discipline.prevoteUnique voter round left right correct leftVote rightVote

theorem LockDiscipline.committed_backed
    (discipline : LockDiscipline committee prevoted precommitted) {round : Nat} {value : X}
    (committed : Backed committee precommitted round value) :
    Backed committee prevoted round value := by
  obtain ⟨voter, correct, vote, _⟩ := committed.shared_correct committed
  exact discipline.justified voter round value correct vote

/-- A committed value is the only one that can gather a prevote quorum in a later round. -/
theorem LockDiscipline.later_backed (discipline : LockDiscipline committee prevoted precommitted)
    {early : Nat} {locked : X} (committed : Backed committee precommitted early locked) :
    ∀ late value, early < late → Backed committee prevoted late value → value = locked := by
  intro late
  induction late using Nat.strongRecOn with
  | ind late ih =>
      intro value after backed
      obtain ⟨voter, correct, lock, vote⟩ := committed.shared_correct backed
      rcases discipline.relock voter early late locked value correct after lock vote with
        same | ⟨between, low, high, unlocking⟩
      · exact same.symm
      · exact ih between high value low unlocking

theorem LockDiscipline.agreement_ordered
    (discipline : LockDiscipline committee prevoted precommitted) {early late : Nat}
    {left right : X} (ordered : early ≤ late)
    (leftCommitted : Backed committee precommitted early left)
    (rightCommitted : Backed committee precommitted late right) : left = right := by
  have rightBacked := discipline.committed_backed rightCommitted
  rcases Nat.eq_or_lt_of_le ordered with same | after
  · subst same
    exact discipline.backed_unique (discipline.committed_backed leftCommitted) rightBacked
  · exact (discipline.later_backed leftCommitted late right after rightBacked).symm

/-- Two values with a precommit quorum each, in whatever rounds, are the same value. -/
theorem LockDiscipline.agreement (discipline : LockDiscipline committee prevoted precommitted)
    {leftRound rightRound : Nat} {left right : X}
    (leftCommitted : Backed committee precommitted leftRound left)
    (rightCommitted : Backed committee precommitted rightRound right) : left = right := by
  rcases Nat.le_total leftRound rightRound with ordered | ordered
  · exact discipline.agreement_ordered ordered leftCommitted rightCommitted
  · exact (discipline.agreement_ordered ordered rightCommitted leftCommitted).symm

end Agreement

end LockingVotes
