import ViperChain.Library.Runs
import ViperChain.Consensus.RoundAgreement

/-!
Arrival order. A vote is stored whatever round it is for, but a quorum is only looked for
when a vote of the current round arrives.
-/

namespace ViperChain

namespace VoteStore

def countFor (store : VoteStore) (step : VoteStep) (height round : Nat) (blockHash : Bytes32) :
    Nat :=
  ((store.votesAt step height round).filter fun vote => vote.blockHash = blockHash).length

theorem hasPolka_iff {store : VoteStore} {height round quorum : Nat} {blockHash : Bytes32} :
    store.hasPolka height round blockHash quorum = true ↔
      blockHash ≠ nilHash ∧ quorum ≤ store.countFor .prevote height round blockHash := by
  unfold hasPolka
  split
  · simp_all
  · rename_i proper
    exact ⟨fun reached => ⟨proper, of_decide_eq_true reached⟩,
      fun reached => decide_eq_true reached.2⟩

theorem hasCommitQuorum_iff {store : VoteStore} {height round quorum : Nat}
    {blockHash : Bytes32} :
    store.hasCommitQuorum height round blockHash quorum = true ↔
      blockHash ≠ nilHash ∧ quorum ≤ store.countFor .precommit height round blockHash := by
  unfold hasCommitQuorum
  split
  · simp_all
  · rename_i proper
    exact ⟨fun reached => ⟨proper, of_decide_eq_true reached⟩,
      fun reached => decide_eq_true reached.2⟩

def Completes (store : VoteStore) (vote : ConsensusVote) (step : VoteStep)
    (height round quorum : Nat) : Prop :=
  store.get vote.key = none ∧ vote.step = step ∧ vote.height = height ∧ vote.round = round ∧
    vote.blockHash ≠ nilHash ∧ store.countFor step height round vote.blockHash + 1 = quorum

instance (store : VoteStore) (vote : ConsensusVote) (step : VoteStep)
    (height round quorum : Nat) : Decidable (store.Completes vote step height round quorum) :=
  inferInstanceAs (Decidable (_ ∧ _))

theorem countFor_record (store : VoteStore) (vote : ConsensusVote) (step : VoteStep)
    (height round : Nat) (blockHash : Bytes32) :
    (store.record vote).1.countFor step height round blockHash =
      store.countFor step height round blockHash +
        if store.get vote.key = none ∧ vote.step = step ∧ vote.height = height ∧
            vote.round = round ∧ vote.blockHash = blockHash then 1 else 0 := by
  unfold record
  split
  · rename_i existing found
    split <;> simp [found, countFor, votesAt]
  · rename_i found
    simp only [countFor, votesAt, List.filter_cons]
    by_cases here : vote.height = height ∧ vote.round = round ∧ vote.step = step
    · by_cases same : vote.blockHash = blockHash <;> simp [here, same, found]
    · rw [if_neg (by simpa using here), if_neg (by tauto)]
      rfl

theorem quorum_record_iff {store : VoteStore} {vote : ConsensusVote} {step : VoteStep}
    {height round quorum : Nat} {blockHash : Bytes32}
    (short : ¬ (blockHash ≠ nilHash ∧ quorum ≤ store.countFor step height round blockHash)) :
    (blockHash ≠ nilHash ∧
        quorum ≤ (store.record vote).1.countFor step height round blockHash) ↔
      store.Completes vote step height round quorum ∧ vote.blockHash = blockHash := by
  rw [countFor_record, Completes]
  constructor
  · rintro ⟨proper, reached⟩
    have below : store.countFor step height round blockHash < quorum := by
      by_contra enough
      exact short ⟨proper, by omega⟩
    split at reached
    · rename_i added
      obtain ⟨fresh, rightStep, rightHeight, rightRound, same⟩ := added
      subst same
      exact ⟨⟨fresh, rightStep, rightHeight, rightRound, proper, by omega⟩, rfl⟩
    · omega
  · rintro ⟨⟨fresh, rightStep, rightHeight, rightRound, proper, last⟩, same⟩
    subst same
    refine ⟨proper, ?_⟩
    rw [if_pos ⟨fresh, rightStep, rightHeight, rightRound, rfl⟩]
    omega

end VoteStore

namespace ConsensusRound

def run (machine : ConsensusRound) (events : List Event) : ConsensusRound :=
  events.foldl (fun current event => (current.handle event).1) machine

theorem onPrevote_frame (machine : ConsensusRound) (vote : ConsensusVote) :
    (machine.onPrevote vote).1.voteStore = (machine.voteStore.record vote).1 ∧
      (machine.onPrevote vote).1.height = machine.height ∧
      (machine.onPrevote vote).1.round = machine.round ∧
      (machine.onPrevote vote).1.validatorCount = machine.validatorCount ∧
      ((machine.onPrevote vote).1.phase = .decided ↔ machine.phase = .decided) := by
  simp only [onPrevote]
  split_ifs <;> simp_all

theorem onPrecommit_frame (machine : ConsensusRound) (vote : ConsensusVote) :
    (machine.onPrecommit vote).1.voteStore = (machine.voteStore.record vote).1 ∧
      (machine.onPrecommit vote).1.height = machine.height ∧
      (machine.onPrecommit vote).1.round = machine.round ∧
      (machine.onPrecommit vote).1.validatorCount = machine.validatorCount := by
  simp only [onPrecommit]
  split_ifs <;> simp_all

theorem onPrecommit_current {machine : ConsensusRound} {vote : ConsensusVote}
    (undecided : machine.phase ≠ .decided) (height : vote.height = machine.height)
    (round : vote.round = machine.round) (proper : vote.blockHash ≠ nilHash) :
    (machine.onPrecommit vote).1.phase = .decided ↔
      (machine.voteStore.record vote).1.hasCommitQuorum machine.height machine.round
        vote.blockHash machine.quorum = true := by
  simp only [onPrecommit, undecided, height, round, proper, ne_eq, not_true_eq_false, or_self,
    if_false]
  split
  · rename_i reached
    exact iff_of_true rfl reached
  · rename_i missing
    exact iff_of_false undecided missing

theorem onPrecommit_phase (machine : ConsensusRound) (vote : ConsensusVote) :
    (machine.onPrecommit vote).1.phase = machine.phase ∨
      (machine.onPrecommit vote).1.phase = .decided := by
  simp only [onPrecommit]
  split_ifs <;> simp

/-! ### Commit quorums -/

def DecisionComplete (machine : ConsensusRound) : Prop :=
  ∀ round ≤ machine.round, ∀ blockHash,
    machine.voteStore.hasCommitQuorum machine.height round blockHash machine.quorum = true →
      machine.phase = .decided

/-- The events at which a commit quorum stays unanswered: it was stored early and its round begins,
or its last precommit comes late or through the prevote handler. -/
def MissesCommit (machine : ConsensusRound) : Event → Prop
  | .precommitTimeout => machine.phase ≠ .decided ∧ ∃ blockHash,
      machine.voteStore.hasCommitQuorum machine.height (machine.round + 1) blockHash
        machine.quorum = true
  | .precommit vote => machine.phase ≠ .decided ∧ vote.round < machine.round ∧
      machine.voteStore.Completes vote .precommit machine.height vote.round machine.quorum
  | .prevote vote => machine.phase ≠ .decided ∧ vote.round ≤ machine.round ∧
      machine.voteStore.Completes vote .precommit machine.height vote.round machine.quorum
  | .proposal _ | .proposeTimeout | .prevoteTimeout => False

theorem decisionComplete_iff_of_undecided {machine : ConsensusRound}
    (undecided : machine.phase ≠ .decided) :
    machine.DecisionComplete ↔ ∀ round ≤ machine.round, ∀ blockHash,
      ¬ (blockHash ≠ nilHash ∧ machine.quorum ≤
        machine.voteStore.countFor .precommit machine.height round blockHash) := by
  simp only [DecisionComplete, VoteStore.hasCommitQuorum_iff, undecided, imp_false]

theorem decisionComplete_recorded_iff {machine next : ConsensusRound} {vote : ConsensusVote}
    (undecided : machine.phase ≠ .decided) (complete : machine.DecisionComplete)
    (store : next.voteStore = (machine.voteStore.record vote).1)
    (height : next.height = machine.height) (round : next.round = machine.round)
    (count : next.validatorCount = machine.validatorCount) (phase : next.phase ≠ .decided) :
    next.DecisionComplete ↔ ¬ (vote.round ≤ machine.round ∧
      machine.voteStore.Completes vote .precommit machine.height vote.round machine.quorum) := by
  have short := (decisionComplete_iff_of_undecided undecided).mp complete
  have quorum : next.quorum = machine.quorum := by rw [ConsensusRound.quorum, count]; rfl
  rw [decisionComplete_iff_of_undecided phase, store, height, round, quorum]
  constructor
  · rintro absent ⟨early, completes⟩
    exact absent _ early vote.blockHash
      ((VoteStore.quorum_record_iff (short _ early _)).mpr ⟨completes, rfl⟩)
  · intro incomplete at_ early blockHash reached
    obtain ⟨completes, _⟩ := (VoteStore.quorum_record_iff (short at_ early blockHash)).mp reached
    obtain rfl : vote.round = at_ := completes.2.2.2.1
    exact incomplete ⟨early, completes⟩

theorem handle_decisionComplete_iff (machine : ConsensusRound) (event : Event)
    (complete : machine.DecisionComplete) :
    (machine.handle event).1.DecisionComplete ↔ ¬ machine.MissesCommit event := by
  by_cases decided : machine.phase = .decided
  · rw [handle_decided event decided]
    have kept : DecisionComplete { machine with voteStore := machine.storeAfter event } :=
      fun _ _ _ _ => decided
    have unmissed : ¬ machine.MissesCommit event := by
      cases event <;> simp [MissesCommit, decided]
    exact iff_of_true kept unmissed
  have short := (decisionComplete_iff_of_undecided decided).mp complete
  cases event with
  | proposal blockHash =>
      simp only [handle, onProposalReceived, MissesCommit, not_false_eq_true, iff_true]
      split
      · exact complete
      · exact (decisionComplete_iff_of_undecided (by simp)).mpr short
  | proposeTimeout =>
      simp only [handle, onProposeTimeout, MissesCommit, not_false_eq_true, iff_true]
      split
      · exact complete
      · exact (decisionComplete_iff_of_undecided (by simp)).mpr short
  | prevoteTimeout =>
      simp only [handle, onPrevoteTimeout, MissesCommit, not_false_eq_true, iff_true]
      split
      · exact complete
      · exact (decisionComplete_iff_of_undecided (by simp)).mpr short
  | prevote vote =>
      obtain ⟨store, height, round, count, phase⟩ := machine.onPrevote_frame vote
      rw [handle, decisionComplete_recorded_iff decided complete store height round count
        (by rwa [ne_eq, phase])]
      simp [MissesCommit, decided]
  | precommit vote =>
      obtain ⟨store, height, round, count⟩ := machine.onPrecommit_frame vote
      rw [handle]
      by_cases settles : (machine.onPrecommit vote).1.phase = .decided
      · -- the vote is for the current round, so it is not one of the late ones
        refine iff_of_true (fun _ _ _ _ => settles) ?_
        rintro ⟨_, late, _⟩
        have elsewhere : vote.height ≠ machine.height ∨ vote.round ≠ machine.round :=
          .inr (Nat.ne_of_lt late)
        simp [onPrecommit, decided, elsewhere] at settles
      · rw [decisionComplete_recorded_iff decided complete store height round count settles]
        simp only [MissesCommit, ne_eq, decided, not_false_eq_true, true_and]
        refine not_congr ⟨?_, fun missed => ⟨missed.1.le, missed.2⟩⟩
        rintro ⟨early, completes⟩
        refine ⟨lt_of_le_of_ne early fun current => settles ?_, completes⟩
        -- a completing vote of the current round would have been answered
        have answered := VoteStore.hasCommitQuorum_iff.mpr
          ((VoteStore.quorum_record_iff (short _ early _)).mpr ⟨completes, rfl⟩)
        obtain ⟨_, _, sameHeight, _, proper, _⟩ := completes
        rw [current] at answered
        exact (onPrecommit_current decided sameHeight current proper).mpr answered
  | precommitTimeout =>
      simp only [handle, onPrecommitTimeout, if_neg decided, MissesCommit]
      rw [decisionComplete_iff_of_undecided (by simp)]
      simp only [ne_eq, decided, not_false_eq_true, true_and, not_exists,
        VoteStore.hasCommitQuorum_iff]
      constructor
      · intro absent blockHash reached
        exact absent _ le_rfl blockHash reached
      · intro absent at_ early blockHash reached
        rcases Nat.lt_or_ge machine.round at_ with later | earlier
        · obtain rfl : at_ = machine.round + 1 := by
            have : at_ ≤ machine.round + 1 := early
            omega
          exact absent blockHash reached
        · exact short at_ earlier blockHash reached

/-- Along a run every stored commit quorum of a round reached so far has led to a decision,
unless some event of the run is one that `MissesCommit` names. -/
theorem decisionComplete_along_iff (height validatorCount : Nat) (events : List Event) :
    (∀ early, early <+: events → ((new height validatorCount).run early).DecisionComplete) ↔
      ∀ early event, early ++ [event] <+: events →
        ¬ ((new height validatorCount).run early).MissesCommit event := by
  refine Runs.holds_along_iff _ DecisionComplete MissesCommit handle_decisionComplete_iff ?_ events
  rw [decisionComplete_iff_of_undecided (by simp [new])]
  rintro round - blockHash ⟨-, reached⟩
  simp [new, VoteStore.new, VoteStore.countFor, VoteStore.votesAt, ConsensusRound.quorum,
    quorumSize] at reached

def earlyPrecommits (block : Bytes32) : List Event :=
  correctThree.map fun voter => .precommit (castVote 7 .precommit voter 1 block)

theorem earlyPrecommits_undecided :
    ¬ ((new 7 4).run
      (earlyPrecommits (Bytes32.fill 17) ++ [.precommitTimeout])).DecisionComplete := by
  intro complete
  have decided := complete 1 (by decide +kernel) (Bytes32.fill 17) (by decide +kernel)
  have waiting : ((new 7 4).run
      (earlyPrecommits (Bytes32.fill 17) ++ [.precommitTimeout])).phase = .propose := by
    decide +kernel
  simp [waiting] at decided

/-! ### Polkas -/

def PolkaAnswered (machine : ConsensusRound) : Prop :=
  machine.phase = .prevote → ∀ blockHash,
    machine.voteStore.hasPolka machine.height machine.round blockHash machine.quorum = false

/-- The events that leave a machine waiting for a polka it stores: the prevotes came before it began
to wait, or the last of them comes through the precommit handler and does not decide. -/
def MissesPolka (machine : ConsensusRound) : Event → Prop
  | .proposal _ | .proposeTimeout => machine.phase = .propose ∧ ∃ blockHash,
      machine.voteStore.hasPolka machine.height machine.round blockHash machine.quorum = true
  | .precommit vote => machine.phase = .prevote ∧
      machine.voteStore.Completes vote .prevote machine.height machine.round machine.quorum ∧
      machine.voteStore.hasCommitQuorum machine.height machine.round vote.blockHash
        machine.quorum = false
  | .prevote _ | .prevoteTimeout | .precommitTimeout => False

theorem polkaAnswered_iff_of_waiting {machine : ConsensusRound}
    (waiting : machine.phase = .prevote) :
    machine.PolkaAnswered ↔ ∀ blockHash,
      ¬ (blockHash ≠ nilHash ∧ machine.quorum ≤
        machine.voteStore.countFor .prevote machine.height machine.round blockHash) := by
  simp only [PolkaAnswered, waiting, forall_const, ← Bool.not_eq_true, VoteStore.hasPolka_iff]

theorem polkaAnswered_of_not_waiting {machine : ConsensusRound}
    (elsewhere : machine.phase ≠ .prevote) : machine.PolkaAnswered :=
  fun waiting => absurd waiting elsewhere

theorem polkaAnswered_recorded_iff {machine next : ConsensusRound} {vote : ConsensusVote}
    (waiting : machine.phase = .prevote) (answered : machine.PolkaAnswered)
    (store : next.voteStore = (machine.voteStore.record vote).1)
    (height : next.height = machine.height) (round : next.round = machine.round)
    (count : next.validatorCount = machine.validatorCount) (phase : next.phase = .prevote) :
    next.PolkaAnswered ↔
      ¬ machine.voteStore.Completes vote .prevote machine.height machine.round
        machine.quorum := by
  have short := (polkaAnswered_iff_of_waiting waiting).mp answered
  have quorum : next.quorum = machine.quorum := by rw [ConsensusRound.quorum, count]; rfl
  rw [polkaAnswered_iff_of_waiting phase, store, height, round, quorum]
  constructor
  · intro absent completes
    exact absent vote.blockHash
      ((VoteStore.quorum_record_iff (short vote.blockHash)).mpr ⟨completes, rfl⟩)
  · intro incomplete blockHash reached
    exact incomplete ((VoteStore.quorum_record_iff (short blockHash)).mp reached).1

theorem polkaAnswered_entering_iff {machine : ConsensusRound} :
    PolkaAnswered { machine with phase := .prevote } ↔
      ¬ ∃ blockHash, machine.voteStore.hasPolka machine.height machine.round blockHash
        machine.quorum = true := by
  simp only [PolkaAnswered, forall_const, not_exists, Bool.not_eq_true]
  rfl

theorem hasCommitQuorum_record_prevote {store : VoteStore} {vote : ConsensusVote}
    (step : vote.step = .prevote) (height round quorum : Nat) (blockHash : Bytes32) :
    (store.record vote).1.hasCommitQuorum height round blockHash quorum =
      store.hasCommitQuorum height round blockHash quorum := by
  rw [Bool.eq_iff_iff, VoteStore.hasCommitQuorum_iff, VoteStore.hasCommitQuorum_iff,
    VoteStore.countFor_record]
  simp [step]

theorem handle_polkaAnswered_iff (machine : ConsensusRound) (event : Event)
    (answered : machine.PolkaAnswered) :
    (machine.handle event).1.PolkaAnswered ↔ ¬ machine.MissesPolka event := by
  cases event with
  | proposal blockHash =>
      simp only [handle, onProposalReceived, MissesPolka]
      split
      · rename_i elsewhere
        exact iff_of_true answered fun missed => elsewhere missed.1
      · rename_i proposing
        rw [not_not] at proposing
        rw [polkaAnswered_entering_iff]
        simp [proposing]
  | proposeTimeout =>
      simp only [handle, onProposeTimeout, MissesPolka]
      split
      · rename_i elsewhere
        exact iff_of_true answered fun missed => elsewhere missed.1
      · rename_i proposing
        rw [not_not] at proposing
        rw [polkaAnswered_entering_iff]
        simp [proposing]
  | prevote vote =>
      obtain ⟨store, height, round, count, -⟩ := machine.onPrevote_frame vote
      simp only [handle, MissesPolka, not_false_eq_true, iff_true]
      by_cases waits : (machine.onPrevote vote).1.phase = .prevote
      · have waiting : machine.phase = .prevote := by
          simp only [onPrevote] at waits
          split_ifs at waits <;> simp_all
        rw [polkaAnswered_recorded_iff waiting answered store height round count waits]
        -- a completing vote would have been answered by a lock
        intro completes
        have polka := VoteStore.hasPolka_iff.mpr ((VoteStore.quorum_record_iff
          ((polkaAnswered_iff_of_waiting waiting).mp answered vote.blockHash)).mpr
            ⟨completes, rfl⟩)
        obtain ⟨-, -, sameHeight, sameRound, proper, -⟩ := completes
        simp only [ConsensusRound.quorum] at polka
        simp [onPrevote, waiting, sameHeight, sameRound, proper, polka,
          ConsensusRound.quorum] at waits
      · exact polkaAnswered_of_not_waiting waits
  | prevoteTimeout =>
      simp only [handle, onPrevoteTimeout, MissesPolka, not_false_eq_true, iff_true]
      split
      · exact answered
      · exact polkaAnswered_of_not_waiting (by simp)
  | precommit vote =>
      obtain ⟨store, height, round, count⟩ := machine.onPrecommit_frame vote
      simp only [handle, MissesPolka]
      by_cases waiting : machine.phase = .prevote
      swap
      · refine iff_of_true (polkaAnswered_of_not_waiting ?_) fun missed => waiting missed.1
        rcases machine.onPrecommit_phase vote with same | decided
        · rwa [same]
        · simp [decided]
      have undecided : machine.phase ≠ .decided := by simp [waiting]
      -- a prevote cannot change what the precommit handler looks for
      have settles : machine.voteStore.Completes vote .prevote machine.height machine.round
          machine.quorum → ((machine.onPrecommit vote).1.phase = .decided ↔
            machine.voteStore.hasCommitQuorum machine.height machine.round vote.blockHash
              machine.quorum = true) := by
        rintro ⟨-, step, sameHeight, sameRound, proper, -⟩
        rw [onPrecommit_current undecided sameHeight sameRound proper,
          hasCommitQuorum_record_prevote step]
      rcases machine.onPrecommit_phase vote with same | decided
      · rw [waiting] at same
        rw [polkaAnswered_recorded_iff waiting answered store height round count same]
        refine not_congr ⟨fun completes => ⟨waiting, completes, ?_⟩, fun missed => missed.2.1⟩
        rw [← Bool.not_eq_true, ← settles completes, same]
        simp
      · refine iff_of_true (polkaAnswered_of_not_waiting (by simp [decided])) ?_
        rintro ⟨-, completes, unsettled⟩
        rw [(settles completes).mp decided] at unsettled
        simp at unsettled
  | precommitTimeout =>
      simp only [handle, onPrecommitTimeout, MissesPolka, not_false_eq_true, iff_true]
      split
      · exact answered
      · exact polkaAnswered_of_not_waiting (by simp)

/-- Along a run no machine waits for a polka it stores, unless some event of the run is one
that `MissesPolka` names. -/
theorem polkaAnswered_along_iff (height validatorCount : Nat) (events : List Event) :
    (∀ early, early <+: events → ((new height validatorCount).run early).PolkaAnswered) ↔
      ∀ early event, early ++ [event] <+: events →
        ¬ ((new height validatorCount).run early).MissesPolka event :=
  Runs.holds_along_iff _ PolkaAnswered MissesPolka handle_polkaAnswered_iff
    (polkaAnswered_of_not_waiting (by simp [new])) events

def earlyPrevotes (block : Bytes32) : List Event :=
  correctThree.map fun voter => .prevote (castVote 7 .prevote voter 0 block)

theorem earlyPrevotes_waiting :
    ¬ ((new 7 4).run
      (earlyPrevotes (Bytes32.fill 17) ++ [.proposal (Bytes32.fill 17)])).PolkaAnswered := by
  intro answered
  have absent := answered (by decide +kernel) (Bytes32.fill 17)
  have stored : ((new 7 4).run
      (earlyPrevotes (Bytes32.fill 17) ++ [.proposal (Bytes32.fill 17)])).voteStore.hasPolka 7 0
        (Bytes32.fill 17) (quorumSize 4) = true := by
    decide +kernel
  exact absurd (stored.symm.trans absent) (by simp)

end ConsensusRound

end ViperChain
