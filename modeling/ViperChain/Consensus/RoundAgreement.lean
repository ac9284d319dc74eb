import ViperChain.Library.Locking
import ViperChain.Consensus.RoundCore

/-!
Agreement of the round machine. Correct validators each run one `ConsensusRound`; the network
delivers, drops, repeats and reorders, and Byzantine validators sign anything. Each machine
refines the voting history of `LockingVotes`.
-/

namespace ViperChain

open LockingVotes

structure ValidatorSet where
  members : Finset Address
  byzantine : Finset Address
  byzantine_subset : byzantine ⊆ members
  fewer : 3 * byzantine.card < members.card

def ValidatorSet.Correct (validators : ValidatorSet) (validator : Address) : Prop :=
  validator ∈ validators.members ∧ validator ∉ validators.byzantine

def ValidatorSet.committee (validators : ValidatorSet) : Committee Address where
  members := validators.members
  faulty := validators.byzantine
  quorum := quorumSize validators.members.card
  intersecting := by
    have := validators.fewer
    unfold quorumSize
    omega

abbrev SignedVote := VoteKey × Bytes32

def signedVotes (validator : Address) (machine : ConsensusRound) :
    List RoundAction → List SignedVote
  | [] => []
  | .broadcastPrevote blockHash :: rest =>
      (⟨validator, machine.height, machine.round, .prevote⟩, blockHash) ::
        signedVotes validator machine rest
  | .broadcastPrecommit blockHash :: rest =>
      (⟨validator, machine.height, machine.round, .precommit⟩, blockHash) ::
        signedVotes validator machine rest
  | .commit _ _ :: rest => signedVotes validator machine rest
  | .nextRound :: rest => signedVotes validator machine rest

def committedHashes : List RoundAction → List Bytes32
  | [] => []
  | .commit blockHash _ :: rest => blockHash :: committedHashes rest
  | _ :: rest => committedHashes rest

structure RoundNetwork where
  machines : Address → ConsensusRound
  signed : List SignedVote
  commits : List (Address × Bytes32)

namespace RoundNetwork

def start (height validatorCount : Nat) : RoundNetwork :=
  { machines := fun _ => ConsensusRound.new height validatorCount, signed := [], commits := [] }

def handle (network : RoundNetwork) (validator : Address) (event : ConsensusRound.Event) :
    RoundNetwork :=
  let result := (network.machines validator).handle event
  { machines := Function.update network.machines validator result.1
    signed := network.signed ++ signedVotes validator (network.machines validator) result.2
    commits := network.commits ++ (committedHashes result.2).map fun blockHash =>
      (validator, blockHash) }

end RoundNetwork

def SentVote (validators : ValidatorSet) (height : Nat) (signed : List SignedVote)
    (vote : ConsensusVote) : Prop :=
  vote.validatorAddress ∈ validators.members ∧
    (vote.validatorAddress ∉ validators.byzantine → vote.height = height →
      (vote.key, vote.blockHash) ∈ signed)

def ConsensusRound.Event.Sent (validators : ValidatorSet) (height : Nat)
    (signed : List SignedVote) : ConsensusRound.Event → Prop
  | .prevote vote | .precommit vote => SentVote validators height signed vote
  | _ => True

inductive RoundRun (validators : ValidatorSet) (height : Nat) : RoundNetwork → Prop
  | start : RoundRun validators height (RoundNetwork.start height validators.members.card)
  | handle {network validator event} : RoundRun validators height network →
      validators.Correct validator → event.Sent validators height network.signed →
      RoundRun validators height (network.handle validator event)

/-! What a handler can do, once and for all. -/

namespace ConsensusRound

def storeAfter (machine : ConsensusRound) : Event → VoteStore
  | .prevote vote | .precommit vote => (machine.voteStore.record vote).1
  | _ => machine.voteStore

inductive Outcome (machine : ConsensusRound) (event : Event) :
    ConsensusRound × List RoundAction → Prop
  | quiet : Outcome machine event ({ machine with voteStore := machine.storeAfter event }, [])
  | prevote (blockHash : Bytes32) : machine.phase = .propose →
      (blockHash = nilHash ∨ machine.lockedBlock = none ∨ machine.lockedBlock = some blockHash) →
      Outcome machine event
        ({ machine with phase := .prevote, voteStore := machine.storeAfter event },
          [.broadcastPrevote blockHash])
  | skip : machine.phase = .prevote →
      Outcome machine event
        ({ machine with phase := .precommit, voteStore := machine.storeAfter event },
          [.broadcastPrecommit nilHash])
  | lock (blockHash : Bytes32) : machine.phase = .prevote →
      (machine.storeAfter event).hasPolka machine.height machine.round blockHash
        machine.quorum = true →
      Outcome machine event
        ({ machine with phase := .precommit, lockedBlock := some blockHash,
                        lockedRound := some machine.round,
                        voteStore := machine.storeAfter event },
          [.broadcastPrecommit blockHash])
  | commit (blockHash : Bytes32) : machine.phase ≠ .decided →
      (machine.storeAfter event).hasCommitQuorum machine.height machine.round blockHash
        machine.quorum = true →
      Outcome machine event
        ({ machine with phase := .decided, voteStore := machine.storeAfter event },
          [.commit blockHash machine.round])
  | advance : machine.phase ≠ .decided →
      Outcome machine event
        ({ machine with round := machine.round + 1, phase := .propose,
                        voteStore := machine.storeAfter event }, [.nextRound])

theorem handle_outcome (machine : ConsensusRound) (event : Event) :
    Outcome machine event (machine.handle event) := by
  cases event with
  | proposal blockHash =>
      simp only [handle, onProposalReceived]
      split
      · exact .quiet
      · rename_i proposing
        refine .prevote _ (not_not.mp proposing) ?_
        cases locked : machine.lockedBlock with
        | none => exact .inr (.inl rfl)
        | some other =>
            by_cases same : other = blockHash
            · subst same
              exact .inr (.inr (by simp))
            · exact .inl (by simp [same])
  | proposeTimeout =>
      simp only [handle, onProposeTimeout]
      split
      · exact .quiet
      · rename_i proposing
        exact .prevote _ (not_not.mp proposing) (.inl rfl)
  | prevote vote =>
      simp only [handle, onPrevote]
      split
      · exact .quiet
      split
      · exact .quiet
      split
      · exact .quiet
      split
      · rename_i polka
        exact .lock vote.blockHash polka.1 polka.2
      · exact .quiet
  | prevoteTimeout =>
      simp only [handle, onPrevoteTimeout]
      split
      · exact .quiet
      · rename_i waiting
        exact .skip (not_not.mp waiting)
  | precommit vote =>
      simp only [handle, onPrecommit]
      split
      · exact .quiet
      rename_i undecided
      split
      · exact .quiet
      split
      · exact .quiet
      split
      · rename_i quorum
        exact .commit vote.blockHash undecided quorum
      · exact .quiet
  | precommitTimeout =>
      simp only [handle, onPrecommitTimeout]
      split
      · exact .quiet
      · rename_i undecided
        exact .advance undecided

end ConsensusRound

/-! Counting recorded votes counts validators, because a key is recorded once. -/

theorem VoteStore.mem_record {store : VoteStore} {vote recorded : ConsensusVote}
    (member : recorded ∈ (store.record vote).1.votes) :
    recorded = vote ∨ recorded ∈ store.votes := by
  unfold VoteStore.record at member
  split at member
  · split at member <;> exact .inr member
  · exact List.mem_cons.mp member

theorem VoteStore.votesAt_validators_nodup (store : VoteStore) (step : VoteStep)
    (height round : Nat) (select : ConsensusVote → Bool) :
    (((store.votesAt step height round).filter select).map
      ConsensusVote.validatorAddress).Nodup := by
  have keys : ((store.votesAt step height round).filter select).Pairwise
      fun left right => left.key ≠ right.key :=
    (List.pairwise_map.mp store.unique).sublist
      (List.filter_sublist.trans List.filter_sublist)
  rw [List.nodup_iff_pairwise_ne, List.pairwise_map]
  refine keys.imp_of_mem ?_
  intro left right leftMember rightMember different same
  have leftAt := (List.mem_filter.mp (List.mem_filter.mp leftMember).1).2
  have rightAt := (List.mem_filter.mp (List.mem_filter.mp rightMember).1).2
  simp only [decide_eq_true_eq] at leftAt rightAt
  exact different (by simp [ConsensusVote.key, leftAt, rightAt, same])

section Machine

variable {validators : ValidatorSet} {height : Nat} {signed : List SignedVote}

def Prevoted (height : Nat) (signed : List SignedVote) (validator : Address) (round : Nat)
    (blockHash : Bytes32) : Prop :=
  blockHash ≠ nilHash ∧ (⟨validator, height, round, .prevote⟩, blockHash) ∈ signed

def Precommitted (height : Nat) (signed : List SignedVote) (validator : Address) (round : Nat)
    (blockHash : Bytes32) : Prop :=
  blockHash ≠ nilHash ∧ (⟨validator, height, round, .precommit⟩, blockHash) ∈ signed

theorem backed_of_recorded {store : VoteStore}
    (sent : ∀ vote ∈ store.votes, SentVote validators height signed vote)
    (step : VoteStep) (round : Nat) (blockHash : Bytes32)
    (quorum : quorumSize validators.members.card ≤
      ((store.votesAt step height round).filter fun vote => vote.blockHash = blockHash).length) :
    Backed validators.committee
      (fun validator round blockHash => (⟨validator, height, round, step⟩, blockHash) ∈ signed)
      round blockHash := by
  have distinct := store.votesAt_validators_nodup step height round
    fun vote => vote.blockHash = blockHash
  refine ⟨(((store.votesAt step height round).filter fun vote =>
    vote.blockHash = blockHash).map ConsensusVote.validatorAddress).toFinset, ?_, ?_, ?_⟩
  · intro validator member
    simp only [List.mem_toFinset, List.mem_map] at member
    obtain ⟨vote, counted, rfl⟩ := member
    exact (sent vote (List.mem_filter.mp (List.mem_filter.mp counted).1).1).1
  · rw [List.toFinset_card_of_nodup distinct, List.length_map]
    exact quorum
  · intro validator member correct
    simp only [List.mem_toFinset, List.mem_map] at member
    obtain ⟨vote, counted, rfl⟩ := member
    obtain ⟨atRound, hash⟩ := List.mem_filter.mp counted
    obtain ⟨recorded, place⟩ := List.mem_filter.mp atRound
    simp only [decide_eq_true_eq] at hash place
    have signature := (sent vote recorded).2 correct place.1
    simpa [ConsensusVote.key, place, hash] using signature

theorem backed_of_hasPolka {store : VoteStore}
    (sent : ∀ vote ∈ store.votes, SentVote validators height signed vote)
    {round : Nat} {blockHash : Bytes32}
    (polka : store.hasPolka height round blockHash (quorumSize validators.members.card) = true) :
    blockHash ≠ nilHash ∧ Backed validators.committee (Prevoted height signed) round blockHash := by
  unfold VoteStore.hasPolka at polka
  split at polka
  · simp at polka
  · rename_i proper
    exact ⟨proper, (backed_of_recorded sent .prevote round blockHash
      (of_decide_eq_true polka)).mono fun _ vote => ⟨proper, vote⟩⟩

theorem backed_of_hasCommitQuorum {store : VoteStore}
    (sent : ∀ vote ∈ store.votes, SentVote validators height signed vote)
    {round : Nat} {blockHash : Bytes32}
    (committed : store.hasCommitQuorum height round blockHash
      (quorumSize validators.members.card) = true) :
    Backed validators.committee (Precommitted height signed) round blockHash := by
  unfold VoteStore.hasCommitQuorum at committed
  split at committed
  · simp at committed
  · rename_i proper
    exact (backed_of_recorded sent .precommit round blockHash
      (of_decide_eq_true committed)).mono fun _ vote => ⟨proper, vote⟩

structure MachineInv (validators : ValidatorSet) (height : Nat) (signed : List SignedVote)
    (validator : Address) (machine : ConsensusRound) : Prop where
  heightEq : machine.height = height
  countEq : machine.validatorCount = validators.members.card
  sent : ∀ vote ∈ machine.voteStore.votes, SentVote validators height signed vote
  behind : ∀ round step blockHash,
    (⟨validator, height, round, step⟩, blockHash) ∈ signed → round ≤ machine.round
  voted : ∀ step blockHash,
    (⟨validator, height, machine.round, step⟩, blockHash) ∈ signed → machine.phase ≠ .propose
  precommitDone : ∀ blockHash,
    (⟨validator, height, machine.round, .precommit⟩, blockHash) ∈ signed →
    machine.phase ≠ .prevote
  lockBacked : ∀ blockHash, machine.lockedBlock = some blockHash → ∃ round,
    machine.lockedRound = some round ∧
    (machine.phase = .propose → round < machine.round) ∧ round ≤ machine.round ∧
    Backed validators.committee (Prevoted height signed) round blockHash
  lockHeld : ∀ round blockHash, Precommitted height signed validator round blockHash →
    ∃ lockedRound locked, machine.lockedRound = some lockedRound ∧
      machine.lockedBlock = some locked ∧ round ≤ lockedRound ∧
      (round = lockedRound → blockHash = locked)

theorem SentVote.mono {later : List SignedVote} (grows : signed ⊆ later) {vote : ConsensusVote}
    (sent : SentVote validators height signed vote) : SentVote validators height later vote :=
  ⟨sent.1, fun correct sameHeight => grows (sent.2 correct sameHeight)⟩

theorem backed_prevoted_mono {later : List SignedVote} (grows : signed ⊆ later) {round : Nat}
    {blockHash : Bytes32}
    (backed : Backed validators.committee (Prevoted height signed) round blockHash) :
    Backed validators.committee (Prevoted height later) round blockHash :=
  backed.mono fun _ vote => ⟨vote.1, grows vote.2⟩

theorem MachineInv.of_foreign {later : List SignedVote} {validator : Address}
    {machine : ConsensusRound} (inv : MachineInv validators height signed validator machine)
    (grows : signed ⊆ later)
    (foreign : ∀ round step blockHash,
      (⟨validator, height, round, step⟩, blockHash) ∈ later →
      ((⟨validator, height, round, step⟩, blockHash) : SignedVote) ∈ signed) :
    MachineInv validators height later validator machine where
  heightEq := inv.heightEq
  countEq := inv.countEq
  sent vote member := (inv.sent vote member).mono grows
  behind round step blockHash member := inv.behind round step blockHash (foreign _ _ _ member)
  voted step blockHash member := inv.voted step blockHash (foreign _ _ _ member)
  precommitDone blockHash member := inv.precommitDone blockHash (foreign _ _ _ member)
  lockBacked blockHash locked := by
    obtain ⟨round, lockedRound, fresh, bound, backed⟩ := inv.lockBacked blockHash locked
    exact ⟨round, lockedRound, fresh, bound, backed_prevoted_mono grows backed⟩
  lockHeld round blockHash vote := inv.lockHeld round blockHash ⟨vote.1, foreign _ _ _ vote.2⟩

theorem MachineInv.sent_storeAfter {validator : Address} {machine : ConsensusRound}
    {event : ConsensusRound.Event} (inv : MachineInv validators height signed validator machine)
    (sent : event.Sent validators height signed) :
    ∀ vote ∈ (machine.storeAfter event).votes, SentVote validators height signed vote := by
  intro vote member
  cases event with
  | prevote received | precommit received =>
      rcases VoteStore.mem_record member with rfl | old
      · exact sent
      · exact inv.sent vote old
  | proposal _ | proposeTimeout | prevoteTimeout | precommitTimeout => exact inv.sent vote member

theorem MachineInv.behind_append {validator : Address} {machine : ConsensusRound}
    (inv : MachineInv validators height signed validator machine) (cast : VoteStep)
    (blockHash : Bytes32) :
    ∀ round step other, (⟨validator, height, round, step⟩, other) ∈
      signed ++ [(⟨validator, machine.height, machine.round, cast⟩, blockHash)] →
      round ≤ machine.round := by
  intro round step other member
  rcases List.mem_append.mp member with old | new
  · exact inv.behind round step other old
  · simp only [List.mem_singleton, Prod.mk.injEq, VoteKey.mk.injEq] at new
    exact Nat.le_of_eq new.1.2.2.1

theorem MachineInv.handle {validator : Address} {machine : ConsensusRound}
    {event : ConsensusRound.Event} (inv : MachineInv validators height signed validator machine)
    (sent : event.Sent validators height signed) :
    MachineInv validators height
      (signed ++ signedVotes validator machine (machine.handle event).2) validator
      (machine.handle event).1 := by
  have stored := inv.sent_storeAfter sent
  have outcome := machine.handle_outcome event
  have heightEq := inv.heightEq
  have countEq := inv.countEq
  generalize machine.handle event = result at outcome ⊢
  cases outcome with
  | quiet =>
      simp only [signedVotes, List.append_nil]
      exact { inv with sent := stored }
  | advance undecided =>
      simp only [signedVotes, List.append_nil]
      refine ⟨heightEq, countEq, stored, ?_, ?_, ?_, ?_, inv.lockHeld⟩
      · intro round step blockHash member
        exact Nat.le_succ_of_le (inv.behind round step blockHash member)
      · intro step blockHash member
        have := inv.behind _ step blockHash member
        simp only at this
        omega
      · intro blockHash member
        simp
      · intro blockHash locked
        obtain ⟨round, lockedRound, _, bound, backed⟩ := inv.lockBacked blockHash locked
        exact ⟨round, lockedRound, fun _ => Nat.lt_succ_of_le bound, Nat.le_succ_of_le bound, backed⟩
  | commit blockHash undecided quorum =>
      simp only [signedVotes, List.append_nil]
      refine { inv with sent := stored, voted := ?_, precommitDone := ?_, lockBacked := ?_ }
      · intro step blockHash member
        simp
      · intro blockHash member
        simp
      · intro blockHash locked
        obtain ⟨round, lockedRound, _, bound, backed⟩ := inv.lockBacked blockHash locked
        exact ⟨round, lockedRound, by simp, bound, backed⟩
  | prevote blockHash proposing unlocked =>
      have grows : signed ⊆ signed ++
          signedVotes validator machine [.broadcastPrevote blockHash] := by simp
      refine ⟨heightEq, countEq, fun vote member => (stored vote member).mono grows,
        inv.behind_append _ blockHash, ?_, ?_, ?_, ?_⟩
      · intro step other member
        simp
      · intro other member
        simp only [signedVotes, List.mem_append, List.mem_singleton] at member
        rcases member with old | new
        · exact absurd proposing (inv.voted _ other old)
        · simp at new
      · intro locked lockedEq
        obtain ⟨round, lockedRound, _, bound, backed⟩ := inv.lockBacked locked lockedEq
        exact ⟨round, lockedRound, by simp, bound, backed_prevoted_mono grows backed⟩
      · intro round other vote
        refine inv.lockHeld round other ⟨vote.1, ?_⟩
        simpa [signedVotes] using vote.2
  | skip waiting =>
      have grows : signed ⊆ signed ++
          signedVotes validator machine [.broadcastPrecommit nilHash] := by simp
      refine ⟨heightEq, countEq, fun vote member => (stored vote member).mono grows,
        inv.behind_append _ nilHash, ?_, ?_, ?_, ?_⟩
      · intro step other member
        simp
      · intro other member
        simp
      · intro locked lockedEq
        obtain ⟨round, lockedRound, _, bound, backed⟩ := inv.lockBacked locked lockedEq
        exact ⟨round, lockedRound, by simp, bound, backed_prevoted_mono grows backed⟩
      · intro round other vote
        refine inv.lockHeld round other ⟨vote.1, ?_⟩
        rcases List.mem_append.mp vote.2 with old | new
        · exact old
        · simp only [signedVotes, List.mem_singleton, Prod.mk.injEq] at new
          exact absurd new.2 vote.1
  | lock blockHash waiting polka =>
      have grows : signed ⊆ signed ++
          signedVotes validator machine [.broadcastPrecommit blockHash] := by simp
      refine ⟨heightEq, countEq, fun vote member => (stored vote member).mono grows,
        inv.behind_append _ blockHash, ?_, ?_, ?_, ?_⟩
      · intro step other member
        simp
      · intro other member
        simp
      · intro locked lockedEq
        simp only [Option.some.injEq] at lockedEq
        subst lockedEq
        rw [ConsensusRound.quorum, heightEq, countEq] at polka
        exact ⟨machine.round, rfl, by simp, Nat.le_refl _,
          backed_prevoted_mono grows (backed_of_hasPolka stored polka).2⟩
      · intro round other vote
        refine ⟨machine.round, blockHash, rfl, rfl, ?_, ?_⟩
        · exact inv.behind_append _ blockHash round _ other vote.2
        · intro same
          subst same
          rcases List.mem_append.mp vote.2 with old | new
          · exact absurd waiting (inv.precommitDone other old)
          · simp only [signedVotes, List.mem_singleton, Prod.mk.injEq] at new
            exact new.2

abbrev Disciplined (validators : ValidatorSet) (height : Nat) (signed : List SignedVote) : Prop :=
  LockDiscipline validators.committee (Prevoted height signed) (Precommitted height signed)

theorem Disciplined.prevote {validator : Address} {machine : ConsensusRound} {cast : Bytes32}
    (discipline : Disciplined validators height signed)
    (inv : MachineInv validators height signed validator machine)
    (proposing : machine.phase = .propose)
    (unlocked : cast = nilHash ∨ machine.lockedBlock = none ∨ machine.lockedBlock = some cast) :
    Disciplined validators height
      (signed ++ [(⟨validator, height, machine.round, .prevote⟩, cast)]) := by
  have grows : signed ⊆ signed ++ [(⟨validator, height, machine.round, .prevote⟩, cast)] := by simp
  have prevoted : ∀ voter round blockHash,
      Prevoted height (signed ++ [(⟨validator, height, machine.round, .prevote⟩, cast)])
        voter round blockHash →
      Prevoted height signed voter round blockHash ∨
        blockHash ≠ nilHash ∧ voter = validator ∧ round = machine.round ∧ blockHash = cast := by
    rintro voter round blockHash ⟨proper, member⟩
    rcases List.mem_append.mp member with old | new
    · exact .inl ⟨proper, old⟩
    · simp only [List.mem_singleton, Prod.mk.injEq, VoteKey.mk.injEq] at new
      exact .inr ⟨proper, new.1.1, new.1.2.2.1, new.2⟩
  have precommitted : ∀ voter round blockHash,
      Precommitted height (signed ++ [(⟨validator, height, machine.round, .prevote⟩, cast)])
        voter round blockHash → Precommitted height signed voter round blockHash := by
    rintro voter round blockHash ⟨proper, member⟩
    exact ⟨proper, by simpa using member⟩
  refine ⟨?_, ?_, ?_⟩
  · intro voter round left right correct leftVote rightVote
    rcases prevoted _ _ _ leftVote with leftOld | ⟨_, leftVoter, leftRound, leftCast⟩ <;>
      rcases prevoted _ _ _ rightVote with rightOld | ⟨_, rightVoter, rightRound, rightCast⟩
    · exact discipline.prevoteUnique voter round left right correct leftOld rightOld
    · subst rightVoter rightRound
      exact absurd proposing (inv.voted _ _ leftOld.2)
    · subst leftVoter leftRound
      exact absurd proposing (inv.voted _ _ rightOld.2)
    · rw [leftCast, rightCast]
  · intro voter round value correct vote
    exact backed_prevoted_mono grows
      (discipline.justified voter round value correct (precommitted _ _ _ vote))
  · intro voter early late locked value correct before lock vote
    have lockOld := precommitted _ _ _ lock
    rcases prevoted _ _ _ vote with old | ⟨proper, rfl, rfl, rfl⟩
    · rcases discipline.relock voter early late locked value correct before lockOld old with
        same | ⟨between, low, high, backed⟩
      · exact .inl same
      · exact .inr ⟨between, low, high, backed_prevoted_mono grows backed⟩
    · -- The new prevote: the machine still holds the lock of its latest precommit.
      obtain ⟨lockedRound, held, roundEq, blockEq, bound, same⟩ :=
        inv.lockHeld early locked lockOld
      have heldCast : held = value := by
        rcases unlocked with isNil | none | some
        · exact absurd isNil proper
        · simp [blockEq] at none
        · simpa [blockEq] using some
      subst heldCast
      obtain ⟨polkaRound, polkaEq, fresh, _, backed⟩ := inv.lockBacked held blockEq
      rw [roundEq, Option.some.injEq] at polkaEq
      subst polkaEq
      rcases Nat.eq_or_lt_of_le bound with atLock | afterLock
      · exact .inl (same atLock)
      · exact .inr ⟨lockedRound, afterLock, fresh proposing, backed_prevoted_mono grows backed⟩

theorem Disciplined.precommit {validator : Address} {machine : ConsensusRound} {cast : Bytes32}
    (discipline : Disciplined validators height signed)
    (inv : MachineInv validators height signed validator machine)
    (polka : cast ≠ nilHash →
      Backed validators.committee (Prevoted height signed) machine.round cast) :
    Disciplined validators height
      (signed ++ [(⟨validator, height, machine.round, .precommit⟩, cast)]) := by
  have grows : signed ⊆ signed ++ [(⟨validator, height, machine.round, .precommit⟩, cast)] := by
    simp
  have prevoted : ∀ voter round blockHash,
      Prevoted height (signed ++ [(⟨validator, height, machine.round, .precommit⟩, cast)])
        voter round blockHash → Prevoted height signed voter round blockHash := by
    rintro voter round blockHash ⟨proper, member⟩
    exact ⟨proper, by simpa using member⟩
  have precommitted : ∀ voter round blockHash,
      Precommitted height (signed ++ [(⟨validator, height, machine.round, .precommit⟩, cast)])
        voter round blockHash →
      Precommitted height signed voter round blockHash ∨
        blockHash ≠ nilHash ∧ voter = validator ∧ round = machine.round ∧ blockHash = cast := by
    rintro voter round blockHash ⟨proper, member⟩
    rcases List.mem_append.mp member with old | new
    · exact .inl ⟨proper, old⟩
    · simp only [List.mem_singleton, Prod.mk.injEq, VoteKey.mk.injEq] at new
      exact .inr ⟨proper, new.1.1, new.1.2.2.1, new.2⟩
  refine ⟨?_, ?_, ?_⟩
  · intro voter round left right correct leftVote rightVote
    exact discipline.prevoteUnique voter round left right correct
      (prevoted _ _ _ leftVote) (prevoted _ _ _ rightVote)
  · intro voter round value correct vote
    rcases precommitted _ _ _ vote with old | ⟨proper, rfl, rfl, rfl⟩
    · exact backed_prevoted_mono grows (discipline.justified voter round value correct old)
    · exact backed_prevoted_mono grows (polka proper)
  · intro voter early late locked value correct before lock vote
    have voteOld := prevoted _ _ _ vote
    rcases precommitted _ _ _ lock with old | ⟨_, rfl, rfl, rfl⟩
    · rcases discipline.relock voter early late locked value correct before old voteOld with
        same | ⟨between, low, high, backed⟩
      · exact .inl same
      · exact .inr ⟨between, low, high, backed_prevoted_mono grows backed⟩
    · -- No prevote of a later round has been signed yet.
      have := inv.behind late _ value voteOld.2
      omega

theorem Disciplined.handle {validator : Address} {machine : ConsensusRound}
    {event : ConsensusRound.Event} (discipline : Disciplined validators height signed)
    (inv : MachineInv validators height signed validator machine)
    (sent : event.Sent validators height signed) :
    Disciplined validators height
      (signed ++ signedVotes validator machine (machine.handle event).2) := by
  have stored := inv.sent_storeAfter sent
  have outcome := machine.handle_outcome event
  have heightEq := inv.heightEq
  generalize machine.handle event = result at outcome ⊢
  cases outcome with
  | quiet | commit _ _ _ | advance _ => simpa only [signedVotes, List.append_nil] using discipline
  | prevote blockHash proposing unlocked =>
      simpa only [signedVotes, heightEq] using discipline.prevote inv proposing unlocked
  | skip waiting =>
      simpa only [signedVotes, heightEq] using
        discipline.precommit inv fun proper => absurd rfl proper
  | lock blockHash waiting polka =>
      rw [ConsensusRound.quorum, heightEq, inv.countEq] at polka
      simpa only [signedVotes, heightEq] using
        discipline.precommit inv fun _ => (backed_of_hasPolka stored polka).2

end Machine

/-! Deciding is final: the store only grows, so a recorded commit quorum stays recorded. -/

theorem VoteStore.record_sublist (store : VoteStore) (vote : ConsensusVote) :
    store.votes.Sublist (store.record vote).1.votes := by
  unfold VoteStore.record
  split
  · split <;> exact List.Sublist.refl _
  · exact List.sublist_cons_self _ _

theorem ConsensusRound.storeAfter_sublist (machine : ConsensusRound) (event : Event) :
    machine.voteStore.votes.Sublist (machine.storeAfter event).votes := by
  cases event with
  | prevote vote | precommit vote => exact machine.voteStore.record_sublist vote
  | proposal _ | proposeTimeout | prevoteTimeout | precommitTimeout => exact List.Sublist.refl _

theorem VoteStore.hasCommitQuorum_mono {store later : VoteStore}
    (grows : store.votes.Sublist later.votes) {height round quorum : Nat} {blockHash : Bytes32}
    (committed : store.hasCommitQuorum height round blockHash quorum = true) :
    later.hasCommitQuorum height round blockHash quorum = true := by
  unfold VoteStore.hasCommitQuorum at committed ⊢
  split at committed
  · simp at committed
  · rename_i proper
    rw [if_neg proper]
    have counted : store.precommitCountFor height round blockHash ≤
        later.precommitCountFor height round blockHash :=
      ((grows.filter _).filter _).length_le
    exact decide_eq_true (Nat.le_trans (of_decide_eq_true committed) counted)

theorem ConsensusRound.handle_decided {machine : ConsensusRound} (event : Event)
    (decided : machine.phase = .decided) :
    (machine.handle event).1 = { machine with voteStore := machine.storeAfter event } := by
  have outcome := machine.handle_outcome event
  generalize machine.handle event = result at outcome ⊢
  cases outcome with
  | quiet => rfl
  | prevote _ phase _ | skip phase | lock _ phase _ => simp [decided] at phase
  | commit _ undecided _ | advance undecided => exact absurd decided undecided

theorem VoteStore.exists_precommit {store : VoteStore} {height round count : Nat}
    {blockHash : Bytes32}
    (committed : store.hasCommitQuorum height round blockHash (quorumSize count) = true) :
    blockHash ≠ nilHash ∧
      ∃ vote ∈ store.precommits height round, vote.blockHash = blockHash := by
  unfold VoteStore.hasCommitQuorum at committed
  split at committed
  · simp at committed
  · rename_i proper
    have positive : 0 < store.precommitCountFor height round blockHash := by
      have := of_decide_eq_true committed
      unfold quorumSize at this
      omega
    obtain ⟨vote, counted⟩ := List.exists_mem_of_length_pos positive
    obtain ⟨member, same⟩ := List.mem_filter.mp counted
    exact ⟨proper, vote, member, of_decide_eq_true same⟩

theorem ConsensusRound.committedBlockHash_eq {machine : ConsensusRound} {blockHash : Bytes32}
    (decided : machine.phase = .decided)
    (committed : machine.voteStore.hasCommitQuorum machine.height machine.round blockHash
      machine.quorum = true)
    (only : ∀ round other, machine.voteStore.hasCommitQuorum machine.height round other
      machine.quorum = true → other = blockHash) :
    machine.committedBlockHash = some blockHash := by
  have found : ∀ round other, machine.committedInRound round = some other → other = blockHash := by
    intro round other scanned
    obtain ⟨vote, first, rfl⟩ := Option.map_eq_some_iff.mp scanned
    have accepted := List.find?_some first
    simp only [decide_eq_true_eq] at accepted
    exact only round vote.blockHash accepted.2
  have here : (machine.committedInRound machine.round).isSome = true := by
    obtain ⟨proper, vote, member, same⟩ := VoteStore.exists_precommit committed
    rw [ConsensusRound.committedInRound, Option.isSome_map, List.find?_isSome]
    refine ⟨vote, member, ?_⟩
    subst same
    simpa using ⟨proper, committed⟩
  rw [ConsensusRound.committedBlockHash, if_pos decided]
  cases scan : (List.range (machine.round + 1)).findSome? machine.committedInRound with
  | none =>
      have missed := List.findSome?_eq_none_iff.mp scan machine.round (by simp)
      simp [missed] at here
  | some other =>
      obtain ⟨round, _, scanned⟩ := List.exists_of_findSome?_eq_some scan
      rw [found round other scanned]

structure NetworkInv (validators : ValidatorSet) (height : Nat) (network : RoundNetwork) :
    Prop where
  discipline : Disciplined validators height network.signed
  machines : ∀ validator, validators.Correct validator →
    MachineInv validators height network.signed validator (network.machines validator)
  committed : ∀ validator blockHash, (validator, blockHash) ∈ network.commits →
    validators.Correct validator ∧ (network.machines validator).phase = .decided ∧
    (network.machines validator).voteStore.hasCommitQuorum height
      (network.machines validator).round blockHash (quorumSize validators.members.card) = true

section Network

variable {validators : ValidatorSet} {height : Nat} {network : RoundNetwork}

theorem networkInv_start :
    NetworkInv validators height (RoundNetwork.start height validators.members.card) where
  discipline := by
    constructor <;> simp [RoundNetwork.start, Prevoted, Precommitted]
  machines validator _ := by
    constructor <;>
      simp [RoundNetwork.start, ConsensusRound.new, VoteStore.new, Precommitted]
  committed validator blockHash member := by simp [RoundNetwork.start] at member

theorem signedVotes_validator {validator : Address} {machine : ConsensusRound}
    {actions : List RoundAction} {vote : SignedVote}
    (member : vote ∈ signedVotes validator machine actions) : vote.1.validator = validator := by
  induction actions with
  | nil => simp [signedVotes] at member
  | cons action rest ih =>
      cases action with
      | broadcastPrevote blockHash | broadcastPrecommit blockHash =>
          rcases List.mem_cons.mp member with rfl | later
          · rfl
          · exact ih later
      | commit _ _ | nextRound => exact ih member

theorem ConsensusRound.handle_commit {machine : ConsensusRound} {event : Event}
    {blockHash : Bytes32} (emitted : blockHash ∈ committedHashes (machine.handle event).2) :
    (machine.handle event).1.phase = .decided ∧
      (machine.handle event).1.voteStore.hasCommitQuorum machine.height
        (machine.handle event).1.round blockHash machine.quorum = true := by
  have outcome := machine.handle_outcome event
  generalize machine.handle event = result at outcome emitted ⊢
  cases outcome with
  | quiet | prevote _ _ _ | skip _ | lock _ _ _ | advance _ => simp [committedHashes] at emitted
  | commit other undecided quorum =>
      simp only [committedHashes, List.mem_singleton] at emitted
      subst emitted
      exact ⟨rfl, quorum⟩

theorem NetworkInv.handle (inv : NetworkInv validators height network) {validator : Address}
    {event : ConsensusRound.Event} (correct : validators.Correct validator)
    (sent : event.Sent validators height network.signed) :
    NetworkInv validators height (network.handle validator event) where
  discipline := inv.discipline.handle (inv.machines validator correct) sent
  machines other otherCorrect := by
    by_cases same : other = validator
    · subst same
      simpa [RoundNetwork.handle] using (inv.machines other correct).handle sent
    · simp only [RoundNetwork.handle, Function.update_of_ne same]
      refine (inv.machines other otherCorrect).of_foreign (List.subset_append_left _ _) ?_
      intro round step blockHash member
      rcases List.mem_append.mp member with old | new
      · exact old
      · exact absurd (signedVotes_validator new) same
  committed other blockHash member := by
    rcases List.mem_append.mp member with old | new
    · obtain ⟨otherCorrect, decided, quorum⟩ := inv.committed other blockHash old
      refine ⟨otherCorrect, ?_⟩
      by_cases same : other = validator
      · subst same
        simp only [RoundNetwork.handle, Function.update_self,
          ConsensusRound.handle_decided event decided]
        exact ⟨decided, VoteStore.hasCommitQuorum_mono
          ((network.machines other).storeAfter_sublist event) quorum⟩
      · simp only [RoundNetwork.handle, Function.update_of_ne same]
        exact ⟨decided, quorum⟩
    · obtain ⟨emitted, inActions, same⟩ := List.mem_map.mp new
      simp only [Prod.mk.injEq] at same
      obtain ⟨rfl, rfl⟩ := same
      have machineInv := inv.machines validator correct
      have commit := ConsensusRound.handle_commit inActions
      rw [machineInv.heightEq, ConsensusRound.quorum, machineInv.countEq] at commit
      simpa [RoundNetwork.handle] using ⟨correct, commit⟩

theorem RoundRun.inv (run : RoundRun validators height network) :
    NetworkInv validators height network := by
  induction run with
  | start => exact networkInv_start
  | handle _ correct sent ih => exact ih.handle correct sent

theorem NetworkInv.quorum_backed (inv : NetworkInv validators height network)
    {validator : Address} (correct : validators.Correct validator) {round : Nat}
    {blockHash : Bytes32}
    (quorum : (network.machines validator).voteStore.hasCommitQuorum height round blockHash
      (quorumSize validators.members.card) = true) :
    Backed validators.committee (Precommitted height network.signed) round blockHash :=
  backed_of_hasCommitQuorum (inv.machines validator correct).sent quorum

/-- Correct validators that emit `Commit`, in whatever rounds, commit the same block hash, and
`committed_block_hash` returns it from then on. -/
theorem roundMachines_agree (run : RoundRun validators height network) :
    (∀ left right leftHash rightHash, (left, leftHash) ∈ network.commits →
      (right, rightHash) ∈ network.commits → leftHash = rightHash) ∧
    (∀ validator blockHash, (validator, blockHash) ∈ network.commits →
      (network.machines validator).committedBlockHash = some blockHash) := by
  have inv := run.inv
  constructor
  · intro left right leftHash rightHash leftCommit rightCommit
    obtain ⟨leftCorrect, _, leftQuorum⟩ := inv.committed left leftHash leftCommit
    obtain ⟨rightCorrect, _, rightQuorum⟩ := inv.committed right rightHash rightCommit
    exact inv.discipline.agreement (inv.quorum_backed leftCorrect leftQuorum)
      (inv.quorum_backed rightCorrect rightQuorum)
  · intro validator blockHash commit
    obtain ⟨correct, decided, quorum⟩ := inv.committed validator blockHash commit
    have machineInv := inv.machines validator correct
    apply ConsensusRound.committedBlockHash_eq decided
    · rw [machineInv.heightEq, ConsensusRound.quorum, machineInv.countEq]
      exact quorum
    · intro round other otherQuorum
      rw [machineInv.heightEq, ConsensusRound.quorum, machineInv.countEq] at otherQuorum
      exact inv.discipline.agreement (inv.quorum_backed correct otherQuorum)
        (inv.quorum_backed correct quorum)

end Network

/-! Executable runs: a schedule is played only while every event in it is admissible. -/

instance (validators : ValidatorSet) (validator : Address) :
    Decidable (validators.Correct validator) :=
  inferInstanceAs (Decidable (_ ∧ _))

instance (validators : ValidatorSet) (height : Nat) (signed : List SignedVote)
    (vote : ConsensusVote) : Decidable (SentVote validators height signed vote) :=
  inferInstanceAs (Decidable (_ ∧ _))

instance (validators : ValidatorSet) (height : Nat) (signed : List SignedVote) :
    (event : ConsensusRound.Event) → Decidable (event.Sent validators height signed)
  | .prevote vote | .precommit vote =>
      inferInstanceAs (Decidable (SentVote validators height signed vote))
  | .proposal _ | .proposeTimeout | .prevoteTimeout | .precommitTimeout => isTrue trivial

def RoundNetwork.play (validators : ValidatorSet) (height : Nat) :
    List (Address × ConsensusRound.Event) → RoundNetwork → Option RoundNetwork
  | [], network => some network
  | (validator, event) :: rest, network =>
      if validators.Correct validator ∧ event.Sent validators height network.signed then
        play validators height rest (network.handle validator event)
      else none

theorem RoundNetwork.play_run {validators : ValidatorSet} {height : Nat}
    {schedule : List (Address × ConsensusRound.Event)} {network final : RoundNetwork}
    (run : RoundRun validators height network)
    (played : network.play validators height schedule = some final) :
    RoundRun validators height final := by
  induction schedule generalizing network with
  | nil =>
      simp only [play, Option.some.injEq] at played
      exact played ▸ run
  | cons entry rest ih =>
      simp only [play] at played
      split at played
      · rename_i admissible
        exact ih (run.handle admissible.1 admissible.2) played
      · simp at played

def firstValidator : Address := Bytes32.fill 1

def faultyValidator : Address := Bytes32.fill 2

def thirdValidator : Address := Bytes32.fill 3

def fourthValidator : Address := Bytes32.fill 4

def fourValidators : ValidatorSet where
  members := {firstValidator, faultyValidator, thirdValidator, fourthValidator}
  byzantine := {faultyValidator}
  byzantine_subset := by decide
  fewer := by decide

def castVote (height : Nat) (step : VoteStep) (validatorAddress : Address) (round : Nat)
    (blockHash : Bytes32) : ConsensusVote :=
  { height, round, step, blockHash, validatorAddress, signature := [] }

def sameEvent (validators : List Address) (event : ConsensusRound.Event) :
    List (Address × ConsensusRound.Event) :=
  validators.map fun validator => (validator, event)

def prevotesArrive (receivers voters : List Address) (round : Nat) (blockHash : Bytes32) :
    List (Address × ConsensusRound.Event) :=
  voters.flatMap fun voter => sameEvent receivers (.prevote (castVote 7 .prevote voter round blockHash))

def precommitsArrive (receivers voters : List Address) (round : Nat) (blockHash : Bytes32) :
    List (Address × ConsensusRound.Event) :=
  voters.flatMap fun voter =>
    sameEvent receivers (.precommit (castVote 7 .precommit voter round blockHash))

def correctThree : List Address := [firstValidator, thirdValidator, fourthValidator]

def twoRoundSchedule (block : Bytes32) : List (Address × ConsensusRound.Event) :=
  let late := [thirdValidator, fourthValidator]
  List.flatten [
    sameEvent correctThree (.proposal block),
    prevotesArrive correctThree correctThree 0 block,
    precommitsArrive [firstValidator] correctThree 0 block,
    sameEvent late .precommitTimeout,
    sameEvent late (.proposal block),
    prevotesArrive late [faultyValidator, thirdValidator, fourthValidator] 1 block,
    precommitsArrive [thirdValidator] [faultyValidator, thirdValidator, fourthValidator] 1 block]

theorem roundMachines_agree_fourValidators : ∃ network blockHash,
    RoundRun fourValidators 7 network ∧
    network.commits = [(firstValidator, blockHash), (thirdValidator, blockHash)] ∧
    (network.machines thirdValidator).committedBlockHash = some blockHash := by
  have played : ((RoundNetwork.start 7 fourValidators.members.card).play fourValidators 7
      (twoRoundSchedule (Bytes32.fill 17))).map RoundNetwork.commits =
      some [(firstValidator, Bytes32.fill 17), (thirdValidator, Bytes32.fill 17)] := by
    decide +kernel
  obtain ⟨network, reached, commits⟩ := Option.map_eq_some_iff.mp played
  have run : RoundRun fourValidators 7 network := RoundNetwork.play_run .start reached
  exact ⟨network, Bytes32.fill 17, run, commits,
    (roundMachines_agree run).2 _ _ (by rw [commits]; simp)⟩

end ViperChain
