import ViperChain.Crypto

/-!
The round machine of one height. Handlers return the next machine and the actions asked of the
caller. A handler that overflows `round: u32` aborts the process, so rounds are plain numbers.
-/

namespace ViperChain

def quorumSize (count : Nat) : Nat := 2 * count / 3 + 1

inductive VoteStep where
  | prevote | precommit
deriving DecidableEq, Repr

def VoteStep.asU8 : VoteStep → Byte
  | prevote => 1
  | precommit => 2

def nilHash : Bytes32 := Bytes32.fill 0

structure ForkDigest where
  data : Bytes
  length_eq : data.length = 4
deriving DecidableEq

/-- SHAKE-256 squeezed to four bytes, which are the first four of any longer output. -/
def ForkDigest.compute (env : Env) (forkVersion : Nat) (genesisValidatorsRoot : Bytes32) :
    ForkDigest where
  data := (env.shake256 (ascii "VIPER-FORK-V1" ++ toBeBytes 4 forkVersion ++
    genesisValidatorsRoot.data)).data.take 4
  length_eq := by simp [Bytes32.length_eq]

def viperForkVersionV1 : Nat := 1

def viperResearch1GenesisValidatorsRoot : Bytes32 where
  data := [
    0x61, 0xd6, 0xc7, 0xfe, 0x2f, 0x96, 0x60, 0x4d, 0x57, 0xed, 0x0c, 0xaf, 0x3f, 0xe4, 0x8a, 0xa1,
    0x90, 0xbb, 0x19, 0x20, 0x69, 0xdf, 0x8e, 0xcd, 0x75, 0xfa, 0xa0, 0x76, 0xe8, 0xde, 0x6d, 0x8d]
  length_eq := by simp

def ForkDigest.viperResearch1 (env : Env) : ForkDigest :=
  .compute env viperForkVersionV1 viperResearch1GenesisValidatorsRoot

def voteDomainTag : Bytes := ascii "VIPER-VOTE-V1"

def votePreimage (env : Env) (forkDigest : ForkDigest) (height round : Nat)
    (step : VoteStep) (blockHash : Bytes32) : Bytes32 :=
  taggedHash env voteDomainTag
    (forkDigest.data ++ toBeBytes 8 height ++ toBeBytes 4 round ++ [step.asU8] ++ blockHash.data)

structure VoteKey where
  validator : Address
  height : Nat
  round : Nat
  step : VoteStep
deriving DecidableEq

structure ConsensusVote where
  height : Nat
  round : Nat
  step : VoteStep
  blockHash : Bytes32
  validatorAddress : Address
  signature : Bytes
deriving DecidableEq

def ConsensusVote.key (vote : ConsensusVote) : VoteKey :=
  { validator := vote.validatorAddress, height := vote.height, round := vote.round,
    step := vote.step }

structure EquivocationEvidence where
  validatorAddress : Address
  height : Nat
  round : Nat
  step : VoteStep
  voteA : ConsensusVote
  voteB : ConsensusVote
deriving DecidableEq

/-- `HashMap<VoteKey, ConsensusVote>` as the list of its values: a vote determines its key,
and no key occurs twice. -/
structure VoteStore where
  votes : List ConsensusVote
  equivocations : List EquivocationEvidence
  unique : (votes.map ConsensusVote.key).Nodup

namespace VoteStore

def new : VoteStore := { votes := [], equivocations := [], unique := by simp }

def get (store : VoteStore) (key : VoteKey) : Option ConsensusVote :=
  store.votes.find? fun vote => vote.key = key

theorem get_none_fresh {store : VoteStore} {key : VoteKey} (absent : store.get key = none) :
    key ∉ store.votes.map ConsensusVote.key := by
  intro present
  obtain ⟨vote, member, same⟩ := List.mem_map.mp present
  have different := List.find?_eq_none.mp absent vote member
  simp [same] at different

def record (store : VoteStore) (vote : ConsensusVote) :
    VoteStore × Option EquivocationEvidence :=
  match found : store.get vote.key with
  | some existing =>
      if existing.blockHash ≠ vote.blockHash ∧
          (existing.blockHash ≠ nilHash ∨ vote.blockHash ≠ nilHash) then
        let evidence : EquivocationEvidence :=
          { validatorAddress := vote.validatorAddress, height := vote.height,
            round := vote.round, step := vote.step, voteA := existing, voteB := vote }
        ({ store with equivocations := store.equivocations ++ [evidence] }, some evidence)
      else
        -- Duplicate (same hash) or two nils: discard.
        (store, none)
  | none =>
      ({ votes := vote :: store.votes
         equivocations := store.equivocations
         unique := List.nodup_cons.mpr ⟨get_none_fresh found, store.unique⟩ }, none)

def votesAt (store : VoteStore) (step : VoteStep) (height round : Nat) : List ConsensusVote :=
  store.votes.filter fun vote =>
    vote.height = height ∧ vote.round = round ∧ vote.step = step

def prevotes (store : VoteStore) := store.votesAt .prevote

def precommits (store : VoteStore) := store.votesAt .precommit

def prevoteCountFor (store : VoteStore) (height round : Nat) (blockHash : Bytes32) : Nat :=
  ((store.prevotes height round).filter fun vote => vote.blockHash = blockHash).length

def precommitCountFor (store : VoteStore) (height round : Nat) (blockHash : Bytes32) : Nat :=
  ((store.precommits height round).filter fun vote => vote.blockHash = blockHash).length

def hasPolka (store : VoteStore) (height round : Nat) (blockHash : Bytes32) (quorum : Nat) :
    Bool :=
  if blockHash = nilHash then false
  else quorum ≤ store.prevoteCountFor height round blockHash

def hasCommitQuorum (store : VoteStore) (height round : Nat) (blockHash : Bytes32)
    (quorum : Nat) : Bool :=
  if blockHash = nilHash then false
  else quorum ≤ store.precommitCountFor height round blockHash

end VoteStore

inductive RoundPhase where
  | propose | prevote | precommit | decided
deriving DecidableEq, Repr

inductive RoundAction where
  | broadcastPrevote (blockHash : Bytes32)
  | broadcastPrecommit (blockHash : Bytes32)
  | commit (blockHash : Bytes32) (round : Nat)
  | nextRound
deriving DecidableEq

structure ConsensusRound where
  height : Nat
  round : Nat
  phase : RoundPhase
  validatorCount : Nat
  lockedBlock : Option Bytes32
  lockedRound : Option Nat
  voteStore : VoteStore

namespace ConsensusRound

def new (height validatorCount : Nat) : ConsensusRound :=
  { height, round := 0, phase := .propose, validatorCount, lockedBlock := none,
    lockedRound := none, voteStore := VoteStore.new }

def quorum (machine : ConsensusRound) : Nat := quorumSize machine.validatorCount

def onProposalReceived (machine : ConsensusRound) (blockHash : Bytes32) :
    ConsensusRound × List RoundAction :=
  if machine.phase ≠ .propose then (machine, [])
  else
    let voteHash := match machine.lockedBlock with
      | some locked => if locked ≠ blockHash then nilHash else blockHash
      | none => blockHash
    ({ machine with phase := .prevote }, [.broadcastPrevote voteHash])

def onProposeTimeout (machine : ConsensusRound) : ConsensusRound × List RoundAction :=
  if machine.phase ≠ .propose then (machine, [])
  else ({ machine with phase := .prevote }, [.broadcastPrevote nilHash])

def onPrevote (machine : ConsensusRound) (vote : ConsensusVote) :
    ConsensusRound × List RoundAction :=
  let recorded := { machine with voteStore := (machine.voteStore.record vote).1 }
  if recorded.phase = .decided then (recorded, [])
  else if vote.height ≠ recorded.height ∨ vote.round ≠ recorded.round then (recorded, [])
  else if vote.blockHash = nilHash then (recorded, [])
  else if recorded.phase = .prevote ∧
      recorded.voteStore.hasPolka recorded.height recorded.round vote.blockHash
        recorded.quorum = true then
    ({ recorded with phase := .precommit, lockedBlock := some vote.blockHash,
                     lockedRound := some recorded.round },
      [.broadcastPrecommit vote.blockHash])
  else (recorded, [])

def onPrevoteTimeout (machine : ConsensusRound) : ConsensusRound × List RoundAction :=
  if machine.phase ≠ .prevote then (machine, [])
  else ({ machine with phase := .precommit }, [.broadcastPrecommit nilHash])

def onPrecommit (machine : ConsensusRound) (vote : ConsensusVote) :
    ConsensusRound × List RoundAction :=
  let recorded := { machine with voteStore := (machine.voteStore.record vote).1 }
  if recorded.phase = .decided then (recorded, [])
  else if vote.height ≠ recorded.height ∨ vote.round ≠ recorded.round then (recorded, [])
  else if vote.blockHash = nilHash then (recorded, [])
  else if recorded.voteStore.hasCommitQuorum recorded.height recorded.round vote.blockHash
      recorded.quorum = true then
    ({ recorded with phase := .decided }, [.commit vote.blockHash recorded.round])
  else (recorded, [])

def onPrecommitTimeout (machine : ConsensusRound) : ConsensusRound × List RoundAction :=
  if machine.phase = .decided then (machine, [])
  else ({ machine with round := machine.round + 1, phase := .propose }, [.nextRound])

def isDecided (machine : ConsensusRound) : Bool := machine.phase = .decided

def committedInRound (machine : ConsensusRound) (round : Nat) : Option Bytes32 :=
  ((machine.voteStore.precommits machine.height round).find? fun vote =>
    vote.blockHash ≠ nilHash ∧
      machine.voteStore.hasCommitQuorum machine.height round vote.blockHash
        machine.quorum = true).map ConsensusVote.blockHash

def committedBlockHash (machine : ConsensusRound) : Option Bytes32 :=
  if machine.phase = .decided then
    (List.range (machine.round + 1)).findSome? machine.committedInRound
  else none

inductive Event where
  | proposal (blockHash : Bytes32)
  | proposeTimeout
  | prevote (vote : ConsensusVote)
  | prevoteTimeout
  | precommit (vote : ConsensusVote)
  | precommitTimeout

def handle (machine : ConsensusRound) : Event → ConsensusRound × List RoundAction
  | .proposal blockHash => machine.onProposalReceived blockHash
  | .proposeTimeout => machine.onProposeTimeout
  | .prevote vote => machine.onPrevote vote
  | .prevoteTimeout => machine.onPrevoteTimeout
  | .precommit vote => machine.onPrecommit vote
  | .precommitTimeout => machine.onPrecommitTimeout

end ConsensusRound

end ViperChain
