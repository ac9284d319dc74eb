import ViperChain.Assumptions
import ViperChain.Block
import ViperChain.State.Genesis

/-!
The buffer of precommits. A vote is kept under the height and hash it names itself, and only
heights at or below the tip are evicted.
-/

namespace ViperChain.Gossip

structure SignedVote where
  msgType : Byte
  height : Nat
  round : Nat
  blockHash : BlockHash
  validatorAddress : Address
  signature : Bytes
deriving DecidableEq

def msgTypePrevote : Byte := 0xC2

def msgTypePrecommit : Byte := 0xC3

def voteStepOf (msgType : Byte) : Option VoteStep :=
  if msgType = msgTypePrevote then some .prevote
  else if msgType = msgTypePrecommit then some .precommit
  else none

instance : Std.LawfulEqOrd (Lex (Nat × BlockHash)) := ⟨compare_eq_iff_eq.mp⟩

/-- The two vote maps of a node: votes by height and block hash and then by voter, and the
precommits it has signed itself. -/
structure VoteBuffers where
  pendingPrecommits : Std.ExtTreeMap (Lex (Nat × BlockHash)) (Std.ExtTreeMap Address SignedVote)
  ownPrecommitsEmitted : Std.ExtTreeSet (Lex (Nat × Lex (BlockHash × Address)))

def VoteBuffers.empty : VoteBuffers := ⟨∅, ∅⟩

variable (env : Env) (tip : Nat) (state : StateStore)

/-- The checks a vote passes before it is buffered: above the tip, from an active validator,
of a known type, and signed over the preimage its own fields give. -/
def verifyVote (vote : SignedVote) : Option Unit := do
  guard (tip < vote.height)
  let record ← state.activeValidators.find? fun record => record.operator = vote.validatorAddress
  let step ← voteStepOf vote.msgType
  let preimage := votePreimage env (.viperResearch1 env) vote.height vote.round step vote.blockHash
  (pqVerifier env ⟨record.consensusAlgId, record.consensusPk⟩ preimage.data
    ⟨record.consensusAlgId, vote.signature⟩).toOption

def VoteBuffers.bucket (buffers : VoteBuffers) (height : Nat) (blockHash : BlockHash) :
    Std.ExtTreeMap Address SignedVote :=
  buffers.pendingPrecommits[toLex (height, blockHash)]?.getD ∅

def VoteBuffers.retainAbove (buffers : VoteBuffers) (tip : Nat) : VoteBuffers where
  pendingPrecommits := buffers.pendingPrecommits.filter fun key _ => tip < (ofLex key).1
  ownPrecommitsEmitted := buffers.ownPrecommitsEmitted.filter fun key => tip < (ofLex key).1

def VoteBuffers.insertVote (buffers : VoteBuffers) (vote : SignedVote) : VoteBuffers :=
  { buffers with
    pendingPrecommits := buffers.pendingPrecommits.insert (toLex (vote.height, vote.blockHash))
      ((buffers.bucket vote.height vote.blockHash).insert vote.validatorAddress vote) }

def handleInboundPrecommit (buffers : VoteBuffers) (vote : SignedVote) : VoteBuffers :=
  match verifyVote env tip state vote with
  | none => buffers
  | some () => (buffers.retainAbove tip).insertVote vote

def VoteBuffers.held (buffers : VoteBuffers) : Nat :=
  (buffers.pendingPrecommits.toList.map fun entry => entry.2.size).sum

abbrev Place := (Nat × BlockHash) × Address

def SignedVote.place (vote : SignedVote) : Place :=
  ((vote.height, vote.blockHash), vote.validatorAddress)

variable {env tip state}

section Places

def VoteBuffers.places (buffers : VoteBuffers) : List Place :=
  buffers.pendingPrecommits.toList.flatMap fun entry => entry.2.keys.map fun voter =>
    (ofLex entry.1, voter)

theorem VoteBuffers.length_places (buffers : VoteBuffers) : buffers.places.length = buffers.held := by
  simp [places, held, List.length_flatMap]

theorem VoteBuffers.nodup_places (buffers : VoteBuffers) : buffers.places.Nodup := by
  refine List.nodup_flatMap.mpr ⟨fun entry _ => ?_, ?_⟩
  · exact Std.ExtTreeMap.nodup_keys.map fun _ _ same => (Prod.mk.inj same).2
  · refine Std.ExtTreeMap.distinct_keys_toList.imp fun {left right} apart => ?_
    -- places of two buckets differ in the key of the bucket
    rw [Function.onFun, List.disjoint_left]
    intro place inLeft inRight
    obtain ⟨_, _, rfl⟩ := List.mem_map.mp inLeft
    obtain ⟨_, _, same⟩ := List.mem_map.mp inRight
    have keys : left.1 = right.1 := ofLex.injective (Prod.mk.inj same).1.symm
    exact apart (by simp [keys])

theorem VoteBuffers.mem_places {buffers : VoteBuffers} {place : Place} :
    place ∈ buffers.places ↔ place.2 ∈ buffers.bucket place.1.1 place.1.2 := by
  obtain ⟨⟨height, blockHash⟩, voter⟩ := place
  simp only [places, bucket, List.mem_flatMap, List.mem_map, Prod.exists,
    Std.ExtTreeMap.mem_toList_iff_getElem?_eq_some, Std.ExtTreeMap.mem_keys, Prod.mk.injEq]
  constructor
  · rintro ⟨key, votes, found, _, kept, same, rfl⟩
    obtain rfl : key = toLex (height, blockHash) := ofLex.injective same
    simpa [found] using kept
  · intro kept
    cases found : buffers.pendingPrecommits[toLex (height, blockHash)]? with
    | none => simp [found] at kept
    | some votes => exact ⟨_, votes, found, voter, by simpa [found] using kept, rfl, rfl⟩

end Places

section Delivery

theorem VoteBuffers.bucket_retainAbove (buffers : VoteBuffers) (height : Nat) (blockHash : BlockHash) :
    (buffers.retainAbove tip).bucket height blockHash =
      if tip < height then buffers.bucket height blockHash else ∅ := by
  simp only [bucket, retainAbove, Std.ExtTreeMap.getElem?_filter', ofLex_toLex]
  cases buffers.pendingPrecommits[toLex (height, blockHash)]? with
  | none => simp
  | some votes => by_cases above : tip < height <;> simp [Option.filter, above]

theorem VoteBuffers.bucket_insertVote (buffers : VoteBuffers) (vote : SignedVote) (height : Nat)
    (blockHash : BlockHash) :
    (buffers.insertVote vote).bucket height blockHash =
      if (vote.height, vote.blockHash) = (height, blockHash) then
        (buffers.bucket vote.height vote.blockHash).insert vote.validatorAddress vote
      else buffers.bucket height blockHash := by
  simp only [bucket, insertVote, Std.ExtTreeMap.getElem?_insert, compare_eq_iff_eq,
    EmbeddingLike.apply_eq_iff_eq]
  split <;> rfl

theorem VoteBuffers.mem_places_insertVote {buffers : VoteBuffers} {vote : SignedVote} {place : Place} :
    place ∈ (buffers.insertVote vote).places ↔ place = vote.place ∨ place ∈ buffers.places := by
  obtain ⟨⟨height, blockHash⟩, voter⟩ := place
  simp only [mem_places, bucket_insertVote, SignedVote.place]
  split
  case isTrue same =>
    obtain ⟨rfl, rfl⟩ := Prod.mk.inj same
    simp [Std.ExtTreeMap.mem_insert, @eq_comm _ voter]
  case isFalse other =>
    simp only [Prod.mk.injEq, iff_or_self, and_imp]
    rintro rfl rfl
    exact absurd rfl other

def accepted (env : Env) (tip : Nat) (state : StateStore) (votes : List SignedVote) :
    List SignedVote :=
  votes.filter fun vote => (verifyVote env tip state vote).isSome

theorem mem_places_handle {buffers : VoteBuffers} {vote : SignedVote}
    (above : ∀ place ∈ buffers.places, tip < place.1.1) {place : Place} :
    place ∈ (handleInboundPrecommit env tip state buffers vote).places ↔
      place ∈ buffers.places ∨ ((verifyVote env tip state vote).isSome ∧ place = vote.place) := by
  unfold handleInboundPrecommit
  split
  case h_1 refused => simp [refused]
  case h_2 passed =>
    have kept : place ∈ (buffers.retainAbove tip).places ↔ place ∈ buffers.places := by
      have high := above place
      rw [VoteBuffers.mem_places] at high
      rw [VoteBuffers.mem_places, VoteBuffers.mem_places, VoteBuffers.bucket_retainAbove]
      split
      case isTrue => rfl
      case isFalse low => simpa using fun held => low (high held)
    rw [VoteBuffers.mem_places_insertVote, kept, passed]
    simp [or_comm]

theorem verifyVote_above {vote : SignedVote} (passed : (verifyVote env tip state vote).isSome) :
    tip < vote.height := by
  by_contra low
  simp [verifyVote, low] at passed

theorem verifyVote_active {vote : SignedVote} (passed : (verifyVote env tip state vote).isSome) :
    vote.validatorAddress ∈ state.activeValidators.map ValidatorRecord.operator := by
  unfold verifyVote at passed
  cases found : state.activeValidators.find? fun record => record.operator = vote.validatorAddress with
  | none => simp [found] at passed
  | some record =>
      have operator : record.operator = vote.validatorAddress := by simpa using List.find?_some found
      exact List.mem_map.mpr ⟨record, List.mem_of_find?_eq_some found, operator⟩

theorem mem_places_run (votes : List SignedVote) {place : Place} :
    place ∈ (votes.foldl (handleInboundPrecommit env tip state) .empty).places ↔
      place ∈ (accepted env tip state votes).map SignedVote.place := by
  induction votes using List.reverseRecOn generalizing place with
  | nil => simp [accepted, VoteBuffers.places, VoteBuffers.empty]
  | append_singleton votes vote ih =>
      have above : ∀ place ∈ (votes.foldl (handleInboundPrecommit env tip state) .empty).places,
          tip < place.1.1 := by
        intro place held
        obtain ⟨earlier, member, rfl⟩ := List.mem_map.mp (ih.mp held)
        exact verifyVote_above (List.mem_filter.mp member).2
      rw [List.foldl_append, List.foldl_cons, List.foldl_nil, mem_places_handle above, ih]
      simp only [accepted, List.filter_append, List.map_append, List.mem_append]
      refine or_congr Iff.rfl ?_
      cases passed : (verifyVote env tip state vote).isSome <;> simp [passed]

end Delivery

section Bound

variable (env tip state)

def namedBlocks (votes : List SignedVote) (voter : Address) (round : Nat) :
    Finset (Nat × BlockHash) :=
  (((accepted env tip state votes).filter fun vote =>
    vote.validatorAddress = voter ∧ vote.round = round).map fun vote =>
      (vote.height, vote.blockHash)).toFinset

def roundCount (votes : List SignedVote) : Nat := (votes.map SignedVote.round).toFinset.card

variable {env tip state}

theorem mem_namedBlocks {votes : List SignedVote} {voter : Address} {round : Nat}
    {block : Nat × BlockHash} :
    block ∈ namedBlocks env tip state votes voter round ↔
      ∃ vote ∈ accepted env tip state votes, vote.place = (block, voter) ∧ vote.round = round := by
  simp only [namedBlocks, List.mem_toFinset, List.mem_map, List.mem_filter, SignedVote.place,
    Prod.mk.injEq, decide_eq_true_eq]
  constructor
  · rintro ⟨vote, ⟨member, rfl, rfl⟩, rfl⟩
    exact ⟨vote, member, ⟨rfl, rfl⟩, rfl⟩
  · rintro ⟨vote, member, ⟨rfl, rfl⟩, rfl⟩
    exact ⟨vote, ⟨member, rfl, rfl⟩, rfl⟩

theorem held_eq_places (votes : List SignedVote) :
    (votes.foldl (handleInboundPrecommit env tip state) .empty).held =
      ((accepted env tip state votes).map SignedVote.place).toFinset.card := by
  rw [← VoteBuffers.length_places, ← List.toFinset_card_of_nodup (VoteBuffers.nodup_places _)]
  congr 1
  ext place
  rw [List.mem_toFinset, List.mem_toFinset, mem_places_run]

theorem namedBlocks_card_le (votes : List SignedVote) (voter : Address) (round : Nat) :
    (namedBlocks env tip state votes voter round).card ≤
      ((accepted env tip state votes).map SignedVote.place).toFinset.card := by
  refine Finset.card_le_card_of_injOn (fun block => (block, voter)) ?_ ?_
  · intro block named
    obtain ⟨vote, member, place, _⟩ := mem_namedBlocks.mp named
    exact List.mem_toFinset.mpr (List.mem_map.mpr ⟨vote, member, place⟩)
  · exact fun _ _ _ _ same => (Prod.mk.inj same).1

theorem accepted_subset {early votes : List SignedVote} (within : early <+: votes) :
    accepted env tip state early ⊆ accepted env tip state votes :=
  (within.sublist.filter _).subset

theorem places_card_le {votes : List SignedVote} {width : Nat}
    (narrow : ∀ voter round, (namedBlocks env tip state votes voter round).card ≤ width) :
    ((accepted env tip state votes).map SignedVote.place).toFinset.card ≤
      width * (state.activeValidators.length * roundCount votes) := by
  let voters := (state.activeValidators.map ValidatorRecord.operator).toFinset
  let rounds := (votes.map SignedVote.round).toFinset
  let cover := (voters ×ˢ rounds).biUnion fun pair =>
    (namedBlocks env tip state votes pair.1 pair.2).image fun block => (block, pair.1)
  have covered : ((accepted env tip state votes).map SignedVote.place).toFinset ⊆ cover := by
    intro place member
    obtain ⟨vote, kept, rfl⟩ := List.mem_map.mp (List.mem_toFinset.mp member)
    obtain ⟨sent, passed⟩ := List.mem_filter.mp kept
    refine Finset.mem_biUnion.mpr ⟨(vote.validatorAddress, vote.round), ?_, ?_⟩
    · exact Finset.mem_product.mpr ⟨List.mem_toFinset.mpr (verifyVote_active passed),
        List.mem_toFinset.mpr (List.mem_map_of_mem sent)⟩
    · exact Finset.mem_image.mpr ⟨(vote.height, vote.blockHash),
        mem_namedBlocks.mpr ⟨vote, kept, rfl, rfl⟩, rfl⟩
  have voterCount : voters.card ≤ state.activeValidators.length := by
    simpa using List.toFinset_card_le (state.activeValidators.map ValidatorRecord.operator)
  calc ((accepted env tip state votes).map SignedVote.place).toFinset.card ≤ cover.card :=
        Finset.card_le_card covered
    _ ≤ (voters ×ˢ rounds).card * width := Finset.card_biUnion_le_card_mul _ _ _ fun pair _ =>
        Finset.card_image_le.trans (narrow pair.1 pair.2)
    _ = width * (voters.card * rounds.card) := by rw [Finset.card_product, Nat.mul_comm]
    _ ≤ width * (state.activeValidators.length * roundCount votes) :=
        Nat.mul_le_mul_left _ (Nat.mul_le_mul_right _ voterCount)

end Bound

section Flood

def fourStore : StateStore :=
  [1, 2, 3, 4].foldl (fun store mark => store.insertValidator sampleEnv
    (GenesisValidator.record ⟨Bytes32.fill mark, [], .mlDsa65, [mark]⟩)) (StateStore.new sampleEnv)

def floodVote (number : Nat) : SignedVote where
  msgType := msgTypePrecommit
  height := 1
  round := 0
  blockHash := .ofNat number
  validatorAddress := Bytes32.fill 1
  signature := [1] ++ (votePreimage sampleEnv (.viperResearch1 sampleEnv) 1 0 .precommit
    (.ofNat number)).data

def flood (count : Nat) : List SignedVote := (List.range count).map floodVote

theorem fourStore_first : ∃ record, (fourStore.activeValidators.find? fun record =>
    record.operator = Bytes32.fill 1) = some record ∧
      record.consensusAlgId = .mlDsa65 ∧ record.consensusPk = [1] := by
  have found : ((fourStore.activeValidators.find? fun record =>
      record.operator = Bytes32.fill 1).map fun record =>
        (record.consensusAlgId, record.consensusPk)) = some (.mlDsa65, [1]) := by decide +kernel
  obtain ⟨record, present, keys⟩ := Option.map_eq_some_iff.mp found
  exact ⟨record, present, (Prod.mk.inj keys).1, (Prod.mk.inj keys).2⟩

theorem verifyVote_flood (number : Nat) :
    verifyVote sampleEnv 0 fourStore (floodVote number) = some () := by
  obtain ⟨record, present, algId, key⟩ := fourStore_first
  have listed : (fourStore.activeValidators.find? fun record =>
      record.operator = (floodVote number).validatorAddress) = some record := present
  have step : voteStepOf (floodVote number).msgType = some .precommit := by rfl
  have high : 0 < (floodVote number).height := Nat.zero_lt_one
  simp only [verifyVote, listed, step, algId, key, high, guard_true, Option.bind_eq_bind,
    Option.pure_def, Option.bind_some]
  simp [pqVerifier, mlDsaVerifier, sampleEnv, appendedSignature, floodVote, Except.toOption]

theorem accepted_flood (count : Nat) : accepted sampleEnv 0 fourStore (flood count) = flood count := by
  refine List.filter_eq_self.mpr fun vote sent => ?_
  obtain ⟨number, _, rfl⟩ := List.mem_map.mp sent
  simp [verifyVote_flood]

theorem held_flood {count : Nat} (small : count ≤ 256 ^ 32) :
    ((flood count).foldl (handleInboundPrecommit sampleEnv 0 fourStore) .empty).held = count := by
  rw [held_eq_places, accepted_flood, List.toFinset_card_of_nodup]
  · simp [flood]
  · rw [flood, List.map_map]
    refine List.nodup_range.map_on fun left leftMember right rightMember same => ?_
    have hashes : Bytes32.ofNat left = Bytes32.ofNat right := (Prod.mk.inj (Prod.mk.inj same).1).2
    rw [List.mem_range] at leftMember rightMember
    exact Bytes32.ofNat_injOn (leftMember.trans_le small) (rightMember.trans_le small) hashes

theorem roundCount_flood (count : Nat) : roundCount (flood (count + 1)) = 1 := by
  have rounds : (flood (count + 1)).map SignedVote.round = List.replicate (count + 1) 0 := by
    simp [flood, floodVote, List.map_const', Function.comp_def]
  rw [roundCount, rounds, List.toFinset_replicate_of_ne_zero (by omega), Finset.card_singleton]

end Flood

end ViperChain.Gossip
