import ViperChain.Consensus.Arrival

/-!
The vote store over a whole history. The first vote of a validator at a height, round and step
stays; every later one is its double or proof of equivocation.
-/

namespace ViperChain

namespace VoteStore

def conflict (existing vote : ConsensusVote) : EquivocationEvidence where
  validatorAddress := vote.validatorAddress
  height := vote.height
  round := vote.round
  step := vote.step
  voteA := existing
  voteB := vote

theorem record_cases (store : VoteStore) (vote : ConsensusVote) :
    (∃ existing, store.get vote.key = some existing ∧ existing.blockHash = vote.blockHash ∧
      store.record vote = (store, none)) ∨
    (∃ existing, store.get vote.key = some existing ∧ existing.blockHash ≠ vote.blockHash ∧
      store.record vote =
        ({ store with equivocations := store.equivocations ++ [conflict existing vote] },
          some (conflict existing vote))) ∨
    (store.get vote.key = none ∧ (store.record vote).1.votes = vote :: store.votes ∧
      (store.record vote).1.equivocations = store.equivocations ∧ (store.record vote).2 = none) := by
  unfold record
  split
  · rename_i existing found
    by_cases same : existing.blockHash = vote.blockHash
    · exact .inl ⟨existing, found, same, by simp [same]⟩
    · have proper : existing.blockHash ≠ nilHash ∨ vote.blockHash ≠ nilHash := by
        by_contra bothNil
        push Not at bothNil
        exact same (bothNil.1.trans bothNil.2.symm)
      exact .inr (.inl ⟨existing, found, same, if_pos ⟨same, proper⟩⟩)
  · rename_i absent
    exact .inr (.inr ⟨absent, rfl, rfl, rfl⟩)

def recordAll (votes : List ConsensusVote) : VoteStore :=
  votes.foldl (fun store vote => (store.record vote).1) new

theorem recordAll_append (votes : List ConsensusVote) (vote : ConsensusVote) :
    recordAll (votes ++ [vote]) = ((recordAll votes).record vote).1 := by
  simp [recordAll]

def firstVote (votes : List ConsensusVote) (key : VoteKey) : Option ConsensusVote :=
  votes.find? fun vote => vote.key = key

theorem firstVote_append (votes : List ConsensusVote) (vote : ConsensusVote) (key : VoteKey) :
    firstVote (votes ++ [vote]) key =
      (firstVote votes key).or (if vote.key = key then some vote else none) := by
  simp only [firstVote, List.find?_append, List.find?_singleton, decide_eq_true_eq]

theorem firstVote_eq_some {votes : List ConsensusVote} {key : VoteKey} {vote : ConsensusVote}
    (found : firstVote votes key = some vote) : vote ∈ votes ∧ vote.key = key :=
  ⟨List.mem_of_find?_eq_some found, by simpa using List.find?_some found⟩

theorem exists_firstVote {votes : List ConsensusVote} {vote : ConsensusVote}
    (member : vote ∈ votes) : ∃ first, firstVote votes vote.key = some first := by
  cases found : firstVote votes vote.key with
  | some first => exact ⟨first, rfl⟩
  | none => simpa using List.find?_eq_none.mp found vote member

theorem get_recordAll (votes : List ConsensusVote) (key : VoteKey) :
    (recordAll votes).get key = firstVote votes key := by
  induction votes using List.reverseRecOn with
  | nil => rfl
  | append_singleton votes vote ih =>
      rw [recordAll_append, firstVote_append, ← ih]
      rcases record_cases (recordAll votes) vote with
        ⟨existing, found, _, recorded⟩ | ⟨existing, found, _, recorded⟩ | ⟨absent, stored, _⟩
      · by_cases same : vote.key = key
        · subst same
          simp [recorded, found]
        · simp [recorded, same]
      · have kept : ((recordAll votes).record vote).1.get key = (recordAll votes).get key := by
          rw [recorded]
          rfl
        by_cases same : vote.key = key
        · subst same
          simp [kept, found]
        · simp [kept, same]
      · by_cases same : vote.key = key
        · subst same
          rw [absent, Option.none_or, if_pos rfl]
          simp [get, stored]
        · simp [get, stored, same]

theorem mem_votes_iff (store : VoteStore) (vote : ConsensusVote) :
    vote ∈ store.votes ↔ store.get vote.key = some vote := by
  constructor
  · intro member
    cases found : store.get vote.key with
    | none => simpa using List.find?_eq_none.mp found vote member
    | some other =>
        have same : other.key = vote.key := by simpa using List.find?_some found
        have distinct := List.inj_on_of_nodup_map store.unique
        rw [distinct (List.mem_of_find?_eq_some found) member same]
  · exact fun found => List.mem_of_find?_eq_some found

def firstVoters (votes : List ConsensusVote) (step : VoteStep) (height round : Nat)
    (blockHash : Bytes32) : List Address :=
  (votes.map ConsensusVote.validatorAddress).dedup.filter fun validator =>
    (firstVote votes ⟨validator, height, round, step⟩).map ConsensusVote.blockHash = some blockHash

theorem countFor_recordAll (votes : List ConsensusVote) (step : VoteStep) (height round : Nat)
    (blockHash : Bytes32) :
    (recordAll votes).countFor step height round blockHash =
      (firstVoters votes step height round blockHash).length := by
  have counted := votesAt_validators_nodup (recordAll votes) step height round
    fun vote => vote.blockHash = blockHash
  have listed : (firstVoters votes step height round blockHash).Nodup :=
    (List.nodup_dedup _).filter _
  rw [countFor, ← List.length_map ConsensusVote.validatorAddress]
  refine ((List.perm_ext_iff_of_nodup counted listed).mpr fun validator => ?_).length_eq
  simp only [firstVoters, votesAt, List.mem_map, List.mem_filter, List.mem_dedup, mem_votes_iff,
    get_recordAll, decide_eq_true_eq, Option.map_eq_some_iff]
  constructor
  · rintro ⟨vote, ⟨⟨stored, rfl, rfl, rfl⟩, same⟩, rfl⟩
    exact ⟨⟨vote, (firstVote_eq_some stored).1, rfl⟩, vote, stored, same⟩
  · rintro ⟨_, vote, first, same⟩
    obtain ⟨_, named⟩ := firstVote_eq_some first
    obtain ⟨rfl, rfl, rfl, rfl⟩ : vote.validatorAddress = validator ∧ vote.height = height ∧
        vote.round = round ∧ vote.step = step := by
      simpa [ConsensusVote.key] using named
    exact ⟨vote, ⟨⟨first, rfl, rfl, rfl⟩, same⟩, rfl⟩

theorem mem_equivocations (votes : List ConsensusVote) (evidence : EquivocationEvidence) :
    evidence ∈ (recordAll votes).equivocations ↔
      ∃ earlier vote later, votes = earlier ++ vote :: later ∧
        ((recordAll earlier).record vote).2 = some evidence := by
  induction votes using List.reverseRecOn with
  | nil => simp [recordAll, new]
  | append_singleton votes vote ih =>
      have extended : evidence ∈ (recordAll (votes ++ [vote])).equivocations ↔
          evidence ∈ (recordAll votes).equivocations ∨
            ((recordAll votes).record vote).2 = some evidence := by
        rw [recordAll_append]
        rcases record_cases (recordAll votes) vote with
          ⟨_, _, _, recorded⟩ | ⟨_, _, _, recorded⟩ | ⟨_, _, same, nothing⟩
        · simp [recorded]
        · simp [recorded, eq_comm]
        · simp [same, nothing]
      rw [extended, ih]
      constructor
      · rintro (⟨earlier, former, later, rfl, noted⟩ | noted)
        · exact ⟨earlier, former, later ++ [vote], by simp, noted⟩
        · exact ⟨votes, vote, [], rfl, noted⟩
      · rintro ⟨earlier, former, later, split, noted⟩
        rcases List.eq_nil_or_concat' later with rfl | ⟨rest, last, rfl⟩
        · obtain ⟨rfl, same⟩ := List.append_inj' split rfl
          obtain rfl : vote = former := by simpa using same
          exact .inr noted
        · rw [← List.cons_append, ← List.append_assoc] at split
          obtain ⟨rfl, _⟩ := List.append_inj' split rfl
          exact .inl ⟨earlier, former, rest, rfl, noted⟩

theorem record_noted {earlier : List ConsensusVote} {vote : ConsensusVote}
    {evidence : EquivocationEvidence} :
    ((recordAll earlier).record vote).2 = some evidence ↔
      ∃ first, firstVote earlier vote.key = some first ∧ first.blockHash ≠ vote.blockHash ∧
        evidence = conflict first vote := by
  rw [← get_recordAll]
  rcases record_cases (recordAll earlier) vote with
    ⟨existing, found, same, recorded⟩ | ⟨existing, found, differ, recorded⟩ |
      ⟨absent, _, _, nothing⟩
  · simp [recorded, found, same]
  · simp only [recorded, found, Option.some.injEq]
    constructor
    · rintro rfl
      exact ⟨existing, rfl, differ, rfl⟩
    · rintro ⟨_, rfl, _, rfl⟩
      rfl
  · simp [absent, nothing]

end VoteStore

namespace EquivocationEvidence

def key (evidence : EquivocationEvidence) : VoteKey :=
  ⟨evidence.validatorAddress, evidence.height, evidence.round, evidence.step⟩

structure Proves (evidence : EquivocationEvidence) (votes : List ConsensusVote) : Prop where
  recordedA : evidence.voteA ∈ votes
  recordedB : evidence.voteB ∈ votes
  keyA : evidence.voteA.key = evidence.key
  keyB : evidence.voteB.key = evidence.key
  differ : evidence.voteA.blockHash ≠ evidence.voteB.blockHash

end EquivocationEvidence

namespace VoteStore

theorem proves_of_mem {votes : List ConsensusVote} {evidence : EquivocationEvidence}
    (noted : evidence ∈ (recordAll votes).equivocations) : evidence.Proves votes := by
  obtain ⟨earlier, vote, later, rfl, recorded⟩ := (mem_equivocations votes evidence).mp noted
  obtain ⟨first, found, differ, rfl⟩ := record_noted.mp recorded
  obtain ⟨member, named⟩ := firstVote_eq_some found
  exact ⟨List.mem_append_left _ member, List.mem_append_right _ List.mem_cons_self, named, rfl,
    differ⟩

theorem exists_evidence_iff (votes : List ConsensusVote) (key : VoteKey) :
    (∃ evidence ∈ (recordAll votes).equivocations, evidence.key = key) ↔
      ∃ left ∈ votes, ∃ right ∈ votes, left.key = key ∧ right.key = key ∧
        left.blockHash ≠ right.blockHash := by
  constructor
  · rintro ⟨evidence, noted, rfl⟩
    have proof := proves_of_mem noted
    exact ⟨_, proof.recordedA, _, proof.recordedB, proof.keyA, proof.keyB, proof.differ⟩
  · rintro ⟨left, leftMember, right, rightMember, rfl, sameKey, differ⟩
    obtain ⟨first, found⟩ := exists_firstVote leftMember
    -- One of the two differs from the first vote of their key, and comes after it.
    obtain ⟨vote, member, named, other⟩ : ∃ vote ∈ votes, vote.key = left.key ∧
        first.blockHash ≠ vote.blockHash := by
      by_cases same : first.blockHash = left.blockHash
      · exact ⟨right, rightMember, sameKey, same ▸ differ⟩
      · exact ⟨left, leftMember, rfl, same⟩
    obtain ⟨earlier, later, rfl⟩ := List.append_of_mem member
    have before : firstVote earlier vote.key = some first := by
      rw [← named] at found
      cases early : firstVote earlier vote.key with
      | some found' =>
          simpa [firstVote, List.find?_append, show earlier.find? _ = _ from early] using found
      | none =>
          have here : first = vote := by
            simpa [firstVote, List.find?_append, show earlier.find? _ = _ from early] using found.symm
          exact absurd (congrArg ConsensusVote.blockHash here) other
    refine ⟨conflict first vote, (mem_equivocations _ _).mpr ⟨earlier, vote, later, rfl, ?_⟩, named⟩
    exact record_noted.mpr ⟨first, before, other, rfl⟩

theorem votes_filter_key (store : VoteStore) (key : VoteKey) :
    store.votes.filter (fun vote => vote.key = key) = (store.get key).toList := by
  obtain ⟨votes, _, unique⟩ := store
  change votes.filter _ = (votes.find? _).toList
  induction votes with
  | nil => rfl
  | cons vote votes ih =>
      rw [List.map_cons, List.nodup_cons] at unique
      by_cases same : vote.key = key
      · have others : votes.filter (fun other => other.key = key) = [] := by
          refine List.filter_eq_nil_iff.mpr fun other member => ?_
          intro also
          refine unique.1 (List.mem_map.mpr ⟨other, member, ?_⟩)
          rw [same]
          simpa using also
        simp [same, others]
      · simp [same, ih unique.2]

/-- The vote store after any votes: what it holds, what it counts, what it proves. -/
theorem voteStore_bookkeeping (votes : List ConsensusVote) :
    (∀ key, (recordAll votes).votes.filter (fun vote => vote.key = key) =
      (firstVote votes key).toList) ∧
    (∀ height round blockHash,
      (recordAll votes).prevoteCountFor height round blockHash =
          (firstVoters votes .prevote height round blockHash).length ∧
        (recordAll votes).precommitCountFor height round blockHash =
          (firstVoters votes .precommit height round blockHash).length) ∧
    (∀ evidence, evidence ∈ (recordAll votes).equivocations ↔
      ∃ earlier vote later, votes = earlier ++ vote :: later ∧
        ((recordAll earlier).record vote).2 = some evidence) ∧
    (∀ evidence ∈ (recordAll votes).equivocations, evidence.Proves votes) ∧
    (∀ key, (∃ evidence ∈ (recordAll votes).equivocations, evidence.key = key) ↔
      ∃ left ∈ votes, ∃ right ∈ votes, left.key = key ∧ right.key = key ∧
        left.blockHash ≠ right.blockHash) ∧
    (∀ reordered, votes.Perm reordered →
      ∀ key, (∃ evidence ∈ (recordAll votes).equivocations, evidence.key = key) ↔
        ∃ evidence ∈ (recordAll reordered).equivocations, evidence.key = key) := by
  refine ⟨fun key => ?_, fun height round blockHash => ⟨?_, ?_⟩, mem_equivocations votes,
    fun evidence noted => proves_of_mem noted, exists_evidence_iff votes, ?_⟩
  · rw [votes_filter_key, get_recordAll]
  · exact countFor_recordAll votes .prevote height round blockHash
  · exact countFor_recordAll votes .precommit height round blockHash
  · intro reordered perm key
    simp only [exists_evidence_iff, perm.mem_iff]

end VoteStore

end ViperChain
