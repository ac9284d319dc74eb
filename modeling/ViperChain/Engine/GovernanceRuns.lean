import ViperChain.Engine.Reach
import ViperChain.State.Proposals

/-!
Governance over whole runs: the proposals of the store against a record of the votes accepted
and the effects executed.
-/

namespace ViperChain

open Fallible

variable {env : Env} {store next : StateStore}

structure AcceptedVote where
  store : StateStore
  voter : Address
  proposalId : Bytes32
  yes : Bool

section Records

structure Recorded (store : StateStore) (votes : List AcceptedVote) (executions : List Execution) :
    Prop where
  named : store.catalogue.Named
  counted : ∀ id voter yes,
    (∃ proposal, store.getPendingProposal id = some proposal ∧ proposal.votes[voter]? = some yes) ↔
      ∃ vote ∈ votes, vote.proposalId = id ∧ vote.voter = voter ∧ vote.yes = yes
  once : (votes.map fun vote => (vote.proposalId, vote.voter)).Nodup
  active : ∀ vote ∈ votes, vote.store.isActiveValidator vote.voter = true
  executedOnce : (executions.map Execution.proposalId).Nodup
  executed : ∀ execution ∈ executions, execution.proposal.Passes execution.store ∧
    ∃ proposal, store.getPendingProposal execution.proposalId = some proposal ∧
      proposal.status ≠ .voting ∧ proposal.votes = execution.proposal.votes
  marked : ∀ id proposal, store.getPendingProposal id = some proposal →
    ((proposal.status = .executed ∨ proposal.status = .executionFailed) ↔
      ∃ execution ∈ executions, execution.proposalId = id)

variable {votes : List AcceptedVote} {executions : List Execution}

theorem Recorded.of_lookup (recorded : Recorded store votes executions)
    (lookup : next.getPendingProposal = store.getPendingProposal) (named : next.catalogue.Named) :
    Recorded next votes executions where
  named
  counted := lookup ▸ recorded.counted
  once := recorded.once
  active := recorded.active
  executedOnce := recorded.executedOnce
  executed := lookup ▸ recorded.executed
  marked := lookup ▸ recorded.marked

theorem lookup_of_catalogue (same : next.catalogue = store.catalogue) :
    next.getPendingProposal = store.getPendingProposal := by
  funext id
  exact congrArg (fun catalogue : Catalogue => catalogue.pendingProposals.get? id) same

theorem Recorded.of_catalogue (recorded : Recorded store votes executions)
    (same : next.catalogue = store.catalogue) : Recorded next votes executions :=
  recorded.of_lookup (lookup_of_catalogue same) (same ▸ recorded.named)

theorem Recorded.propose {proposal : PendingProposal} (recorded : Recorded store votes executions)
    (checked : ProposalChecked store proposal) (named : next.catalogue.Named)
    (lookup : ∀ id, next.getPendingProposal id =
      if proposal.proposalId = id then some proposal else store.getPendingProposal id) :
    Recorded next votes executions := by
  have known : ∀ id old, store.getPendingProposal id = some old →
      next.getPendingProposal id = some old := by
    intro id old present
    rw [lookup, if_neg ?_, present]
    rintro rfl
    rw [checked.fresh] at present
    cases present
  refine { recorded with named, counted := fun id voter yes => ?_, executed := ?_, marked := ?_ }
  · rw [← recorded.counted]
    constructor
    · rintro ⟨found, present, voted⟩
      rw [lookup] at present
      split at present
      · cases present
        simp [checked.unvoted] at voted
      · exact ⟨found, present, voted⟩
    · rintro ⟨found, present, voted⟩
      exact ⟨found, known id found present, voted⟩
  · intro execution ran
    obtain ⟨passes, old, present, closed, same⟩ := recorded.executed execution ran
    exact ⟨passes, old, known _ old present, closed, same⟩
  · intro id found present
    rw [lookup] at present
    split at present
    case isFalse => exact recorded.marked id found present
    case isTrue same =>
      cases present
      rw [checked.voting]
      constructor
      · simp
      · rintro ⟨execution, ran, rfl⟩
        obtain ⟨_, old, present, _⟩ := recorded.executed execution ran
        rw [← same, checked.fresh] at present
        cases present

theorem Recorded.vote {sender : Address} {id : Bytes32} {yes : Bool} {proposal : PendingProposal}
    (recorded : Recorded store votes executions)
    (present : store.getPendingProposal id = some proposal) (voting : proposal.status = .voting)
    (active : store.isActiveValidator sender = true)
    (unvoted : proposal.votes.contains sender = false) (named : next.catalogue.Named)
    (lookup : ∀ other, next.getPendingProposal other =
      if id = other then some { proposal with votes := proposal.votes.insert sender yes }
      else store.getPendingProposal other) :
    Recorded next (votes ++ [⟨store, sender, id, yes⟩]) executions := by
  have unrecorded : ∀ vote ∈ votes, ¬ (vote.proposalId = id ∧ vote.voter = sender) := by
    rintro vote member ⟨rfl, rfl⟩
    obtain ⟨found, foundPresent, voted⟩ := (recorded.counted _ _ vote.yes).mpr
      ⟨vote, member, rfl, rfl, rfl⟩
    rw [present, Option.some_inj] at foundPresent
    subst foundPresent
    have held : vote.voter ∈ proposal.votes := Std.ExtTreeMap.mem_iff_isSome_getElem?.mpr (by simp [voted])
    rw [← Std.ExtTreeMap.contains_iff_mem, unvoted] at held
    cases held
  have closed : ∀ execution ∈ executions, id ≠ execution.proposalId := by
    rintro execution ran rfl
    obtain ⟨_, old, found, ended, _⟩ := recorded.executed execution ran
    rw [present, Option.some_inj] at found
    exact ended (found ▸ voting)
  constructor
  case named => exact named
  case counted =>
    intro other voter answer
    have before := recorded.counted other voter answer
    simp only [List.mem_append, List.mem_singleton, or_and_right, exists_or, exists_eq_left,
      ← before, lookup]
    by_cases same : id = other
    · subst same
      simp only [if_true, Option.some_inj, exists_eq_left', present,
        Std.ExtTreeMap.getElem?_insert, compare_eq_iff_eq, true_and]
      by_cases own : sender = voter
      · subst own
        simp [Std.ExtTreeMap.getElem?_eq_none_of_contains_eq_false unvoted]
      · simp [own]
    · simp [same]
  case once =>
    rw [List.map_append, List.nodup_append]
    refine ⟨recorded.once, by simp, ?_⟩
    rintro key member _ last rfl
    obtain ⟨vote, listed, rfl⟩ := List.mem_map.mp member
    simp only [List.map_cons, List.map_nil, List.mem_singleton, Prod.mk.injEq] at last
    exact unrecorded vote listed last
  case active =>
    intro vote member
    rcases List.mem_append.mp member with earlier | last
    · exact recorded.active vote earlier
    · rw [List.mem_singleton.mp last]
      exact active
  case executedOnce => exact recorded.executedOnce
  case executed =>
    intro execution ran
    obtain ⟨passes, old, found, ended, same⟩ := recorded.executed execution ran
    exact ⟨passes, old, by rw [lookup, if_neg (closed execution ran), found], ended, same⟩
  case marked =>
    intro other found foundPresent
    rw [lookup] at foundPresent
    split at foundPresent
    case isTrue same =>
      subst same
      cases foundPresent
      exact recorded.marked id proposal present
    case isFalse => exact recorded.marked other found foundPresent

theorem Recorded.move {sender : Address} {ballot : Option (Bytes32 × Bool)}
    (recorded : Recorded store votes executions) (move : ProposalMove store sender next ballot)
    (named : next.catalogue.Named) :
    Recorded next (votes ++ (ballot.map fun ballot =>
      (⟨store, sender, ballot.1, ballot.2⟩ : AcceptedVote)).toList) executions := by
  cases move with
  | untouched same =>
      have lookup : next.getPendingProposal = store.getPendingProposal := by
        funext id
        rw [StateStore.getPendingProposal, same, StateStore.getPendingProposal]
      simpa using recorded.of_lookup lookup named
  | proposed proposal checked lookup => simpa using recorded.propose checked named lookup
  | voted id yes proposal present voting active unvoted lookup =>
      exact recorded.vote present voting active unvoted named lookup

theorem processGovernanceTallies_get (named : store.catalogue.Named) (height : Nat) {id : Bytes32}
    {proposal : PendingProposal} (present : store.getPendingProposal id = some proposal) :
    ((proposal.status ≠ .voting ∨ height ≤ proposal.votingDeadline) ∧
        (processGovernanceTallies env store height).getPendingProposal id = some proposal ∧
        ∀ execution ∈ tallyExecutions env height store (dueProposals store height),
          execution.proposalId ≠ id) ∨
      (proposal.status = .voting ∧ proposal.votingDeadline < height ∧
        ∃ status, status ≠ ProposalStatus.voting ∧
          (processGovernanceTallies env store height).getPendingProposal id =
            some { proposal with status } ∧
          ((status = .executed ∨ status = .executionFailed) ↔
            ∃ execution ∈ tallyExecutions env height store (dueProposals store height),
              execution.proposalId = id)) := by
  by_cases due : id ∈ dueProposals store height
  · obtain ⟨found, foundPresent, voting, late⟩ := (mem_dueProposals named).mp due
    rw [present, Option.some_inj] at foundPresent
    subst foundPresent
    exact .inr ⟨voting, late,
      tallies_closed (dueProposals_nodup named height) height due present⟩
  · refine .inl ⟨?_, ?_, fun execution ran same => ?_⟩
    · by_contra pending
      simp only [not_or, not_not, not_le] at pending
      exact due ((mem_dueProposals named).mpr ⟨proposal, present, pending⟩)
    · exact (tallies_untouched height due store).trans present
    · have listed := (tallyExecutions_sublist height _ store).subset (List.mem_map_of_mem ran)
      exact due (same ▸ listed)

theorem processGovernanceTallies_absent (height : Nat) (named : store.catalogue.Named)
    {id : Bytes32} (absent : store.getPendingProposal id = none) :
    (processGovernanceTallies env store height).getPendingProposal id = none := by
  refine (tallies_untouched height (fun due => ?_) store).trans absent
  obtain ⟨_, present, _⟩ := (mem_dueProposals named).mp due
  rw [absent] at present
  cases present

theorem processGovernanceTallies_votes (named : store.catalogue.Named) (height : Nat)
    (id : Bytes32) :
    ((processGovernanceTallies env store height).getPendingProposal id).map PendingProposal.votes =
      (store.getPendingProposal id).map PendingProposal.votes := by
  cases present : store.getPendingProposal id with
  | none => rw [processGovernanceTallies_absent height named present]
  | some proposal =>
      rcases @processGovernanceTallies_get env store named height id proposal present with
        ⟨_, kept, _⟩ | ⟨_, _, status, _, closed, _⟩
      · rw [kept]
      · rw [closed]
        rfl

theorem Recorded.tally (recorded : Recorded store votes executions) (height : Nat) :
    Recorded (processGovernanceTallies env store height) votes
      (executions ++ tallyExecutions env height store (dueProposals store height)) := by
  have named := recorded.named
  have distinct := dueProposals_nodup named height
  have voting : ∀ execution ∈ tallyExecutions env height store (dueProposals store height),
      execution.proposal.status = .voting := by
    intro execution ran
    have listed := (tallyExecutions_sublist height _ store).subset (List.mem_map_of_mem ran)
    obtain ⟨found, foundPresent, voting, _⟩ := (mem_dueProposals named).mp listed
    have present := (mem_tallyExecutions distinct ran).1
    rw [present, Option.some_inj] at foundPresent
    rwa [foundPresent]
  constructor
  case named => exact processGovernanceTallies_named named height
  case counted =>
    intro id voter yes
    have votes := @processGovernanceTallies_votes env store named height id
    rw [← recorded.counted]
    constructor
    · rintro ⟨proposal, present, voted⟩
      rw [present, Option.map_some, eq_comm, Option.map_eq_some_iff] at votes
      obtain ⟨old, found, same⟩ := votes
      exact ⟨old, found, by rw [same, voted]⟩
    · rintro ⟨proposal, present, voted⟩
      rw [present, Option.map_some, Option.map_eq_some_iff] at votes
      obtain ⟨later, found, same⟩ := votes
      exact ⟨later, found, by rw [same, voted]⟩
  case once => exact recorded.once
  case active => exact recorded.active
  case executedOnce =>
    rw [List.map_append, List.nodup_append]
    refine ⟨recorded.executedOnce, distinct.sublist (tallyExecutions_sublist height _ store), ?_⟩
    rintro id earlier _ now rfl
    obtain ⟨old, ran, rfl⟩ := List.mem_map.mp earlier
    obtain ⟨execution, runs, same⟩ := List.mem_map.mp now
    obtain ⟨_, found, foundPresent, closed, _⟩ := recorded.executed old ran
    have present := (mem_tallyExecutions distinct runs).1
    rw [same, foundPresent, Option.some_inj] at present
    exact closed (present ▸ voting execution runs)
  case executed =>
    intro execution ran
    rcases List.mem_append.mp ran with earlier | now
    · obtain ⟨passes, proposal, present, closed, same⟩ := recorded.executed execution earlier
      refine ⟨passes, proposal, ?_, closed, same⟩
      rcases @processGovernanceTallies_get env store named height _ proposal present with
        ⟨_, kept, _⟩ | ⟨voting, _⟩
      · exact kept
      · exact absurd voting closed
    · obtain ⟨present, passes⟩ := mem_tallyExecutions distinct now
      refine ⟨passes, ?_⟩
      rcases @processGovernanceTallies_get env store named height _ _ present with
        ⟨_, _, others⟩ | ⟨_, _, status, closed, found, _⟩
      · exact absurd rfl (others execution now)
      · exact ⟨_, found, closed, rfl⟩
  case marked =>
    intro id proposal found
    cases present : store.getPendingProposal id with
    | none =>
        rw [processGovernanceTallies_absent height named present] at found
        cases found
    | some old =>
        have before := recorded.marked id old present
        simp only [List.mem_append, or_and_right, exists_or]
        rcases @processGovernanceTallies_get env store named height id old present with
          ⟨_, kept, others⟩ | ⟨voting, _, status, _, closed, verdict⟩
        · rw [found, Option.some_inj] at kept
          subst kept
          have unexecuted : ¬ ∃ execution ∈ tallyExecutions env height store
              (dueProposals store height), execution.proposalId = id := by
            rintro ⟨execution, ran, same⟩
            exact others execution ran same
          rw [before, or_iff_left unexecuted]
        · rw [found, Option.some_inj] at closed
          subst closed
          have unrecorded : ¬ ∃ execution ∈ executions, execution.proposalId = id := by
            rw [← before, voting]
            simp
          rw [verdict, or_iff_right unrecorded]

end Records

section Deadlines

def OnSchedule (store : StateStore) (height : Nat) : Prop :=
  ∀ id proposal, store.getPendingProposal id = some proposal →
    (proposal.status = .voting ↔ height ≤ proposal.votingDeadline)

theorem OnSchedule.move {sender : Address} {ballot : Option (Bytes32 × Bool)}
    (onSchedule : OnSchedule store store.blockHeight)
    (low : store.blockHeight + governanceVotingPeriod < 2 ^ 64)
    (move : ProposalMove store sender next ballot) : OnSchedule next store.blockHeight := by
  intro id proposal present
  cases move with
  | untouched same =>
      rw [StateStore.getPendingProposal, same] at present
      exact onSchedule id proposal present
  | proposed fresh checked lookup =>
      rw [lookup] at present
      split at present
      case isFalse => exact onSchedule id proposal present
      case isTrue =>
        cases present
        have deadline := checked.deadline
        simp only [checked.voting, true_iff]
        simp only [satAdd64, u64Max] at deadline
        omega
  | voted voted yes old found voting active unvoted lookup =>
      rw [lookup] at present
      split at present
      case isFalse => exact onSchedule id proposal present
      case isTrue same =>
        cases present
        exact onSchedule voted old found

theorem OnSchedule.tally {height : Nat} (onSchedule : OnSchedule store height)
    (named : store.catalogue.Named) :
    OnSchedule (processGovernanceTallies env store (height + 1)) (height + 1) := by
  intro id proposal found
  cases present : store.getPendingProposal id with
  | none =>
      rw [processGovernanceTallies_absent (height + 1) named present] at found
      cases found
  | some old =>
      have before := onSchedule id old present
      rcases @processGovernanceTallies_get env store named (height + 1) id old present with
        ⟨pending, kept, _⟩ | ⟨_, late, status, closed, kept, _⟩
      · rw [found, Option.some_inj] at kept
        subst kept
        constructor
        · intro voting
          exact pending.resolve_left fun closed => closed voting
        · intro early
          exact before.mpr (by omega)
      · rw [found, Option.some_inj] at kept
        subst kept
        simp only [closed, false_iff]
        omega

def ProposalsStay (store next : StateStore) : Prop :=
  ∀ id proposal, store.getPendingProposal id = some proposal →
    ∃ later, next.getPendingProposal id = some later ∧
      later.votingDeadline = proposal.votingDeadline ∧ later.effect = proposal.effect ∧
      (proposal.status ≠ .voting → later = proposal)

theorem ProposalsStay.refl (store : StateStore) : ProposalsStay store store :=
  fun _ proposal present => ⟨proposal, present, rfl, rfl, fun _ => rfl⟩

theorem ProposalsStay.trans {last : StateStore} (first : ProposalsStay store next)
    (second : ProposalsStay next last) : ProposalsStay store last := by
  intro id proposal present
  obtain ⟨middle, found, deadline, effect, kept⟩ := first id proposal present
  obtain ⟨later, foundLater, deadlineLater, effectLater, keptLater⟩ := second id middle found
  refine ⟨later, foundLater, deadlineLater.trans deadline, effectLater.trans effect, ?_⟩
  intro closed
  have same := kept closed
  subst same
  exact keptLater closed

theorem ProposalsStay.of_catalogue (same : next.catalogue = store.catalogue) :
    ProposalsStay store next := by
  intro id proposal present
  exact ⟨proposal, by rwa [lookup_of_catalogue same], rfl, rfl, fun _ => rfl⟩

theorem ProposalMove.stay {sender : Address} {ballot : Option (Bytes32 × Bool)}
    (move : ProposalMove store sender next ballot) : ProposalsStay store next := by
  intro id proposal present
  cases move with
  | untouched same =>
      exact ⟨proposal, by rwa [StateStore.getPendingProposal, same], rfl, rfl, fun _ => rfl⟩
  | proposed fresh checked lookup =>
      refine ⟨proposal, ?_, rfl, rfl, fun _ => rfl⟩
      rw [lookup, if_neg ?_, present]
      rintro rfl
      rw [checked.fresh] at present
      cases present
  | voted voted yes old found voting active unvoted lookup =>
      rw [lookup]
      by_cases same : voted = id
      · subst same
        rw [present, Option.some_inj] at found
        subst found
        exact ⟨_, if_pos rfl, rfl, rfl, fun closed => absurd voting closed⟩
      · exact ⟨proposal, by rw [if_neg same, present], rfl, rfl, fun _ => rfl⟩

theorem processGovernanceTallies_stay (named : store.catalogue.Named) (height : Nat) :
    ProposalsStay store (processGovernanceTallies env store height) := by
  intro id proposal present
  rcases @processGovernanceTallies_get env store named height id proposal present with
    ⟨_, kept, _⟩ | ⟨voting, _, status, _, closed, _⟩
  · exact ⟨proposal, kept, rfl, rfl, fun _ => rfl⟩
  · exact ⟨_, closed, rfl, rfl, fun ended => absurd voting ended⟩

end Deadlines

section Blocks

def acceptedVote (env : Env) (config : AssemblyConfig) (state : AssemblyState) (entry : PendingEntry) :
    Option AcceptedVote :=
  if satAdd64 state.bytesUsed entry.rawBytes.length > config.maxBlockBytes then none
  else
    match applyTx env state.store entry.tx
        (executionContext state.store config.feeParams entry.rawBytes.length) with
    | .ok (_, execution) =>
        (castBallot env entry.tx execution).map fun ballot =>
          ⟨state.store, entry.tx.sender, ballot.1, ballot.2⟩
    | .error _ => none

def acceptedVotes (env : Env) (config : AssemblyConfig) : AssemblyState → List PendingEntry → List AcceptedVote
  | _, [] => []
  | state, entry :: rest =>
      (acceptedVote env config state entry).toList ++
        acceptedVotes env config (assembleEntry env config state entry) rest

theorem acceptedVotes_induction {holds : StateStore → List AcceptedVote → Prop} (config : AssemblyConfig)
    (kept : ∀ store tx context next result votes,
      applyTx env store tx context = .ok (next, result) → holds store votes →
      holds next (votes ++ ((castBallot env tx result).map fun ballot =>
        (⟨store, tx.sender, ballot.1, ballot.2⟩ : AcceptedVote)).toList))
    (entries : List PendingEntry) (state : AssemblyState) {votes : List AcceptedVote}
    (initial : holds state.store votes) :
    holds (entries.foldl (assembleEntry env config) state).store
      (votes ++ acceptedVotes env config state entries) := by
  induction entries generalizing state votes with
  | nil => simpa [acceptedVotes] using initial
  | cons entry rest ih =>
      rw [List.foldl_cons, acceptedVotes, ← List.append_assoc]
      refine ih _ ?_
      simp only [assembleEntry, acceptedVote]
      split
      · simpa using initial
      · cases executed : applyTx env state.store entry.tx
          (executionContext state.store config.feeParams entry.rawBytes.length) with
        | error => simpa using initial
        | ok outcome => exact kept _ _ _ _ _ _ executed initial

theorem acceptedVotes_recorded {votes : List AcceptedVote} {executions : List Execution}
    (config : AssemblyConfig) (entries : List PendingEntry) (state : AssemblyState)
    (recorded : Recorded state.store votes executions) :
    Recorded (entries.foldl (assembleEntry env config) state).store
      (votes ++ acceptedVotes env config state entries) executions :=
  @acceptedVotes_induction env (fun store votes => Recorded store votes executions) config
    (fun _ _ _ _ _ _ executed recorded => recorded.move (applyTx_proposalMove executed)
      (applyTx_named recorded.named executed)) entries state votes recorded

structure Underway (start current : StateStore) : Prop where
  rules : SameRules start current
  stay : ProposalsStay start current
  onSchedule : OnSchedule start start.blockHeight →
    start.blockHeight + governanceVotingPeriod < 2 ^ 64 → OnSchedule current start.blockHeight

theorem assembleEntries_underway (config : AssemblyConfig) (entries : List PendingEntry)
    (state : AssemblyState) :
    Underway state.store (entries.foldl (assembleEntry env config) state).store := by
  refine @acceptedVotes_induction env (fun current _ => Underway state.store current) config
    (fun store tx context next result votes executed underway => ?_) entries state []
    ⟨⟨rfl, rfl⟩, .refl _, fun onSchedule _ => onSchedule⟩
  have move := applyTx_proposalMove executed
  have rules := applyTx_sameRules executed
  refine ⟨⟨rules.blockHeight.trans underway.rules.blockHeight,
    rules.algRegistry.trans underway.rules.algRegistry⟩, underway.stay.trans move.stay, ?_⟩
  intro onSchedule low
  have before := underway.onSchedule onSchedule low
  rw [← underway.rules.blockHeight] at before low ⊢
  exact before.move low move

def tallyStore (env : Env) (state : AssemblyState) (proposer : Address) (config : AssemblyConfig) :
    StateStore :=
  (distributeBlockFees env state.store proposer state.feesCollected
    (feePool state.store config.validatorPool) config.feeDist).applyAimdUpdate env state.blockGasUsed

theorem tallyStore_eq (state : AssemblyState) (proposer : Address) (config : AssemblyConfig) :
    (tallyStore env state proposer config).catalogue = state.store.catalogue ∧
      (tallyStore env state proposer config).blockHeight = state.store.blockHeight := by
  obtain ⟨_, paid⟩ := @distributeBlockFees_frame env state.store proposer state.feesCollected
    (feePool state.store config.validatorPool) config.feeDist
  rw [tallyStore, paid]
  exact ⟨rfl, rfl⟩

theorem epochStep_frame (store : StateStore) (height : Nat) (epochConfig : EpochConfig) :
    ∃ validators, epochStep env store height epochConfig = { store with validators } := by
  unfold epochStep
  split
  · exact processEpochTransitions_frame store epochConfig.churn
  · exact ⟨_, rfl⟩

theorem finishAssembly_tally (state : AssemblyState) (proposer : Address) (height : Nat)
    (config : AssemblyConfig) :
    (finishAssembly env state.store proposer height state.feesCollected state.blockGasUsed
        config).catalogue =
      (processGovernanceTallies env (tallyStore env state proposer config) height).catalogue ∧
    (finishAssembly env state.store proposer height state.feesCollected state.blockGasUsed
        config).blockHeight = state.store.blockHeight + 1 := by
  have closed : ∀ tallied : StateStore,
      (epochStep env ((refundExpirations env tallied height
        |>.activatePendingConsensusKeyRotations env height).advanceHeight env) height
          config.epochConfig).catalogue = tallied.catalogue ∧
      (epochStep env ((refundExpirations env tallied height
        |>.activatePendingConsensusKeyRotations env height).advanceHeight env) height
          config.epochConfig).blockHeight = tallied.blockHeight + 1 := by
    intro tallied
    obtain ⟨_, _, refunded⟩ := @refundExpirations_frame env tallied height
    obtain ⟨_, _, rotated⟩ := @activateRotations_frame env (refundExpirations env tallied height)
      height
    obtain ⟨_, ended⟩ := @epochStep_frame env ((refundExpirations env tallied height
      |>.activatePendingConsensusKeyRotations env height).advanceHeight env) height config.epochConfig
    rw [ended, rotated, refunded]
    exact ⟨rfl, rfl⟩
  have tallyHeight : (processGovernanceTallies env (tallyStore env state proposer config)
      height).blockHeight = state.store.blockHeight := by
    rw [processGovernanceTallies_frame]
    exact (tallyStore_eq state proposer config).2
  rw [← tallyHeight]
  exact closed _

end Blocks

section Runs

structure Governed where
  store : StateStore
  votes : List AcceptedVote
  executions : List Execution

structure AssembleCall where
  pool : Mempool
  context : AssemblyContext
  config : AssemblyConfig

namespace Governed

def perform (env : Env) (state : Governed) (call : AssembleCall) : Governed :=
  match assembleBlock env state.store call.pool call.context call.config,
      Bytes32.ofBytes? call.context.proposer with
  | .ok assembled, some proposer =>
      let ended := assembleEntries env call.config state.store call.pool
      let tallied := tallyStore env ended proposer call.config
      { store := assembled.store
        votes := state.votes ++ acceptedVotes env call.config
          { store := state.store, pool := call.pool } (pendingInOrder call.pool)
        executions := state.executions ++ tallyExecutions env call.context.height tallied
          (dueProposals tallied call.context.height) }
  | _, _ => state

def run (env : Env) (genesis : StateStore) (calls : List AssembleCall) : Governed :=
  calls.foldl (perform env) ⟨genesis, [], []⟩

structure Follows (state next : Governed) : Prop where
  stay : ProposalsStay state.store next.store
  advance : ∃ executions, next.executions = state.executions ++ executions ∧
    LifecyclesAdvance executions.length state.store next.store
  height : state.store.blockHeight ≤ next.store.blockHeight
  onSchedule : OnSchedule state.store state.store.blockHeight →
    next.store.blockHeight + governanceVotingPeriod < 2 ^ 64 →
    OnSchedule next.store next.store.blockHeight

variable {state next last : Governed}

theorem Follows.refl (state : Governed) : state.Follows state where
  stay := .refl state.store
  advance := ⟨[], by simp, .of_algRegistry 0 rfl⟩
  height := le_rfl
  onSchedule := fun onSchedule _ => onSchedule

theorem Follows.trans (first : state.Follows next) (second : next.Follows last) :
    state.Follows last := by
  obtain ⟨early, earlyAppended, earlyAdvance⟩ := first.advance
  obtain ⟨late, lateAppended, lateAdvance⟩ := second.advance
  refine ⟨first.stay.trans second.stay, ⟨early ++ late, ?_, ?_⟩,
    first.height.trans second.height, fun onSchedule low => ?_⟩
  · rw [lateAppended, earlyAppended, List.append_assoc]
  · rw [List.length_append]
    exact earlyAdvance.trans lateAdvance
  · have height := second.height
    exact second.onSchedule (first.onSchedule onSchedule (by omega)) low

theorem Follows.of_tally {ended tallied final : StateStore} {votes : List AcceptedVote} {height : Nat}
    (named : tallied.catalogue.Named) (underway : Underway state.store ended)
    (height_eq : height = satAdd64 state.store.blockHeight 1)
    (tallyCatalogue : tallied.catalogue = ended.catalogue)
    (finalCatalogue : final.catalogue = (processGovernanceTallies env tallied height).catalogue)
    (finalHeight : final.blockHeight = ended.blockHeight + 1) :
    state.Follows ⟨final, votes,
      state.executions ++ tallyExecutions env height tallied (dueProposals tallied height)⟩ := by
  have counted : final.blockHeight = state.store.blockHeight + 1 := by
    rw [finalHeight, underway.rules.blockHeight]
  constructor
  case stay =>
    exact ((underway.stay.trans (.of_catalogue tallyCatalogue)).trans
      (processGovernanceTallies_stay named height)).trans (.of_catalogue finalCatalogue)
  case advance =>
    have same := congrArg Catalogue.algRegistry tallyCatalogue
    exact ⟨_, rfl, (tallies_advance height (dueProposals tallied height) tallied).congr
      (same.trans underway.rules.algRegistry) (congrArg Catalogue.algRegistry finalCatalogue)⟩
  case height =>
    rw [counted]
    exact Nat.le_succ _
  case onSchedule =>
    intro onSchedule low
    simp only [counted] at low ⊢
    have block : height = state.store.blockHeight + 1 := by
      rw [height_eq, satAdd64, u64Max]
      omega
    have before : OnSchedule tallied state.store.blockHeight := by
      unfold OnSchedule
      rw [lookup_of_catalogue tallyCatalogue]
      exact underway.onSchedule onSchedule (by omega)
    have closed := @OnSchedule.tally env tallied _ before named
    rw [← block] at closed ⊢
    unfold OnSchedule at closed ⊢
    rwa [lookup_of_catalogue finalCatalogue]

theorem perform_follows (recorded : Recorded state.store state.votes state.executions)
    (call : AssembleCall) :
    Recorded (state.perform env call).store (state.perform env call).votes
      (state.perform env call).executions ∧ state.Follows (state.perform env call) := by
  unfold perform
  split
  case h_2 => exact ⟨recorded, .refl state⟩
  case h_1 assembled proposer accepted address =>
    obtain ⟨height, named, decoded, rfl⟩ := assembleBlock_eq_ok.mp accepted
    have same : named = proposer := Option.some_inj.mp (decoded.symm.trans address)
    subst named
    obtain ⟨ended, ended_eq⟩ : ∃ ended, assembleEntries env call.config state.store call.pool = ended :=
      ⟨_, rfl⟩
    have underway := @assembleEntries_underway env call.config (pendingInOrder call.pool)
      { store := state.store, pool := call.pool }
    have voted := @acceptedVotes_recorded env _ _ call.config (pendingInOrder call.pool)
      { store := state.store, pool := call.pool } recorded
    have loop : (pendingInOrder call.pool).foldl (assembleEntry env call.config)
        { store := state.store, pool := call.pool } = ended := ended_eq
    rw [loop] at underway voted
    have tallyCatalogue := (@tallyStore_eq env ended proposer call.config).1
    obtain ⟨finalCatalogue, finalHeight⟩ :=
      @finishAssembly_tally env ended proposer call.context.height call.config
    have executed : (executeAssembly env state.store call.pool call.context call.config
        proposer).store = finishAssembly env ended.store proposer call.context.height
          ended.feesCollected ended.blockGasUsed call.config := by
      rw [← ended_eq]
      rfl
    simp only [executed, ended_eq]
    have ready := voted.of_catalogue tallyCatalogue
    exact ⟨(ready.tally call.context.height).of_catalogue finalCatalogue,
      .of_tally ready.named underway height tallyCatalogue finalCatalogue finalHeight⟩

theorem calls_follow (calls : List AssembleCall)
    (recorded : Recorded state.store state.votes state.executions) :
    Recorded (calls.foldl (perform env) state).store (calls.foldl (perform env) state).votes
      (calls.foldl (perform env) state).executions ∧
      state.Follows (calls.foldl (perform env) state) := by
  induction calls generalizing state with
  | nil => exact ⟨recorded, .refl state⟩
  | cons call calls ih =>
      obtain ⟨kept, follows⟩ := @perform_follows env state recorded call
      obtain ⟨ended, later⟩ := ih kept
      exact ⟨ended, follows.trans later⟩

end Governed

theorem genesis_recorded {chainId : Bytes} {accounts : List Account}
    {validators : List GenesisValidator} {genesis : StateStore}
    (built : buildGenesisState env chainId accounts validators = .ok genesis) :
    Recorded genesis [] [] ∧ ∀ height, OnSchedule genesis height := by
  have absent : ∀ id, genesis.getPendingProposal id = none := by
    intro id
    rw [StateStore.getPendingProposal, (buildGenesisState_genesisLike built).proposals]
    exact CachedTables.CachedTable.get?_empty id
  refine ⟨⟨buildGenesisState_named built, ?_, ?_, ?_, ?_, ?_, ?_⟩, ?_⟩ <;> simp [absent, OnSchedule]

def discouragement : Transaction :=
  authorTx .governanceProposal 0 0 (.map
    [ (.integer 1, .integer 1), (.integer 2, .integer 1), (.integer 3, .integer 1),
      (.integer 6, .bytes (List.replicate 32 3)) ])

def discouragementId : Bytes32 :=
  ((recordId sampleEnv discouragement).toOption).getD (.fill 0)

def approval : Transaction :=
  authorTx .governanceVote 1 0 (.map
    [(.integer 1, .bytes discouragementId.data), (.integer 2, .integer 1)])

def blockOf (height : Nat) (txs : List Transaction) : AssembleCall where
  pool := txs.foldl (fun pool tx => pool.insert (pendingEntry sampleEnv tx [])) .new
  context := { nextContext sampleGenesis with height }
  config := devnetConfig

def discouragingRun : List AssembleCall :=
  [ blockOf 1 [discouragement], blockOf 2 [approval], blockOf 3 [], blockOf 4 [], blockOf 5 [],
    blockOf 6 [] ]

end Runs

end ViperChain
