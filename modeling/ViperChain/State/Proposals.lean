import ViperChain.State.Atomicity
import ViperChain.State.Catalogue
import ViperChain.Tx.Canonical

/-!
The life of a proposal in the store: transactions, the tally of a block and the execution.
-/

namespace ViperChain

open Fallible CachedTables CachedTable

variable {env : Env} {store next : StateStore} {tx : Transaction}

section Ballots

def castBallot (env : Env) (tx : Transaction) (result : ExecutionResult) :
    Option (Bytes32 × Bool) :=
  if tx.msgType = .governanceVote ∧ result.status = .applied then
    (decodeVotePayload env tx.payload).toOption
  else none

inductive ProposalMove (store : StateStore) (sender : Address) (next : StateStore) :
    Option (Bytes32 × Bool) → Prop
  | untouched (same : next.pendingProposals = store.pendingProposals) :
      ProposalMove store sender next none
  | proposed (proposal : PendingProposal) (checked : ProposalChecked store proposal)
      (lookup : ∀ id, next.getPendingProposal id =
        if proposal.proposalId = id then some proposal else store.getPendingProposal id) :
      ProposalMove store sender next none
  | voted (id : Bytes32) (yes : Bool) (proposal : PendingProposal)
      (present : store.getPendingProposal id = some proposal) (voting : proposal.status = .voting)
      (active : store.isActiveValidator sender = true)
      (unvoted : proposal.votes.contains sender = false)
      (lookup : ∀ other, next.getPendingProposal other =
        if id = other then some { proposal with votes := proposal.votes.insert sender yes }
        else store.getPendingProposal other) :
      ProposalMove store sender next (some (id, yes))

theorem PayloadEffect.proposalMove (effect : PayloadEffect env store tx next)
    (kind : tx.msgType ≠ .governanceVote) : ProposalMove store tx.sender next none := by
  cases effect with
  | transfer sender recipient amount =>
      obtain ⟨_, credited⟩ := @creditRecipient_frame env (withdraw env store tx.sender amount)
        recipient amount
      exact credited ▸ .untouched rfl
  | register sender record peerId =>
      obtain ⟨_, _, admitted⟩ := @admitValidator_frame env
        (withdraw env store tx.sender record.selfBond) record peerId
      exact admitted ▸ .untouched rfl
  | bindPeer peerId =>
      obtain ⟨_, bound⟩ := @setValidatorPeerId_frame env store tx.sender peerId
      exact bound ▸ .untouched rfl
  | slashed record evidence cutoff _ _ _ amount =>
      obtain ⟨_, _, _, _, cut⟩ := @slash_frame env store evidence.validatorAddress amount
        store.blockHeight cutoff
      exact cut ▸ .untouched rfl
  | propose proposal bounded checked =>
      refine .proposed proposal checked fun id => ?_
      simp [StateStore.getPendingProposal, StateStore.insertPendingProposal]
  | vote id change keeps names checked => exact absurd checked.kind kind
  | createAccount | updateSender | setStatus | scheduleRotation | anchor | attest | archivalKey
  | archive | pushAnchor | renew => exact .untouched rfl

theorem applyGovernanceVote_move {ballot : Bytes32 × Bool}
    (decoded : decodeVotePayload env tx.payload = .ok ballot)
    (applied : applyGovernanceVote env store tx = .ok next) :
    ProposalMove store tx.sender next (some ballot) := by
  simp only [applyGovernanceVote, decoded, bind_eq_ok, okOr_eq_ok, require_eq_ok, pure_eq_ok,
    decide_eq_true_eq, Bool.not_eq_true', Except.ok.injEq] at applied
  obtain ⟨_, rfl, proposal, present, _, voting, _, _, _, active, _, unvoted, rfl⟩ := applied
  refine .voted ballot.1 ballot.2 proposal present voting active unvoted fun other => ?_
  simp only [StateStore.getPendingProposal, StateStore.modifyPendingProposal,
    StateStore.commitProposalMutation, get?_commit, get?_modify]
  split
  case isTrue same =>
    subst same
    rw [show store.pendingProposals.get? ballot.1 = some proposal from present, Option.map_some]
  case isFalse => rfl

theorem ProposalMove.settled {working : StateStore} {debit : Nat} {ballot : Option (Bytes32 × Bool)}
    (move : ProposalMove store tx.sender working ballot)
    (settled : Settled env working tx debit next) : ProposalMove store tx.sender next ballot := by
  have same : next.pendingProposals = working.pendingProposals := by
    rw [settled.next_eq]
    rfl
  have lookup : next.getPendingProposal = working.getPendingProposal := by
    funext id
    rw [StateStore.getPendingProposal, same, StateStore.getPendingProposal]
  cases move with
  | untouched kept => exact .untouched (same.trans kept)
  | proposed proposal checked found => exact .proposed proposal checked (lookup ▸ found)
  | voted id yes proposal present voting active unvoted found =>
      exact .voted id yes proposal present voting active unvoted (lookup ▸ found)

theorem applyTx_proposalMove {context : ExecutionContext} {result : ExecutionResult}
    (executed : applyTx env store tx context = .ok (next, result)) :
    ProposalMove store tx.sender next (castBallot env tx result) := by
  cases status : result.status with
  | revertedOutOfGas =>
      have settled := applyTx_reverted executed status
      rw [castBallot, if_neg (by simp [status])]
      exact (ProposalMove.untouched rfl).settled settled
  | applied =>
      obtain ⟨working, ran, settled⟩ := applyTx_applied executed status
      by_cases kind : tx.msgType = .governanceVote
      · have voted : applyGovernanceVote env store tx = .ok working := by
          simpa [applyPayload, kind] using ran
        rw [castBallot, if_pos ⟨kind, status⟩]
        cases decoded : decodeVotePayload env tx.payload with
        | error error =>
            simp [applyGovernanceVote, decoded, bind, Except.bind] at voted
        | ok ballot => exact (applyGovernanceVote_move decoded voted).settled settled
      · rw [castBallot, if_neg fun voted => kind voted.1]
        exact ((applyPayload_effect ran).proposalMove kind).settled settled

end Ballots

section Tallies

def PendingProposal.cast (proposal : PendingProposal) (yes : Bool) : Nat :=
  (proposal.votes.toList.map Prod.snd).count yes

def PendingProposal.Passes (store : StateStore) (proposal : PendingProposal) : Prop :=
  quorumRequired store.activeValidatorCount ≤ proposal.cast true + proposal.cast false ∧
    proposal.cast false < proposal.cast true

instance (store : StateStore) (proposal : PendingProposal) : Decidable (proposal.Passes store) :=
  inferInstanceAs (Decidable (_ ∧ _))

structure Execution where
  store : StateStore
  proposalId : Bytes32
  proposal : PendingProposal
  height : Nat

def Execution.run (env : Env) (execution : Execution) : Executed :=
  executeEffect env execution.store
    { execution.proposal with proposalId := execution.proposalId } execution.height

def executionOf (store : StateStore) (id : Bytes32) (height : Nat) : Option Execution :=
  (store.getPendingProposal id).bind fun proposal =>
    if proposal.Passes store then some ⟨store, id, proposal, height⟩ else none

def tallyExecutions (env : Env) (height : Nat) : StateStore → List Bytes32 → List Execution
  | _, [] => []
  | store, id :: rest =>
      (executionOf store id height).toList ++
        tallyExecutions env height (tallyOne env store id height) rest

theorem tallyOne_eq {id : Bytes32} {proposal : PendingProposal} (height : Nat)
    (present : store.getPendingProposal id = some proposal) :
    ∃ status, status ≠ ProposalStatus.voting ∧
      ((status = .executed ∨ status = .executionFailed) ↔ proposal.Passes store) ∧
      tallyOne env store id height = setProposalStatus env
        ((executionOf store id height).elim store fun execution => (execution.run env).1) id status := by
  simp only [tallyOne, present]
  by_cases passes : proposal.Passes store
  · have counted := passes
    simp only [PendingProposal.Passes, PendingProposal.cast] at counted
    refine ⟨if (executeEffect env store { proposal with proposalId := id } height).2 then .executed
      else .executionFailed, ?_, ?_, ?_⟩
    · split <;> simp
    · split <;> simp [passes]
    · rw [if_pos (by simpa only [Bool.and_eq_true, decide_eq_true_eq] using counted)]
      simp [executionOf, present, passes, Execution.run]
  · have counted := passes
    simp only [PendingProposal.Passes, PendingProposal.cast, not_and] at counted
    refine ⟨if quorumRequired store.activeValidatorCount ≤
      proposal.cast true + proposal.cast false then .rejected else .expired, ?_, ?_, ?_⟩
    · split <;> simp
    · split <;> simp [passes]
    · rw [if_neg (by simpa only [Bool.and_eq_true, decide_eq_true_eq, not_and] using counted)]
      simp [executionOf, present, passes, PendingProposal.cast]

theorem tallyOne_absent {id : Bytes32} (height : Nat) (absent : store.getPendingProposal id = none) :
    tallyOne env store id height = store := by
  simp only [tallyOne, absent]

theorem tallyOne_get {id : Bytes32} {proposal : PendingProposal} (height : Nat)
    (present : store.getPendingProposal id = some proposal) :
    ∃ status, status ≠ ProposalStatus.voting ∧
      ((status = .executed ∨ status = .executionFailed) ↔ proposal.Passes store) ∧
      ∀ other, (tallyOne env store id height).getPendingProposal other =
        if id = other then some { proposal with status } else store.getPendingProposal other := by
  obtain ⟨status, closed, verdict, tallied⟩ := @tallyOne_eq env store id proposal height present
  refine ⟨status, closed, verdict, fun other => ?_⟩
  have same : ((executionOf store id height).elim store fun execution =>
      (execution.run env).1).pendingProposals = store.pendingProposals := by
    unfold executionOf
    rw [present, Option.bind_some]
    split
    · exact (executeEffect_ledger env store _ height).proposals
    · rfl
  rw [tallied]
  simp only [setProposalStatus, StateStore.getPendingProposal, StateStore.modifyPendingProposal,
    StateStore.commitProposalMutation, get?_commit, get?_modify, same]
  split
  case isTrue same =>
    subst same
    rw [show store.pendingProposals.get? id = some proposal from present, Option.map_some]
  case isFalse => rfl

theorem tallyOne_get_of_ne {id other : Bytes32} (height : Nat) (different : id ≠ other) :
    (tallyOne env store id height).getPendingProposal other = store.getPendingProposal other := by
  cases present : store.getPendingProposal id with
  | none => rw [tallyOne_absent height present]
  | some proposal =>
      obtain ⟨_, _, _, lookup⟩ := @tallyOne_get env store id proposal height present
      rw [lookup, if_neg different]

theorem tallies_untouched {ids : List Bytes32} {id : Bytes32} (height : Nat) (absent : id ∉ ids)
    (store : StateStore) :
    (ids.foldl (fun current id => tallyOne env current id height) store).getPendingProposal id =
      store.getPendingProposal id := by
  induction ids generalizing store with
  | nil => rfl
  | cons first rest ih =>
      simp only [List.mem_cons, not_or] at absent
      rw [List.foldl_cons, ih absent.2, tallyOne_get_of_ne height (Ne.symm absent.1)]

theorem tallyExecutions_sublist (height : Nat) (ids : List Bytes32) (store : StateStore) :
    ((tallyExecutions env height store ids).map Execution.proposalId).Sublist ids := by
  induction ids generalizing store with
  | nil => exact .slnil
  | cons id rest ih =>
      rw [tallyExecutions, executionOf]
      cases store.getPendingProposal id with
      | none => exact (ih _).cons id
      | some proposal =>
          rw [Option.bind_some]
          split
          · exact (ih _).cons_cons id
          · exact (ih _).cons id

theorem mem_executionOf {id : Bytes32} {height : Nat} {execution : Execution} :
    execution ∈ (executionOf store id height).toList ↔
      execution.store = store ∧ execution.proposalId = id ∧ execution.height = height ∧
        store.getPendingProposal id = some execution.proposal ∧
        execution.proposal.Passes store := by
  simp only [Option.mem_toList, executionOf, Option.bind_eq_some_iff,
    Option.ite_none_right_eq_some, Option.some.injEq]
  constructor
  · rintro ⟨proposal, present, passes, rfl⟩
    exact ⟨rfl, rfl, rfl, present, passes⟩
  · rintro ⟨rfl, rfl, rfl, present, passes⟩
    exact ⟨execution.proposal, present, passes, by cases execution; rfl⟩

theorem mem_tallyExecutions {height : Nat} {ids : List Bytes32} (distinct : ids.Nodup)
    {execution : Execution} (ran : execution ∈ tallyExecutions env height store ids) :
    store.getPendingProposal execution.proposalId = some execution.proposal ∧
      execution.proposal.Passes execution.store := by
  induction ids generalizing store with
  | nil => cases ran
  | cons id rest ih =>
      simp only [List.nodup_cons] at distinct
      rw [tallyExecutions, List.mem_append] at ran
      rcases ran with first | later
      · obtain ⟨rfl, rfl, _, present, passes⟩ := mem_executionOf.mp first
        exact ⟨present, passes⟩
      · have member : execution.proposalId ∈ rest :=
          (tallyExecutions_sublist height rest _).subset (List.mem_map_of_mem later)
        have different : id ≠ execution.proposalId := by
          rintro rfl
          exact distinct.1 member
        obtain ⟨present, passes⟩ := ih distinct.2 later
        rw [tallyOne_get_of_ne height different] at present
        exact ⟨present, passes⟩

theorem tallies_closed {ids : List Bytes32} (distinct : ids.Nodup) {id : Bytes32} (height : Nat)
    (member : id ∈ ids) {proposal : PendingProposal}
    (present : store.getPendingProposal id = some proposal) :
    ∃ status, status ≠ ProposalStatus.voting ∧
      (ids.foldl (fun current id => tallyOne env current id height) store).getPendingProposal id =
        some { proposal with status } ∧
      ((status = .executed ∨ status = .executionFailed) ↔
        ∃ execution ∈ tallyExecutions env height store ids, execution.proposalId = id) := by
  induction ids generalizing store with
  | nil => cases member
  | cons first rest ih =>
      simp only [List.nodup_cons] at distinct
      simp only [List.foldl_cons, tallyExecutions, List.mem_append]
      by_cases same : first = id
      · subst same
        obtain ⟨status, closed, verdict, lookup⟩ := @tallyOne_get env store first proposal height present
        refine ⟨status, closed, ?_, verdict.trans ⟨fun passes => ?_, ?_⟩⟩
        · rw [tallies_untouched height distinct.1, lookup, if_pos rfl]
        · exact ⟨⟨store, first, proposal, height⟩,
            .inl (mem_executionOf.mpr ⟨rfl, rfl, rfl, present, passes⟩), rfl⟩
        · rintro ⟨execution, ran | ran, named⟩
          · obtain ⟨_, _, _, found, passes⟩ := mem_executionOf.mp ran
            rwa [Option.some_inj.mp (present.symm.trans found)]
          · have later := (tallyExecutions_sublist height rest _).subset (List.mem_map_of_mem ran)
            rw [named] at later
            exact absurd later distinct.1
      · have member : id ∈ rest := (List.mem_cons.mp member).resolve_left (Ne.symm same)
        obtain ⟨status, closed, lookup, verdict⟩ := ih distinct.2 member
          ((tallyOne_get_of_ne height same).trans present)
        refine ⟨status, closed, lookup, verdict.trans ⟨?_, ?_⟩⟩
        · rintro ⟨execution, ran, named⟩
          exact ⟨execution, .inr ran, named⟩
        · rintro ⟨execution, ran | ran, named⟩
          · exact absurd ((mem_executionOf.mp ran).2.1.symm.trans named) same
          · exact ⟨execution, ran, named⟩

def dueProposals (store : StateStore) (height : Nat) : List Bytes32 :=
  (store.pendingProposals.values.filter fun proposal =>
    proposal.status = .voting && proposal.votingDeadline < height).map PendingProposal.proposalId

theorem mem_dueProposals (named : store.catalogue.Named) {id : Bytes32} {height : Nat} :
    id ∈ dueProposals store height ↔ ∃ proposal, store.getPendingProposal id = some proposal ∧
      proposal.status = .voting ∧ proposal.votingDeadline < height := by
  simp only [dueProposals, List.mem_map, List.mem_filter, Bool.and_eq_true, decide_eq_true_eq,
    mem_values]
  constructor
  · rintro ⟨proposal, ⟨⟨key, present⟩, voting, late⟩, rfl⟩
    have keyed := named.pendingProposals key proposal present
    rw [keyed] at *
    exact ⟨proposal, present, voting, late⟩
  · rintro ⟨proposal, present, voting, late⟩
    exact ⟨proposal, ⟨⟨id, present⟩, voting, late⟩, named.pendingProposals id proposal present⟩

theorem dueProposals_nodup (named : store.catalogue.Named) (height : Nat) :
    (dueProposals store height).Nodup :=
  named.pendingProposals.distinct.sublist (List.filter_sublist.map _)

end Tallies

section Lifecycles

def Lifecycle.stage : Lifecycle → Nat
  | .active => 0
  | .discouraged => 1
  | .deprecated => 2
  | .banned => 3

theorem forwardTransition_stage {source target : Lifecycle}
    (forward : forwardTransition source target = true) : target.stage = source.stage + 1 := by
  cases source <;> cases target <;> first | rfl | cases forward

def LifecyclesAdvance (steps : Nat) (store next : StateStore) : Prop :=
  ∀ algId entry, store.algRegistry.get? algId = some entry →
    ∃ later, next.algRegistry.get? algId = some later ∧
      entry.lifecycle.stage ≤ later.lifecycle.stage ∧
      later.lifecycle.stage ≤ entry.lifecycle.stage + steps

theorem LifecyclesAdvance.of_algRegistry (steps : Nat)
    (same : next.algRegistry = store.algRegistry) : LifecyclesAdvance steps store next := by
  intro algId entry present
  exact ⟨entry, same ▸ present, le_rfl, Nat.le_add_right _ _⟩

theorem LifecyclesAdvance.trans {last : StateStore} {first second : Nat}
    (early : LifecyclesAdvance first store next) (late : LifecyclesAdvance second next last) :
    LifecyclesAdvance (first + second) store last := by
  intro algId entry present
  obtain ⟨middle, found, up, bound⟩ := early algId entry present
  obtain ⟨later, foundLater, upLater, boundLater⟩ := late algId middle found
  exact ⟨later, foundLater, up.trans upLater, by omega⟩

theorem LifecyclesAdvance.congr {first last : StateStore} {steps : Nat}
    (advances : LifecyclesAdvance steps first last) (start : first.algRegistry = store.algRegistry)
    (finish : next.algRegistry = last.algRegistry) : LifecyclesAdvance steps store next := by
  unfold LifecyclesAdvance at *
  rwa [finish, ← start]

theorem executeRegistryUpdate_advances (store : StateStore) (proposal : PendingProposal)
    (algId : AlgId) (targetLifecycle : Option Lifecycle) (newMinFee : Option Nat) (height : Nat) :
    LifecyclesAdvance 1 store
      (executeRegistryUpdate env store proposal algId targetLifecycle newMinFee height).1 := by
  unfold executeRegistryUpdate
  split
  case h_1 => exact .of_algRegistry 1 rfl
  case h_2 entry found =>
    split
    case isFalse => exact .of_algRegistry 1 rfl
    case isTrue allowed =>
      intro other old present
      simp only [StateStore.insertGovernanceReceipt, StateStore.commitAlgEntryMutation,
        StateStore.modifyAlgEntry, get?_commit, get?_modify]
      split
      case isFalse => exact ⟨old, present, le_rfl, Nat.le_succ _⟩
      case isTrue same =>
        subst same
        have same : old = entry := Option.some_inj.mp (present.symm.trans found)
        subst same
        refine ⟨updateAlgEntry targetLifecycle newMinFee old, by rw [present, Option.map_some], ?_⟩
        cases targetLifecycle with
        | none => exact ⟨le_rfl, Nat.le_succ _⟩
        | some target =>
            have forward := forwardTransition_stage (Option.all_some.symm.trans allowed)
            simp only [updateAlgEntry, Option.getD_some]
            omega

theorem executeAddAlgorithm_advances (store : StateStore) (proposal : AddAlgorithmProposal) :
    LifecyclesAdvance 0 store (executeAddAlgorithm env store proposal).1 := by
  unfold executeAddAlgorithm
  split
  · exact .of_algRegistry 0 rfl
  · split
    case isTrue => exact .of_algRegistry 0 rfl
    case isFalse unregistered =>
      split
      · exact .of_algRegistry 0 rfl
      · split
        · exact .of_algRegistry 0 rfl
        · split
          case h_2 => exact .of_algRegistry 0 rfl
          case h_1 algId sigClass decoded _ =>
            intro other entry present
            refine ⟨entry, ?_, le_rfl, le_rfl⟩
            simp only [StateStore.insertAlgEntry, get?_insert]
            rw [if_neg ?_, present]
            rintro rfl
            have numbered : algId.asU16 = proposal.algId := AlgId.asU16_of_fromU16 decoded
            rw [numbered] at present
            exact unregistered (by simp [StateStore.algEntryRegistered, contains, present])

theorem executeEffect_advances (store : StateStore) (proposal : PendingProposal) (height : Nat) :
    LifecyclesAdvance 1 store (executeEffect env store proposal height).1 := by
  unfold executeEffect
  split
  · exact executeRegistryUpdate_advances store proposal _ _ _ height
  · exact .of_algRegistry 1 rfl
  · exact .of_algRegistry 1 rfl
  · exact .of_algRegistry 1 rfl
  · exact (executeAddAlgorithm_advances store _).trans (.of_algRegistry 1 rfl)
  · unfold executeAddSlashingVerifier
    repeat' split
    all_goals exact .of_algRegistry 1 rfl
  · unfold executeAddHash
    repeat' split
    all_goals exact .of_algRegistry 1 rfl
  · unfold executeAddAuthTemplate
    split <;> exact .of_algRegistry 1 rfl

theorem tallyOne_advances (store : StateStore) (id : Bytes32) (height : Nat) :
    LifecyclesAdvance (executionOf store id height).toList.length store
      (tallyOne env store id height) := by
  cases present : store.getPendingProposal id with
  | none =>
      rw [tallyOne_absent height present]
      exact .of_algRegistry _ rfl
  | some proposal =>
      obtain ⟨status, _, _, tallied⟩ := @tallyOne_eq env store id proposal height present
      rw [tallied]
      cases ran : executionOf store id height with
      | none => exact .of_algRegistry _ rfl
      | some execution =>
          have member : execution ∈ (executionOf store id height).toList := by simp [ran]
          have advances := @executeEffect_advances env execution.store
            { execution.proposal with proposalId := execution.proposalId } execution.height
          rw [(mem_executionOf.mp member).1] at advances
          refine advances.trans (.of_algRegistry 0 ?_)
          simp only [Option.elim_some, Execution.run, (mem_executionOf.mp member).1]
          rfl

theorem tallies_advance (height : Nat) (ids : List Bytes32) (store : StateStore) :
    LifecyclesAdvance (tallyExecutions env height store ids).length store
      (ids.foldl (fun current id => tallyOne env current id height) store) := by
  induction ids generalizing store with
  | nil => exact .of_algRegistry 0 rfl
  | cons id rest ih =>
      rw [tallyExecutions, List.length_append]
      exact (tallyOne_advances store id height).trans (ih _)

end Lifecycles

end ViperChain
