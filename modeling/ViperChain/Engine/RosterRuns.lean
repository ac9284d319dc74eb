import ViperChain.Engine.Moments
import ViperChain.Engine.Reach
import ViperChain.State.Roster

/-!
What blocks do to the roster: the transactions perform actions they name, the end of the
block performs the systemic ones.
-/

namespace ViperChain

open Fallible Relation

variable {env : Env} {store next : StateStore}

section Blocks

def RosterAction.NamedIn (env : Env) (entries : List PendingEntry) (action : RosterAction) : Prop :=
  ∃ entry ∈ entries, action.Named env entry.tx

theorem applyTx_rosterSteps {tx : Transaction} {context : ExecutionContext} {result : ExecutionResult}
    (executed : applyTx env store tx context = .ok (next, result)) :
    ReflTransGen (Roster.Step (RosterAction.Named env tx)) store.roster next.roster := by
  rcases applyTx_roster executed with same | step
  · rw [same]
  · exact .single step

theorem assembleEntry_roster (config : AssemblyConfig) (state : AssemblyState)
    (entry : PendingEntry) :
    ReflTransGen (Roster.Step (RosterAction.Named env entry.tx)) state.store.roster
      (assembleEntry env config state entry).store.roster := by
  simp only [assembleEntry]
  split
  · exact .refl
  · split
    case h_1 executed => exact applyTx_rosterSteps executed
    case h_2 => exact .refl

theorem assembleEntries_roster (config : AssemblyConfig) (entries : List PendingEntry)
    (state : AssemblyState) :
    ReflTransGen (Roster.Step (RosterAction.NamedIn env entries)) state.store.roster
      (entries.foldl (assembleEntry env config) state).store.roster := by
  refine Runs.foldl (fun state : AssemblyState => state.store.roster) _ entries ?_ state
  intro current entry member
  exact Roster.steps_mono (assembleEntry_roster config current entry)
    fun action named => ⟨entry, member, named⟩

theorem closeBlock_roster (store : StateStore) (height gasUsed : Nat) :
    ReflTransGen (Roster.Step RosterAction.Systemic) store.roster
      (closeBlock env store height gasUsed).roster := by
  simp only [closeBlock, roster_advanceHeight]
  refine ReflTransGen.trans (.single ?_) (activateRotations_roster _ height)
  refine ⟨.expire height, trivial, .expire height, ?_⟩
  rw [roster_refundExpirations, roster_processGovernanceTallies, roster_applyAimdUpdate]

theorem finishAssembly_roster (store : StateStore) (proposer : Address)
    (height fees gasUsed : Nat) (config : AssemblyConfig) :
    ReflTransGen (Roster.Step RosterAction.Systemic) store.roster
      (finishAssembly env store proposer height fees gasUsed config).roster := by
  simp only [finishAssembly, epochStep]
  have closed := @closeBlock_roster env (distributeBlockFees env store proposer fees
    (feePool store config.validatorPool) config.feeDist) height gasUsed
  rw [roster_distributeBlockFees] at closed
  split
  · exact closed.trans (processEpochTransitions_roster _ _)
  · exact closed

theorem assembleBlock_roster {pool : Mempool} {context : AssemblyContext} {config : AssemblyConfig}
    {assembled : Assembled} (accepted : assembleBlock env store pool context config = .ok assembled) :
    ∃ executed,
      ReflTransGen (Roster.Step (RosterAction.NamedIn env (pendingInOrder pool))) store.roster
        executed ∧
      ReflTransGen (Roster.Step RosterAction.Systemic) executed assembled.store.roster := by
  obtain ⟨_, proposer, _, rfl⟩ := assembleBlock_eq_ok.mp accepted
  exact ⟨_, assembleEntries_roster config (pendingInOrder pool) { store, pool },
    finishAssembly_roster _ _ _ _ _ _⟩

theorem replayBlock_roster {params : ReplayParams} {stored : StoredBlock}
    {result after : ReplayResult} (replayed : replayBlock env params result stored = .ok after) :
    ReflTransGen (Roster.Step fun action =>
        action.Systemic ∨ ∃ tx ∈ stored.includedTransactions, action.Named env tx)
      result.state.roster after.state.roster := by
  simp only [replayBlock, bind_eq_ok, require_eq_ok, pure_eq_ok] at replayed
  obtain ⟨progress, ran, _, _, _, _, _, _, rfl⟩ := replayed
  have executed : ReflTransGen (Roster.Step fun action =>
      action.Systemic ∨ ∃ tx ∈ stored.includedTransactions, action.Named env tx)
      result.state.roster progress.state.roster := by
    refine foldlM_invariant (fun progress : ReplayProgress => ReflTransGen _ result.state.roster
      progress.state.roster) _ _ _ .refl ?_ ran
    intro progress item after member reached stepped
    simp only [replayTx, bind_eq_ok, mapError_eq_ok, require_eq_ok, pure_eq_ok] at stepped
    obtain ⟨_, _, _, _, ⟨state, execution⟩, executed, rfl⟩ := stepped
    have included : item.1.1 ∈ stored.includedTransactions :=
      (List.of_mem_zip (List.fst_mem_of_mem_zipIdx member)).1
    exact reached.trans (Roster.steps_mono (applyTx_rosterSteps executed)
      fun action named => .inr ⟨item.1.1, included, named⟩)
  refine executed.trans ?_
  have closing : ReflTransGen (Roster.Step RosterAction.Systemic) progress.state.roster
      (finishReplay env params stored.block.header progress).roster := by
    simp only [finishReplay]
    split
    case h_1 proposer _ =>
      have closed := @closeBlock_roster env (distributeBlockFees env progress.state proposer
        progress.feesCollected (feePool progress.state params.validatorPool) params.feeDist)
        stored.block.header.height progress.blockGasUsed
      rwa [roster_distributeBlockFees] at closed
    case h_2 => exact closeBlock_roster _ _ _
  exact Roster.steps_mono closing fun action systemic => .inl systemic

end Blocks

section Manned

def RosterAction.Lenient : RosterAction → Prop
  | .slash _ _ => False
  | _ => True

def Roster.Manned (roster : Roster) : Prop :=
  ∃ operator record, roster.validator operator = some record ∧ record.status = .active

theorem RosterAction.Named.lenient {tx : Transaction} {action : RosterAction}
    (off : env.tokenEconomics = false) (named : action.Named env tx) : action.Lenient := by
  cases action with
  | slash operator amount => simp [RosterAction.Named, off] at named
  | _ => trivial

theorem RosterAction.Systemic.lenient {action : RosterAction} (systemic : action.Systemic) :
    action.Lenient := by
  cases action with
  | slash => exact systemic
  | _ => trivial

theorem Roster.Step.manned {roster next : Roster} (step : Roster.Step RosterAction.Lenient roster next)
    (manned : roster.Manned) : next.Manned := by
  obtain ⟨action, lenient, allowed, rfl⟩ := step
  obtain ⟨holder, record, present, active⟩ := manned
  cases allowed with
  | @register joining peerId gone =>
      have different : holder ≠ joining.operator := by
        rintro rfl
        simp [gone record present] at active
      exact ⟨holder, record, by simp [Roster.perform, different, present], active⟩
  | @exit operator other leaving another start _ _ different remains otherActive =>
      exact ⟨other, another, by simp [Roster.perform, different, remains], otherActive⟩
  | @unjail operator jailedRecord status jailedPresent jailed =>
      have different : holder ≠ operator := by
        rintro rfl
        rw [present, Option.some_inj] at jailedPresent
        rw [jailedPresent, jailed] at active
        cases active
      exact ⟨holder, record, by simp [Roster.perform, different, present], active⟩
  | bindPeer | schedule => exact ⟨holder, record, present, active⟩
  | slash => exact lenient.elim
  | expire height =>
      have stays : record.expire height = record := by
        simp [ValidatorRecord.expire, StateStore.unbondingExpired, active]
      exact ⟨holder, record, by simp [Roster.perform, present, stays], active⟩
  | rotate operator =>
      rcases Roster.validator_rotate_cases operator holder with same | ⟨rotation, _, _, taken⟩
      · exact ⟨holder, record, same.trans present, active⟩
      · exact ⟨holder, record.takeKey rotation, by rw [taken, present, Option.map_some], active⟩
  | @activate operator =>
      by_cases same : holder = operator
      · exact ⟨holder, { record with status := .active },
          by simp [Roster.perform, same, same ▸ present], rfl⟩
      · exact ⟨holder, record, by simp [Roster.perform, same, present], active⟩

inductive EngineStep (env : Env) : StateStore → StateStore → Prop
  | assembled {store : StateStore} (pool : Mempool) (context : AssemblyContext)
      (config : AssemblyConfig) (assembled : Assembled)
      (accepted : assembleBlock env store pool context config = .ok assembled) :
      EngineStep env store assembled.store
  | replayed {store : StateStore} (anchor : BlockHash) (blocks : List StoredBlock)
      (params : ReplayParams) (result : ReplayResult)
      (accepted : replayBlocksFromState env store anchor blocks params = .ok result) :
      EngineStep env store result.state

theorem EngineStep.lenient (off : env.tokenEconomics = false) (step : EngineStep env store next) :
    ReflTransGen (Roster.Step RosterAction.Lenient) store.roster next.roster := by
  cases step with
  | assembled pool context config assembled accepted =>
      obtain ⟨executed, named, systemic⟩ := assembleBlock_roster accepted
      exact (Roster.steps_mono named fun action ⟨_, _, asked⟩ => asked.lenient off).trans
        (Roster.steps_mono systemic fun action closing => closing.lenient)
  | replayed anchor blocks params result accepted =>
      simp only [replayBlocksFromState, bind_eq_ok] at accepted
      obtain ⟨_, _, ran⟩ := accepted
      refine foldlM_invariant (fun result : ReplayResult =>
        ReflTransGen (Roster.Step RosterAction.Lenient) store.roster result.state.roster) _ _ _
        .refl ?_ ran
      intro result stored after _ reached replayed
      refine reached.trans (Roster.steps_mono (replayBlock_roster replayed) fun action allowed => ?_)
      rcases allowed with systemic | ⟨_, _, asked⟩
      · exact systemic.lenient
      · exact asked.lenient off

theorem activeSet_never_empties (env : Env) (off : env.tokenEconomics = false)
    (store later : StateStore) (manned : 1 ≤ store.activeValidatorCount)
    (run : ReflTransGen (EngineStep env) store later) : 1 ≤ later.activeValidatorCount := by
  refine activeValidatorCount_pos.mpr ?_
  refine Runs.invariant (fun store => store.roster.Manned) (fun before after step manned => ?_) run
    (activeValidatorCount_pos.mp manned)
  exact Runs.invariant Roster.Manned (fun _ _ step => step.manned) (step.lenient off) manned

theorem activeSet_never_empties_exit :
    ∃ assembled,
      assembleBlock sampleEnv (pairOfValidators sampleEnv)
        (Mempool.new.insert (pendingEntry sampleEnv exitTx [])) (nextContext (pairOfValidators sampleEnv))
        devnetConfig = .ok assembled ∧
      (assembled.store.getValidator payer).map ValidatorRecord.status = some (.unbonding 0) ∧
      1 ≤ assembled.store.activeValidatorCount := by
  have left : (assembleBlock sampleEnv (pairOfValidators sampleEnv)
      (Mempool.new.insert (pendingEntry sampleEnv exitTx [])) (nextContext (pairOfValidators sampleEnv))
      devnetConfig).toOption.map (fun assembled =>
        (assembled.store.getValidator payer).map ValidatorRecord.status) =
      some (some (.unbonding 0)) := by decide +kernel
  obtain ⟨assembled, accepted, unbonding⟩ := exists_ok_of_toOption left
  exact ⟨assembled, accepted, unbonding,
    activeSet_never_empties sampleEnv rfl (pairOfValidators sampleEnv) assembled.store
      (by decide +kernel) (.single (.assembled _ _ _ _ accepted))⟩

end Manned

section Tombstones

/-- The operator is jailed for good, with `bond` left on its record. -/
def Roster.Entombed (operator : Address) (bond : Nat) (roster : Roster) : Prop :=
  ∃ record, roster.validator operator = some record ∧ record.tombstoned = true ∧
    record.status = .jailed ∧ record.selfBond = bond

def Roster.TombsJailed (roster : Roster) : Prop :=
  ∀ operator record, roster.validator operator = some record → record.tombstoned = true →
    record.status = .jailed

theorem Roster.Step.entombed {permitted : RosterAction → Prop} {roster next : Roster}
    {operator : Address} {bond : Nat} (step : Roster.Step permitted roster next)
    (entombed : roster.Entombed operator bond) : next.Entombed operator bond := by
  obtain ⟨action, _, allowed, rfl⟩ := step
  obtain ⟨record, present, tombstoned, jailed, bonded⟩ := entombed
  have untouched {acted : Address} (change : ValidatorRecord → ValidatorRecord)
      (different : operator ≠ acted) : (roster.revise acted change).Entombed operator bond :=
    ⟨record, by simp [different, present], tombstoned, jailed, bonded⟩
  -- whoever an action moves is not tombstoned, or does not have the status of a tombstone
  have apart {acted : Address} {other : ValidatorRecord}
      (found : roster.validator acted = some other)
      (free : other.tombstoned = false ∨ other.status ≠ .jailed) : operator ≠ acted := by
    rintro rfl
    rw [present, Option.some_inj] at found
    subst found
    simp [tombstoned, jailed] at free
  cases allowed with
  | @register joining peerId gone =>
      have different : operator ≠ joining.operator := by
        rintro rfl
        simp [gone record present] at jailed
      exact ⟨record, by simp [Roster.perform, different, present], tombstoned, jailed, bonded⟩
  | exit start found active =>
      exact untouched _ (apart found (.inr (by simp [active])))
  | unjail found _ untombstoned => exact untouched _ (apart found (.inl untombstoned))
  | bindPeer | schedule => exact ⟨record, present, tombstoned, jailed, bonded⟩
  | slash amount found untombstoned => exact untouched _ (apart found (.inl untombstoned))
  | expire height =>
      have stays : record.expire height = record := by
        simp [ValidatorRecord.expire, StateStore.unbondingExpired, jailed]
      exact ⟨record, by simp [Roster.perform, present, stays], tombstoned, jailed, bonded⟩
  | rotate acted =>
      rcases Roster.validator_rotate_cases acted operator with same | ⟨rotation, _, _, taken⟩
      · exact ⟨record, same.trans present, tombstoned, jailed, bonded⟩
      · exact ⟨record.takeKey rotation, by rw [taken, present, Option.map_some], tombstoned, jailed,
          bonded⟩
  | activate found waiting => exact untouched _ (apart found (.inr (by simp [waiting])))

theorem Roster.Step.tombsJailed {permitted : RosterAction → Prop} {roster next : Roster}
    (step : Roster.Step permitted roster next) (jailed : roster.TombsJailed) :
    next.TombsJailed := by
  obtain ⟨action, _, allowed, rfl⟩ := step
  intro operator record found tombstoned
  rcases Roster.found_cases allowed found with kept | ⟨peerId, rfl, _⟩ | ⟨old, present, moves⟩
  · exact jailed operator record kept tombstoned
  · cases allowed with
    | register gone seated untombstoned => simp [untombstoned] at tombstoned
  · -- a move that keeps a tombstone starts from a jailed record
    cases moves with
    | slash => rfl
    | rotate => exact jailed operator old present tombstoned
    | unjail status _ untombstoned => simp [untombstoned] at tombstoned
    | exit start active => simp [jailed operator old present tombstoned] at active
    | expire height start unbonding => simp [jailed operator old present tombstoned] at unbonding
    | activate waiting => simp [jailed operator old present tombstoned] at waiting

theorem Moment.Step.roster {before after : Moment} (step : Moment.Step env before after) :
    ReflTransGen (Roster.Step fun _ => True) before.store.roster after.store.roster := by
  cases step with
  | start => exact .refl
  | entry context config proposer state entry todo =>
      exact Roster.steps_mono (assembleEntry_roster config state entry) fun _ _ => trivial
  | finish context config proposer state =>
      exact Roster.steps_mono (finishAssembly_roster _ _ _ _ _ _) fun _ _ => trivial

theorem moments_roster (holds : Roster → Prop)
    (kept : ∀ roster next, Roster.Step (fun _ => True) roster next → holds roster → holds next)
    {moment later : Moment} (run : ReflTransGen (Moment.Step env) moment later)
    (initial : holds moment.store.roster) : holds later.store.roster :=
  Runs.invariant (fun moment => holds moment.store.roster)
    (fun _ _ step => Runs.invariant holds kept step.roster) run initial

theorem genesis_getValidator {chainId : Bytes} {accounts : List Account}
    {validators : List GenesisValidator} {genesis : StateStore}
    (built : buildGenesisState env chainId accounts validators = .ok genesis) {operator : Address}
    {record : ValidatorRecord} (present : genesis.getValidator operator = some record) :
    ∃ validator ∈ validators, record = validator.record ∧ operator = validator.operator := by
  simp only [buildGenesisState, bind_eq_ok, pure_eq_ok] at built
  obtain ⟨_, _, rfl⟩ := built
  have start : (StateStore.fromSnapshotAccounts env accounts 0 chainId).validators = .empty :=
    List.foldlRecOn accounts _
      (motive := fun store : StateStore => store.validators = .empty) rfl fun _ same _ _ => same
  -- the fold only ever holds records of validators it has seen
  refine List.foldlRecOn validators _ (motive := fun store : StateStore =>
    store.getValidator operator = some record →
      ∃ validator ∈ validators, record = validator.record ∧ operator = validator.operator)
    ?_ ?_ present
  · intro found
    simp [StateStore.getValidator, start] at found
  · intro current seen validator member found
    simp only [StateStore.getValidator, StateStore.insertValidator, CachedTables.CachedTable.get?_insert]
      at found
    split at found
    case isTrue same =>
      cases found
      exact ⟨validator, member, rfl, same.symm⟩
    case isFalse => exact seen found

theorem accepted_evidence {tx : Transaction} {working : StateStore} {operator : Address}
    (ran : applyPayload env store tx = .ok working) (accused : accusedOperator env tx = some operator) :
    ∃ record, store.getValidator operator = some record ∧ record.tombstoned = false := by
  unfold accusedOperator at accused
  split at accused
  case h_2 => cases accused
  case h_1 kind =>
    simp only [applyPayload, kind] at ran
    split at ran
    case isFalse => cases ran
    case isTrue =>
      simp only [Slashing.applySubmitEquivocationEvidence, bind_eq_ok, okOr_eq_ok, require_eq_ok,
        pure_eq_ok, mapError_eq_ok] at ran
      obtain ⟨evidence, decoded, _, _, record, present, _, untombstoned, _⟩ := ran
      simp only [decoded, Except.toOption, Option.map_some, Option.some_inj] at accused
      exact ⟨record, accused ▸ present, by simpa using untombstoned⟩

theorem accepted_registration {tx : Transaction} {working : StateStore} {record : ValidatorRecord}
    (ran : applyPayload env store tx = .ok working) (kind : tx.msgType = .validatorRegister)
    (present : store.getValidator tx.sender = some record) : record.status = .exited := by
  simp only [applyPayload, kind, applyValidatorRegister, bind_eq_ok, require_eq_ok] at ran
  obtain ⟨_, _, _, _, _, _, _, _, _, _, _, _, _, available, _⟩ := ran
  simpa [present, isExited] using available

/-- From the moment at which an operator's record is tombstoned, between blocks and inside them, it
stays tombstoned and jailed with the same bond, and no evidence against it is accepted and no
registration by it succeeds. -/
theorem tombstone_permanent (env : Env) (chainId : Bytes) (accounts : List Account)
    (validators : List GenesisValidator) (genesis : StateStore)
    (built : buildGenesisState env chainId accounts validators = .ok genesis)
    (moment later : Moment) (reached : ReflTransGen (Moment.Step env) (.idle genesis) moment)
    (continued : ReflTransGen (Moment.Step env) moment later) (operator : Address)
    (record : ValidatorRecord) (present : moment.store.getValidator operator = some record)
    (tombstoned : record.tombstoned = true) :
    (∃ kept, later.store.getValidator operator = some kept ∧ kept.tombstoned = true ∧
      kept.status = .jailed ∧ kept.selfBond = record.selfBond) ∧
    ∀ tx context next result, applyTx env later.store tx context = .ok (next, result) →
      result.status = .applied →
      accusedOperator env tx ≠ some operator ∧
        ¬(tx.msgType = .validatorRegister ∧ tx.sender = operator) := by
  have start : genesis.roster.TombsJailed := by
    intro operator record found buried
    obtain ⟨validator, _, rfl, _⟩ := genesis_getValidator built found
    cases buried
  have jailed : moment.store.roster.TombsJailed :=
    moments_roster Roster.TombsJailed (fun _ _ step => step.tombsJailed) reached start
  have entombed : later.store.roster.Entombed operator record.selfBond :=
    moments_roster (Roster.Entombed operator record.selfBond) (fun _ _ step => step.entombed) continued
      ⟨record, present, tombstoned, jailed operator record present tombstoned, rfl⟩
  obtain ⟨kept, found, buried, status, bond⟩ := entombed
  refine ⟨⟨kept, found, buried, status, bond⟩, ?_⟩
  intro tx context next result executed applied
  obtain ⟨working, ran, _⟩ := applyTx_applied executed applied
  constructor
  · intro accused
    obtain ⟨other, foundOther, untombstoned⟩ := accepted_evidence ran accused
    have same : other = kept := Option.some_inj.mp (foundOther.symm.trans found)
    simp [same, buried] at untombstoned
  · rintro ⟨kind, rfl⟩
    have exited := accepted_registration ran kind found
    simp [status] at exited

theorem produce_production
    {guard : StateStore → Mempool → AssemblyContext → AssemblyConfig → Prop} {genesis : StateStore}
    (reached : ReflTransGen (ProductionStep env guard) genesis store) (pool : Mempool)
    (guarded : guard store pool (nextContext store) devnetConfig) :
    ReflTransGen (ProductionStep env guard) genesis (produce env store pool) := by
  unfold produce
  split
  case h_1 assembled accepted => exact reached.tail (.assembled _ _ _ _ guarded accepted)
  case h_2 => exact reached

theorem produceEmpty_production
    {guard : StateStore → Mempool → AssemblyContext → AssemblyConfig → Prop} {genesis : StateStore}
    (count : Nat) (reached : ReflTransGen (ProductionStep env guard) genesis store)
    (guarded : ∀ store, guard store .new (nextContext store) devnetConfig) :
    ReflTransGen (ProductionStep env guard) genesis (produceEmpty env count store) := by
  induction count generalizing store with
  | zero => exact reached
  | succ count ih => exact ih (produce_production reached .new (guarded store))

def produceWith (store : StateStore) (tx : Transaction) : StateStore :=
  produce sampleEnv store (submit store freeParams tx .new)

theorem produceWith_production {genesis : StateStore}
    (reached : ReflTransGen (ProductionStep sampleEnv anyBlock) genesis store) (tx : Transaction) :
    ReflTransGen (ProductionStep sampleEnv anyBlock) genesis (produceWith store tx) :=
  produce_production reached _ trivial

theorem tombstone_permanent_leaver :
    ∃ record kept,
      (produce ghostEnv registered (evidencePool 1)).getValidator leaver = some record ∧
      (produce ghostEnv (produce ghostEnv registered (evidencePool 1)) .new).getValidator leaver =
        some kept ∧ kept.status = .jailed ∧ kept.selfBond = record.selfBond := by
  have slashed : ((produce ghostEnv registered (evidencePool 1)).getValidator leaver).map
      ValidatorRecord.tombstoned = some true := by decide +kernel
  have reached : ReflTransGen (ProductionStep ghostEnv anyBlock) ghostGenesis
      (produce ghostEnv registered (evidencePool 1)) :=
    produce_production (produce_production .refl _ trivial) _ trivial
  generalize produce ghostEnv registered (evidencePool 1) = store at slashed reached ⊢
  have continued : ReflTransGen (ProductionStep ghostEnv anyBlock) store
      (produce ghostEnv store .new) := produce_production .refl _ trivial
  obtain ⟨record, present, tombstoned⟩ := Option.map_eq_some_iff.mp slashed
  obtain ⟨⟨kept, found, _, status, bond⟩, _⟩ := tombstone_permanent ghostEnv []
    [genesisAccount leaver 10000, genesisAccount watcher 0] [⟨watcher, [], .mlDsa65, []⟩]
    ghostGenesis rfl (.idle store) (.idle _) (Moment.production_steps reached)
    (Moment.production_steps continued) leaver record present tombstoned
  exact ⟨record, kept, present, found, status, bond⟩

end Tombstones

end ViperChain
