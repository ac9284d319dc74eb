import ViperChain.Engine.RosterRuns

/-!
Consensus keys and PeerIds. Registration checks both; a key rotation is checked against nobody,
and the PeerId of a validator that left comes back with it.
-/

namespace ViperChain

open Fallible Relation

variable {env : Env} {store next : StateStore}

section ConsensusKeys

structure Roster.KeysOwned (owner : Bytes → Option Address) (roster : Roster) : Prop where
  scheduled : ∀ operator rotation, roster.rotation operator = some rotation →
    owner rotation.newPkBytes = some operator
  held : ∀ operator record, roster.validator operator = some record →
    owner record.consensusPk = none ∨ owner record.consensusPk = some operator
  unowned : ∀ left right leftRecord rightRecord,
    roster.validator left = some leftRecord → roster.validator right = some rightRecord →
    leftRecord.Seated → rightRecord.Seated → leftRecord.consensusPk = rightRecord.consensusPk →
    owner leftRecord.consensusPk = none → left = right
  jailed : ∀ operator record, roster.validator operator = some record → record.status = .jailed →
    owner record.consensusPk = none → record.tombstoned = true

def RosterAction.RespectsKeys (owner : Bytes → Option Address) : RosterAction → Prop
  | .register record _ =>
      owner record.consensusPk = none ∨ owner record.consensusPk = some record.operator
  | .schedule rotation => owner rotation.newPkBytes = some rotation.operator
  | _ => True

variable {owner : Bytes → Option Address} {roster after : Roster}

theorem Roster.KeysOwned.seated_before {action : RosterAction} {operator : Address}
    {record : ValidatorRecord} (owned : roster.KeysOwned owner) (allowed : roster.Allows action)
    (found : (roster.perform action).validator operator = some record) (seated : record.Seated)
    (unowned : owner record.consensusPk = none) :
    (∃ old, roster.validator operator = some old ∧ old.Seated ∧
      old.consensusPk = record.consensusPk) ∨
      ∃ peerId, action = .register record peerId ∧ record.operator = operator := by
  rcases Roster.found_cases allowed found with kept | joined | ⟨old, present, moves⟩
  · exact .inl ⟨record, kept, seated, rfl⟩
  · exact .inr joined
  · left
    unfold ValidatorRecord.Seated at seated
    cases moves with
    | exit | expire | slash => simp [Slashing.slashRecord] at seated
    | unjail status jailed untombstoned =>
        have buried := owned.jailed operator old present jailed unowned
        simp [untombstoned] at buried
    | rotate rotation scheduled =>
        have owns := owned.scheduled operator rotation scheduled
        simp [ValidatorRecord.takeKey, owns] at unowned
    | activate waiting => exact ⟨old, present, .inr waiting, rfl⟩

theorem Roster.KeysOwned.step (owned : roster.KeysOwned owner)
    (step : Roster.Step (RosterAction.RespectsKeys owner) roster after) : after.KeysOwned owner := by
  obtain ⟨action, respects, allowed, rfl⟩ := step
  constructor
  case scheduled =>
    intro operator rotation found
    cases allowed with
    | schedule asked =>
        simp only [Roster.perform, Function.update_apply] at found
        split at found
        case isTrue same =>
          cases found
          exact same ▸ respects
        case isFalse => exact owned.scheduled operator rotation found
    | rotate acted =>
        simp only [Roster.perform] at found
        split at found
        · exact owned.scheduled operator rotation found
        · simp only [Function.update_apply] at found
          split at found
          · cases found
          · exact owned.scheduled operator rotation found
    | _ => exact owned.scheduled operator rotation found
  case held =>
    intro operator record found
    rcases Roster.found_cases allowed found with kept | ⟨peerId, rfl, rfl⟩ | ⟨old, present, moves⟩
    · exact owned.held operator record kept
    · exact respects
    · cases moves with
      | rotate rotation scheduled => exact .inr (owned.scheduled operator rotation scheduled)
      | _ => exact owned.held operator old present
  case unowned =>
    intro left right leftRecord rightRecord foundLeft foundRight seatedLeft seatedRight same free
    have before := owned.seated_before allowed foundLeft seatedLeft free
    have beforeRight := owned.seated_before allowed foundRight seatedRight (same ▸ free)
    -- whoever registers has checked the key against everybody who was seated
    have fresh {joined : ValidatorRecord} {peerId : Bytes} {operator : Address}
        {old : ValidatorRecord} (registers : action = .register joined peerId)
        (present : roster.validator operator = some old) (seated : old.Seated) :
        old.consensusPk ≠ joined.consensusPk := by
      subst registers
      cases allowed with
      | register gone _ _ keyFree => exact keyFree operator old present seated
    rcases before with ⟨old, present, seated, key⟩ | ⟨peerId, registers, rfl⟩
    · rcases beforeRight with ⟨other, otherPresent, otherSeated, otherKey⟩ | ⟨peerId, registers, _⟩
      · exact owned.unowned left right old other present otherPresent seated otherSeated
          (key.trans (same.trans otherKey.symm)) (key ▸ free)
      · exact absurd (key.trans same) (fresh registers present seated)
    · rcases beforeRight with ⟨other, otherPresent, otherSeated, otherKey⟩ | ⟨_, registersRight, rfl⟩
      · exact absurd (otherKey.trans same.symm) (fresh registers otherPresent otherSeated)
      · rw [registers] at registersRight
        cases registersRight
        rfl
  case jailed =>
    intro operator record found status free
    rcases Roster.found_cases allowed found with kept | ⟨peerId, rfl, _⟩ | ⟨old, present, moves⟩
    · exact owned.jailed operator record kept status free
    · cases allowed with
      | register gone seated =>
          unfold ValidatorRecord.Seated at seated
          simp [status] at seated
    · cases moves with
      | slash => rfl
      | rotate rotation scheduled =>
          have owns := owned.scheduled operator rotation scheduled
          simp [ValidatorRecord.takeKey, owns] at free
      | unjail target _ _ seated => simp [show target = .jailed from status] at seated
      | exit | expire | activate => cases status

structure RespectsKeys (env : Env) (owner : Bytes → Option Address) (tx : Transaction) : Prop where
  rotates : tx.msgType = .consensusKeyRotate → ∀ key, namedConsensusKey env tx = some key →
    owner key = some tx.sender
  registers : tx.msgType = .validatorRegister → ∀ key, namedConsensusKey env tx = some key →
    owner key = none ∨ owner key = some tx.sender

theorem RespectsKeys.action {tx : Transaction} {action : RosterAction}
    (respects : RespectsKeys env owner tx) (named : action.Named env tx) :
    action.RespectsKeys owner := by
  cases action with
  | register record peerId =>
      obtain ⟨kind, operator, key, _⟩ := named
      rw [RosterAction.RespectsKeys, operator]
      exact respects.registers kind _ key
  | schedule rotation =>
      obtain ⟨kind, operator, key⟩ := named
      rw [RosterAction.RespectsKeys, operator]
      exact respects.rotates kind _ key
  | _ => trivial

theorem RosterAction.Systemic.respectsKeys {action : RosterAction} (systemic : action.Systemic) :
    action.RespectsKeys owner := by
  cases action with
  | register | schedule => exact systemic.elim
  | _ => trivial

theorem genesis_roster {chainId : Bytes} {accounts : List Account}
    {validators : List GenesisValidator} {genesis : StateStore}
    (built : buildGenesisState env chainId accounts validators = .ok genesis) (operator : Address) :
    genesis.roster.rotation operator = none ∧ genesis.roster.peer operator = none := by
  obtain ⟨_, _, rfl⟩ := buildGenesisState_frame built
  exact ⟨CachedTables.CachedTable.get?_empty operator, CachedTables.CachedTable.get?_empty operator⟩

/-- Consensus keys are unique along every run in which a key that somebody rotates to is
named by that operator only. -/
theorem consensusKeys_unique (env : Env) (chainId : Bytes) (accounts : List Account)
    (validators : List GenesisValidator) (genesis store : StateStore)
    (built : buildGenesisState env chainId accounts validators = .ok genesis)
    (distinct : ∀ left ∈ validators, ∀ right ∈ validators,
      left.consensusPk = right.consensusPk → left.operator = right.operator)
    (owner : Bytes → Option Address)
    (initial : ∀ validator ∈ validators, owner validator.consensusPk = none ∨
      owner validator.consensusPk = some validator.operator)
    (run : ReflTransGen (ProductionStep env fun _ pool _ _ =>
      ∀ entry ∈ pool.allPending, RespectsKeys env owner entry.tx) genesis store)
    (left right : Address) (leftRecord rightRecord : ValidatorRecord)
    (foundLeft : store.getValidator left = some leftRecord)
    (foundRight : store.getValidator right = some rightRecord) (different : left ≠ right)
    (seatedLeft : leftRecord.status = .active ∨ leftRecord.status = .candidate)
    (seatedRight : rightRecord.status = .active ∨ rightRecord.status = .candidate) :
    leftRecord.consensusPk ≠ rightRecord.consensusPk := by
  have start : genesis.roster.KeysOwned owner := by
    constructor
    case scheduled => intro operator rotation found; simp [genesis_roster built] at found
    case held =>
      intro operator record found
      obtain ⟨validator, member, rfl, rfl⟩ := genesis_getValidator built found
      exact initial validator member
    case unowned =>
      intro left right _ _ foundLeft foundRight _ _ same _
      obtain ⟨first, member, rfl, rfl⟩ := genesis_getValidator built foundLeft
      obtain ⟨second, other, rfl, rfl⟩ := genesis_getValidator built foundRight
      exact distinct first member second other same
    case jailed =>
      intro operator record found status
      obtain ⟨validator, _, rfl, _⟩ := genesis_getValidator built found
      cases status
  have owned : store.roster.KeysOwned owner := by
    refine Runs.invariant (fun store => store.roster.KeysOwned owner) ?_ run start
    rintro before _ ⟨pool, context, config, assembled, respects, accepted⟩ owned
    obtain ⟨executed, named, systemic⟩ := assembleBlock_roster accepted
    have asked : ReflTransGen (Roster.Step (RosterAction.RespectsKeys owner)) before.roster executed :=
      Roster.steps_mono named fun action ⟨entry, member, named⟩ =>
        (respects entry (mem_pendingInOrder.mp member)).action named
    have closed := Roster.steps_mono systemic fun action closing =>
      (closing.respectsKeys : action.RespectsKeys owner)
    exact Runs.invariant (Roster.KeysOwned owner) (fun _ _ step owned => owned.step step)
      (asked.trans closed) owned
  intro same
  rcases owned.held left leftRecord foundLeft with free | owns
  · exact different (owned.unowned left right leftRecord rightRecord foundLeft foundRight seatedLeft
      seatedRight same free)
  · have ownsRight := owned.held right rightRecord foundRight
    simp only [← same, owns, Option.some_inj, reduceCtorEq, false_or] at ownsRight
    exact different ownsRight

def rival : Address := Bytes32.fill 2

def rivalKey : Bytes := List.replicate 48 4

def rivalAccount : Account := { authorAccount with address := rival }

def contestants : List GenesisValidator :=
  [⟨author, [], .mlDsa65, []⟩, ⟨rival, [], .slhDsaShake192s, rivalKey⟩]

def contestGenesis : StateStore :=
  contestants.foldl (fun store validator => store.insertValidator sampleEnv validator.record)
    (StateStore.fromSnapshotAccounts sampleEnv [authorAccount, rivalAccount] 0 [])

def rotateTo (key : Bytes) (start : Nat) : Transaction :=
  authorTx .consensusKeyRotate 0 100 (.map
    [ (.integer 1, .integer AlgId.slhDsaShake192s.asU16), (.integer 2, .bytes key),
      (.integer 3, .integer start) ])

def rotated (key : Bytes) : StateStore :=
  produceEmpty sampleEnv 99 (produce sampleEnv contestGenesis
    (submit contestGenesis freeParams (rotateTo key 100) .new))

/-- A validator schedules a rotation to the key of another; both are active with it. -/
theorem rotation_takesRivalKey :
    buildGenesisState sampleEnv [] [authorAccount, rivalAccount] contestants = .ok contestGenesis ∧
      (∀ left ∈ contestants, ∀ right ∈ contestants, left.consensusPk = right.consensusPk →
        left.operator = right.operator) ∧
      ReflTransGen (ProductionStep sampleEnv anyBlock) contestGenesis (rotated rivalKey) ∧
      [author, rival].map (fun operator => ((rotated rivalKey).getValidator operator).map
        fun record => (record.status, record.consensusPk)) =
          [some (.active, rivalKey), some (.active, rivalKey)] := by
  refine ⟨rfl, by decide +kernel, ?_, by decide +kernel⟩
  exact produceEmpty_production 99 (produce_production .refl _ trivial) fun _ => trivial

def freshKey : Bytes := List.replicate 48 9

def freshOwner (key : Bytes) : Option Address := if key = freshKey then some author else none

theorem rotateTo_respects :
    ∀ entry ∈ (submit contestGenesis freeParams (rotateTo freshKey 100) .new).allPending,
      RespectsKeys sampleEnv freshOwner entry.tx := by
  have pending : ((submit contestGenesis freeParams (rotateTo freshKey 100) .new).allPending.all
      fun entry => entry.tx.msgType = .consensusKeyRotate && entry.tx.sender = author &&
        namedConsensusKey sampleEnv entry.tx = some freshKey) = true := by decide +kernel
  intro entry member
  have checked := List.all_eq_true.mp pending entry member
  simp only [Bool.and_eq_true, decide_eq_true_eq] at checked
  obtain ⟨⟨kind, sender⟩, named⟩ := checked
  constructor
  · intro _ key asked
    rw [named, Option.some_inj] at asked
    rw [← asked, sender]
    rfl
  · intro registers
    rw [kind] at registers
    cases registers

theorem consensusKeys_unique_rotated :
    ∃ left right, (rotated freshKey).getValidator author = some left ∧
      (rotated freshKey).getValidator rival = some right ∧ left.consensusPk = freshKey ∧
      left.consensusPk ≠ right.consensusPk := by
  have seats : [author, rival].map (fun operator => ((rotated freshKey).getValidator operator).map
      fun record => (record.status, record.consensusPk)) =
        [some (.active, freshKey), some (.active, rivalKey)] := by decide +kernel
  have run : ReflTransGen (ProductionStep sampleEnv fun _ pool _ _ =>
      ∀ entry ∈ pool.allPending, RespectsKeys sampleEnv freshOwner entry.tx) contestGenesis
      (rotated freshKey) :=
    produceEmpty_production 99 (produce_production .refl _ rotateTo_respects)
      fun _ => by simp only [Mempool.allPending_new, List.not_mem_nil, false_imp_iff, implies_true]
  generalize rotated freshKey = store at seats run
  simp only [List.map_cons, List.map_nil, List.cons.injEq, Option.map_eq_some_iff, Prod.mk.injEq] at seats
  obtain ⟨⟨left, foundLeft, activeLeft, key⟩, ⟨right, foundRight, activeRight, _⟩, _⟩ := seats
  exact ⟨left, right, foundLeft, foundRight, key,
    consensusKeys_unique sampleEnv [] [authorAccount, rivalAccount] contestants contestGenesis store rfl
      (by decide +kernel) freshOwner (by decide +kernel) run author rival left right foundLeft foundRight
      (by decide) (.inl activeLeft) (.inl activeRight)⟩

end ConsensusKeys

section PeerIds

def Roster.PeersUnique (roster : Roster) : Prop :=
  ∀ left right leftRecord rightRecord peerId,
    roster.validator left = some leftRecord → roster.validator right = some rightRecord →
    leftRecord.Live → rightRecord.Live →
    roster.peer left = some peerId → roster.peer right = some peerId → left = right

def RosterAction.Revives (roster : Roster) : RosterAction → Prop
  | .register record peerId => peerId.isEmpty = true ∧ roster.peer record.operator ≠ none
  | .slash operator _ =>
      roster.peer operator ≠ none ∧ ∀ record, roster.validator operator = some record → ¬record.Live
  | _ => False

def RosterAction.binds : RosterAction → Option Address
  | .register record _ => some record.operator
  | .bindPeer operator _ => some operator
  | _ => none

variable {roster : Roster}

theorem Roster.Moves.live_before {action : RosterAction} {operator : Address}
    {old record : ValidatorRecord} (moves : roster.Moves operator old action record)
    (live : record.Live) : old.Live ∨ ∃ amount, action = .slash operator amount := by
  cases moves with
  | exit start active => exact .inl (by simp [ValidatorRecord.Live, active, isRotatable])
  | unjail status jailed => exact .inl (by simp [ValidatorRecord.Live, jailed, isRotatable])
  | slash amount => exact .inr ⟨amount, rfl⟩
  | expire => cases live
  | rotate => exact .inl live
  | activate waiting => exact .inl (by simp [ValidatorRecord.Live, waiting, isRotatable])

theorem Roster.bound_before {action : RosterAction} {operator : Address} {record : ValidatorRecord}
    {peerId : Bytes} (allowed : roster.Allows action) (fresh : ¬action.Revives roster)
    (found : (roster.perform action).validator operator = some record) (live : record.Live)
    (bound : (roster.perform action).peer operator = some peerId) :
    (∃ old, roster.validator operator = some old ∧ old.Live ∧ roster.peer operator = some peerId) ∨
      roster.PeerFree peerId ∧ action.binds = some operator := by
  have carried (same : (roster.perform action).peer = roster.peer)
      (joins : ∀ record peerId, action ≠ .register record peerId) :
      ∃ old, roster.validator operator = some old ∧ old.Live ∧ roster.peer operator = some peerId := by
    rw [same] at bound
    rcases Roster.found_cases allowed found with kept | ⟨_, registers, _⟩ | ⟨old, present, moves⟩
    · exact ⟨record, kept, live, bound⟩
    · exact absurd registers (joins _ _)
    · rcases moves.live_before live with oldLive | ⟨amount, rfl⟩
      · exact ⟨old, present, oldLive, bound⟩
      · by_contra dead
        refine fresh ⟨by simp [bound], fun other found live => dead ⟨other, found, live, bound⟩⟩
  cases allowed with
  | @register joining joiningPeer gone seated _ _ peerFree =>
      by_cases same : operator = joining.operator
      · by_cases empty : joiningPeer.isEmpty
        · simp only [Roster.perform, empty, if_true, same] at bound
          exact absurd ⟨empty, by simp [bound]⟩ fresh
        · simp only [Roster.perform, empty, Bool.false_eq_true, if_false, same, Function.update_self,
            Option.some_inj] at bound
          exact .inr ⟨bound ▸ peerFree (by simpa using empty), congrArg some same.symm⟩
      · have kept : roster.peer operator = some peerId := by
          simp only [Roster.perform] at bound
          split at bound
          · exact bound
          · simpa [same] using bound
        exact .inl ⟨record, by simpa [Roster.perform, same] using found, live, kept⟩
  | @bindPeer acted old newPeer present oldLive free =>
      by_cases same : operator = acted
      · simp only [Roster.perform, same, Function.update_self, Option.some_inj] at bound
        subst bound same
        rcases free with again | free
        · exact .inl ⟨old, present, oldLive, again⟩
        · exact .inr ⟨free, rfl⟩
      · exact .inl ⟨record, found, live, by simpa [Roster.perform, same] using bound⟩
  | rotate acted => exact .inl (carried (Roster.peer_rotate acted) (by simp))
  | exit | unjail | schedule | slash | expire | activate => exact .inl (carried rfl (by simp))

theorem Roster.PeersUnique.perform {action : RosterAction} (unique : roster.PeersUnique)
    (allowed : roster.Allows action) (fresh : ¬action.Revives roster) :
    (roster.perform action).PeersUnique := by
  intro left right leftRecord rightRecord peerId foundLeft foundRight liveLeft liveRight boundLeft
    boundRight
  rcases Roster.bound_before allowed fresh foundLeft liveLeft boundLeft with
    ⟨old, present, live, bound⟩ | ⟨free, binds⟩
  · rcases Roster.bound_before allowed fresh foundRight liveRight boundRight with
      ⟨other, otherPresent, otherLive, otherBound⟩ | ⟨free, _⟩
    · exact unique left right old other peerId present otherPresent live otherLive bound otherBound
    · exact absurd bound (free left old present live)
  · rcases Roster.bound_before allowed fresh foundRight liveRight boundRight with
      ⟨other, otherPresent, otherLive, otherBound⟩ | ⟨_, bindsRight⟩
    · exact absurd otherBound (free right other otherPresent otherLive)
    · exact Option.some_inj.mp (binds.symm.trans bindsRight)

structure KeepsPeers (env : Env) (store : StateStore) (entries : List PendingEntry) : Prop where
  registers : ∀ entry ∈ entries, entry.tx.msgType = .validatorRegister →
    registeredPeerId env entry.tx = some [] → store.getValidatorPeerId entry.tx.sender = none
  accuses : env.tokenEconomics = true → ∀ entry ∈ entries, ∀ operator,
    accusedOperator env entry.tx = some operator →
    (∀ record, store.getValidator operator = some record →
      record.Live ∨ store.getValidatorPeerId operator = none) ∧
    ∀ other ∈ entries, other.tx.msgType = .validatorExit → other.tx.sender ≠ operator

structure Roster.PeersKept (env : Env) (entries : List PendingEntry) (initial roster : Roster) :
    Prop where
  unique : roster.PeersUnique
  bound : ∀ operator, roster.peer operator ≠ none →
    initial.peer operator ≠ none ∨
      ∃ record, roster.validator operator = some record ∧ record.status ≠ .exited
  accused : ∀ operator, env.tokenEconomics = true →
    (∃ entry ∈ entries, accusedOperator env entry.tx = some operator) →
    ∀ record, roster.validator operator = some record →
      record.Live ∨ roster.peer operator = none

theorem ValidatorRecord.Seated.live {record : ValidatorRecord} (seated : record.Seated) :
    record.Live := by
  rcases seated with status | status <;> simp [ValidatorRecord.Live, status, isRotatable]

theorem ValidatorRecord.Live.not_exited {record : ValidatorRecord} (live : record.Live) :
    record.status ≠ .exited := by
  intro exited
  simp [ValidatorRecord.Live, exited, isRotatable] at live

variable {initial : Roster} {entries : List PendingEntry}

theorem Roster.stays_within {action : RosterAction} (allowed : roster.Allows action)
    (named : action.NamedIn env entries) {operator : Address} {record : ValidatorRecord}
    (present : roster.validator operator = some record) (stays : record.status ≠ .exited) :
    ∃ later, (roster.perform action).validator operator = some later ∧ later.status ≠ .exited := by
  have revised {acted : Address} {change : ValidatorRecord → ValidatorRecord}
      (moves : ∀ record, (change record).status ≠ .exited) :
      ∃ later, (roster.revise acted change).validator operator = some later ∧
        later.status ≠ .exited := by
    rw [Roster.validator_revise, present]
    split
    · exact ⟨change record, rfl, moves record⟩
    · exact ⟨record, rfl, stays⟩
  cases allowed with
  | @register joining peerId gone seated =>
      by_cases same : operator = joining.operator
      · exact ⟨joining, by simp [Roster.perform, same], seated.live.not_exited⟩
      · exact ⟨record, by simpa [Roster.perform, same] using present, stays⟩
  | exit start => exact revised (by simp)
  | unjail _ _ _ seated => exact revised (by rcases seated with rfl | rfl <;> simp)
  | bindPeer | schedule => exact ⟨record, present, stays⟩
  | slash amount => exact revised (by simp [Slashing.slashRecord])
  | expire | rotate | activate =>
      obtain ⟨_, _, systemic⟩ := named
      exact systemic.elim

theorem Roster.bound_after {action : RosterAction} (allowed : roster.Allows action)
    {operator : Address} (bound : (roster.perform action).peer operator ≠ none) :
    roster.peer operator ≠ none ∨
      ∃ record, (roster.perform action).validator operator = some record ∧ record.Live := by
  cases allowed with
  | @register joining peerId gone seated =>
      by_cases same : operator = joining.operator
      · exact .inr ⟨joining, by simp [Roster.perform, same], seated.live⟩
      · left
        simp only [Roster.perform] at bound
        split at bound
        · exact bound
        · simpa [same] using bound
  | @bindPeer acted record peerId present live =>
      by_cases same : operator = acted
      · exact .inr ⟨record, same ▸ present, live⟩
      · exact .inl (by simpa [Roster.perform, same] using bound)
  | rotate acted => exact .inl (by rwa [Roster.peer_rotate] at bound)
  | exit | unjail | schedule | slash | expire | activate => exact .inl bound

theorem KeepsPeers.not_revives {action : RosterAction} (keeps : KeepsPeers env store entries)
    (kept : Roster.PeersKept env entries store.roster roster) (allowed : roster.Allows action)
    (named : action.NamedIn env entries) : ¬action.Revives roster := by
  intro revives
  obtain ⟨entry, member, named⟩ := named
  cases allowed with
  | @register record peerId gone =>
      obtain ⟨empty, bound⟩ := revives
      obtain ⟨kind, operator, _, registers⟩ := named
      rw [List.isEmpty_iff.mp empty] at registers
      have unbound := keeps.registers entry member kind registers
      rcases kept.bound record.operator bound with before | ⟨old, present, stays⟩
      · exact before (operator ▸ unbound)
      · exact stays (gone old present)
  | @slash operator record amount present =>
      obtain ⟨bound, dead⟩ := revives
      obtain ⟨economics, accuses⟩ := named
      rcases kept.accused operator economics ⟨entry, member, accuses⟩ record present with live | unbound
      · exact dead record present live
      · exact bound unbound
  | _ => exact revives

theorem Roster.PeersKept.step {after : Roster} (keeps : KeepsPeers env store entries)
    (kept : Roster.PeersKept env entries store.roster roster)
    (step : Roster.Step (RosterAction.NamedIn env entries) roster after) :
    Roster.PeersKept env entries store.roster after := by
  obtain ⟨action, named, allowed, rfl⟩ := step
  constructor
  case unique => exact kept.unique.perform allowed (keeps.not_revives kept allowed named)
  case bound =>
    intro operator bound
    rcases Roster.bound_after allowed bound with before | ⟨record, present, live⟩
    · rcases kept.bound operator before with initially | ⟨record, present, stays⟩
      · exact .inl initially
      · exact .inr (Roster.stays_within allowed named present stays)
    · exact .inr ⟨record, present, live.not_exited⟩
  case accused =>
    intro operator economics ⟨entry, member, accuses⟩ record found
    by_cases unbound : (roster.perform action).peer operator = none
    · exact .inr unbound
    left
    rcases Roster.bound_after allowed unbound with before | ⟨later, present, live⟩
    case inr => rwa [Option.some_inj.mp (found.symm.trans present)]
    have alive {old : ValidatorRecord} (present : roster.validator operator = some old) : old.Live :=
      (kept.accused operator economics ⟨entry, member, accuses⟩ old present).resolve_right before
    rcases Roster.found_cases allowed found with present | ⟨peerId, rfl, _⟩ | ⟨old, present, moves⟩
    · exact alive present
    · cases allowed with
      | register gone seated => exact seated.live
    · obtain ⟨asking, pending, named⟩ := named
      cases moves with
      | exit start =>
          obtain ⟨kind, sender⟩ := named
          exact absurd sender.symm
            ((keeps.accuses economics entry member operator accuses).2 asking pending kind)
      | unjail status _ _ seated => exact ValidatorRecord.Seated.live seated
      | slash => rfl
      | expire | rotate | activate => exact named.elim

theorem RosterAction.Systemic.not_revives {action : RosterAction} (systemic : action.Systemic) :
    ¬action.Revives roster := by
  cases action with
  | expire | rotate | activate => exact id
  | _ => exact systemic.elim

/-- PeerIds are unique along every run whose blocks bring no binding back. -/
theorem peerIds_unique (env : Env) (genesis store : StateStore)
    (unbound : ∀ operator, genesis.getValidatorPeerId operator = none)
    (run : ReflTransGen (ProductionStep env fun store pool _ _ =>
      KeepsPeers env store pool.allPending) genesis store)
    (left right : Address) (leftRecord rightRecord : ValidatorRecord)
    (foundLeft : store.getValidator left = some leftRecord)
    (foundRight : store.getValidator right = some rightRecord) (different : left ≠ right)
    (liveLeft : leftRecord.status = .active ∨ leftRecord.status = .candidate ∨
      leftRecord.status = .jailed)
    (liveRight : rightRecord.status = .active ∨ rightRecord.status = .candidate ∨
      rightRecord.status = .jailed)
    (peerId : Bytes) (bound : store.getValidatorPeerId left = some peerId) :
    store.getValidatorPeerId right ≠ some peerId := by
  have unique : store.roster.PeersUnique := by
    refine Runs.invariant (fun store => store.roster.PeersUnique) ?_ run ?_
    · rintro before _ ⟨pool, context, config, assembled, keeps, accepted⟩ unique
      obtain ⟨executed, named, systemic⟩ := assembleBlock_roster accepted
      have asked : ReflTransGen (Roster.Step (RosterAction.NamedIn env pool.allPending)) before.roster
          executed := Roster.steps_mono named fun action ⟨entry, member, named⟩ =>
        ⟨entry, mem_pendingInOrder.mp member, named⟩
      have kept : Roster.PeersKept env pool.allPending before.roster executed :=
        Runs.invariant _ (fun _ _ step kept => kept.step keeps step) asked
          { unique, bound := fun _ bound => .inl bound,
            accused := fun operator economics ⟨entry, member, accuses⟩ =>
              (keeps.accuses economics entry member operator accuses).1 }
      refine Runs.invariant Roster.PeersUnique ?_ systemic kept.unique
      rintro _ _ ⟨action, closing, allowed, rfl⟩ unique
      exact unique.perform allowed closing.not_revives
    · intro left _ _ _ peerId _ _ _ _ bound
      exact absurd (bound.symm.trans (unbound left)) (by simp)
  have live {record : ValidatorRecord} (status : record.status = .active ∨
      record.status = .candidate ∨ record.status = .jailed) : record.Live := by
    rcases status with status | status | status <;> simp [ValidatorRecord.Live, status, isRotatable]
  intro boundRight
  exact different (unique left right leftRecord rightRecord peerId foundLeft foundRight (live liveLeft)
    (live liveRight) bound boundRight)

def contestedPeer : Bytes := [7]

def bindTx (sender : Address) : Transaction :=
  signedTx sender .validatorRotatePeerId 0 1000 (.map [(.integer 1, .bytes contestedPeer)])

def leaveTx : Transaction := authorTx .validatorExit 1 1000 (.map [])

def returnTx : Transaction := authorTx .validatorRegister 2 1000 registration

def takenOver : StateStore :=
  produceEmpty sampleEnv 118
    (produceWith (produceWith (produceWith contestGenesis (bindTx author)) leaveTx) (bindTx rival))

/-- When the author comes back, so does its PeerId, which the rival has bound since. -/
theorem return_bringsPeerIdBack :
    (∀ operator, contestGenesis.getValidatorPeerId operator = none) ∧
      ReflTransGen (ProductionStep sampleEnv anyBlock) contestGenesis
        (produceWith takenOver returnTx) ∧
      [author, rival].map (fun operator =>
          (((produceWith takenOver returnTx).getValidator operator).map ValidatorRecord.status,
            (produceWith takenOver returnTx).getValidatorPeerId operator)) =
        [(some .active, some contestedPeer), (some .active, some contestedPeer)] := by
  refine ⟨fun operator => ?_, ?_, by decide +kernel⟩
  · exact (@genesis_roster sampleEnv [] [authorAccount, rivalAccount] contestants _ rfl operator).2
  · exact produceWith_production (produceEmpty_production 118 (produceWith_production
      (produceWith_production (produceWith_production .refl _) _) _) fun _ => trivial) _

theorem keepsPeers_of_bindings {pool : Mempool}
    (binding : (pool.allPending.all fun entry => entry.tx.msgType = .validatorRotatePeerId) = true) :
    KeepsPeers sampleEnv store pool.allPending where
  registers := by
    intro entry member registers
    have kind := List.all_eq_true.mp binding entry member
    simp [registers] at kind
  accuses := fun economics => by cases economics

theorem peerIds_unique_contested :
    ∃ store, ReflTransGen (ProductionStep sampleEnv anyBlock) contestGenesis store ∧
      store.blockHeight = 2 ∧ store.getValidatorPeerId author = some contestedPeer ∧
      store.getValidatorPeerId rival ≠ some contestedPeer := by
  let bound := produceWith contestGenesis (bindTx author)
  have run : ReflTransGen (ProductionStep sampleEnv fun store pool _ _ =>
      KeepsPeers sampleEnv store pool.allPending) contestGenesis (produceWith bound (bindTx rival)) :=
    produce_production (produce_production .refl _ (keepsPeers_of_bindings (by decide +kernel))) _
      (keepsPeers_of_bindings (by decide +kernel))
  have seats : [author, rival].map (fun operator =>
      ((produceWith bound (bindTx rival)).getValidator operator).map ValidatorRecord.status) =
        [some .active, some .active] := by decide +kernel
  have observed : (produceWith bound (bindTx rival)).getValidatorPeerId author = some contestedPeer ∧
      (produceWith bound (bindTx rival)).blockHeight = 2 := by decide +kernel
  have reached : ReflTransGen (ProductionStep sampleEnv anyBlock) contestGenesis
      (produceWith bound (bindTx rival)) :=
    produceWith_production (produceWith_production .refl _) _
  generalize produceWith bound (bindTx rival) = store at run seats observed reached
  simp only [List.map_cons, List.map_nil, List.cons.injEq, Option.map_eq_some_iff] at seats
  obtain ⟨⟨left, foundLeft, activeLeft⟩, ⟨right, foundRight, activeRight⟩, _⟩ := seats
  refine ⟨store, reached, observed.2, observed.1, ?_⟩
  exact peerIds_unique sampleEnv contestGenesis store
    (fun operator =>
      (@genesis_roster sampleEnv [] [authorAccount, rivalAccount] contestants _ rfl operator).2)
    run author rival left right foundLeft foundRight (by decide) (.inl activeLeft) (.inl activeRight)
    contestedPeer observed.1

end PeerIds

end ViperChain
