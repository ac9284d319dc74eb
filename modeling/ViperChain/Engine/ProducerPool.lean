import ViperChain.Engine.FeeCap

/-!
The mempool of a producing node. Its indexes are inverse to each other, and every pending
transaction is the next one of its sender.
-/

namespace ViperChain

open Fallible Relation

variable {env : Env} {store next : StateStore} {tx : Transaction}

namespace Mempool

variable {pool : Mempool}

structure Paired (pool : Mempool) : Prop extends Indexed pool where
  owned : ∀ sender nonce hash, pool.pendingForSlot sender nonce = some hash →
    ∃ entry, pool.get hash = some entry ∧ entry.tx.sender = sender ∧ entry.tx.nonce = nonce

theorem new_paired (cap : Nat) : ({ new with vcPerBlockCap := cap } : Mempool).Paired where
  keyed := by simp [new, get]
  slotted := by simp [new, get]
  owned := by simp [new, pendingForSlot]

theorem pendingForSlot_of_evict {txHash hash : TxHash} {sender : Address} {nonce : Nat}
    (paired : pool.Paired) (found : (pool.evict txHash).pendingForSlot sender nonce = some hash) :
    pool.pendingForSlot sender nonce = some hash ∧ txHash ≠ hash := by
  unfold evict at found
  split at found
  case h_2 absent =>
    refine ⟨found, ?_⟩
    rintro rfl
    obtain ⟨entry, present, _⟩ := paired.owned sender nonce _ found
    exact absurd (absent.symm.trans present) (by simp)
  case h_1 entry present =>
    simp only [pendingForSlot, Std.ExtTreeMap.getElem?_erase, compare_eq_iff_eq] at found
    split at found
    case isTrue => cases found
    case isFalse different =>
      refine ⟨found, ?_⟩
      rintro rfl
      obtain ⟨owner, presentOwner, ofSender, ofNonce⟩ := paired.owned sender nonce _ found
      have same : owner = entry := Option.some_inj.mp (presentOwner.symm.trans present)
      exact different (by rw [PendingEntry.slot, ← same, ofSender, ofNonce])

theorem Paired.evict (paired : pool.Paired) (txHash : TxHash) : (pool.evict txHash).Paired where
  toIndexed := paired.toIndexed.evict txHash
  owned := by
    intro sender nonce hash found
    obtain ⟨before, different⟩ := pendingForSlot_of_evict paired found
    obtain ⟨entry, present, owns⟩ := paired.owned sender nonce hash before
    exact ⟨entry, by rw [get_evict, if_neg different, present], owns⟩

theorem Paired.insert (paired : pool.Paired) (entry : PendingEntry)
    (fresh : pool.get entry.txHash = none)
    (vacant : pool.pendingForSlot entry.tx.sender entry.tx.nonce = none) :
    (pool.insert entry).Paired where
  toIndexed := by
    refine paired.toIndexed.insert entry fun pending member same => ?_
    obtain ⟨hash, found⟩ := mem_allPending.mp member
    have owner := paired.slotted hash pending found
    simp only [PendingEntry.slot, EmbeddingLike.apply_eq_iff_eq, Prod.mk.injEq] at same
    rw [same.1, same.2, vacant] at owner
    cases owner
  owned := by
    intro sender nonce hash found
    rw [pendingForSlot_insert] at found
    split at found
    case isTrue same =>
      cases found
      simp only [PendingEntry.slot, EmbeddingLike.apply_eq_iff_eq, Prod.mk.injEq] at same
      exact ⟨entry, by simp, same⟩
    case isFalse =>
      obtain ⟨owner, present, owns⟩ := paired.owned sender nonce hash found
      have different : entry.txHash ≠ hash := by
        rintro rfl
        rw [fresh] at present
        cases present
      exact ⟨owner, by rw [get_insert, if_neg different, present], owns⟩

theorem Paired.vacateSlot {vacated : Mempool} {replaced : Option TxHash} (paired : pool.Paired)
    (accepted : vacateSlot pool tx = .ok (vacated, replaced)) :
    vacated.Paired ∧ vacated.pendingForSlot tx.sender tx.nonce = none := by
  simp only [ViperChain.vacateSlot] at accepted
  split at accepted
  case h_1 vacant =>
    cases accepted
    exact ⟨paired, vacant⟩
  case h_2 existing occupied =>
    obtain ⟨entry, present, _⟩ := paired.owned tx.sender tx.nonce existing occupied
    have evicted : vacated = pool.evict existing := by
      rw [present] at accepted
      simp only at accepted
      split at accepted
      · cases accepted
      · cases accepted
        rfl
    subst evicted
    refine ⟨paired.evict existing, ?_⟩
    rw [Option.eq_none_iff_forall_ne_some]
    intro hash found
    obtain ⟨before, different⟩ := pendingForSlot_of_evict paired found
    exact different (Option.some_inj.mp (occupied.symm.trans before))

theorem Paired.evictStale (paired : pool.Paired) (sender : Address) (committedNonce : Nat) :
    (pool.evictStale sender committedNonce).Paired :=
  evictStale_induction pool sender committedNonce (fun _ hash paired => paired.evict hash) paired

def quota (pool : Mempool) : Nat × Nat := (pool.vcAdmittedCount, pool.vcPerBlockCap)

theorem quota_evict (pool : Mempool) (txHash : TxHash) : (pool.evict txHash).quota = pool.quota := by
  unfold evict
  split <;> rfl

theorem quota_evictStale (pool : Mempool) (sender : Address) (committedNonce : Nat) :
    (pool.evictStale sender committedNonce).quota = pool.quota :=
  @evictStale_induction (fun current => current.quota = pool.quota) pool sender committedNonce
    (fun current hash same => (quota_evict current hash).trans same) rfl

theorem quota_vacateSlot {vacated : Mempool} {replaced : Option TxHash}
    (accepted : ViperChain.vacateSlot pool tx = .ok (vacated, replaced)) :
    vacated.quota = pool.quota := by
  simp only [ViperChain.vacateSlot] at accepted
  split at accepted
  · cases accepted
    rfl
  · split at accepted
    · cases accepted
      exact quota_evict pool _
    · split at accepted
      · cases accepted
      · cases accepted
        exact quota_evict pool _

end Mempool

section Nonces

def HasNonce (store : StateStore) (address : Address) (nonce : Nat) : Prop :=
  (store.getAccount address).map Account.nonce = some nonce

def NoncesStay (store next : StateStore) : Prop :=
  ∀ address nonce, HasNonce store address nonce → HasNonce next address nonce

theorem NoncesStay.trans {last : StateStore} (first : NoncesStay store next)
    (second : NoncesStay next last) : NoncesStay store last :=
  fun address nonce before => second address nonce (first address nonce before)

theorem NoncesStay.of_accounts (same : next.accounts = store.accounts) : NoncesStay store next := by
  intro address nonce before
  rwa [HasNonce, StateStore.getAccount, same]

theorem AccountsGrow.noncesStay (grows : AccountsGrow store next) : NoncesStay store next := by
  intro address nonce before
  obtain ⟨account, present, nonce_eq⟩ := Option.map_eq_some_iff.mp before
  obtain ⟨grown, found, same⟩ := grows.accounts address account present
  exact Option.map_eq_some_iff.mpr ⟨grown, found, same.trans nonce_eq⟩

theorem slash_noncesStay (store : StateStore) (operator : Address) (amount height : Nat) :
    NoncesStay store (slash env store operator amount height) := by
  obtain ⟨cut, cut_eq⟩ : ∃ cut, (store.modifyValidator operator
      (Slashing.slashRecord amount)).commitValidatorMutation env operator = cut := ⟨_, rfl⟩
  have same : cut.accounts = store.accounts := by rw [← cut_eq]; rfl
  have accounts := @slash_accounts env store operator amount height
  rw [cut_eq] at accounts
  exact (NoncesStay.of_accounts same).trans
    ((creditAccount_grows cut Slashing.treasuryAddress amount).noncesStay.trans
      (.of_accounts accounts))

theorem PayloadEffect.noncesStay (effect : PayloadEffect env store tx next) :
    NoncesStay store next := by
  cases effect with
  | createAccount account fresh => exact (insertAccount_grows account fresh).noncesStay
  | updateSender change keeps => exact (updateAccount_grows store tx.sender keeps.nonce).noncesStay
  | transfer sender recipient amount =>
      exact ((withdraw_grows store tx.sender amount).trans
        (creditRecipient_grows _ recipient amount)).noncesStay
  | register sender record peerId =>
      exact (withdraw_grows store tx.sender record.selfBond).noncesStay.trans
        (.of_accounts (admitValidator_accounts _ record peerId))
  | bindPeer peerId => exact (setValidatorPeerId_ledger store tx.sender peerId).grows.noncesStay
  | slashed record evidence cutoff kind decoded present amount =>
      exact (pruneRecentSlashesBefore_ledger store cutoff).grows.noncesStay.trans
        (slash_noncesStay _ _ amount _)
  | setStatus | scheduleRotation | anchor | attest | archivalKey | archive | pushAnchor | renew
  | propose | vote => exact .of_accounts rfl

theorem applyTx_hasNonce {context : ExecutionContext} {result : ExecutionResult}
    (executed : applyTx env store tx context = .ok (next, result)) {address : Address} {nonce : Nat}
    (different : address ≠ tx.sender) (before : HasNonce store address nonce) :
    HasNonce next address nonce := by
  obtain ⟨working, settled, ran⟩ := applyTx_cases executed
  have paid : HasNonce working address nonce := by
    rcases ran with rfl | effect
    · exact before
    · exact effect.noncesStay address nonce before
  rwa [HasNonce, settled.next_eq, getAccount_updateAccount, if_neg different.symm]

theorem NoncesStay.foldl {Item : Type*} {round : StateStore → Item → StateStore}
    (stays : ∀ current item, NoncesStay current (round current item)) (items : List Item)
    (store : StateStore) : NoncesStay store (items.foldl round store) :=
  List.foldlRecOn items round (motive := NoncesStay store) (fun _ _ before => before)
    fun current stayed item _ => stayed.trans (stays current item)

theorem activateRotation_noncesStay (store : StateStore) (operator : Address) :
    NoncesStay store (store.activateRotation env operator) := by
  unfold StateStore.activateRotation
  split <;> exact .of_accounts rfl

theorem activateValidator_noncesStay (store : StateStore) (operator : Address) :
    NoncesStay store (store.activateValidator env operator) := by
  unfold StateStore.activateValidator
  split
  · exact .of_accounts rfl
  · split <;> exact .of_accounts rfl

theorem refundExpirations_noncesStay (store : StateStore) (height : Nat) :
    NoncesStay store (refundExpirations env store height) := by
  have expired : NoncesStay store (store.processValidatorUnbondingExpirations env height).1 :=
    .of_accounts rfl
  exact expired.trans (refundExits_grows _ _).noncesStay

theorem closeBlock_noncesStay (store : StateStore) (height gasUsed : Nat) :
    NoncesStay store (closeBlock env store height gasUsed) := by
  have priced : NoncesStay store (store.applyAimdUpdate env gasUsed) := .of_accounts rfl
  have tallied : NoncesStay (store.applyAimdUpdate env gasUsed)
      (processGovernanceTallies env (store.applyAimdUpdate env gasUsed) height) :=
    .of_accounts (processGovernanceTallies_tokens _ height).accounts
  have rotated : ∀ current : StateStore,
      NoncesStay current (current.activatePendingConsensusKeyRotations env height) :=
    fun current => NoncesStay.foldl activateRotation_noncesStay _ current
  exact (((priced.trans tallied).trans (refundExpirations_noncesStay _ height)).trans
    (rotated _)).trans (advanceHeight_grows _).noncesStay

theorem epochStep_noncesStay (store : StateStore) (height : Nat) (epochConfig : EpochConfig) :
    NoncesStay store (epochStep env store height epochConfig) := by
  unfold epochStep
  split
  · exact NoncesStay.foldl activateValidator_noncesStay _ store
  · exact .of_accounts rfl

theorem finishAssembly_noncesStay (store : StateStore) (proposer : Address)
    (height fees gasUsed : Nat) (config : AssemblyConfig) :
    NoncesStay store (finishAssembly env store proposer height fees gasUsed config) :=
  ((distributeBlockFees_grows store proposer fees _ config.feeDist).noncesStay.trans
    (closeBlock_noncesStay _ height gasUsed)).trans (epochStep_noncesStay _ height _)

end Nonces

section Pending

structure Mempool.Current (store : StateStore) (pool : Mempool) : Prop extends pool.Paired where
  nonces : ∀ hash entry, pool.get hash = some entry →
    HasNonce store entry.tx.sender entry.tx.nonce

variable {pool : Mempool}

theorem Mempool.Current.sender_unique (current : pool.Current store) {left right : PendingEntry}
    (leftPending : left ∈ pool.allPending) (rightPending : right ∈ pool.allPending)
    (same : left.tx.sender = right.tx.sender) : left = right := by
  obtain ⟨leftHash, leftFound⟩ := mem_allPending.mp leftPending
  obtain ⟨rightHash, rightFound⟩ := mem_allPending.mp rightPending
  have leftNonce := current.nonces leftHash left leftFound
  have rightNonce := current.nonces rightHash right rightFound
  rw [HasNonce, same, rightNonce, Option.some_inj] at leftNonce
  exact current.slot_unique leftPending rightPending (by
    rw [PendingEntry.slot, PendingEntry.slot, same, leftNonce])

theorem Mempool.Current.evict (current : pool.Current store) (txHash : TxHash) :
    (pool.evict txHash).Current store where
  toPaired := current.toPaired.evict txHash
  nonces := fun hash entry found => current.nonces hash entry (get_of_get_evict found)

theorem Mempool.Current.stay (current : pool.Current store) (stays : NoncesStay store next) :
    pool.Current next where
  toPaired := current.toPaired
  nonces := fun hash entry found => stays _ _ (current.nonces hash entry found)

theorem Mempool.Current.recount (current : pool.Current store) (vcAdmittedCount : Nat) :
    ({ pool with vcAdmittedCount } : Mempool).Current store :=
  ⟨⟨⟨current.keyed, current.slotted⟩, current.owned⟩, current.nonces⟩

theorem tryAdmit_current {admitted : Mempool} {rawBytes : Bytes} {verifier : SignatureVerifier}
    {feeParams : FeeParams} {result : AdmissionResult} (current : pool.Current store)
    (accepted : tryAdmit env pool rawBytes store verifier feeParams = .ok (admitted, result)) :
    admitted.Current store ∧ ∃ tx, decodeTx env rawBytes = .ok tx ∧
      admitted.quota =
        (pool.vcAdmittedCount + (if isPremium store tx then 1 else 0), pool.vcPerBlockCap) ∧
      (isPremium store tx → pool.vcAdmittedCount < pool.vcPerBlockCap) := by
  simp only [tryAdmit, bind_eq_ok, require_eq_ok, okOr_eq_ok, pure_eq_ok, mapError_eq_ok,
    Prod.mk.injEq] at accepted
  obtain ⟨tx, decoded, _, fresh, lifecycle, _, _, _, _, room, _, valid, ⟨vacated, replaced⟩,
    vacates, rfl, rfl⟩ := accepted
  obtain ⟨account, present, nonce, _⟩ := validateTx_authorised valid
  obtain ⟨paired, vacant⟩ := current.toPaired.vacateSlot vacates
  have unknown : vacated.get (computeTxHash env rawBytes) = none := by
    rw [Option.eq_none_iff_forall_ne_some]
    intro entry found
    rw [vacateSlot_get vacates found] at fresh
    cases fresh
  have inserted : (vacated.insert (pendingEntry env tx rawBytes)).Current store := by
    refine ⟨paired.insert _ unknown vacant, fun hash entry found => ?_⟩
    rw [Mempool.get_insert] at found
    split at found
    · cases found
      exact Option.map_eq_some_iff.mpr ⟨account, present, nonce.symm⟩
    · exact current.nonces hash entry (vacateSlot_get vacates found)
  have quota := Mempool.quota_vacateSlot vacates
  simp only [Mempool.quota, Prod.mk.injEq] at quota
  refine ⟨?_, tx, decoded, ?_, fun premium => ?_⟩
  · split
    · exact inserted.recount _
    · exact inserted
  · split <;> simp [Mempool.quota, Mempool.incrementVcCount, Mempool.insert, quota]
  · simpa [premium] using room

structure AssemblyState.Drains (pool : Mempool) (state : AssemblyState) : Prop where
  current : state.pool.Current state.store
  within : ∀ hash entry, state.pool.get hash = some entry → pool.get hash = some entry
  quota : state.pool.quota = pool.quota

theorem assembleEntry_drains {config : AssemblyConfig} {state : AssemblyState}
    {entry : PendingEntry} (start : pool.Current store) (pending : entry ∈ pool.allPending)
    (drains : state.Drains pool) : (assembleEntry env config state entry).Drains pool := by
  refine ⟨?_, fun hash left found => drains.within hash left (assembleEntry_get found), ?_⟩
  · simp only [assembleEntry]
    split
    · exact drains.current
    · split
      case h_2 => exact drains.current.evict entry.txHash
      case h_1 after execution executed =>
        refine ⟨(drains.current.toPaired.evict entry.txHash).evictStale _ _,
          fun hash left found => ?_⟩
        have kept := Mempool.get_of_get_evictStale found
        have before := Mempool.get_of_get_evict kept
        refine applyTx_hasNonce executed (fun same => ?_) (drains.current.nonces hash left before)
        have before := drains.within hash left before
        have same : left = entry :=
          start.sender_unique (Mempool.mem_allPending.mpr ⟨hash, before⟩) pending same
        have keyed := start.keyed hash left before
        rw [Mempool.get_evict, if_pos (by rw [← keyed, same])] at kept
        cases kept
  · rw [← drains.quota]
    simp only [assembleEntry]
    split
    · rfl
    · split
      · exact (Mempool.quota_evictStale _ _ _).trans (Mempool.quota_evict _ _)
      · exact Mempool.quota_evict _ _

theorem assembleEntries_drains (config : AssemblyConfig) (start : pool.Current store) :
    (assembleEntries env config store pool).Drains pool :=
  List.foldlRecOn _ _ (motive := AssemblyState.Drains pool) ⟨start, fun _ _ found => found, rfl⟩
    fun _ drains _ pending => assembleEntry_drains start (mem_pendingInOrder.mp pending) drains

theorem executeAssembly_current (start : pool.Current store) (context : AssemblyContext)
    (config : AssemblyConfig) (proposer : Address) :
    (executeAssembly env store pool context config proposer).pool.Current
      (executeAssembly env store pool context config proposer).store :=
  ((assembleEntries_drains config start).current.stay
    (finishAssembly_noncesStay _ proposer _ _ _ config)).recount 0

end Pending

section Runs

/-- A node that imports nothing. `premiumAdmitted` counts the premium transactions admitted since
the last block. -/
structure Producer where
  store : StateStore
  pool : Mempool
  premiumAdmitted : Nat

inductive ProducerCall where
  | tryAdmit (rawBytes : Bytes) (verifier : SignatureVerifier) (feeParams : FeeParams)
  | assembleBlock (context : AssemblyContext) (config : AssemblyConfig)

namespace Producer

def start (store : StateStore) (vcPerBlockCap : Nat) : Producer :=
  ⟨store, { Mempool.new with vcPerBlockCap }, 0⟩

def perform (env : Env) (node : Producer) : ProducerCall → Producer
  | .tryAdmit rawBytes verifier feeParams =>
      match tryAdmit env node.pool rawBytes node.store verifier feeParams with
      | .error _ => node
      | .ok (pool, _) =>
          let premium := (decodeTx env rawBytes).toOption.any (isPremium node.store)
          { node with pool, premiumAdmitted := node.premiumAdmitted + if premium then 1 else 0 }
  | .assembleBlock context config =>
      match assembleBlock env node.store node.pool context config with
      | .error _ => node
      | .ok assembled => ⟨assembled.store, assembled.pool, 0⟩

structure Sound (vcPerBlockCap : Nat) (node : Producer) : Prop where
  current : node.pool.Current node.store
  cap : node.pool.vcPerBlockCap = vcPerBlockCap
  counted : node.pool.vcAdmittedCount = node.premiumAdmitted
  withinCap : node.premiumAdmitted ≤ vcPerBlockCap

variable {node : Producer} {vcPerBlockCap : Nat}

theorem start_sound (store : StateStore) (vcPerBlockCap : Nat) :
    (start store vcPerBlockCap).Sound vcPerBlockCap where
  current := ⟨Mempool.new_paired vcPerBlockCap, by simp [start, Mempool.new, Mempool.get]⟩
  cap := rfl
  counted := rfl
  withinCap := Nat.zero_le _

theorem Sound.perform (sound : node.Sound vcPerBlockCap) (call : ProducerCall) :
    (node.perform env call).Sound vcPerBlockCap := by
  cases call with
  | tryAdmit rawBytes verifier feeParams =>
      simp only [Producer.perform]
      split
      case h_1 => exact sound
      case h_2 pool result accepted =>
        obtain ⟨current, tx, decoded, quota, room⟩ := tryAdmit_current sound.current accepted
        simp only [Mempool.quota, Prod.mk.injEq] at quota
        obtain ⟨count, cap⟩ := quota
        have counted := sound.counted
        have withinCap := sound.withinCap
        rw [sound.cap] at cap room
        simp only [decoded, Except.toOption, Option.any_some]
        refine ⟨current, cap, by rw [count, counted], ?_⟩
        split
        case isTrue premium =>
          have room := room premium
          dsimp only
          omega
        case isFalse => exact withinCap
  | assembleBlock context config =>
      simp only [Producer.perform]
      split
      case h_1 => exact sound
      case h_2 assembled accepted =>
        obtain ⟨_, proposer, _, rfl⟩ := assembleBlock_eq_ok.mp accepted
        have quota : (assembleEntries env config node.store node.pool).pool.quota =
            node.pool.quota := (assembleEntries_drains config sound.current).quota
        simp only [Mempool.quota, Prod.mk.injEq] at quota
        exact ⟨executeAssembly_current sound.current context config proposer,
          quota.2.trans sound.cap, rfl, Nat.zero_le _⟩

def run (env : Env) (store : StateStore) (vcPerBlockCap : Nat) (calls : List ProducerCall) :
    Producer :=
  calls.foldl (perform env) (start store vcPerBlockCap)

theorem run_sound (env : Env) (store : StateStore) (vcPerBlockCap : Nat)
    (calls : List ProducerCall) : (run env store vcPerBlockCap calls).Sound vcPerBlockCap :=
  List.foldlRecOn calls _ (start_sound store vcPerBlockCap) fun _ sound call _ => sound.perform call

end Producer

/-- The pool of a producing node between any two calls: the slot index names an entry exactly when
it is pending in the slot, a pending transaction carries the nonce of its sender's account, and
the premium admissions since the last block stay within the cap. -/
theorem producerPool_consistent (env : Env) (store : StateStore) (vcPerBlockCap : Nat)
    (calls : List ProducerCall) :
    let node := Producer.run env store vcPerBlockCap calls
    (∀ sender nonce hash, node.pool.pendingForSlot sender nonce = some hash ↔
      ∃ entry, node.pool.get hash = some entry ∧ entry.tx.sender = sender ∧
        entry.tx.nonce = nonce) ∧
    (∀ hash entry, node.pool.get hash = some entry →
      entry.txHash = hash ∧ HasNonce node.store entry.tx.sender entry.tx.nonce) ∧
    (∀ left ∈ node.pool.allPending, ∀ right ∈ node.pool.allPending,
      left.tx.sender = right.tx.sender → left = right) ∧
    node.pool.vcPerBlockCap = vcPerBlockCap ∧ node.premiumAdmitted ≤ vcPerBlockCap := by
  intro node
  have sound : node.Sound vcPerBlockCap := Producer.run_sound env store vcPerBlockCap calls
  have current := sound.current
  refine ⟨fun sender nonce hash => ⟨current.owned sender nonce hash, ?_⟩, fun hash entry found => ?_,
    fun left leftPending right rightPending same => ?_, sound.cap, sound.withinCap⟩
  · rintro ⟨entry, found, rfl, rfl⟩
    exact current.slotted hash entry found
  · exact ⟨current.keyed hash entry found, current.nonces hash entry found⟩
  · exact current.sender_unique leftPending rightPending same

end Runs

end ViperChain
