import ViperChain.Engine.Reach
import ViperChain.State.FeeMarket

/-!
The fee a sender signs against the fee it is charged. Admission compares the signed fee with
the prices it sees; execution compares nothing.
-/

namespace ViperChain

open Fallible Relation

variable {env : Env} {store next : StateStore} {tx : Transaction}

section Prices

theorem satMul64_mono (left : Nat) {right right' : Nat} (second : right ≤ right') :
    satMul64 left right ≤ satMul64 left right' :=
  min_le_min_right _ (Nat.mul_le_mul_left left second)

theorem sigverifyFeeForAlg_mono (algId : AlgId) (params : FeeParams) {low high : Nat}
    (within : low ≤ high) :
    sigverifyFeeForAlg algId params low ≤ sigverifyFeeForAlg algId params high :=
  max_le_max_left _ within

theorem feeBreakdown_total_mono (tx : Transaction) (rawBytesLen : Nat) (feeParams : FeeParams)
    {gas limit now past low high : Nat} (gasWithin : gas ≤ limit)
    (baseWithin : effectiveBaseFee { feeParams with baseFeeDynamic := now } tx.msgType ≤
      effectiveBaseFee { feeParams with baseFeeDynamic := past } tx.msgType)
    (minWithin : low ≤ high) :
    (feeBreakdown tx rawBytesLen gas { feeParams with baseFeeDynamic := now } low).total ≤
      (feeBreakdown tx rawBytesLen limit { feeParams with baseFeeDynamic := past } high).total := by
  have sigverify : sigverifyFeeForAlg tx.sigAlgId feeParams low ≤
      sigverifyFeeForAlg tx.sigAlgId feeParams high :=
    sigverifyFeeForAlg_mono tx.sigAlgId feeParams minWithin
  exact satAdd64_mono (satAdd64_mono (satAdd64_mono baseWithin le_rfl) sigverify)
    (satMul64_mono feeParams.execFeePerGas gasWithin)

structure PricesWithin (feeParams : FeeParams) (past now : StateStore) (tx : Transaction) : Prop where
  baseFee : effectiveBaseFee { feeParams with baseFeeDynamic := now.baseFeeDynamic } tx.msgType ≤
    effectiveBaseFee (admissionFeeParams past feeParams) tx.msgType
  algMinFee : (now.algMinFee tx.sigAlgId).getD 0 ≤ (past.algMinFee tx.sigAlgId).getD 0

def admissionFee (feeParams : FeeParams) (past : StateStore) (tx : Transaction)
    (rawBytesLen : Nat) : Nat :=
  (requiredFeeBreakdown tx rawBytesLen (admissionFeeParams past feeParams)
    ((past.algMinFee tx.sigAlgId).getD 0)).total

theorem actualFee_le_admissionFee {feeParams : FeeParams} {past : StateStore} (rawBytesLen : Nat)
    (prices : PricesWithin feeParams past store tx) :
    actualFee store tx (executionContext store feeParams rawBytesLen) ≤
      admissionFee feeParams past tx rawBytesLen := by
  have gas : min (scheduledGasForMsgType tx.msgType) tx.gasLimit ≤ tx.gasLimit := min_le_right _ _
  have base := prices.baseFee
  unfold admissionFee admissionFeeParams at *
  split at base
  case isTrue rising =>
    rw [if_pos rising]
    exact feeBreakdown_total_mono tx rawBytesLen feeParams gas base prices.algMinFee
  case isFalse absent =>
    rw [if_neg absent]
    exact feeBreakdown_total_mono tx rawBytesLen feeParams gas base prices.algMinFee

theorem applyTx_feeCharged {context : ExecutionContext} {result : ExecutionResult}
    (executed : applyTx env store tx context = .ok (next, result)) :
    result.feeCharged = tx.fee ∨ result.feeCharged = actualFee store tx context := by
  simp only [applyTx] at executed
  split at executed
  · simp only [bind_eq_ok, pure_eq_ok, Prod.mk.injEq] at executed
    obtain ⟨_, _, _, rfl⟩ := executed
    exact .inl rfl
  · simp only [bind_eq_ok, pure_eq_ok, Prod.mk.injEq] at executed
    obtain ⟨_, _, _, _, _, rfl⟩ := executed
    exact .inr rfl

end Prices

section Balances

def StateStore.balanceOf (store : StateStore) (address : Address) : Nat :=
  (store.getAccount address).elim 0 Account.balance

theorem balanceOf_congr (same : next.accounts = store.accounts) (address : Address) :
    next.balanceOf address = store.balanceOf address := by
  simp only [StateStore.balanceOf, StateStore.getAccount, same]

theorem withdraw_balanceOf (env : Env) {address : Address} {account : Account} {amount : Nat}
    (present : store.getAccount address = some account) (covered : amount ≤ account.balance) :
    (withdraw env store address amount).balanceOf address + amount = store.balanceOf address := by
  simp only [StateStore.balanceOf, withdraw, getAccount_updateAccount, if_true, present,
    Option.map_some, Option.elim_some]
  exact Nat.sub_add_cancel covered

theorem creditRecipient_balanceOf {recipient other : Address} (amount : Nat)
    (different : other ≠ recipient) :
    (creditRecipient env store recipient amount).balanceOf other = store.balanceOf other := by
  unfold creditRecipient StateStore.balanceOf
  split
  · rw [getAccount_updateAccount, if_neg different.symm]
  · rw [getAccount_insertAccount, if_neg]
    exact different.symm

theorem le_creditAccount_balanceOf (address other : Address) (amount : Nat)
    (fits : store.balanceOf other ≤ u128Max) :
    store.balanceOf other ≤ (creditAccount env store address amount).balanceOf other := by
  unfold creditAccount
  split
  case isTrue => exact le_rfl
  case isFalse =>
    split
    case isTrue =>
      unfold StateStore.balanceOf at fits ⊢
      rw [getAccount_updateAccount]
      split
      · cases found : store.getAccount other with
        | none => exact Nat.zero_le _
        | some account =>
            simp only [found, Option.elim_some] at fits
            exact le_min (Nat.le_add_right _ _) fits
      · exact le_rfl
    case isFalse unknown =>
      unfold StateStore.balanceOf
      rw [getAccount_insertAccount]
      split
      case isTrue same =>
        have absent : store.getAccount other = none := by
          rw [← same]
          exact Option.not_isSome_iff_eq_none.mp unknown
        rw [absent]
        exact Nat.zero_le _
      case isFalse => exact le_rfl

theorem slash_balanceOf_le (operator other : Address) (amount height : Nat)
    (fits : store.balanceOf other ≤ u128Max) :
    store.balanceOf other ≤ (slash env store operator amount height).balanceOf other := by
  let slashed := (store.modifyValidator operator (Slashing.slashRecord amount))
    |>.commitValidatorMutation env operator
  have before : slashed.balanceOf other = store.balanceOf other := balanceOf_congr rfl other
  have after : (slash env store operator amount height).balanceOf other =
      (creditAccount env slashed Slashing.treasuryAddress amount).balanceOf other :=
    balanceOf_congr rfl other
  rw [after, ← before]
  exact le_creditAccount_balanceOf Slashing.treasuryAddress other amount (before ▸ fits)

theorem PayloadEffect.balanceOf_le (effect : PayloadEffect env store tx next)
    (fits : store.balanceOf tx.sender ≤ u128Max) :
    store.balanceOf tx.sender ≤ next.balanceOf tx.sender + namedAmount env tx := by
  cases effect with
  | createAccount account fresh =>
      refine Nat.le_add_right_of_le ?_
      unfold StateStore.balanceOf
      rw [getAccount_insertAccount]
      split
      case isTrue same => simp [← same, fresh]
      case isFalse => exact le_rfl
  | updateSender change keeps =>
      refine Nat.le_add_right_of_le (le_of_eq ?_)
      simp only [StateStore.balanceOf, getAccount_updateAccount, if_true]
      cases store.getAccount tx.sender with
      | none => rfl
      | some account => exact (keeps.balance account).symm
  | transfer sender recipient amount present covered different named =>
      rw [creditRecipient_balanceOf amount different, ← named,
        withdraw_balanceOf env present covered]
  | register sender record peerId present covered operator standing available joins placed named =>
      have bonded := withdraw_balanceOf env present covered
      have admitted : (admitValidator env (withdraw env store tx.sender record.selfBond) record
          peerId).accounts = (withdraw env store tx.sender record.selfBond).accounts := by
        simp only [admitValidator]
        split
        · rfl
        · exact (setValidatorPeerId_ledger _ _ _).accounts
      rw [balanceOf_congr admitted, ← named, bonded]
  | bindPeer peerId =>
      rw [balanceOf_congr (setValidatorPeerId_ledger store tx.sender peerId).accounts]
      exact Nat.le_add_right _ _
  | slashed record evidence cutoff kind decoded present amount =>
      refine Nat.le_add_right_of_le ?_
      have pruned : (store.pruneRecentSlashesBefore env cutoff).balanceOf tx.sender =
          store.balanceOf tx.sender :=
        balanceOf_congr (pruneRecentSlashesBefore_ledger store cutoff).accounts tx.sender
      rw [← pruned]
      exact slash_balanceOf_le _ _ amount _ (pruned ▸ fits)
  | setStatus | scheduleRotation | anchor | attest | archivalKey | archive | pushAnchor | renew
  | propose | vote =>
      exact Nat.le_add_right_of_le (le_of_eq (balanceOf_congr (by rfl) tx.sender).symm)

theorem Settled.balanceOf {debit : Nat} (settled : Settled env store tx debit next) :
    next.balanceOf tx.sender + debit = store.balanceOf tx.sender := by
  obtain ⟨sender, present, covered⟩ := settled.covered
  simp only [settled.next_eq, StateStore.balanceOf, getAccount_updateAccount, if_true, present,
    Option.map_some, Option.elim_some]
  exact Nat.sub_add_cancel covered

theorem applyTx_balanceOf_le {context : ExecutionContext} {result : ExecutionResult}
    (executed : applyTx env store tx context = .ok (next, result))
    (fits : store.balanceOf tx.sender ≤ u128Max) :
    store.balanceOf tx.sender ≤
      next.balanceOf tx.sender + (result.feeCharged + tx.feeTip + namedAmount env tx) := by
  obtain ⟨working, settled, ran⟩ := applyTx_cases executed
  have debit : satAdd128 result.feeCharged tx.feeTip ≤ result.feeCharged + tx.feeTip := min_le_left _ _
  have paid := settled.balanceOf
  rcases ran with rfl | effect
  · omega
  · have taken := effect.balanceOf_le fits
    omega

end Balances

section Runs

/-- A node that admits transactions and assembles blocks. `admittedOn` remembers the state each
pending transaction was admitted on. -/
structure NodeState where
  store : StateStore
  pool : Mempool
  admittedOn : TxHash → StateStore

def NodeState.fresh (store : StateStore) : NodeState := ⟨store, .new, fun _ => store⟩

inductive NodeStep (env : Env) (feeParams : FeeParams) : NodeState → NodeState → Prop
  | admission (node : NodeState) (rawBytes : Bytes) (verifier : SignatureVerifier) (pool : Mempool)
      (result : AdmissionResult)
      (accepted : tryAdmit env node.pool rawBytes node.store verifier feeParams
        = .ok (pool, result)) :
      NodeStep env feeParams node
        { node with pool, admittedOn := Function.update node.admittedOn result.txHash node.store }
  | assemble (node : NodeState) (context : AssemblyContext) (config : AssemblyConfig)
      (assembled : Assembled) (configured : config.feeParams = feeParams)
      (accepted : assembleBlock env node.store node.pool context config = .ok assembled) :
      NodeStep env feeParams node { node with store := assembled.store, pool := assembled.pool }

structure NodeState.Covered (feeParams : FeeParams) (node : NodeState) : Prop where
  keyed : ∀ hash entry, node.pool.get hash = some entry → entry.txHash = hash
  covered : ∀ hash entry, node.pool.get hash = some entry →
    admissionFee feeParams (node.admittedOn hash) entry.tx entry.rawBytes.length ≤ entry.tx.fee

theorem NodeState.fresh_covered (feeParams : FeeParams) (store : StateStore) :
    (NodeState.fresh store).Covered feeParams where
  keyed := by simp [NodeState.fresh, Mempool.new, Mempool.get]
  covered := by simp [NodeState.fresh, Mempool.new, Mempool.get]

theorem validateTx_admissionFee {rawBytes : Bytes} {verifier : SignatureVerifier}
    {feeParams : FeeParams}
    (accepted : validateTx env tx rawBytes (admissionContext env store tx verifier feeParams)
      = .ok ()) :
    admissionFee feeParams store tx rawBytes.length ≤ tx.fee := by
  simp only [validateTx, bind_eq_ok, require_eq_ok, okOr_eq_ok, decide_eq_true_eq] at accepted
  obtain ⟨_, _, _, _, _, _, _, _, _, _, _, _, _, _, _, _, minFee, registered, _, paid, _⟩ := accepted
  have registered : store.algMinFee tx.sigAlgId = some minFee := registered
  simp only [admissionFee, registered, Option.getD_some]
  exact paid

theorem vacateSlot_get {pool vacated : Mempool} {replaced : Option TxHash} {hash : TxHash}
    {entry : PendingEntry} (accepted : vacateSlot pool tx = .ok (vacated, replaced))
    (pending : vacated.get hash = some entry) : pool.get hash = some entry := by
  simp only [vacateSlot] at accepted
  split at accepted
  · cases accepted
    exact pending
  · split at accepted
    · cases accepted
      exact Mempool.get_of_get_evict pending
    · split at accepted
      · cases accepted
      · cases accepted
        exact Mempool.get_of_get_evict pending

theorem tryAdmit_get {pool admitted : Mempool} {rawBytes : Bytes} {verifier : SignatureVerifier}
    {feeParams : FeeParams} {result : AdmissionResult}
    (accepted : tryAdmit env pool rawBytes store verifier feeParams = .ok (admitted, result))
    {hash : TxHash} {entry : PendingEntry} (pending : admitted.get hash = some entry) :
    (hash = result.txHash ∧ entry.txHash = hash ∧
        admissionFee feeParams store entry.tx entry.rawBytes.length ≤ entry.tx.fee) ∨
      (hash ≠ result.txHash ∧ pool.get hash = some entry) := by
  simp only [tryAdmit, bind_eq_ok, require_eq_ok, okOr_eq_ok, pure_eq_ok, mapError_eq_ok,
    Prod.mk.injEq] at accepted
  obtain ⟨tx, _, _, _, lifecycle, _, _, _, _, _, _, valid, ⟨vacated, replaced⟩, vacates, rfl, rfl⟩ :=
    accepted
  have inserted : (vacated.insert (pendingEntry env tx rawBytes)).get hash = some entry := by
    split at pending <;> exact pending
  rw [Mempool.get_insert] at inserted
  split at inserted
  case isTrue same =>
    cases inserted
    exact .inl ⟨same.symm, same, validateTx_admissionFee valid⟩
  case isFalse other => exact .inr ⟨fun same => other same.symm, vacateSlot_get vacates inserted⟩

theorem assembleEntry_get {config : AssemblyConfig} {state : AssemblyState} {item : PendingEntry}
    {hash : TxHash} {entry : PendingEntry}
    (pending : (assembleEntry env config state item).pool.get hash = some entry) :
    state.pool.get hash = some entry := by
  simp only [assembleEntry] at pending
  split at pending
  · exact pending
  · split at pending
    · exact Mempool.get_of_get_evict (Mempool.get_of_get_evictStale pending)
    · exact Mempool.get_of_get_evict pending

theorem assembleEntries_get {config : AssemblyConfig} {hash : TxHash} {entry : PendingEntry}
    (entries : List PendingEntry) (state : AssemblyState)
    (pending : (entries.foldl (assembleEntry env config) state).pool.get hash = some entry) :
    state.pool.get hash = some entry := by
  induction entries generalizing state with
  | nil => exact pending
  | cons item rest ih => exact assembleEntry_get (ih _ pending)

theorem NodeStep.covered {feeParams : FeeParams} {node after : NodeState}
    (step : NodeStep env feeParams node after) (covered : node.Covered feeParams) :
    after.Covered feeParams := by
  cases step with
  | admission rawBytes verifier pool result accepted =>
      refine ⟨fun hash entry pending => ?_, fun hash entry pending => ?_⟩
      · rcases tryAdmit_get accepted pending with ⟨_, keyed, _⟩ | ⟨_, before⟩
        · exact keyed
        · exact covered.keyed hash entry before
      · rcases tryAdmit_get accepted pending with ⟨rfl, _, paid⟩ | ⟨other, before⟩
        · simpa using paid
        · simpa [other] using covered.covered hash entry before
  | assemble context config assembled configured accepted =>
      obtain ⟨_, proposer, _, rfl⟩ := assembleBlock_eq_ok.mp accepted
      have before : ∀ hash entry, (executeAssembly env node.store node.pool context config
          proposer).pool.get hash = some entry → node.pool.get hash = some entry :=
        fun _ _ pending => assembleEntries_get (pendingInOrder node.pool)
          { store := node.store, pool := node.pool } pending
      exact ⟨fun hash entry pending => covered.keyed hash entry (before hash entry pending),
        fun hash entry pending => covered.covered hash entry (before hash entry pending)⟩

theorem reached_covered {feeParams : FeeParams} {genesis : StateStore} {node : NodeState}
    (run : ReflTransGen (NodeStep env feeParams) (.fresh genesis) node) : node.Covered feeParams := by
  induction run with
  | refl => exact NodeState.fresh_covered feeParams genesis
  | tail _ step ih => exact step.covered ih

theorem assembleEntries_prices (env : Env) (config : AssemblyConfig) (entries : List PendingEntry)
    (state : AssemblyState) :
    (entries.foldl (assembleEntry env config) state).store.feeMarket = state.store.feeMarket ∧
      (entries.foldl (assembleEntry env config) state).store.algRegistry =
        state.store.algRegistry := by
  induction entries generalizing state with
  | nil => exact ⟨rfl, rfl⟩
  | cons item rest ih =>
      obtain ⟨market, registry⟩ := ih (assembleEntry env config state item)
      rw [List.foldl_cons, market, registry]
      simp only [assembleEntry]
      split
      · exact ⟨rfl, rfl⟩
      · split
        case h_1 executed =>
          have terms := applyTx_sameTerms executed
          exact ⟨terms.feeMarket, terms.algRegistry⟩
        case h_2 => exact ⟨rfl, rfl⟩

structure ExecutedAfter (env : Env) (config : AssemblyConfig) (state : AssemblyState)
    (earlier : List PendingEntry) (entry : PendingEntry) (before after : StateStore)
    (execution : ExecutionResult) : Prop where
  before_eq : before = (earlier.foldl (assembleEntry env config) state).store
  executed : applyTx env before entry.tx
    (executionContext before config.feeParams entry.rawBytes.length) = .ok (after, execution)

theorem included_executed {config : AssemblyConfig} {hash : TxHash} (entries : List PendingEntry)
    (state : AssemblyState)
    (included : hash ∈ (entries.foldl (assembleEntry env config) state).includedHashes) :
    hash ∈ state.includedHashes ∨
      ∃ earlier entry later before after execution, entries = earlier ++ entry :: later ∧
        entry.txHash = hash ∧
        ExecutedAfter env config state earlier entry before after execution := by
  induction entries generalizing state with
  | nil => exact .inl included
  | cons item rest ih =>
      rcases ih _ included with here | ⟨earlier, entry, later, before, after, execution, rfl, hashed, ran⟩
      · simp only [assembleEntry] at here
        split at here
        · exact .inl here
        · split at here
          case h_1 next result executed =>
            rcases List.mem_append.mp here with already | new
            · exact .inl already
            · rw [List.mem_singleton] at new
              exact .inr ⟨[], item, rest, state.store, next, result, rfl, new.symm, rfl, executed⟩
          case h_2 => exact .inl here
      · exact .inr ⟨item :: earlier, entry, later, before, after, execution, rfl, hashed,
          ran.before_eq, ran.executed⟩

/-- In every run of a node a transaction is charged at most the fee its sender signed, and costs
the sender at most that fee, the tip and the amount the payload names, if at the start of the
block its prices are not above those it was admitted at. -/
theorem charge_capped (env : Env) (feeParams : FeeParams) (genesis : StateStore) (node : NodeState)
    (run : ReflTransGen (NodeStep env feeParams) (.fresh genesis) node)
    (context : AssemblyContext) (config : AssemblyConfig) (assembled : Assembled)
    (configured : config.feeParams = feeParams)
    (accepted : assembleBlock env node.store node.pool context config = .ok assembled)
    (hash : TxHash) (entry : PendingEntry) (pending : node.pool.get hash = some entry)
    (included : hash ∈ assembled.result.included)
    (prices : PricesWithin feeParams (node.admittedOn hash) node.store entry.tx) :
    ∃ earlier later before after execution, pendingInOrder node.pool = earlier ++ entry :: later ∧
      ExecutedAfter env config { store := node.store, pool := node.pool } earlier entry before after
        execution ∧
      execution.feeCharged ≤ entry.tx.fee ∧
      (before.balanceOf entry.tx.sender ≤ u128Max →
        before.balanceOf entry.tx.sender ≤ after.balanceOf entry.tx.sender +
          (entry.tx.fee + entry.tx.feeTip + namedAmount env entry.tx)) := by
  subst configured
  have covered := reached_covered run
  obtain ⟨_, proposer, _, rfl⟩ := assembleBlock_eq_ok.mp accepted
  rcases included_executed (pendingInOrder node.pool) { store := node.store, pool := node.pool }
    included with none | ⟨earlier, executedEntry, later, before, after, execution, order, hashed, ran⟩
  · cases none
  -- the pool keeps one entry under each hash
  have same : executedEntry = entry := by
    have listed : executedEntry ∈ pendingInOrder node.pool := order ▸ by simp
    obtain ⟨found, present⟩ := Mempool.mem_allPending.mp (mem_pendingInOrder.mp listed)
    rw [← covered.keyed found executedEntry present, hashed, pending, Option.some_inj] at present
    exact present.symm
  subst same
  obtain ⟨market, registry⟩ := assembleEntries_prices env config earlier
    { store := node.store, pool := node.pool }
  rw [← ran.before_eq] at market registry
  have current : PricesWithin config.feeParams (node.admittedOn hash) before executedEntry.tx := by
    refine ⟨?_, ?_⟩
    · rw [show before.baseFeeDynamic = node.store.baseFeeDynamic by
        simp only [StateStore.baseFeeDynamic, market]]
      exact prices.baseFee
    · rw [show before.algMinFee executedEntry.tx.sigAlgId =
          node.store.algMinFee executedEntry.tx.sigAlgId by
        simp only [StateStore.algMinFee, StateStore.algEntry, registry]]
      exact prices.algMinFee
  have capped : execution.feeCharged ≤ executedEntry.tx.fee := by
    rcases applyTx_feeCharged ran.executed with signed | actual
    · exact signed.le
    · rw [actual]
      exact (actualFee_le_admissionFee _ current).trans (covered.covered hash executedEntry pending)
  refine ⟨earlier, later, before, after, execution, order, ran, capped, fun fits => ?_⟩
  have paid := applyTx_balanceOf_le ran.executed fits
  omega

end Runs

section Deferred

def NodeState.submit (node : NodeState) (tx : Transaction) : NodeState :=
  match encodeTx sampleEnv tx with
  | .error _ => node
  | .ok raw =>
      match tryAdmit sampleEnv node.pool raw node.store (pqVerifier sampleEnv) freeParams with
      | .ok (pool, result) =>
          { node with pool, admittedOn := Function.update node.admittedOn result.txHash node.store }
      | .error _ => node

def narrowConfig : AssemblyConfig := { devnetConfig with maxBlockBytes := 300 }

def NodeState.produce (node : NodeState) : NodeState :=
  match assembleBlock sampleEnv node.store node.pool (nextContext node.store) narrowConfig with
  | .ok assembled => { node with store := assembled.store, pool := assembled.pool }
  | .error _ => node

theorem NodeState.submit_reached {start node : NodeState}
    (run : ReflTransGen (NodeStep sampleEnv freeParams) start node) (tx : Transaction) :
    ReflTransGen (NodeStep sampleEnv freeParams) start (node.submit tx) := by
  unfold NodeState.submit
  split
  · exact run
  · split
    case h_1 accepted => exact run.tail (.admission _ _ _ _ _ accepted)
    case h_2 => exact run

theorem NodeState.produce_reached {start node : NodeState}
    (run : ReflTransGen (NodeStep sampleEnv freeParams) start node) :
    ReflTransGen (NodeStep sampleEnv freeParams) start node.produce := by
  unfold NodeState.produce
  split
  case h_1 accepted => exact run.tail (.assemble _ _ _ _ rfl accepted)
  case h_2 => exact run

def reader : Address := Bytes32.fill 2

def busyGenesis : StateStore :=
  (StateStore.fromSnapshotAccounts sampleEnv
    [authorAccount, { authorAccount with address := reader }] 0 []).insertValidator sampleEnv
    (GenesisValidator.record ⟨author, [], .mlDsa65, []⟩)

def waiting : NodeState :=
  ((NodeState.fresh busyGenesis).submit (signedTx author .proofAnchor 0 20 anchorPayload)).submit
    (signedTx reader .proofAnchor 0 10 anchorPayload)

theorem waiting_reached :
    ReflTransGen (NodeStep sampleEnv freeParams) (.fresh busyGenesis) waiting :=
  NodeState.submit_reached (NodeState.submit_reached .refl _) _

def NodeState.firstCharge (node : NodeState) : Option (Nat × Nat × Nat × Nat) :=
  (pendingInOrder node.pool).head?.bind fun entry =>
    (applyTx sampleEnv node.store entry.tx
        (executionContext node.store freeParams entry.rawBytes.length)).toOption.map fun ran =>
      (entry.tx.fee, ran.2.feeCharged, node.store.balanceOf entry.tx.sender,
        ran.1.balanceOf entry.tx.sender)

theorem NodeState.firstCharge_executed {node : NodeState} {fee charged held left : Nat}
    (evaluated : node.firstCharge = some (fee, charged, held, left)) :
    ∃ entry later after execution, pendingInOrder node.pool = [] ++ entry :: later ∧
      ExecutedAfter sampleEnv narrowConfig { store := node.store, pool := node.pool } [] entry
        node.store after execution ∧
      entry.tx.fee = fee ∧ execution.feeCharged = charged ∧
      node.store.balanceOf entry.tx.sender = held ∧ after.balanceOf entry.tx.sender = left := by
  unfold NodeState.firstCharge at evaluated
  cases order : pendingInOrder node.pool with
  | nil => simp [order] at evaluated
  | cons entry later =>
      simp only [order, List.head?_cons, Option.bind_some] at evaluated
      obtain ⟨⟨after, execution⟩, ran, terms⟩ := exists_ok_of_toOption evaluated
      simp only [Prod.mk.injEq] at terms
      exact ⟨entry, later, after, execution, rfl, ⟨rfl, ran⟩, terms⟩

/-- The fee market has moved by the time the reader's transaction has its turn: it signs 10
and is charged 100. -/
theorem deferred_overcharged :
    ReflTransGen (NodeStep sampleEnv freeParams) (.fresh busyGenesis) waiting.produce ∧
      narrowConfig.feeParams = freeParams ∧
      (assembleBlock sampleEnv waiting.produce.store waiting.produce.pool
          (nextContext waiting.produce.store) narrowConfig).toOption.map
            (fun assembled => assembled.result.included) =
        some ((pendingInOrder waiting.produce.pool).map PendingEntry.txHash) ∧
      ∃ entry later after execution, pendingInOrder waiting.produce.pool = [] ++ entry :: later ∧
        ExecutedAfter sampleEnv narrowConfig
          { store := waiting.produce.store, pool := waiting.produce.pool } [] entry
          waiting.produce.store after execution ∧
        entry.tx.fee = 10 ∧ execution.feeCharged = 100 ∧
        waiting.produce.store.balanceOf entry.tx.sender = 1000000 ∧
        after.balanceOf entry.tx.sender = 999900 := by
  exact ⟨NodeState.produce_reached waiting_reached, rfl, by decide +kernel,
    NodeState.firstCharge_executed (by decide +kernel)⟩

theorem pricesWithin_of_eq {feeParams : FeeParams} (unset : feeParams.baseFeeDynamic = 0)
    {past now : StateStore} (same : past = now) (tx : Transaction) :
    PricesWithin feeParams past now tx := by
  subst same
  refine ⟨?_, le_rfl⟩
  unfold admissionFeeParams
  split
  case isTrue => exact le_rfl
  case isFalse absent =>
    have zero : past.baseFeeDynamic = feeParams.baseFeeDynamic := by omega
    rw [zero]

def NodeState.AllCurrent (node : NodeState) : Prop := ∀ hash, node.admittedOn hash = node.store

theorem NodeState.submit_allCurrent {node : NodeState} (current : node.AllCurrent)
    (tx : Transaction) : (node.submit tx).AllCurrent := by
  intro hash
  unfold NodeState.submit
  split
  · exact current hash
  · split
    case h_1 =>
      simp only [Function.update_apply]
      split
      · rfl
      · exact current hash
    case h_2 => exact current hash

theorem waiting_allCurrent : waiting.AllCurrent :=
  NodeState.submit_allCurrent (NodeState.submit_allCurrent (fun _ => rfl) _) _

theorem charge_capped_author :
    ∃ entry ∈ pendingInOrder waiting.pool, entry.tx.fee = 20 ∧
      ∃ earlier later before after execution,
        pendingInOrder waiting.pool = earlier ++ entry :: later ∧
        ExecutedAfter sampleEnv narrowConfig { store := waiting.store, pool := waiting.pool } earlier
          entry before after execution ∧
        execution.feeCharged ≤ entry.tx.fee := by
  have included : (assembleBlock sampleEnv waiting.store waiting.pool (nextContext waiting.store)
      narrowConfig).toOption.map (fun assembled => assembled.result.included) =
      some ((pendingInOrder waiting.pool).head?.toList.map PendingEntry.txHash) := by
    decide +kernel
  have signed : ((pendingInOrder waiting.pool).head?.bind fun entry =>
      (waiting.pool.get entry.txHash).map fun entry => entry.tx.fee) = some 20 := by
    decide +kernel
  obtain ⟨assembled, accepted, hashes⟩ := exists_ok_of_toOption included
  obtain ⟨first, order, found⟩ := Option.bind_eq_some_iff.mp signed
  obtain ⟨entry, pending, fee⟩ := Option.map_eq_some_iff.mp found
  have prices : PricesWithin freeParams (waiting.admittedOn first.txHash) waiting.store entry.tx :=
    pricesWithin_of_eq rfl (waiting_allCurrent first.txHash) entry.tx
  have capped := charge_capped sampleEnv freeParams busyGenesis waiting
    waiting_reached (nextContext waiting.store) narrowConfig assembled rfl accepted first.txHash entry pending (by simp [hashes, order]) prices
  obtain ⟨earlier, later, before, after, execution, position, ran, charge, _⟩ := capped
  exact ⟨entry, position ▸ by simp, fee, earlier, later, before, after, execution, position, ran, charge⟩

end Deferred

end ViperChain
