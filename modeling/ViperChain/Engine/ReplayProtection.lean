import ViperChain.Engine.ProducerPool

/-!
Replay protection. `apply_tx` does not compare nonces; what keeps a producing node from
executing a transaction twice is its pool.
-/

namespace ViperChain

variable {env : Env} {store next : StateStore}

section Execution

variable {tx : Transaction} {context : ExecutionContext} {result : ExecutionResult}

theorem applyTx_senderNonce (executed : applyTx env store tx context = .ok (next, result))
    {nonce : Nat} (before : HasNonce store tx.sender nonce) :
    HasNonce next tx.sender (nonce + 1) := by
  obtain ⟨working, settled, ran⟩ := applyTx_cases executed
  have paid : HasNonce working tx.sender nonce := by
    rcases ran with rfl | effect
    · exact before
    · exact effect.noncesStay tx.sender nonce before
  obtain ⟨account, present, rfl⟩ := Option.map_eq_some_iff.mp paid
  rw [HasNonce, settled.next_eq, getAccount_updateAccount, if_pos rfl, present]
  rfl

theorem applyTx_nonce_le (executed : applyTx env store tx context = .ok (next, result))
    {address : Address} {nonce : Nat} (before : HasNonce store address nonce) :
    ∃ later ≥ nonce, HasNonce next address later := by
  by_cases own : address = tx.sender
  · subst own
    exact ⟨nonce + 1, Nat.le_succ nonce, applyTx_senderNonce executed before⟩
  · exact ⟨nonce, le_rfl, applyTx_hasNonce executed own before⟩

/-- Transactions that are not executed again: the nonces of a sender go up, and its account
has moved past all of them. -/
structure Spent (store : StateStore) (done : List Transaction) : Prop where
  ordered : done.Pairwise fun earlier later =>
    earlier.sender = later.sender → earlier.nonce < later.nonce
  passed : ∀ tx ∈ done, ∃ nonce > tx.nonce, HasNonce store tx.sender nonce

theorem Spent.stay {done : List Transaction} (spent : Spent store done)
    (stays : NoncesStay store next) : Spent next done where
  ordered := spent.ordered
  passed tx member := by
    obtain ⟨nonce, above, held⟩ := spent.passed tx member
    exact ⟨nonce, above, stays _ _ held⟩

theorem Spent.execute {done : List Transaction} (spent : Spent store done)
    (executed : applyTx env store tx context = .ok (next, result))
    (current : HasNonce store tx.sender tx.nonce) : Spent next (done ++ [tx]) where
  ordered := by
    refine List.pairwise_append.mpr ⟨spent.ordered, List.pairwise_singleton _ _, ?_⟩
    intro earlier isDone later isLast same
    obtain rfl := List.mem_singleton.mp isLast
    obtain ⟨nonce, above, held⟩ := spent.passed earlier isDone
    rw [HasNonce, same] at held
    rw [HasNonce, held, Option.some_inj] at current
    exact current ▸ above
  passed := by
    intro other member
    rcases List.mem_append.mp member with isDone | isLast
    · obtain ⟨nonce, above, held⟩ := spent.passed other isDone
      obtain ⟨later, upper, after⟩ := applyTx_nonce_le executed held
      exact ⟨later, lt_of_lt_of_le above upper, after⟩
    · obtain rfl := List.mem_singleton.mp isLast
      exact ⟨_, Nat.lt_succ_self _, applyTx_senderNonce executed current⟩

end Execution

section Block

variable {config : AssemblyConfig}

theorem assembleEntry_executes (state : AssemblyState) (entry : PendingEntry) :
    ((assembleEntry env config state entry).store = state.store ∧
      (assembleEntry env config state entry).includedTransactions = state.includedTransactions) ∨
    ∃ context result, applyTx env state.store entry.tx context =
        .ok ((assembleEntry env config state entry).store, result) ∧
      (assembleEntry env config state entry).includedTransactions =
        state.includedTransactions ++ [entry.tx] := by
  simp only [assembleEntry]
  split
  · exact .inl ⟨rfl, rfl⟩
  · split
    case h_1 after execution executed => exact .inr ⟨_, execution, executed, rfl⟩
    case h_2 => exact .inl ⟨rfl, rfl⟩

theorem assembleEntries_spent (done : List Transaction) (entries : List PendingEntry) :
    ∀ state : AssemblyState, (entries.Pairwise fun left right => left.tx.sender ≠ right.tx.sender) →
      (∀ entry ∈ entries, HasNonce state.store entry.tx.sender entry.tx.nonce) →
      Spent state.store (done ++ state.includedTransactions) →
      Spent (entries.foldl (assembleEntry env config) state).store
        (done ++ (entries.foldl (assembleEntry env config) state).includedTransactions) := by
  induction entries with
  | nil => exact fun _ _ _ spent => spent
  | cons entry entries ih =>
      intro state distinct current spent
      obtain ⟨other, distinct⟩ := List.pairwise_cons.mp distinct
      have waiting : ∀ later ∈ entries, HasNonce state.store later.tx.sender later.tx.nonce :=
        fun later member => current later (List.mem_cons_of_mem _ member)
      rw [List.foldl_cons]
      rcases @assembleEntry_executes env config state entry with
        ⟨store, included⟩ | ⟨context, result, executed, included⟩
      · exact ih _ distinct (store ▸ waiting) (by rw [store, included]; exact spent)
      · refine ih _ distinct (fun later member => ?_) ?_
        · exact applyTx_hasNonce executed (other later member).symm (waiting later member)
        · rw [included, ← List.append_assoc]
          exact spent.execute executed (current entry List.mem_cons_self)

theorem Mempool.Current.senders_distinct {pool : Mempool} (current : pool.Current store) :
    (pendingInOrder pool).Pairwise fun left right => left.tx.sender ≠ right.tx.sender := by
  have apart : pool.allPending.Pairwise fun left right => left.tx.sender ≠ right.tx.sender := by
    refine List.pairwise_map.mpr (Std.ExtTreeMap.distinct_keys_toList.imp_of_mem ?_)
    intro left right isLeft isRight different same
    rw [Std.ExtTreeMap.mem_toList_iff_getElem?_eq_some] at isLeft isRight
    have equal := current.sender_unique (Mempool.mem_allPending.mpr ⟨_, isLeft⟩)
      (Mempool.mem_allPending.mpr ⟨_, isRight⟩) same
    refine different (compare_eq_iff_eq.mpr ?_)
    rw [← current.keyed _ _ isLeft, equal, current.keyed _ _ isRight]
  exact ((List.perm_insertionSort _ _).pairwise_iff fun different => different.symm).mpr apart

theorem assembleBlock_spent {pool : Mempool} {context : AssemblyContext} {assembled : Assembled}
    {done : List Transaction} (current : pool.Current store) (spent : Spent store done)
    (accepted : assembleBlock env store pool context config = .ok assembled) :
    Spent assembled.store (done ++ assembled.result.includedTransactions) := by
  obtain ⟨_, proposer, _, rfl⟩ := assembleBlock_eq_ok.mp accepted
  have executed := @assembleEntries_spent env config done (pendingInOrder pool) { store, pool }
    current.senders_distinct (fun entry member => by
      obtain ⟨hash, found⟩ := Mempool.mem_allPending.mp (mem_pendingInOrder.mp member)
      exact current.nonces hash entry found) (by simpa using spent)
  exact executed.stay (finishAssembly_noncesStay _ proposer context.height _ _ config)

end Block

namespace Producer

/-- The transactions a call includes in a block. -/
def includedBy (env : Env) (node : Producer) : ProducerCall → List Transaction
  | .tryAdmit _ _ _ => []
  | .assembleBlock context config =>
      match assembleBlock env node.store node.pool context config with
      | .error _ => []
      | .ok assembled => assembled.result.includedTransactions

/-- The transactions of all blocks of a run, in the order of their execution. -/
def history (env : Env) (node : Producer) : List ProducerCall → List Transaction
  | [] => []
  | call :: calls => node.includedBy env call ++ (node.perform env call).history env calls

variable {vcPerBlockCap : Nat}

theorem includedBy_spent {node : Producer} {done : List Transaction}
    (sound : node.Sound vcPerBlockCap) (spent : Spent node.store done) (call : ProducerCall) :
    Spent (node.perform env call).store (done ++ node.includedBy env call) := by
  cases call with
  | tryAdmit rawBytes verifier feeParams =>
      simp only [includedBy, List.append_nil, perform]
      split <;> exact spent
  | assembleBlock context config =>
      cases accepted : assembleBlock env node.store node.pool context config with
      | error error => simpa only [includedBy, perform, accepted, List.append_nil] using spent
      | ok assembled =>
          simp only [includedBy, perform, accepted]
          exact assembleBlock_spent sound.current spent accepted

theorem history_spent (calls : List ProducerCall) :
    ∀ (node : Producer) (done : List Transaction), node.Sound vcPerBlockCap →
      Spent node.store done →
      Spent (calls.foldl (perform env) node).store (done ++ node.history env calls) := by
  induction calls with
  | nil => exact fun node done _ spent => by simpa [history] using spent
  | cons call calls ih =>
      intro node done sound spent
      have later := ih (node.perform env call) _ (sound.perform call)
        (includedBy_spent sound spent call)
      rwa [List.append_assoc] at later

end Producer

/-- In every run of admissions and productions the transactions of a sender are executed
with rising nonces, so no transaction is executed twice. -/
theorem executed_once (env : Env) (store : StateStore) (vcPerBlockCap : Nat)
    (calls : List ProducerCall) :
    ((Producer.start store vcPerBlockCap).history env calls).Pairwise fun earlier later =>
      earlier.sender = later.sender → earlier.nonce < later.nonce := by
  have spent := @Producer.history_spent env vcPerBlockCap calls
    (Producer.start store vcPerBlockCap) [] (Producer.start_sound store vcPerBlockCap)
    ⟨.nil, by simp⟩
  simpa using spent.ordered

end ViperChain
