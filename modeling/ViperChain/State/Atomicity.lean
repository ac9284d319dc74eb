import ViperChain.State.Frames

/-!
A transaction as a change of the store: the nonce of the sender moves by one, and other
accounts can only be credited.
-/

namespace ViperChain

open Fallible

variable {env : Env} {store next : StateStore} {tx : Transaction}

section InPlace

def settleSenderInPlace (env : Env) (store : StateStore) (tx : Transaction) (feeCharged : Nat) :
    StateStore × Except ApplyError Unit :=
  let totalDebit := satAdd128 feeCharged tx.feeTip
  match store.getAccount tx.sender with
  | none => (store, .error .insufficientFunds)
  | some sender =>
      if sender.balance < totalDebit then (store, .error .insufficientFunds)
      else
        ((store.modifyAccount tx.sender (Account.settle totalDebit)).commitAccountMutation env tx.sender,
          .ok ())

/-- `apply_tx` on `&mut store`. Out of gas, the sender is settled in the store itself; a
payload runs on a clone, which replaces the store at the end. -/
def applyTxInPlace (env : Env) (store : StateStore) (tx : Transaction) (context : ExecutionContext) :
    StateStore × Except ApplyError ExecutionResult :=
  let scheduledGas := scheduledGasForMsgType tx.msgType
  if tx.gasLimit < scheduledGas then
    match settleSenderInPlace env store tx tx.fee with
    | (left, .error error) => (left, .error error)
    | (settled, .ok ()) => (settled, .ok ⟨.revertedOutOfGas, tx.gasLimit, tx.fee, 0⟩)
  else
    match applyPayload env store tx with
    | .error error => (store, .error error)
    | .ok working =>
        let fee := actualFee store tx context
        match settleSenderInPlace env working tx fee with
        | (_, .error error) => (store, .error error)
        | (settled, .ok ()) => (settled, .ok ⟨.applied, scheduledGas, fee, tx.fee - fee⟩)

theorem settleSenderInPlace_eq (store : StateStore) (fee : Nat) :
    settleSenderInPlace env store tx fee =
      match settleSender env store tx fee with
      | .ok settled => (settled, .ok ())
      | .error error => (store, .error error) := by
  unfold settleSenderInPlace settleSender
  cases store.getAccount tx.sender with
  | none => rfl
  | some sender =>
      by_cases covered : satAdd128 fee tx.feeTip ≤ sender.balance
      · simp [okOr, bind, Except.bind, require, covered, Nat.not_lt.mpr covered, pure, Except.pure]
      · simp [okOr, bind, Except.bind, require, covered, Nat.lt_of_not_le covered]

theorem applyTxInPlace_eq (store : StateStore) (context : ExecutionContext) :
    applyTxInPlace env store tx context =
      match applyTx env store tx context with
      | .ok (next, result) => (next, .ok result)
      | .error error => (store, .error error) := by
  simp only [applyTxInPlace, applyTx, settleSenderInPlace_eq]
  split
  · cases settleSender env store tx tx.fee <;> rfl
  · cases applyPayload env store tx with
    | error => rfl
    | ok working =>
        cases settled : settleSender env working tx (actualFee store tx context) <;>
          simp [bind, Except.bind, settled, pure, Except.pure]

theorem applyTxInPlace_of_ok {context : ExecutionContext} {result : ExecutionResult}
    (executed : applyTx env store tx context = .ok (next, result)) :
    applyTxInPlace env store tx context = (next, .ok result) := by
  rw [applyTxInPlace_eq, executed]

theorem applyTx_reverted {context : ExecutionContext} {result : ExecutionResult}
    (executed : applyTx env store tx context = .ok (next, result))
    (reverted : result.status = .revertedOutOfGas) :
    Settled env store tx (satAdd128 tx.fee tx.feeTip) next := by
  simp only [applyTx] at executed
  split at executed
  · simp only [bind_eq_ok, pure_eq_ok, Prod.mk.injEq] at executed
    obtain ⟨settled, ran, rfl, rfl⟩ := executed
    exact settleSender_settled ran
  · simp only [bind_eq_ok, pure_eq_ok, Prod.mk.injEq] at executed
    obtain ⟨_, _, _, _, _, rfl⟩ := executed
    cases reverted

theorem applyTx_applied {context : ExecutionContext} {result : ExecutionResult}
    (executed : applyTx env store tx context = .ok (next, result))
    (applied : result.status = .applied) :
    ∃ working, applyPayload env store tx = .ok working ∧
      Settled env working tx (satAdd128 result.feeCharged tx.feeTip) next := by
  simp only [applyTx] at executed
  split at executed
  · simp only [bind_eq_ok, pure_eq_ok, Prod.mk.injEq] at executed
    obtain ⟨_, _, _, rfl⟩ := executed
    cases applied
  · simp only [bind_eq_ok, pure_eq_ok, Prod.mk.injEq] at executed
    obtain ⟨working, ran, settled, paid, rfl, rfl⟩ := executed
    exact ⟨working, ran, settleSender_settled paid⟩

end InPlace

section Nonces

def StateStore.nonceOf (store : StateStore) (address : Address) : Nat :=
  (store.getAccount address).elim 0 Account.nonce

theorem nonceOf_congr (same : next.accounts = store.accounts) (address : Address) :
    next.nonceOf address = store.nonceOf address := by
  simp only [StateStore.nonceOf, StateStore.getAccount, same]

theorem nonceOf_updateAccount (store : StateStore) (address other : Address)
    {change : Account → Account} (keeps : ∀ account, (change account).nonce = account.nonce) :
    ((store.modifyAccount address change).commitAccountMutation env address).nonceOf other =
      store.nonceOf other := by
  simp only [StateStore.nonceOf, getAccount_updateAccount]
  split
  case isTrue => cases store.getAccount other <;> simp [keeps]
  case isFalse => rfl

theorem nonceOf_insertAccount {account : Account} (fresh : store.getAccount account.address = none)
    (unused : account.nonce = 0) (other : Address) :
    (store.insertAccount env account).nonceOf other = store.nonceOf other := by
  simp only [StateStore.nonceOf, getAccount_insertAccount]
  split
  case isTrue same => simp [← same, fresh, unused]
  case isFalse => rfl

theorem nonceOf_withdraw (store : StateStore) (address other : Address) (amount : Nat) :
    (withdraw env store address amount).nonceOf other = store.nonceOf other :=
  nonceOf_updateAccount store address other fun _ => rfl

theorem nonceOf_creditAccount (store : StateStore) (address other : Address) (amount : Nat) :
    (creditAccount env store address amount).nonceOf other = store.nonceOf other := by
  unfold creditAccount
  split
  case isTrue => rfl
  case isFalse =>
    split
    case isTrue => exact nonceOf_updateAccount store address other fun _ => rfl
    case isFalse unknown =>
      exact nonceOf_insertAccount (Option.not_isSome_iff_eq_none.mp unknown) rfl other

theorem nonceOf_creditRecipient (store : StateStore) (recipient other : Address) (amount : Nat) :
    (creditRecipient env store recipient amount).nonceOf other = store.nonceOf other := by
  unfold creditRecipient
  split
  case isTrue => exact nonceOf_updateAccount store recipient other fun _ => rfl
  case isFalse unknown =>
    exact nonceOf_insertAccount (Option.not_isSome_iff_eq_none.mp unknown) rfl other

theorem admitValidator_accounts (store : StateStore) (record : ValidatorRecord) (peerId : Bytes) :
    (admitValidator env store record peerId).accounts = store.accounts := by
  simp only [admitValidator]
  split
  · rfl
  · exact (setValidatorPeerId_ledger _ _ _).accounts

theorem slash_accounts (store : StateStore) (operator : Address) (amount height : Nat) :
    (slash env store operator amount height).accounts =
      (creditAccount env ((store.modifyValidator operator
        (Slashing.slashRecord amount)).commitValidatorMutation env operator)
          Slashing.treasuryAddress amount).accounts := rfl

theorem PayloadEffect.nonceOf (effect : PayloadEffect env store tx next) (address : Address) :
    next.nonceOf address = store.nonceOf address := by
  cases effect with
  | createAccount account fresh empty unused => exact nonceOf_insertAccount fresh unused address
  | updateSender change keeps => exact nonceOf_updateAccount store tx.sender address keeps.nonce
  | transfer sender recipient amount =>
      rw [nonceOf_creditRecipient, nonceOf_withdraw]
  | register sender record peerId =>
      rw [nonceOf_congr (admitValidator_accounts _ record peerId), nonceOf_withdraw]
  | bindPeer peerId =>
      exact nonceOf_congr (setValidatorPeerId_ledger store tx.sender peerId).accounts address
  | slashed record evidence cutoff kind decoded present amount =>
      rw [nonceOf_congr (slash_accounts _ _ amount _), nonceOf_creditAccount]
      exact nonceOf_congr (pruneRecentSlashesBefore_ledger store cutoff).accounts address
  | setStatus | scheduleRotation | anchor | attest | archivalKey | archive | pushAnchor | renew
  | propose | vote => exact nonceOf_congr (by rfl) address

theorem Settled.nonceOf {debit : Nat} (settled : Settled env store tx debit next)
    (address : Address) :
    next.nonceOf address = store.nonceOf address + if address = tx.sender then 1 else 0 := by
  obtain ⟨sender, present, _⟩ := settled.covered
  simp only [settled.next_eq, StateStore.nonceOf, getAccount_updateAccount]
  by_cases same : address = tx.sender
  · subst same
    simp [present, Account.settle]
  · simp [same, Ne.symm same]

theorem applyTx_nonceOf {context : ExecutionContext} {result : ExecutionResult}
    (executed : applyTx env store tx context = .ok (next, result)) (address : Address) :
    next.nonceOf address = store.nonceOf address + if address = tx.sender then 1 else 0 := by
  obtain ⟨working, settled, ran⟩ := applyTx_cases executed
  rw [settled.nonceOf]
  rcases ran with rfl | effect
  · rfl
  · rw [effect.nonceOf]

end Nonces

section Frame

structure Account.OnlyCredited (account kept : Account) : Prop where
  same : kept = { account with balance := kept.balance }
  balance : account.balance ≤ kept.balance

def CreditsOnly (store next : StateStore) (address : Address) : Prop :=
  ∀ account, store.getAccount address = some account →
    ∃ kept, next.getAccount address = some kept ∧ account.OnlyCredited kept

theorem CreditsOnly.of_getAccount {address : Address}
    (same : next.getAccount address = store.getAccount address) : CreditsOnly store next address :=
  fun account present => ⟨account, same.trans present, rfl, le_rfl⟩

theorem CreditsOnly.of_accounts (same : next.accounts = store.accounts) (address : Address) :
    CreditsOnly store next address :=
  .of_getAccount (by simp only [StateStore.getAccount, same])

theorem CreditsOnly.trans {last : StateStore} {address : Address}
    (first : CreditsOnly store next address) (second : CreditsOnly next last address) :
    CreditsOnly store last address := by
  intro account present
  obtain ⟨kept, found, credited⟩ := first account present
  obtain ⟨final, foundFinal, creditedFinal⟩ := second kept found
  refine ⟨final, foundFinal, ?_, credited.balance.trans creditedFinal.balance⟩
  rw [creditedFinal.same, credited.same]

theorem creditsOnly_insertAccount {account : Account}
    (fresh : store.getAccount account.address = none) (other : Address) :
    CreditsOnly store (store.insertAccount env account) other := by
  intro old present
  refine ⟨old, ?_, rfl, le_rfl⟩
  rw [getAccount_insertAccount, if_neg ?_, present]
  rintro rfl
  rw [fresh] at present
  cases present

theorem creditsOnly_updateAccount (store : StateStore) (address other : Address)
    {change : Account → Account}
    (credits : ∀ account, store.getAccount address = some account →
      account.OnlyCredited (change account)) :
    CreditsOnly store
      ((store.modifyAccount address change).commitAccountMutation env address) other := by
  intro account present
  rw [getAccount_updateAccount]
  by_cases same : address = other
  · subst same
    exact ⟨change account, by simp [present], credits account present⟩
  · exact ⟨account, by rw [if_neg same, present], rfl, le_rfl⟩

theorem creditsOnly_creditAccount (store : StateStore) (address other : Address) (amount : Nat)
    (fits : ∀ account, store.getAccount address = some account → account.balance ≤ u128Max) :
    CreditsOnly store (creditAccount env store address amount) other := by
  unfold creditAccount
  split
  case isTrue => exact .of_getAccount rfl
  case isFalse =>
    split
    case isTrue =>
      refine creditsOnly_updateAccount store address other fun account present => ⟨rfl, ?_⟩
      have bound := fits account present
      simp only [satAdd128]
      omega
    case isFalse unknown =>
      exact creditsOnly_insertAccount (Option.not_isSome_iff_eq_none.mp unknown) other

theorem creditsOnly_creditRecipient (store : StateStore) (recipient other : Address) (amount : Nat) :
    CreditsOnly store (creditRecipient env store recipient amount) other := by
  unfold creditRecipient
  split
  case isTrue =>
    exact creditsOnly_updateAccount store recipient other
      fun account _ => ⟨rfl, Nat.le_add_right _ _⟩
  case isFalse unknown =>
    exact creditsOnly_insertAccount (Option.not_isSome_iff_eq_none.mp unknown) other

theorem getAccount_withdraw_of_ne (store : StateStore) {address other : Address} (amount : Nat)
    (different : other ≠ address) :
    (withdraw env store address amount).getAccount other = store.getAccount other :=
  (getAccount_updateAccount store address other _).trans (if_neg different.symm)

theorem creditsOnly_slash (store : StateStore) (operator other : Address) (amount height : Nat)
    (fits : ∀ account, store.getAccount Slashing.treasuryAddress = some account →
      account.balance ≤ u128Max) :
    CreditsOnly store (slash env store operator amount height) other := by
  obtain ⟨cut, cut_eq⟩ : ∃ cut, (store.modifyValidator operator
      (Slashing.slashRecord amount)).commitValidatorMutation env operator = cut := ⟨_, rfl⟩
  have same : cut.accounts = store.accounts := by rw [← cut_eq]; rfl
  have accounts := @slash_accounts env store operator amount height
  rw [cut_eq] at accounts
  refine (CreditsOnly.of_accounts same other).trans (CreditsOnly.trans
    (creditsOnly_creditAccount cut Slashing.treasuryAddress other amount fun account found => ?_)
    (.of_accounts accounts other))
  rw [StateStore.getAccount, same] at found
  exact fits account found

theorem PayloadEffect.creditsOnly (effect : PayloadEffect env store tx next)
    (fits : ∀ address account, store.getAccount address = some account → account.balance ≤ u128Max)
    {other : Address} (different : other ≠ tx.sender) : CreditsOnly store next other := by
  cases effect with
  | createAccount account fresh => exact creditsOnly_insertAccount fresh other
  | updateSender change keeps =>
      exact .of_getAccount
        ((getAccount_updateAccount store tx.sender other change).trans (if_neg different.symm))
  | transfer sender recipient amount =>
      exact (CreditsOnly.of_getAccount (getAccount_withdraw_of_ne store amount different)).trans
        (creditsOnly_creditRecipient _ recipient other amount)
  | register sender record peerId =>
      exact (CreditsOnly.of_getAccount
        (getAccount_withdraw_of_ne store record.selfBond different)).trans
        (.of_accounts (admitValidator_accounts _ record peerId) other)
  | bindPeer peerId =>
      exact .of_accounts (setValidatorPeerId_ledger store tx.sender peerId).accounts other
  | slashed record evidence cutoff kind decoded present amount =>
      have pruned := (@pruneRecentSlashesBefore_ledger env store cutoff).accounts
      refine (CreditsOnly.of_accounts pruned other).trans
        (creditsOnly_slash _ _ other amount _ fun account found => ?_)
      rw [StateStore.getAccount, pruned] at found
      exact fits Slashing.treasuryAddress account found
  | setStatus | scheduleRotation | anchor | attest | archivalKey | archive | pushAnchor | renew
  | propose | vote => exact .of_accounts (by rfl) other

structure OnlySenderDebited (store : StateStore) (tx : Transaction) (next : StateStore) : Prop where
  sender : ∃ account, store.getAccount tx.sender = some account ∧
    tx.fee + tx.feeTip ≤ account.balance ∧
    next.getAccount tx.sender = some
      { account with
        balance := account.balance - (tx.fee + tx.feeTip)
        nonce := account.nonce + 1 }
  others : ∀ other, other ≠ tx.sender → next.getAccount other = store.getAccount other
  rest : { next with accounts := store.accounts } = store

theorem Settled.onlySenderDebited (fee : tx.fee < 2 ^ 64) (tip : tx.feeTip < 2 ^ 64)
    (settled : Settled env store tx (satAdd128 tx.fee tx.feeTip) next) :
    OnlySenderDebited store tx next := by
  have debit : satAdd128 tx.fee tx.feeTip = tx.fee + tx.feeTip := by
    simp only [satAdd128, u128Max]
    omega
  rw [debit] at settled
  obtain ⟨account, present, covered⟩ := settled.covered
  obtain rfl := settled.next_eq
  constructor
  case sender =>
    refine ⟨account, present, covered, ?_⟩
    rw [getAccount_updateAccount, if_pos rfl, present]
    rfl
  case others =>
    intro other different
    rw [getAccount_updateAccount, if_neg different.symm]
  case rest => rfl

/-- A transaction is atomic and touches only its sender's assets. The ranges are those of
the source's `u128` balances and `u64` fees. -/
theorem applyTx_atomic (env : Env) (store : StateStore) (tx : Transaction)
    (context : ExecutionContext) (coherent : store.Coherent env)
    (balances : ∀ address account, store.getAccount address = some account →
      account.balance < 2 ^ 128)
    (fee : tx.fee < 2 ^ 64) (tip : tx.feeTip < 2 ^ 64) :
    (∀ error, (applyTxInPlace env store tx context).2 = .error error →
      (applyTxInPlace env store tx context).1 = store) ∧
    ∀ next result, applyTxInPlace env store tx context = (next, .ok result) →
      next.Coherent env ∧
      (result.status = .revertedOutOfGas → OnlySenderDebited store tx next) ∧
      (result.status = .applied →
        next.nonceOf tx.sender = store.nonceOf tx.sender + 1 ∧
        ∀ other, other ≠ tx.sender → CreditsOnly store next other) := by
  rw [applyTxInPlace_eq]
  cases executed : applyTx env store tx context with
  | error error => exact ⟨fun _ _ => rfl, fun next result same => by cases same⟩
  | ok outcome =>
      obtain ⟨after, result⟩ := outcome
      refine ⟨fun error same => (by cases same), ?_⟩
      rintro next result ⟨⟩
      refine ⟨applyTx_coherent coherent executed, fun reverted => ?_, fun applied => ⟨?_, ?_⟩⟩
      · exact (applyTx_reverted executed reverted).onlySenderDebited fee tip
      · rw [applyTx_nonceOf executed, if_pos rfl]
      · intro other different
        obtain ⟨working, ran, settled⟩ := applyTx_applied executed applied
        have fits : ∀ address account, store.getAccount address = some account →
            account.balance ≤ u128Max := by
          intro address account present
          have bound := balances address account present
          simp only [u128Max]
          omega
        refine ((applyPayload_effect ran).creditsOnly fits different).trans (.of_getAccount ?_)
        rw [settled.next_eq, getAccount_updateAccount, if_neg different.symm]

def pairOfValidators (env : Env) : StateStore :=
  let record (operator : Address) : ValidatorRecord :=
    ⟨operator, [], .mlDsa65, [], 0, .active, 0, false⟩
  ((fundedStore env).insertValidator env (record payer)).insertValidator env
    (record (Bytes32.fill 8))

def exitTx : Transaction := { gaslessTx 0 with msgType := .validatorExit, gasLimit := 100 }

theorem pairOfValidators_coherent (env : Env) : (pairOfValidators env).Coherent env :=
  ((distributeBlockFees_coherent (StateStore.coherent_new env) payer 500 [] ⟨5000⟩).insertValidator
    _).insertValidator _

theorem pairOfValidators_balance (address : Address) (account : Account)
    (found : (pairOfValidators constantEnv).getAccount address = some account) :
    account.balance < 2 ^ 128 := by
  have checked : ((pairOfValidators constantEnv).accounts.values.all
      fun account => account.balance < 2 ^ 128) = true := by decide +kernel
  have stored := (pairOfValidators constantEnv).accounts.mem_values.mpr ⟨address, found⟩
  simpa using List.all_eq_true.mp checked account stored

theorem applyTx_atomic_exit :
    (∃ next result, applyTxInPlace constantEnv (pairOfValidators constantEnv) exitTx
        ⟨0, freeParams⟩ = (next, .ok result) ∧ result.status = .applied ∧
      next.nonceOf payer = (pairOfValidators constantEnv).nonceOf payer + 1) ∧
    ∃ next result, applyTxInPlace constantEnv (pairOfValidators constantEnv)
        { exitTx with gasLimit := 0 } ⟨0, freeParams⟩ = (next, .ok result) ∧
      OnlySenderDebited (pairOfValidators constantEnv) { exitTx with gasLimit := 0 } next := by
  have ran : (applyTx constantEnv (pairOfValidators constantEnv) exitTx
      ⟨0, freeParams⟩).toOption.map (fun outcome => outcome.2.status) = some .applied := by
    decide +kernel
  have failed : (applyTx constantEnv (pairOfValidators constantEnv) { exitTx with gasLimit := 0 }
      ⟨0, freeParams⟩).toOption.map (fun outcome => outcome.2.status) = some .revertedOutOfGas := by
    decide +kernel
  obtain ⟨⟨next, result⟩, executed, applied⟩ := exists_ok_of_toOption ran
  obtain ⟨⟨debited, refused⟩, charged, reverted⟩ := exists_ok_of_toOption failed
  have exits := applyTx_atomic constantEnv (pairOfValidators constantEnv) exitTx ⟨0, freeParams⟩
    (pairOfValidators_coherent _) pairOfValidators_balance (by decide) (by decide)
  have stays := applyTx_atomic constantEnv (pairOfValidators constantEnv)
    { exitTx with gasLimit := 0 } ⟨0, freeParams⟩
    (pairOfValidators_coherent _) pairOfValidators_balance (by decide) (by decide)
  have exited := applyTxInPlace_of_ok executed
  have stayed := applyTxInPlace_of_ok charged
  exact ⟨⟨next, result, exited, applied, ((exits.2 next result exited).2.2 applied).1⟩,
    debited, refused, stayed, (stays.2 debited refused stayed).2.1 reverted⟩

end Frame

end ViperChain
