import ViperChain.State.Frames

/-!
The token supply: all account balances and the bonds of the validators that have not
exited.
-/

namespace ViperChain

open CachedTables CachedTable

def ValidatorRecord.bonded (record : ValidatorRecord) : Nat :=
  if record.status = .exited then 0 else record.selfBond

def StateStore.supply (store : StateStore) : Nat :=
  store.accounts.total Account.balance + store.validators.total ValidatorRecord.bonded

def StateStore.balances (store : StateStore) : Nat := store.accounts.total Account.balance

theorem StateStore.supply_eq (store : StateStore) :
    store.supply = store.balances + store.validators.total ValidatorRecord.bonded := rfl

structure Solvent (env : Env) (store : StateStore) : Prop where
  coherent : store.Coherent env
  operators : ∀ operator record, store.getValidator operator = some record → record.bonded ≠ 0 →
    store.accounts.contains operator
  burnRate : store.feeMarket.burnRateBps ≤ 10000
  proposals : ∀ id proposal, store.getPendingProposal id = some proposal →
    proposal.effect.BurnBounded

def StateStore.isGhost (store : StateStore) (operator : Address) : Bool :=
  match store.getValidator operator with
  | some record => record.status = .exited && record.selfBond > 0
  | none => false

variable {env : Env} {store next : StateStore} {tx : Transaction}

theorem SameLedger.supply (same : SameLedger store next) : next.supply = store.supply := by
  simp only [StateStore.supply, same.accounts, same.validators]

theorem AccountsGrow.isGhost (grows : AccountsGrow store next) (operator : Address) :
    next.isGhost operator = store.isGhost operator := by
  simp only [StateStore.isGhost, grows.getValidator]

theorem Solvent.grow (solvent : Solvent env store) (grows : AccountsGrow store next)
    (coherent : next.Coherent env) : Solvent env next where
  coherent
  operators := by
    intro operator record present owed
    rw [grows.getValidator] at present
    exact grows.contains (solvent.operators operator record present owed)
  burnRate := grows.feeMarket ▸ solvent.burnRate
  proposals := by
    simp only [StateStore.getPendingProposal, grows.proposals]
    exact solvent.proposals

section Arithmetic

theorem satAdd128_eq {left right : Nat} (bound : left + right ≤ u128Max) :
    satAdd128 left right = left + right :=
  Nat.min_eq_left bound

theorem satMul128_le (left right : Nat) : satMul128 left right ≤ left * right :=
  Nat.min_le_left _ _

theorem share_le {amount bps : Nat} (bound : bps ≤ 10000) : satMul128 amount bps / 10000 ≤ amount := by
  calc satMul128 amount bps / 10000
      ≤ amount * bps / 10000 := Nat.div_le_div_right (satMul128_le amount bps)
    _ ≤ amount * 10000 / 10000 := Nat.div_le_div_right (Nat.mul_le_mul_left amount bound)
    _ = amount := Nat.mul_div_cancel amount (by decide)

theorem slashAmount_le (store : StateStore) (selfBond height : Nat) :
    Slashing.slashAmount store selfBond height ≤ selfBond := by
  refine share_le ?_
  unfold Slashing.correlationAdjustedSlashFractionBps
  split
  · decide
  · exact Nat.min_le_right _ _

end Arithmetic

section Accounts

theorem balance_le_balances {address : Address} {account : Account}
    (present : store.getAccount address = some account) : account.balance ≤ store.balances := by
  have held := store.accounts.weightAt_le_total Account.balance address
  simp only [weightAt, StateStore.getAccount] at held present
  simp only [present, Option.map_some, Option.getD_some] at held
  exact held

theorem balance_le_supply {address : Address} {account : Account}
    (present : store.getAccount address = some account) : account.balance ≤ store.supply :=
  Nat.le_add_right_of_le (balance_le_balances present)

theorem updateAccount_balances (env : Env) {address : Address} {account : Account}
    (present : store.getAccount address = some account) (change : Account → Account) :
    ((store.modifyAccount address change).commitAccountMutation env address).balances +
      account.balance = store.balances + (change account).balance := by
  have moved := store.accounts.total_modify Account.balance present change
  simp only [StateStore.balances, StateStore.modifyAccount, StateStore.commitAccountMutation,
    total_commit]
  omega

theorem updateAccount_supply (env : Env) {address : Address} {account : Account}
    (present : store.getAccount address = some account) (change : Account → Account) :
    ((store.modifyAccount address change).commitAccountMutation env address).supply +
      account.balance = store.supply + (change account).balance := by
  have moved := updateAccount_balances env present change
  have bonds : ((store.modifyAccount address change).commitAccountMutation env address).validators =
      store.validators := rfl
  rw [StateStore.supply_eq, StateStore.supply_eq, bonds]
  omega

theorem insertAccount_balances (account : Account)
    (fresh : store.getAccount account.address = none) :
    (store.insertAccount env account).balances = store.balances + account.balance := by
  have inserted := store.accounts.total_insert Account.balance
    (fun _ => computeAccountLeafHash env) account.address account
  simp only [StateStore.getAccount] at fresh
  simp only [weightAt, fresh, Option.map_none, Option.getD_none] at inserted
  simp only [StateStore.balances, StateStore.insertAccount]
  omega

theorem insertAccount_supply (account : Account)
    (fresh : store.getAccount account.address = none) :
    (store.insertAccount env account).supply = store.supply + account.balance := by
  have inserted := @insertAccount_balances env store account fresh
  have bonds : (store.insertAccount env account).validators = store.validators := rfl
  rw [StateStore.supply_eq, StateStore.supply_eq, bonds]
  omega

theorem withdraw_supply {address : Address} {account : Account} {amount : Nat}
    (present : store.getAccount address = some account) (covered : amount ≤ account.balance) :
    (withdraw env store address amount).supply + amount = store.supply := by
  have moved := updateAccount_supply env present
    fun account => { account with balance := account.balance - amount }
  simp only [withdraw] at *
  omega

theorem creditRecipient_supply (recipient : Address) (amount : Nat) :
    (creditRecipient env store recipient amount).supply = store.supply + amount := by
  unfold creditRecipient
  split
  case isTrue known =>
    obtain ⟨account, present⟩ := Option.isSome_iff_exists.mp known
    have moved := updateAccount_supply env present
      fun account => { account with balance := account.balance + amount }
    simp only at moved
    omega
  case isFalse unknown =>
    exact insertAccount_supply _ (Option.not_isSome_iff_eq_none.mp unknown)

theorem creditAccount_balances (env : Env) (store : StateStore) (address : Address) (amount : Nat)
    (bound : store.balances + amount ≤ u128Max) :
    (creditAccount env store address amount).balances = store.balances + amount := by
  unfold creditAccount
  split
  case isTrue nothing => rw [nothing, Nat.add_zero]
  case isFalse =>
    split
    case isTrue known =>
      obtain ⟨account, present⟩ := Option.isSome_iff_exists.mp known
      have held := balance_le_balances present
      have moved := updateAccount_balances env present
        fun account => { account with balance := satAdd128 account.balance amount }
      simp only at moved
      rw [satAdd128_eq (by omega)] at moved
      omega
    case isFalse unknown =>
      exact insertAccount_balances _ (Option.not_isSome_iff_eq_none.mp unknown)

theorem creditAccount_supply (env : Env) (store : StateStore) (address : Address) (amount : Nat)
    (bound : store.supply + amount ≤ u128Max) :
    (creditAccount env store address amount).supply = store.supply + amount := by
  have fits : store.balances + amount ≤ u128Max := by
    rw [StateStore.supply_eq] at bound
    omega
  have credited := creditAccount_balances env store address amount fits
  rw [StateStore.supply_eq, StateStore.supply_eq, credited,
    (creditAccount_grows store address amount).validators]
  omega

theorem Settled.supply {debit : Nat} (settled : Settled env store tx debit next) :
    next.supply + debit = store.supply := by
  obtain ⟨⟨sender, present, covered⟩, rfl⟩ := settled
  have moved := updateAccount_supply env present (Account.settle debit)
  simp only [Account.settle] at moved ⊢
  omega

end Accounts

section Validators

theorem Solvent.updateValidator (solvent : Solvent env store) (operator : Address)
    (change : ValidatorRecord → ValidatorRecord)
    (keeps : ∀ record, (change record).operator = record.operator)
    (owed : ∀ record, store.getValidator operator = some record → (change record).bonded ≠ 0 →
      record.bonded ≠ 0) :
    Solvent env ((store.modifyValidator operator change).commitValidatorMutation env operator) where
  coherent := solvent.coherent.updateValidator operator change keeps
  operators := by
    intro other record present bonded
    simp only [StateStore.getValidator, StateStore.modifyValidator,
      StateStore.commitValidatorMutation, get?_commit, get?_modify] at present
    split at present
    case isTrue same =>
      obtain ⟨old, found, rfl⟩ := Option.map_eq_some_iff.mp present
      subst same
      exact solvent.operators operator old found (owed old found bonded)
    case isFalse => exact solvent.operators other record present bonded
  burnRate := solvent.burnRate
  proposals := solvent.proposals

theorem Solvent.insertValidator (solvent : Solvent env store) (record : ValidatorRecord)
    (known : store.accounts.contains record.operator) :
    Solvent env (store.insertValidator env record) where
  coherent := solvent.coherent.insertValidator record
  operators := by
    intro operator stored present bonded
    simp only [StateStore.getValidator, StateStore.insertValidator, get?_insert] at present
    split at present
    case isTrue same => exact same ▸ known
    case isFalse => exact solvent.operators operator stored present bonded
  burnRate := solvent.burnRate
  proposals := solvent.proposals

theorem bonded_of_not_isGhost {operator : Address} {record : ValidatorRecord}
    (present : store.getValidator operator = some record) (owed : store.isGhost operator = false) :
    record.bonded = record.selfBond := by
  simp only [StateStore.isGhost, present, Bool.and_eq_false_iff, decide_eq_false_iff_not] at owed
  unfold ValidatorRecord.bonded
  split
  case isTrue gone =>
    rcases owed with standing | empty
    · exact absurd gone standing
    · omega
  case isFalse => rfl

theorem Solvent.slash (solvent : Solvent env store) (operator : Address) (amount height : Nat)
    (owed : store.isGhost operator = false) :
    Solvent env (slash env store operator amount height) := by
  have cut := solvent.updateValidator operator (Slashing.slashRecord amount) (fun _ => rfl) <| by
    intro record present bonded
    have left : (Slashing.slashRecord amount record).bonded = record.selfBond - amount := by
      simp [Slashing.slashRecord, ValidatorRecord.bonded]
    rw [bonded_of_not_isGhost present owed]
    omega
  have credited := cut.grow (creditAccount_grows _ Slashing.treasuryAddress amount)
    (creditAccount_coherent cut.coherent _ _)
  exact credited.grow (SameLedger.grows ⟨rfl, rfl, rfl, rfl⟩) (credited.coherent.recordRecentSlash _)

theorem isGhost_updateValidator (operator : Address) {other : Address}
    (change : ValidatorRecord → ValidatorRecord)
    (stays : ∀ record, (change record).status ≠ .exited)
    (ghost : ((store.modifyValidator operator change).commitValidatorMutation env
      operator).isGhost other = true) : store.isGhost other = true := by
  simp only [StateStore.isGhost, StateStore.getValidator, StateStore.modifyValidator,
    StateStore.commitValidatorMutation, get?_commit, get?_modify] at ghost ⊢
  split at ghost
  case h_2 => cases ghost
  case h_1 record found =>
    split at found
    · obtain ⟨old, _, rfl⟩ := Option.map_eq_some_iff.mp found
      simp [stays] at ghost
    · rw [found]
      exact ghost

theorem isGhost_slash {operator other : Address} {amount height : Nat}
    (ghost : (slash env store operator amount height).isGhost other = true) :
    store.isGhost other = true := by
  have before : ((store.modifyValidator operator (Slashing.slashRecord amount)).commitValidatorMutation
      env operator).isGhost other = true := by
    rwa [← (creditAccount_grows _ Slashing.treasuryAddress amount).isGhost]
  exact isGhost_updateValidator operator _ (fun _ => by simp [Slashing.slashRecord]) before

theorem isGhost_insertValidator {record : ValidatorRecord} {other : Address}
    (standing : record.status ≠ .exited)
    (ghost : (store.insertValidator env record).isGhost other = true) :
    store.isGhost other = true := by
  simp only [StateStore.isGhost, StateStore.getValidator, StateStore.insertValidator, get?_insert]
    at ghost ⊢
  split at ghost
  case h_2 => cases ghost
  case h_1 stored found =>
    split at found
    · cases found
      simp [standing] at ghost
    · rw [found]
      exact ghost

theorem updateValidator_supply (env : Env) {operator : Address} {record : ValidatorRecord}
    (present : store.getValidator operator = some record)
    (change : ValidatorRecord → ValidatorRecord) :
    ((store.modifyValidator operator change).commitValidatorMutation env operator).supply +
      record.bonded = store.supply + (change record).bonded := by
  have moved := store.validators.total_modify ValidatorRecord.bonded present change
  simp only [StateStore.supply, StateStore.modifyValidator, StateStore.commitValidatorMutation,
    total_commit]
  omega

theorem admitValidator_supply (record : ValidatorRecord) (peerId : Bytes)
    (standing : record.status ≠ .exited)
    (available : (store.getValidator record.operator).all isExited = true) :
    (admitValidator env store record peerId).supply = store.supply + record.selfBond := by
  have inserted := store.validators.total_insert ValidatorRecord.bonded
    (fun _ => computeValidatorLeafHash env) record.operator record
  have vacant : store.validators.weightAt ValidatorRecord.bonded record.operator = 0 := by
    unfold weightAt
    simp only [StateStore.getValidator] at available
    cases found : store.validators.get? record.operator with
    | none => rfl
    | some old =>
        rw [found] at available
        simp only [Option.all_some, isExited, decide_eq_true_eq] at available
        simp [ValidatorRecord.bonded, available]
  have counted : record.bonded = record.selfBond := if_neg standing
  have registered : (store.insertValidator env record).supply = store.supply + record.selfBond := by
    simp only [StateStore.supply, StateStore.insertValidator]
    omega
  simp only [admitValidator]
  split
  · exact registered
  · rw [(setValidatorPeerId_ledger _ _ _).supply, registered]

theorem setValidatorStatus_supply {operator : Address} {record : ValidatorRecord}
    {status : ValidatorStatus} (present : store.getValidator operator = some record)
    (standing : record.status ≠ .exited) (stays : status ≠ .exited) :
    (setValidatorStatus env store operator status).supply = store.supply := by
  have moved := updateValidator_supply env present fun record => { record with status }
  simp only [ValidatorRecord.bonded, standing, stays, if_false] at moved
  simp only [setValidatorStatus]
  omega

theorem slash_supply {operator : Address} {record : ValidatorRecord} {amount height : Nat}
    (present : store.getValidator operator = some record) (amount_le : amount ≤ record.selfBond)
    (owed : store.isGhost operator = false) (bound : store.supply ≤ u128Max) :
    (slash env store operator amount height).supply = store.supply := by
  have moved := updateValidator_supply env present (Slashing.slashRecord amount)
  have counted := bonded_of_not_isGhost present owed
  have left : (Slashing.slashRecord amount record).bonded = record.selfBond - amount := by
    simp [Slashing.slashRecord, ValidatorRecord.bonded]
  rw [counted, left] at moved
  have cut : ((store.modifyValidator operator (Slashing.slashRecord amount)).commitValidatorMutation
      env operator).supply + amount = store.supply := by omega
  exact (creditAccount_supply env _ Slashing.treasuryAddress amount (cut ▸ bound)).trans cut

end Validators

section Transactions

def namesGhost (env : Env) (store : StateStore) (tx : Transaction) : Bool :=
  tx.msgType = .submitEquivocationEvidence &&
    match Slashing.decodeEquivocationEvidence env tx.payload with
    | .ok evidence => store.isGhost evidence.validatorAddress
    | .error _ => false

def Spared (env : Env) (store : StateStore) (tx : Transaction) : Prop :=
  env.tokenEconomics = true → namesGhost env store tx = false

theorem PayloadEffect.supply (effect : PayloadEffect env store tx next)
    (spared : Spared env store tx) (bound : store.supply ≤ u128Max) :
    next.supply = store.supply := by
  cases effect with
  | createAccount account fresh empty =>
      rw [insertAccount_supply account fresh, empty, Nat.add_zero]
  | updateSender change keeps =>
      have kept := store.accounts.total_modify_of_eq Account.balance tx.sender change
        fun account _ => keeps.balance account
      simp only [StateStore.supply, StateStore.modifyAccount, StateStore.commitAccountMutation,
        total_commit, kept]
  | transfer sender recipient amount present covered =>
      rw [creditRecipient_supply, withdraw_supply present covered]
  | register sender record peerId present covered operator standing available =>
      rw [admitValidator_supply record peerId standing (operator ▸ available),
        withdraw_supply present covered]
  | setStatus record status present standing stays =>
      exact setValidatorStatus_supply present standing stays
  | bindPeer peerId => exact (setValidatorPeerId_ledger store tx.sender peerId).supply
  | slashed record evidence cutoff kind decoded present amount amount_eq economics =>
      have pruned : SameLedger store (store.pruneRecentSlashesBefore env cutoff) :=
        pruneRecentSlashesBefore_ledger store cutoff
      have owed := spared economics
      simp only [namesGhost, kind, decoded, decide_true, Bool.true_and] at owed
      have fits : amount ≤ record.selfBond := amount_eq ▸ slashAmount_le _ _ _
      rw [← pruned.grows.getValidator] at present
      rw [← pruned.grows.isGhost] at owed
      rw [← pruned.supply] at bound ⊢
      exact slash_supply present fits owed bound
  | scheduleRotation | anchor | attest | archivalKey | archive | pushAnchor | renew | propose
  | vote => rfl

theorem PayloadEffect.solvent (effect : PayloadEffect env store tx next)
    (spared : Spared env store tx) (solvent : Solvent env store) : Solvent env next := by
  have coherent := effect.coherent solvent.coherent
  cases effect with
  | createAccount account fresh => exact solvent.grow (insertAccount_grows account fresh) coherent
  | updateSender change keeps =>
      exact solvent.grow (updateAccount_grows store tx.sender keeps.nonce) coherent
  | transfer sender recipient amount =>
      exact solvent.grow ((withdraw_grows store tx.sender amount).trans
        (creditRecipient_grows _ recipient amount)) coherent
  | register sender record peerId present covered operator =>
      have withdrawn : Solvent env (withdraw env store tx.sender record.selfBond) :=
        solvent.grow (withdraw_grows store tx.sender _) (withdraw_coherent solvent.coherent _ _)
      have known : (withdraw env store tx.sender record.selfBond).accounts.contains
          record.operator := by
        refine (withdraw_grows store tx.sender _).contains ?_
        simp only [operator, CachedTable.contains]
        exact Option.isSome_iff_exists.mpr ⟨sender, present⟩
      have registered := withdrawn.insertValidator record known
      simp only [admitValidator] at coherent ⊢
      split
      · exact registered
      · exact registered.grow (setValidatorPeerId_ledger _ _ _).grows
          (registered.coherent.setValidatorPeerId _ _)
  | setStatus record status present standing stays =>
      refine solvent.updateValidator tx.sender _ (fun _ => rfl) fun old found bonded => ?_
      cases present.symm.trans found
      simpa [ValidatorRecord.bonded, standing, stays] using bonded
  | bindPeer peerId =>
      exact solvent.grow (setValidatorPeerId_ledger store tx.sender peerId).grows coherent
  | slashed record evidence cutoff kind decoded present amount amount_eq economics =>
      have grows : AccountsGrow store (store.pruneRecentSlashesBefore env cutoff) :=
        (pruneRecentSlashesBefore_ledger store cutoff).grows
      have pruned := solvent.grow grows (solvent.coherent.pruneRecentSlashesBefore cutoff)
      have owed := spared economics
      simp only [namesGhost, kind, decoded, decide_true, Bool.true_and] at owed
      exact pruned.slash _ _ _ ((grows.isGhost _).trans owed)
  | propose proposal bounded =>
      refine ⟨coherent, solvent.operators, solvent.burnRate, fun id stored found => ?_⟩
      simp only [StateStore.getPendingProposal, StateStore.insertPendingProposal, get?_insert] at found
      split at found
      · cases found
        exact bounded
      · exact solvent.proposals id stored found
  | vote id change keeps =>
      refine ⟨coherent, solvent.operators, solvent.burnRate, fun other stored found => ?_⟩
      simp only [StateStore.getPendingProposal, StateStore.modifyPendingProposal,
        StateStore.commitProposalMutation, get?_commit, get?_modify] at found
      split at found
      · obtain ⟨proposal, old, rfl⟩ := Option.map_eq_some_iff.mp found
        rw [keeps]
        exact solvent.proposals other proposal old
      · exact solvent.proposals other stored found
  | scheduleRotation | anchor | attest | archivalKey | archive | pushAnchor | renew =>
      exact solvent.grow (SameLedger.grows ⟨rfl, rfl, rfl, rfl⟩) coherent

theorem PayloadEffect.isGhost_le (effect : PayloadEffect env store tx next) {operator : Address}
    (ghost : next.isGhost operator = true) : store.isGhost operator = true := by
  cases effect with
  | createAccount account fresh => rwa [(insertAccount_grows account fresh).isGhost] at ghost
  | updateSender change keeps =>
      rwa [(updateAccount_grows store tx.sender keeps.nonce).isGhost] at ghost
  | transfer sender recipient amount =>
      rwa [((withdraw_grows store tx.sender amount).trans
        (creditRecipient_grows _ recipient amount)).isGhost] at ghost
  | register sender record peerId present covered owner standing =>
      rw [← (withdraw_grows store tx.sender record.selfBond).isGhost]
      apply isGhost_insertValidator standing
      simp only [admitValidator] at ghost
      split at ghost
      · exact ghost
      · rwa [(setValidatorPeerId_ledger _ _ _).grows.isGhost] at ghost
  | setStatus record status present standing stays =>
      exact isGhost_updateValidator tx.sender _ (fun _ => stays) ghost
  | bindPeer peerId => rwa [(setValidatorPeerId_ledger store tx.sender peerId).grows.isGhost] at ghost
  | slashed record evidence cutoff =>
      rw [← (pruneRecentSlashesBefore_ledger store cutoff).grows.isGhost]
      exact isGhost_slash ghost
  | scheduleRotation | anchor | attest | archivalKey | archive | pushAnchor | renew | propose
  | vote => exact ghost

theorem Settled.solvent {debit : Nat} (settled : Settled env store tx debit next)
    (solvent : Solvent env store) : Solvent env next := by
  have coherent := settled.coherent solvent.coherent
  rw [settled.next_eq] at coherent ⊢
  refine ⟨coherent, fun operator record present owed => ?_, solvent.burnRate, solvent.proposals⟩
  simpa [StateStore.modifyAccount, StateStore.commitAccountMutation]
    using solvent.operators operator record present owed

theorem applyTx_solvent {context : ExecutionContext} {result : ExecutionResult}
    (spared : Spared env store tx) (solvent : Solvent env store)
    (executed : applyTx env store tx context = .ok (next, result)) :
    Solvent env next := by
  obtain ⟨working, settled, ran⟩ := applyTx_cases executed
  have before : Solvent env working := by
    rcases ran with rfl | effect
    · exact solvent
    · exact effect.solvent spared solvent
  exact settled.solvent before

theorem applyTx_supply {context : ExecutionContext} {result : ExecutionResult}
    (spared : Spared env store tx) (bound : store.supply ≤ u128Max)
    (executed : applyTx env store tx context = .ok (next, result)) :
    next.supply + satAdd128 result.feeCharged tx.feeTip = store.supply := by
  obtain ⟨working, settled, ran⟩ := applyTx_cases executed
  rw [settled.supply]
  rcases ran with rfl | effect
  · rfl
  · exact effect.supply spared bound

theorem applyTx_isGhost_le {context : ExecutionContext} {result : ExecutionResult}
    (executed : applyTx env store tx context = .ok (next, result)) {operator : Address}
    (ghost : next.isGhost operator = true) : store.isGhost operator = true := by
  obtain ⟨working, settled, ran⟩ := applyTx_cases executed
  rw [settled.next_eq] at ghost
  rcases ran with rfl | effect
  · exact ghost
  · exact effect.isGhost_le ghost

theorem Spared.le {later : Transaction}
    (shrinks : ∀ operator, next.isGhost operator = true → store.isGhost operator = true)
    (spared : Spared env store later) : Spared env next later := by
  intro economics
  have owed := spared economics
  simp only [namesGhost, Bool.and_eq_false_iff] at owed ⊢
  refine owed.imp id fun unnamed => ?_
  split at unnamed
  · exact Bool.eq_false_iff.mpr fun ghost => absurd (shrinks _ ghost) (Bool.eq_false_iff.mp unnamed)
  · rfl

end Transactions

section Governance

theorem SameTokens.supply (same : SameTokens store next) : next.supply = store.supply := by
  simp only [StateStore.supply, same.accounts, same.validators]

theorem Solvent.execute {effect : ProposalEffect} (solvent : Solvent env store)
    (executed : ExecutedLedger effect store next) (bounded : effect.BurnBounded)
    (coherent : next.Coherent env) : Solvent env next where
  coherent
  operators := by
    simp only [StateStore.getValidator, executed.accounts, executed.validators]
    exact solvent.operators
  burnRate := by
    rcases executed.burnRate with same | asked
    · rw [same]
      exact solvent.burnRate
    · rw [asked] at bounded
      exact bounded
  proposals := by
    simp only [StateStore.getPendingProposal, executed.proposals]
    exact solvent.proposals

theorem Solvent.setProposalStatus (solvent : Solvent env store) (id : Bytes32)
    (status : ProposalStatus) : Solvent env (setProposalStatus env store id status) where
  coherent := solvent.coherent.updatePendingProposal id _
  operators := solvent.operators
  burnRate := solvent.burnRate
  proposals := by
    intro other stored found
    simp only [ViperChain.setProposalStatus, StateStore.getPendingProposal,
      StateStore.modifyPendingProposal, StateStore.commitProposalMutation, get?_commit,
      get?_modify] at found
    split at found
    · obtain ⟨proposal, old, rfl⟩ := Option.map_eq_some_iff.mp found
      exact solvent.proposals other proposal old
    · exact solvent.proposals other stored found

theorem tallyOne_solvent (solvent : Solvent env store) (id : Bytes32) (height : Nat) :
    Solvent env (tallyOne env store id height) := by
  unfold tallyOne
  split
  case h_1 => exact solvent
  case h_2 proposal found =>
    simp only
    split
    · have executed := solvent.execute
        (executeEffect_ledger env store { proposal with proposalId := id } height)
        (solvent.proposals id proposal found) (executeEffect_coherent solvent.coherent _ _)
      exact executed.setProposalStatus id _
    · exact solvent.setProposalStatus id _

theorem processGovernanceTallies_solvent (solvent : Solvent env store) (height : Nat) :
    Solvent env (processGovernanceTallies env store height) :=
  List.foldlRecOn _ _ solvent fun _ kept id _ => tallyOne_solvent kept id height

end Governance

end ViperChain
