import ViperChain.State.Coherence

/-!
What the writers of the state leave alone.
-/

namespace ViperChain

open CachedTables CachedTable

variable {env : Env} {store next : StateStore} {tx : Transaction}

structure SameLedger (store next : StateStore) : Prop where
  accounts : next.accounts = store.accounts
  validators : next.validators = store.validators
  feeMarket : next.feeMarket = store.feeMarket
  proposals : next.pendingProposals = store.pendingProposals

structure AccountsGrow (store next : StateStore) : Prop where
  accounts : ∀ address account, store.getAccount address = some account →
    ∃ grown, next.getAccount address = some grown ∧ grown.nonce = account.nonce
  validators : next.validators = store.validators
  feeMarket : next.feeMarket = store.feeMarket
  proposals : next.pendingProposals = store.pendingProposals

theorem SameLedger.refl (store : StateStore) : SameLedger store store := ⟨rfl, rfl, rfl, rfl⟩

theorem SameLedger.grows (same : SameLedger store next) : AccountsGrow store next where
  accounts := fun address account present =>
    ⟨account, by rw [StateStore.getAccount, same.accounts]; exact present, rfl⟩
  validators := same.validators
  feeMarket := same.feeMarket
  proposals := same.proposals

theorem AccountsGrow.refl (store : StateStore) : AccountsGrow store store :=
  (SameLedger.refl store).grows

theorem AccountsGrow.trans {last : StateStore} (first : AccountsGrow store next)
    (second : AccountsGrow next last) : AccountsGrow store last where
  accounts := by
    intro address account present
    obtain ⟨grown, found, same⟩ := first.accounts address account present
    obtain ⟨last, foundLast, sameLast⟩ := second.accounts address grown found
    exact ⟨last, foundLast, sameLast.trans same⟩
  validators := second.validators.trans first.validators
  feeMarket := second.feeMarket.trans first.feeMarket
  proposals := second.proposals.trans first.proposals

theorem AccountsGrow.contains (grows : AccountsGrow store next) {address : Address}
    (known : store.accounts.contains address) : next.accounts.contains address := by
  obtain ⟨account, present⟩ := Option.isSome_iff_exists.mp known
  obtain ⟨grown, found, _⟩ := grows.accounts address account present
  exact Option.isSome_iff_exists.mpr ⟨grown, found⟩

theorem AccountsGrow.getValidator (grows : AccountsGrow store next) (operator : Address) :
    next.getValidator operator = store.getValidator operator := by
  simp only [StateStore.getValidator, grows.validators]

theorem setValidatorPeerId_ledger (store : StateStore) (operator : Address) (peerId : Bytes) :
    SameLedger store (store.setValidatorPeerId env operator peerId) := by
  unfold StateStore.setValidatorPeerId
  split <;> exact ⟨rfl, rfl, rfl, rfl⟩

theorem pruneRecentSlashesBefore_ledger (store : StateStore) (cutoff : Nat) :
    SameLedger store (store.pruneRecentSlashesBefore env cutoff) := by
  simp only [StateStore.pruneRecentSlashesBefore]
  split <;> exact ⟨rfl, rfl, rfl, rfl⟩

section Accounts

@[simp] theorem getAccount_updateAccount (store : StateStore) (address other : Address)
    (change : Account → Account) :
    ((store.modifyAccount address change).commitAccountMutation env address).getAccount other =
      if address = other then (store.getAccount other).map change else store.getAccount other := by
  simp [StateStore.getAccount, StateStore.modifyAccount, StateStore.commitAccountMutation]

@[simp] theorem getAccount_insertAccount (store : StateStore) (account : Account) (other : Address) :
    (store.insertAccount env account).getAccount other =
      if account.address = other then some account else store.getAccount other := by
  simp [StateStore.getAccount, StateStore.insertAccount]

theorem updateAccount_grows (store : StateStore) (address : Address) {change : Account → Account}
    (keeps : ∀ account, (change account).nonce = account.nonce) :
    AccountsGrow store
      ((store.modifyAccount address change).commitAccountMutation env address) where
  accounts := by
    intro other account present
    rw [getAccount_updateAccount]
    split
    · exact ⟨change account, by rw [present, Option.map_some], keeps account⟩
    · exact ⟨account, present, rfl⟩
  validators := rfl
  feeMarket := rfl
  proposals := rfl

theorem insertAccount_grows (account : Account)
    (fresh : store.getAccount account.address = none) :
    AccountsGrow store (store.insertAccount env account) where
  accounts := by
    intro other old present
    refine ⟨old, ?_, rfl⟩
    rw [getAccount_insertAccount, if_neg ?_, present]
    rintro rfl
    rw [fresh] at present
    cases present
  validators := rfl
  feeMarket := rfl
  proposals := rfl

theorem withdraw_grows (store : StateStore) (address : Address) (amount : Nat) :
    AccountsGrow store (withdraw env store address amount) :=
  updateAccount_grows store address fun _ => rfl

theorem creditAccount_grows (store : StateStore) (address : Address) (amount : Nat) :
    AccountsGrow store (creditAccount env store address amount) := by
  unfold creditAccount
  split
  case isTrue => exact .refl store
  case isFalse =>
    split
    case isTrue => exact updateAccount_grows store address fun _ => rfl
    case isFalse unknown =>
      exact insertAccount_grows _ (Option.not_isSome_iff_eq_none.mp unknown)

theorem creditRecipient_grows (store : StateStore) (recipient : Address) (amount : Nat) :
    AccountsGrow store (creditRecipient env store recipient amount) := by
  unfold creditRecipient
  split
  case isTrue => exact updateAccount_grows store recipient fun _ => rfl
  case isFalse unknown => exact insertAccount_grows _ (Option.not_isSome_iff_eq_none.mp unknown)

end Accounts

section Governance

structure SameTokens (store next : StateStore) : Prop where
  accounts : next.accounts = store.accounts
  validators : next.validators = store.validators

structure ExecutedLedger (effect : ProposalEffect) (store next : StateStore) : Prop extends
    SameTokens store next where
  proposals : next.pendingProposals = store.pendingProposals
  burnRate : next.feeMarket.burnRateBps = store.feeMarket.burnRateBps ∨
    effect = .burnRateUpdate next.feeMarket.burnRateBps

theorem executeEffect_ledger (env : Env) (store : StateStore) (proposal : PendingProposal)
    (height : Nat) :
    ExecutedLedger proposal.effect store (executeEffect env store proposal height).1 := by
  unfold executeEffect executeRegistryUpdate executeAddAlgorithm executeAddSlashingVerifier
    executeAddHash executeAddAuthTemplate
  split
  case h_2 newBurnRateBps asked => exact ⟨⟨rfl, rfl⟩, rfl, .inr asked⟩
  all_goals repeat' split
  all_goals exact ⟨⟨rfl, rfl⟩, rfl, .inl rfl⟩

theorem processGovernanceTallies_tokens (store : StateStore) (height : Nat) :
    SameTokens store (processGovernanceTallies env store height) := by
  rw [processGovernanceTallies_frame]
  exact ⟨rfl, rfl⟩

end Governance

section BlockSteps

theorem distributeBlockFees_grows (store : StateStore) (proposer : Address) (fees : Nat)
    (pool : List Address) (params : FeeDistributionParams) :
    AccountsGrow store (distributeBlockFees env store proposer fees pool params) :=
  distributeBlockFees_invariant (motive := AccountsGrow store) (fun current address amount grown =>
    grown.trans (creditAccount_grows current address amount)) (.refl store) proposer fees pool params

theorem refundExit_grows (store : StateStore) (exit : Address × Nat) :
    AccountsGrow store (refundExit env store exit) :=
  updateAccount_grows store exit.1 fun _ => rfl

theorem refundExits_grows (exits : List (Address × Nat)) (store : StateStore) :
    AccountsGrow store (exits.foldl (refundExit env) store) :=
  List.foldlRecOn exits _ (AccountsGrow.refl store) fun current grown exit _ =>
    grown.trans (refundExit_grows current exit)

theorem getAccount_advanceHeight (store : StateStore) (address : Address) :
    (store.advanceHeight env).getAccount address =
      (store.getAccount address).map fun account =>
        { account with keys := StateStore.activateKeys (store.blockHeight + 1) account.keys } := by
  simp [StateStore.advanceHeight, StateStore.getAccount, CachedTable.get?, CachedTable.modifyAll]

theorem advanceHeight_grows (store : StateStore) : AccountsGrow store (store.advanceHeight env) where
  accounts := by
    intro address account present
    rw [getAccount_advanceHeight, present]
    exact ⟨_, rfl, rfl⟩
  validators := rfl
  feeMarket := rfl
  proposals := rfl

end BlockSteps

end ViperChain
