import ViperChain.State.Supply

/-!
The genesis state a node builds from its configuration, after the configuration's hex
strings have been decoded.
-/

namespace ViperChain

open Fallible CachedTables CachedTable

structure GenesisValidator where
  operator : Address
  nodeId : Text
  consensusAlgId : AlgId
  consensusPk : Bytes

def GenesisValidator.record (validator : GenesisValidator) : ValidatorRecord where
  operator := validator.operator
  nodeId := validator.nodeId
  consensusAlgId := validator.consensusAlgId
  consensusPk := validator.consensusPk
  selfBond := 0
  status := .active
  registeredHeight := 0
  tombstoned := false

def checkGenesisAccount (account : Account) : Except (Address × AccountInvariant) Unit :=
  account.checkInvariants.mapError fun violated => (account.address, violated)

def buildGenesisState (env : Env) (chainId : Bytes) (accounts : List Account)
    (validators : List GenesisValidator) : Except (Address × AccountInvariant) StateStore := do
  accounts.forM checkGenesisAccount
  let store := StateStore.fromSnapshotAccounts env accounts 0 chainId
  return validators.foldl (fun current validator => current.insertValidator env validator.record) store

structure GenesisLike (env : Env) (store : StateStore) : Prop where
  coherent : store.Coherent env
  burnRate : store.feeMarket.burnRateBps = 0
  proposals : store.pendingProposals = .empty

variable {env : Env}

theorem fromSnapshotAccounts_genesisLike (accounts : List Account) (height : Nat) (chainId : Bytes) :
    GenesisLike env (StateStore.fromSnapshotAccounts env accounts height chainId) := by
  have start : GenesisLike env (StateStore.new env) := ⟨StateStore.coherent_new env, rfl, rfl⟩
  have filled : GenesisLike env (accounts.foldl (StateStore.insertAccount env) (StateStore.new env)) :=
    List.foldlRecOn accounts _ start fun _ like account _ =>
      ⟨like.coherent.insertAccount account, like.burnRate, like.proposals⟩
  exact
    { coherent :=
        { fresh := { filled.coherent.fresh with accounts := filled.coherent.fresh.accounts }
          accountsKeyed := filled.coherent.accountsKeyed
          validatorsKeyed := filled.coherent.validatorsKeyed }
      burnRate := filled.burnRate
      proposals := filled.proposals }

theorem buildGenesisState_genesisLike {chainId : Bytes} {accounts : List Account}
    {validators : List GenesisValidator} {store : StateStore}
    (built : buildGenesisState env chainId accounts validators = .ok store) :
    GenesisLike env store := by
  simp only [buildGenesisState, bind_eq_ok, pure_eq_ok] at built
  obtain ⟨_, _, rfl⟩ := built
  refine List.foldlRecOn validators _ (fromSnapshotAccounts_genesisLike accounts 0 chainId) ?_
  intro current like validator _
  exact ⟨like.coherent.insertValidator validator.record, like.burnRate, like.proposals⟩

theorem buildGenesisState_frame {chainId : Bytes} {accounts : List Account}
    {validators : List GenesisValidator} {store : StateStore}
    (built : buildGenesisState env chainId accounts validators = .ok store) :
    ∃ accounts validators, store = { StateStore.new env with accounts, validators, chainId } := by
  simp only [buildGenesisState, bind_eq_ok, pure_eq_ok] at built
  obtain ⟨_, _, rfl⟩ := built
  obtain ⟨_, filled⟩ : ∃ table, accounts.foldl (StateStore.insertAccount env) (StateStore.new env) =
      { StateStore.new env with accounts := table } := by
    refine List.foldlRecOn accounts _ (motive := fun current : StateStore => ∃ table, current =
      { StateStore.new env with accounts := table }) ⟨_, rfl⟩ ?_
    rintro _ ⟨_, rfl⟩ account _
    exact ⟨_, rfl⟩
  refine List.foldlRecOn validators _ (motive := fun current : StateStore =>
    ∃ accounts validators, current = { StateStore.new env with accounts, validators, chainId }) ?_ ?_
  · rw [StateStore.fromSnapshotAccounts, filled]
    exact ⟨_, _, rfl⟩
  · rintro _ ⟨_, _, rfl⟩ validator _
    exact ⟨_, _, rfl⟩

structure FundedGenesis (env : Env) (store : StateStore) : Prop where
  built : ∃ chainId accounts validators, buildGenesisState env chainId accounts validators = .ok store
  funded : ∀ record ∈ store.validators.values, (store.getAccount record.operator).isSome

theorem FundedGenesis.solvent {store : StateStore} (genesis : FundedGenesis env store) :
    Solvent env store := by
  obtain ⟨chainId, accounts, validators, built⟩ := genesis.built
  have like := buildGenesisState_genesisLike built
  exact
    { coherent := like.coherent
      operators := by
        intro operator record found _
        have keyed := like.coherent.validatorsKeyed operator record found
        have known := genesis.funded record (store.validators.mem_values.mpr ⟨operator, found⟩)
        rwa [keyed] at known
      burnRate := by
        rw [like.burnRate]
        exact Nat.zero_le _
      proposals := by
        intro id proposal found
        simp [StateStore.getPendingProposal, like.proposals] at found }

end ViperChain
