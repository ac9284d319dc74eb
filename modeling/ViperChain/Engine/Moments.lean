import ViperChain.Library.Runs
import ViperChain.Engine.Assembly

/-!
A producing node, transaction by transaction: `Moment.Step` splits `assemble_block` into its
rounds.
-/

namespace ViperChain

open Relation

inductive ProductionStep (env : Env)
    (guard : StateStore → Mempool → AssemblyContext → AssemblyConfig → Prop) :
    StateStore → StateStore → Prop
  | assembled {store : StateStore} (pool : Mempool) (context : AssemblyContext)
      (config : AssemblyConfig) (assembled : Assembled) (guarded : guard store pool context config)
      (accepted : assembleBlock env store pool context config = .ok assembled) :
      ProductionStep env guard store assembled.store

def anyBlock (_ : StateStore) (_ : Mempool) (_ : AssemblyContext) (_ : AssemblyConfig) : Prop := True

inductive Moment where
  | idle (store : StateStore)
  | assembling (context : AssemblyContext) (config : AssemblyConfig) (proposer : Address)
      (state : AssemblyState) (todo : List PendingEntry)

namespace Moment

def store : Moment → StateStore
  | idle store => store
  | assembling _ _ _ state _ => state.store

inductive Step (env : Env) : Moment → Moment → Prop
  | start {store : StateStore} (pool : Mempool) (context : AssemblyContext) (config : AssemblyConfig)
      (proposer : Address) (height : context.height = satAdd64 store.blockHeight 1)
      (address : Bytes32.ofBytes? context.proposer = some proposer) :
      Step env (idle store)
        (assembling context config proposer { store, pool } (pendingInOrder pool))
  | entry (context : AssemblyContext) (config : AssemblyConfig) (proposer : Address)
      (state : AssemblyState) (entry : PendingEntry) (todo : List PendingEntry) :
      Step env (assembling context config proposer state (entry :: todo))
        (assembling context config proposer (assembleEntry env config state entry) todo)
  | finish (context : AssemblyContext) (config : AssemblyConfig) (proposer : Address)
      (state : AssemblyState) :
      Step env (assembling context config proposer state [])
        (idle (finishAssembly env state.store proposer context.height state.feesCollected
          state.blockGasUsed config))

variable {env : Env} {store next : StateStore}

theorem entries_steps (context : AssemblyContext) (config : AssemblyConfig) (proposer : Address)
    (todo : List PendingEntry) (state : AssemblyState) :
    ReflTransGen (Step env) (assembling context config proposer state todo)
      (assembling context config proposer (todo.foldl (assembleEntry env config) state) []) := by
  induction todo generalizing state with
  | nil => exact .refl
  | cons entry todo ih =>
      exact (ReflTransGen.single (.entry context config proposer state entry todo)).trans (ih _)

theorem assembleBlock_steps {pool : Mempool} {context : AssemblyContext} {config : AssemblyConfig}
    {assembled : Assembled} (accepted : assembleBlock env store pool context config = .ok assembled) :
    ReflTransGen (Step env) (idle store) (idle assembled.store) := by
  obtain ⟨height, proposer, address, rfl⟩ := assembleBlock_eq_ok.mp accepted
  have started : Step env (idle store) _ := .start pool context config proposer height address
  exact ((ReflTransGen.single started).trans
    (entries_steps context config proposer _ _)).tail (.finish context config proposer _)

theorem production_steps
    {guard : StateStore → Mempool → AssemblyContext → AssemblyConfig → Prop}
    (run : ReflTransGen (ProductionStep env guard) store next) :
    ReflTransGen (Step env) (idle store) (idle next) := by
  induction run with
  | refl => exact .refl
  | tail _ step ih =>
      cases step with
      | assembled pool context config assembled guarded accepted =>
          exact ih.trans (assembleBlock_steps accepted)

end Moment

end ViperChain
