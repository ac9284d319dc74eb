import ViperChain.Engine.Moments
import ViperChain.Engine.Reach
import ViperChain.State.KeyLife
import ViperChain.State.Proposals

/-!
Keys along the run of a producing node: an account that has keys can always sign, and no key is
lost or comes back from revocation.
-/

namespace ViperChain

open Relation

variable {env : Env} {store next : StateStore}

theorem Upkeep.keysLive (call : Upkeep env store next) : KeysLive store next := by
  cases call with
  | distributeBlockFees proposer fees pool params =>
      obtain ⟨_, paid⟩ := @distributeBlockFees_frame env store proposer fees pool params
      exact .of_credentials (paid ▸ rfl) (distributeBlockFees_invariant
        (motive := fun current => current.credentials = store.credentials)
        (fun current address amount same =>
          (creditAccount_credentials current address amount).trans same) rfl _ _ _ _)
  | applyAimdUpdate gasUsed => exact .of_credentials rfl (credentials_of_accounts rfl)
  | processGovernanceTallies height =>
      rw [processGovernanceTallies_frame]
      exact .of_credentials rfl (credentials_of_accounts rfl)
  | refundExpirations height =>
      obtain ⟨_, _, refunded⟩ := @refundExpirations_frame env store height
      exact .of_credentials (refunded ▸ rfl)
        ((refundExits_credentials _ _).trans (credentials_of_accounts rfl))
  | activateRotations height =>
      obtain ⟨_, _, rotated⟩ := @activateRotations_frame env store height
      exact rotated ▸ .of_credentials rfl (credentials_of_accounts rfl)
  | processEpochTransitions churn =>
      obtain ⟨_, activated⟩ := @processEpochTransitions_frame env store churn
      exact activated ▸ .of_credentials rfl (credentials_of_accounts rfl)
  | advanceHeight => exact advanceHeight_live store

theorem BlockCall.keysLive (call : BlockCall env store next) : KeysLive store next := by
  cases call with
  | applied tx context result executed => exact applyTx_keysLive executed
  | upkeep kept => exact kept.keysLive

theorem calls_keysLive (calls : ReflTransGen (BlockCall env) store next) : KeysLive store next := by
  induction calls with
  | refl => exact .refl store
  | tail _ call ih => exact ih.trans call.keysLive

theorem Moment.Step.calls {before after : Moment} (step : Moment.Step env before after) :
    ReflTransGen (BlockCall env) before.store after.store := by
  cases step with
  | start => exact .refl
  | entry context config proposer state entry todo => exact assembleEntry_calls config state entry
  | finish context config proposer state =>
      have paid : BlockCall env state.store _ := .upkeep (.distributeBlockFees proposer
        state.feesCollected (feePool state.store config.validatorPool) config.feeDist)
      exact ((ReflTransGen.single paid).trans (closeBlock_calls _ context.height _)).trans
        (epochStep_calls _ context.height config.epochConfig)

theorem steps_keysLive {before after : Moment} (run : ReflTransGen (Moment.Step env) before after) :
    KeysLive before.store after.store := by
  induction run with
  | refl => exact .refl before.store
  | tail _ step ih => exact ih.trans (calls_keysLive step.calls)

def StateStore.keysOf (store : StateStore) (address : Address) : KeySet :=
  ((store.getAccount address).map Account.keys).getD []

theorem keys_credentials (store : StateStore) (address : Address) :
    (store.credentials address).keys = store.keysOf address := by
  unfold StateStore.credentials StateStore.keysOf
  cases store.getAccount address <;> rfl

theorem credentials_sound_iff :
    (∀ address, (store.credentials address).Sound) ↔
      ∀ address account, store.getAccount address = some account → account.Sound := by
  refine forall_congr' fun address => ?_
  unfold StateStore.credentials
  cases store.getAccount address with
  | none => simp [Account.Sound, Account.credentials, Account.credited]
  | some account =>
      exact ⟨fun sound _ same => Option.some.inj same ▸ sound, fun sound => sound account rfl⟩

theorem Account.Sound.versions_nodup {account : Account} (sound : account.Sound) :
    (account.keys.map KeyEntry.keyVersion).Nodup := by
  by_contra repeated
  have keyed : account.keys ≠ [] := fun none => repeated (by simp [none])
  have checked := sound keyed
  simp only [Account.checkInvariants, KeySet.hasDuplicateVersions, repeated, decide_false,
    Bool.not_false, if_true] at checked
  split at checked <;> cases checked

def KeyEntry.OnTime (height : Nat) (key : KeyEntry) : Prop :=
  key.status ≠ .revoked →
    (key.status = .pending ↔ height < key.validFromHeight) ∧
      (key.status = .active ↔ key.validFromHeight ≤ height)

theorem KeyEntry.Timely.onTime {height : Nat} {key : KeyEntry} (timely : key.Timely height) :
    key.OnTime height := by
  intro unrevoked
  have pending := timely.pending
  have active := timely.active
  cases status : key.status with
  | pending => simp_all
  | active => simp_all
  | revoked => exact absurd status unrevoked

section Sample

def laterKeyPayload : Value :=
  .map
    [ (.integer 1, .integer AlgId.slhDsaSha2128s.asU16), (.integer 2, .bytes (List.replicate 32 7)),
      (.integer 3, .integer 2), (.integer 4, .integer 3), (.integer 5, .integer AllowedTx.slhDsaOnly) ]

def laterKeyPool : Mempool :=
  submit sampleGenesis freeParams (authorTx .keyAdd 0 100 laterKeyPayload) .new

def laterKey : KeyEntry where
  algId := .slhDsaSha2128s
  pkBytes := List.replicate 32 7
  keyVersion := 2
  validFromHeight := 3
  status := .pending
  allowedTxTypes := AllowedTx.slhDsaOnly

theorem laterKey_added : (assembleEntries sampleEnv devnetConfig sampleGenesis
    laterKeyPool).store.keysOf author = [authorKey, laterKey] := by decide +kernel

theorem sampleGenesis_sound : ∀ address account, sampleGenesis.getAccount address = some account →
    account.keys ≠ [] → account.checkInvariants = .ok () := by
  intro address account found _
  have inserted : sampleGenesis.getAccount address =
      ((StateStore.new sampleEnv).insertAccount sampleEnv authorAccount).getAccount address := rfl
  rw [inserted, getAccount_insertAccount] at found
  split at found
  · rw [← Option.some.inj found]
    rfl
  · simp [StateStore.new, StateStore.getAccount, CachedTables.CachedTable.get?,
      CachedTables.CachedTable.empty] at found

end Sample

end ViperChain
