import ViperChain.State.Catalogue
import ViperChain.State.FeeShares

/-!
The life of an account key. Every handler leaves the account with an active key and without two
keys of one version.
-/

namespace ViperChain

open Fallible

section Keys

structure KeyEntry.Timely (height : Nat) (key : KeyEntry) : Prop where
  pending : key.status = .pending → height < key.validFromHeight
  active : key.status = .active → key.validFromHeight ≤ height

structure KeyMove (height later : Nat) (key moved : KeyEntry) : Prop where
  same : moved = { key with status := moved.status }
  revoked : key.status = .revoked → moved.status = .revoked
  timely : key.Timely height → moved.Timely later

structure KeysGrow (height later : Nat) (keys grown : KeySet) : Prop where
  kept : ∀ key ∈ keys, ∃ moved ∈ grown, KeyMove height later key moved
  origin : ∀ key ∈ grown, (∃ earlier ∈ keys, KeyMove height later earlier key) ∨
    (∀ earlier ∈ keys, earlier.keyVersion < key.keyVersion) ∧ key.Timely later

variable {height later : Nat} {keys grown : KeySet} {key moved : KeyEntry}

theorem le_maxKeyVersion (member : key ∈ keys) : key.keyVersion ≤ maxKeyVersion keys := by
  have bound : ∀ (versions : List Nat) (start : Nat),
      start ≤ versions.foldl max start ∧ ∀ version ∈ versions, version ≤ versions.foldl max start := by
    intro versions
    induction versions with
    | nil => simp
    | cons version versions ih =>
        intro start
        have rest := ih (max start version)
        simp only [List.foldl_cons, List.forall_mem_cons]
        exact ⟨by omega, by omega, rest.2⟩
  exact (bound _ 0).2 _ (List.mem_map_of_mem member)

theorem initialKeyStatus_timely (started : key.status = initialKeyStatus height key.validFromHeight) :
    key.Timely height := by
  unfold initialKeyStatus at started
  split at started
  case isTrue reached => exact ⟨by simp [started], fun _ => reached⟩
  case isFalse ahead => exact ⟨fun _ => Nat.lt_of_not_le ahead, by simp [started]⟩

namespace KeyMove

theorem refl (height : Nat) (key : KeyEntry) : KeyMove height height key key := ⟨rfl, id, id⟩

theorem trans {last : Nat} {final : KeyEntry} (first : KeyMove height later key moved)
    (second : KeyMove later last moved final) : KeyMove height last key final where
  same := by rw [second.same, first.same]
  revoked := fun gone => second.revoked (first.revoked gone)
  timely := fun timely => second.timely (first.timely timely)

theorem keyVersion (move : KeyMove height later key moved) : moved.keyVersion = key.keyVersion := by
  rw [move.same]

theorem validFromHeight (move : KeyMove height later key moved) :
    moved.validFromHeight = key.validFromHeight := by
  rw [move.same]

theorem revoke (height : Nat) (key : KeyEntry) :
    KeyMove height height key { key with status := .revoked } :=
  ⟨rfl, fun _ => rfl, fun _ => ⟨by simp, by simp⟩⟩

theorem activate (height : Nat) (key : KeyEntry) :
    KeyMove height (height + 1) key
      (if key.status = .pending ∧ key.validFromHeight ≤ height + 1 then
        { key with status := .active } else key) := by
  split
  case isTrue due => exact ⟨rfl, by simp [due.1], fun _ => ⟨by simp, fun _ => due.2⟩⟩
  case isFalse waits =>
    refine ⟨rfl, id, fun timely => ⟨fun pending => ?_, fun active => ?_⟩⟩
    · exact Nat.lt_of_not_le fun reached => waits ⟨pending, reached⟩
    · exact (timely.active active).trans (Nat.le_succ height)

end KeyMove

namespace KeysGrow

theorem refl (height : Nat) (keys : KeySet) : KeysGrow height height keys keys where
  kept := fun key member => ⟨key, member, .refl height key⟩
  origin := fun key member => .inl ⟨key, member, .refl height key⟩

theorem trans {last : Nat} {final : KeySet} (first : KeysGrow height later keys grown)
    (second : KeysGrow later last grown final) : KeysGrow height last keys final where
  kept := by
    intro key member
    obtain ⟨moved, inGrown, move⟩ := first.kept key member
    obtain ⟨final, inFinal, next⟩ := second.kept moved inGrown
    exact ⟨final, inFinal, move.trans next⟩
  origin := by
    intro key member
    rcases second.origin key member with ⟨middle, inGrown, next⟩ | ⟨newer, timely⟩
    · rcases first.origin middle inGrown with ⟨earlier, inKeys, move⟩ | ⟨newer, timely⟩
      · exact .inl ⟨earlier, inKeys, move.trans next⟩
      · exact .inr ⟨fun earlier inKeys => next.keyVersion ▸ newer earlier inKeys, next.timely timely⟩
    · refine .inr ⟨fun earlier inKeys => ?_, timely⟩
      obtain ⟨moved, inGrown, move⟩ := first.kept earlier inKeys
      exact move.keyVersion ▸ newer moved inGrown

theorem of_forall₂ (moves : List.Forall₂ (KeyMove height later) keys grown) :
    KeysGrow height later keys grown where
  kept := fun _ member => exists_of_forall₂ moves member
  origin := fun _ member => .inl (exists_of_forall₂ moves.flip member)

theorem append (moves : List.Forall₂ (KeyMove height height) keys grown)
    (new : NewKey height keys key) : KeysGrow height height keys (grown ++ [key]) where
  kept := by
    intro earlier member
    obtain ⟨moved, inGrown, move⟩ := exists_of_forall₂ moves member
    exact ⟨moved, List.mem_append_left _ inGrown, move⟩
  origin := by
    intro other member
    rcases List.mem_append.mp member with inGrown | added
    · exact .inl (exists_of_forall₂ moves.flip inGrown)
    · rw [List.mem_singleton.mp added]
      exact .inr ⟨fun earlier inKeys => (le_maxKeyVersion inKeys).trans_lt new.newer,
        initialKeyStatus_timely new.started⟩

end KeysGrow

theorem revokeKey_moves (height version : Nat) (keys : KeySet) :
    List.Forall₂ (KeyMove height height) keys (revokeKey version keys) := by
  have unchanged : ∀ rest : KeySet, List.Forall₂ (KeyMove height height) rest rest :=
    fun rest => List.forall₂_same.mpr fun key _ => .refl height key
  induction keys with
  | nil => exact .nil
  | cons key rest ih =>
      unfold revokeKey
      split
      · exact .cons (.revoke height key) (unchanged rest)
      · exact .cons (.refl height key) ih

theorem activateKeys_moves (height : Nat) (keys : KeySet) :
    List.Forall₂ (KeyMove height (height + 1)) keys (StateStore.activateKeys (height + 1) keys) :=
  List.forall₂_map_right_iff.mpr (List.forall₂_same.mpr fun key _ => .activate height key)

theorem KeyChange.grows (change : KeyChange height keys grown) : KeysGrow height height keys grown := by
  cases change with
  | kept => exact .refl height keys
  | added key new =>
      exact .append (List.forall₂_same.mpr fun key _ => .refl height key) new
  | rotated version key new => exact .append (revokeKey_moves height version keys) new
  | revoked version => exact .of_forall₂ (revokeKey_moves height version keys)

theorem checkInvariants_activate {account : Account} (height : Nat)
    (sound : account.checkInvariants = .ok ()) :
    { account with keys := StateStore.activateKeys height account.keys }.checkInvariants = .ok () := by
  have versions : (StateStore.activateKeys height account.keys).map KeyEntry.keyVersion =
      account.keys.map KeyEntry.keyVersion := by
    rw [StateStore.activateKeys, List.map_map]
    refine List.map_congr_left fun key _ => ?_
    simp only [Function.comp_apply]
    split <;> rfl
  have active : account.keys.hasActiveKey = true →
      (StateStore.activateKeys height account.keys).hasActiveKey = true := by
    simp only [KeySet.hasActiveKey, List.any_eq_true, decide_eq_true_eq, StateStore.activateKeys]
    rintro ⟨key, member, active⟩
    exact ⟨key, List.mem_map.mpr ⟨key, member, by simp [active]⟩, active⟩
  simp only [Account.checkInvariants, KeySet.hasDuplicateVersions, versions] at sound ⊢
  split at sound
  · cases sound
  case isFalse usable =>
    rw [active (by simpa using usable)]
    exact sound

end Keys

section Credentials

def Account.credentials (account : Account) : Account :=
  { account with balance := 0, nonce := 0, policyVersion := 0, policyHash := none }

def StateStore.credentials (store : StateStore) (address : Address) : Account :=
  ((store.getAccount address).getD (.credited address 0)).credentials

def Account.Sound (account : Account) : Prop :=
  account.keys ≠ [] → account.checkInvariants = .ok ()

structure KeysLive (store next : StateStore) : Prop where
  grow : ∀ address, KeysGrow store.blockHeight next.blockHeight (store.credentials address).keys
    (next.credentials address).keys
  sound : (∀ address, (store.credentials address).Sound) → ∀ address, (next.credentials address).Sound

variable {env : Env} {store next : StateStore} {tx : Transaction}

namespace KeysLive

theorem of_credentials (height : next.blockHeight = store.blockHeight)
    (same : next.credentials = store.credentials) : KeysLive store next where
  grow := fun address => by rw [height, same]; exact .refl _ _
  sound := fun sound => by rw [same]; exact sound

theorem refl (store : StateStore) : KeysLive store store := .of_credentials rfl rfl

theorem trans {last : StateStore} (first : KeysLive store next) (second : KeysLive next last) :
    KeysLive store last where
  grow := fun address => (first.grow address).trans (second.grow address)
  sound := fun sound => second.sound (first.sound sound)

end KeysLive

theorem credentials_of_accounts (same : next.accounts = store.accounts) :
    next.credentials = store.credentials := by
  funext address
  simp only [StateStore.credentials, StateStore.getAccount, same]

theorem updateAccount_credentials (store : StateStore) (address : Address)
    {change : Account → Account} (keeps : ∀ account, (change account).credentials = account.credentials) :
    ((store.modifyAccount address change).commitAccountMutation env address).credentials =
      store.credentials := by
  funext other
  simp only [StateStore.credentials, getAccount_updateAccount]
  split
  · cases store.getAccount other with
    | none => rfl
    | some account => exact keeps account
  · rfl

theorem insertAccount_credentials (store : StateStore) (address : Address) (amount : Nat)
    (fresh : store.getAccount address = none) :
    (store.insertAccount env (.credited address amount)).credentials = store.credentials := by
  funext other
  simp only [StateStore.credentials, getAccount_insertAccount]
  split
  case isTrue same =>
    obtain rfl : address = other := same
    rw [fresh]
    rfl
  · rfl

theorem creditAccount_credentials (store : StateStore) (address : Address) (amount : Nat) :
    (creditAccount env store address amount).credentials = store.credentials := by
  unfold creditAccount
  split
  · rfl
  · split
    · exact updateAccount_credentials store address fun _ => rfl
    case isFalse unknown =>
      exact insertAccount_credentials store address amount (Option.not_isSome_iff_eq_none.mp unknown)

theorem creditRecipient_credentials (store : StateStore) (recipient : Address) (amount : Nat) :
    (creditRecipient env store recipient amount).credentials = store.credentials := by
  unfold creditRecipient
  split
  · exact updateAccount_credentials store recipient fun _ => rfl
  case isFalse unknown =>
    exact insertAccount_credentials store recipient amount (Option.not_isSome_iff_eq_none.mp unknown)

theorem withdraw_credentials (store : StateStore) (address : Address) (amount : Nat) :
    (withdraw env store address amount).credentials = store.credentials :=
  updateAccount_credentials store address fun _ => rfl

theorem refundExit_credentials (store : StateStore) (exit : Address × Nat) :
    (refundExit env store exit).credentials = store.credentials := by
  unfold refundExit
  exact updateAccount_credentials store exit.1 fun _ => rfl

theorem refundExits_credentials (exits : List (Address × Nat)) (store : StateStore) :
    (exits.foldl (refundExit env) store).credentials = store.credentials :=
  List.foldlRecOn exits _ (motive := fun current => current.credentials = store.credentials) rfl
    fun current same exit _ => (refundExit_credentials current exit).trans same

end Credentials

section Transactions

variable {env : Env} {store next : StateStore} {tx : Transaction}

theorem createAccount_live {account : Account} {key : KeyEntry}
    (fresh : store.getAccount account.address = none) (keyed : account.keys = [key])
    (started : key.status = initialKeyStatus store.blockHeight key.validFromHeight)
    (sound : account.checkInvariants = .ok ()) : KeysLive store (store.insertAccount env account) where
  grow := by
    intro address
    simp only [StateStore.credentials, getAccount_insertAccount]
    split
    case isTrue same =>
      rw [← same, fresh]
      refine ⟨fun _ member => absurd member List.not_mem_nil, fun other member => ?_⟩
      have only : other = key := by simpa [Account.credentials, keyed] using member
      exact .inr ⟨fun _ earlier => absurd earlier List.not_mem_nil,
        only ▸ initialKeyStatus_timely started⟩
    case isFalse => exact .refl _ _
  sound := by
    intro before address
    have kept := before address
    simp only [StateStore.credentials, getAccount_insertAccount] at kept ⊢
    split
    · exact fun _ => sound
    · exact kept

theorem updateSender_live {change : Account → Account} {sender : Account} {address : Address}
    (present : store.getAccount address = some sender)
    (keyed : KeyChange store.blockHeight sender.keys (change sender).keys)
    (checked : (change sender).checkInvariants = .ok () ∨
      (change sender).keys = sender.keys ∧
        (change sender).checkInvariants = sender.checkInvariants) :
    KeysLive store ((store.modifyAccount address change).commitAccountMutation env address) where
  grow := by
    intro other
    simp only [StateStore.credentials, getAccount_updateAccount]
    split
    case isTrue same =>
      rw [← same, present]
      exact keyed.grows
    case isFalse => exact .refl _ _
  sound := by
    intro before other
    have kept := before other
    simp only [StateStore.credentials, getAccount_updateAccount] at kept ⊢
    split
    case isTrue same =>
      rw [← same, present] at kept ⊢
      rcases checked with sound | ⟨keys, same⟩
      · exact fun _ => sound
      · exact fun nonempty => same.trans (kept (keys ▸ nonempty))
    case isFalse => exact kept

theorem PayloadEffect.keysLive (effect : PayloadEffect env store tx next) : KeysLive store next := by
  have height := effect.sameTerms.blockHeight
  cases effect with
  | createAccount account fresh empty unused key keyed started sound =>
      exact createAccount_live fresh keyed started sound
  | updateSender change keeps sender present keyed sound =>
      exact updateSender_live present keyed sound
  | transfer sender recipient amount =>
      refine .of_credentials height ?_
      rw [creditRecipient_credentials, withdraw_credentials]
  | register sender record peerId =>
      refine .of_credentials height ?_
      rw [credentials_of_accounts (admitValidator_accounts _ _ _), withdraw_credentials]
  | bindPeer peerId =>
      exact .of_credentials height (credentials_of_accounts (setValidatorPeerId_ledger _ _ _).accounts)
  | slashed record evidence cutoff kind decoded present amount =>
      have pruned := @pruneRecentSlashesBefore_ledger env store cutoff
      refine .of_credentials height ?_
      exact (creditAccount_credentials _ Slashing.treasuryAddress amount).trans
        (credentials_of_accounts pruned.accounts)
  | setStatus | scheduleRotation | anchor | attest | archivalKey | archive | pushAnchor | renew
  | propose | vote => exact .of_credentials rfl (credentials_of_accounts rfl)

theorem applyTx_keysLive {context : ExecutionContext} {result : ExecutionResult}
    (executed : applyTx env store tx context = .ok (next, result)) : KeysLive store next := by
  obtain ⟨working, settled, ran⟩ := applyTx_cases executed
  have charged : KeysLive working next := by
    rw [settled.next_eq]
    exact .of_credentials rfl (updateAccount_credentials working tx.sender fun _ => rfl)
  rcases ran with rfl | effect
  · exact charged
  · exact effect.keysLive.trans charged

theorem advanceHeight_live (store : StateStore) : KeysLive store (store.advanceHeight env) where
  grow := by
    intro address
    simp only [StateStore.credentials, getAccount_advanceHeight]
    cases store.getAccount address with
    | none => exact ⟨by simp [Account.credited, Account.credentials],
        by simp [Account.credited, Account.credentials]⟩
    | some account => exact .of_forall₂ (activateKeys_moves store.blockHeight account.keys)
  sound := by
    intro before address
    have kept := before address
    simp only [StateStore.credentials, getAccount_advanceHeight] at kept ⊢
    cases found : store.getAccount address with
    | none =>
        rw [found] at kept
        exact kept
    | some account =>
        rw [found] at kept
        intro nonempty
        refine checkInvariants_activate (store.blockHeight + 1) (kept ?_)
        rintro empty
        have none : account.keys = [] := empty
        simp [Account.credentials, none, StateStore.activateKeys] at nonempty

end Transactions

end ViperChain
