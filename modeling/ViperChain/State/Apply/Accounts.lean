import ViperChain.State.Apply.Payload

/-!
Handlers that write accounts: vault creation and policy, token transfer, and the key set
of the sender.
-/

namespace ViperChain

open Fallible Payload

variable (env : Env)

section Vault

structure VaultCreateFields where
  algId : Option Nat := none
  pkBytes : Option Bytes := none
  allowedTxTypes : Option Nat := none
  validFromHeight : Option Nat := none

structure VaultCreatePayload where
  algId : Nat
  pkBytes : Bytes
  allowedTxTypes : Nat
  validFromHeight : Nat

def vaultCreateField (key : Int) (value : Value) (fields : VaultCreateFields) :
    Except ApplyError VaultCreateFields :=
  match key with
  | 1 => do return { fields with algId := some (← expectUint 16 "alg_id" value) }
  | 2 => do return { fields with pkBytes := some (← expectBytes value) }
  | 3 => do return { fields with allowedTxTypes := some (← expectUint 32 "allowed_tx_types" value) }
  | 4 => do return { fields with validFromHeight := some (← expectUint 64 "valid_from_height" value) }
  | 5 => return fields
  | _ => unknownKey key

def decodeVaultCreatePayload (payload : Bytes) : Except ApplyError VaultCreatePayload := do
  let fields ← strictFields env payload vaultCreateField {}
  let algId ← required fields.algId "1 (alg_id)"
  let pkBytes ← required fields.pkBytes "2 (pk_bytes)"
  let allowedTxTypes ← required fields.allowedTxTypes "3 (allowed_tx_types)"
  let validFromHeight ← required fields.validFromHeight "4 (valid_from_height)"
  return { algId, pkBytes, allowedTxTypes, validFromHeight }

def deriveAddress (chainId : Bytes) (algId : AlgId) (pkBytes : Bytes) : Address :=
  taggedHash env (ascii "VIPER-ADDR-V1") (chainId ++ be16 algId.asU16 ++ pkBytes)

def initialKeyStatus (blockHeight validFromHeight : Nat) : KeyStatus :=
  if validFromHeight ≤ blockHeight then .active else .pending

def applyVaultCreate (store : StateStore) (tx : Transaction) : Except ApplyError StateStore := do
  let payload ← decodeVaultCreatePayload env tx.payload
  let algId ← okOr (AlgId.fromU16 payload.algId) .unsupportedAlgorithm
  let entry ← okOr (store.algEntry algId) .unsupportedAlgorithm
  require (entry.lifecycle = .active) .unsupportedAlgorithm
  require (payload.pkBytes.length = entry.pkSize) .invalidKeySize
  require (algId ≠ .slhDsaSha2128s || payload.allowedTxTypes = AllowedTx.slhDsaOnly)
    .invalidKeyPermissions
  let newAddress := deriveAddress env store.chainId algId payload.pkBytes
  require (store.getAccount newAddress).isNone .accountExists
  let key : KeyEntry :=
    { algId, pkBytes := payload.pkBytes, keyVersion := 1, validFromHeight := payload.validFromHeight,
      status := initialKeyStatus store.blockHeight payload.validFromHeight,
      allowedTxTypes := payload.allowedTxTypes }
  let account := { Account.credited newAddress 0 with keys := [key] }
  account.checkInvariants.mapError fun violated => .payloadDecode violated.message
  return store.insertAccount env account

structure VaultPolicyUpdateFields where
  policyVersion : Option Nat := none
  policyHash : Option Bytes32 := none

def vaultPolicyUpdateField (key : Int) (value : Value) (fields : VaultPolicyUpdateFields) :
    Except ApplyError VaultPolicyUpdateFields :=
  match key with
  | 1 => do return { fields with policyVersion := some (← expectUint 32 "policy_version" value) }
  | 2 => do return { fields with policyHash := some (← expectHash32 value) }
  | 3 => return fields
  | _ => unknownKey key

def decodeVaultPolicyUpdatePayload (payload : Bytes) : Except ApplyError (Nat × Bytes32) := do
  let fields ← strictFields env payload vaultPolicyUpdateField {}
  let policyVersion ← required fields.policyVersion "1 (policy_version)"
  let policyHash ← required fields.policyHash "2 (policy_hash)"
  return (policyVersion, policyHash)

def applyVaultPolicyUpdate (store : StateStore) (tx : Transaction) :
    Except ApplyError StateStore := do
  let (policyVersion, policyHash) ← decodeVaultPolicyUpdatePayload env tx.payload
  let sender ← okOr (store.getAccount tx.sender) .insufficientFunds
  require (sender.policyVersion < policyVersion) .policyVersionConflict
  return (store.modifyAccount tx.sender fun account =>
      { account with policyVersion, policyHash := some policyHash })
    |>.commitAccountMutation env tx.sender

end Vault

section Transfer

structure TokenTransferFields where
  recipient : Option Bytes := none
  amount : Option Nat := none

/-- `expect_u128`: an integer or sixteen bytes. -/
def expectU128 (value : Value) : Except ApplyError Nat :=
  match value with
  | .integer _ => okOr (value.asUint? 128) (.payloadDecode "amount out of u128 range")
  | .bytes content =>
      if content.length = 16 then .ok (ofBeBytes content)
      else .error (.payloadDecode
        s!"amount bytestring must be exactly 16 bytes, got {content.length}")
  | _ => .error (.payloadDecode "amount must be integer or 16-byte bytestring")

def tokenTransferField (key : Int) (value : Value) (fields : TokenTransferFields) :
    Except ApplyError TokenTransferFields :=
  match key with
  | 1 => do return { fields with recipient := some (← expectBytes value) }
  | 2 => do return { fields with amount := some (← expectU128 value) }
  | 3 => return fields
  | _ => unknownKey key

def decodeTokenTransferPayload (payload : Bytes) : Except ApplyError (Address × Nat) := do
  let fields ← strictFields env payload tokenTransferField {}
  let recipientBytes ← required fields.recipient "1 (recipient)"
  let recipient ← okOr (Bytes32.ofBytes? recipientBytes) .invalidRecipient
  let amount ← required fields.amount "2 (amount)"
  return (recipient, amount)

def creditRecipient (store : StateStore) (recipient : Address) (amount : Nat) : StateStore :=
  if (store.getAccount recipient).isSome then
    (store.modifyAccount recipient fun account => { account with balance := account.balance + amount })
      |>.commitAccountMutation env recipient
  else store.insertAccount env (.credited recipient amount)

def applyTokenTransfer (store : StateStore) (tx : Transaction) : Except ApplyError StateStore := do
  let (recipient, amount) ← decodeTokenTransferPayload env tx.payload
  require (amount ≠ 0) .transferAmountZero
  require (tx.sender ≠ recipient) .selfTransfer
  let sender ← okOr (store.getAccount tx.sender) .insufficientFunds
  require (amount ≤ sender.balance) .insufficientFunds
  return creditRecipient env (withdraw env store tx.sender amount) recipient amount

end Transfer

section KeyManagement

structure NewKeyFields where
  algId : Option Nat := none
  pkBytes : Option Bytes := none
  keyVersion : Option Nat := none
  validFromHeight : Option Nat := none
  allowedTxTypes : Option Nat := none
  revokeKeyVersion : Option Nat := none

structure NewKeyPayload where
  algId : Nat
  pkBytes : Bytes
  keyVersion : Nat
  validFromHeight : Nat
  allowedTxTypes : Nat

def newKeyField (label : String) (key : Int) (value : Value) (fields : NewKeyFields) :
    Except ApplyError NewKeyFields :=
  match key with
  | 1 => do return { fields with algId := some (← expectUint 16 s!"{label}alg_id" value) }
  | 2 => do return { fields with pkBytes := some (← expectBytes value) }
  | 3 => do return { fields with keyVersion := some (← expectUint 32 s!"{label}key_version" value) }
  | 4 => do
      return { fields with
        validFromHeight := some (← expectUint 64 s!"{label}valid_from_height" value) }
  | 5 => do
      return { fields with
        allowedTxTypes := some (← expectUint 32 s!"{label}allowed_tx_types" value) }
  | _ => unknownKey key

def newKeyPayload (label : String) (fields : NewKeyFields) : Except ApplyError NewKeyPayload := do
  let algId ← required fields.algId s!"1 ({label}alg_id)"
  let pkBytes ← required fields.pkBytes s!"2 ({label}pk_bytes)"
  let keyVersion ← required fields.keyVersion s!"3 ({label}key_version)"
  let validFromHeight ← required fields.validFromHeight s!"4 ({label}valid_from_height)"
  let allowedTxTypes ← required fields.allowedTxTypes s!"5 ({label}allowed_tx_types)"
  return { algId, pkBytes, keyVersion, validFromHeight, allowedTxTypes }

def decodeKeyAddPayload (payload : Bytes) : Except ApplyError NewKeyPayload := do
  let fields ← strictFieldsKeysFirst env payload (newKeyField "") {}
  newKeyPayload "" fields

def keyRotateField (key : Int) (value : Value) (fields : NewKeyFields) :
    Except ApplyError NewKeyFields :=
  match key with
  | 6 => do
      return { fields with revokeKeyVersion := some (← expectUint 32 "revoke_key_version" value) }
  | _ => newKeyField "new_" key value fields

def decodeKeyRotatePayload (payload : Bytes) : Except ApplyError (NewKeyPayload × Nat) := do
  let fields ← strictFieldsKeysFirst env payload keyRotateField {}
  let newKey ← newKeyPayload "new_" fields
  let revokeKeyVersion ← required fields.revokeKeyVersion "6 (revoke_key_version)"
  return (newKey, revokeKeyVersion)

def decodeKeyRevokePayload (payload : Bytes) : Except ApplyError Nat := do
  let target ← strictFieldsKeysFirst env payload
    (fun key value _ =>
      match key with
      | 1 => do return some (← expectUint 32 "target_key_version" value)
      | _ => unknownKey key)
    none
  required target "1 (target_key_version)"

def buildNewKeyEntry (store : StateStore) (payload : NewKeyPayload) : Except ApplyError KeyEntry := do
  let algId ← okOr (AlgId.fromU16 payload.algId) .unsupportedAlgorithm
  let entry ← okOr (store.algEntry algId) .unsupportedAlgorithm
  require (entry.lifecycle = .active) .unsupportedAlgorithm
  require (payload.pkBytes.length = entry.pkSize) .invalidKeySize
  require (store.blockHeight ≤ payload.validFromHeight) .invalidActivationHeight
  require (algId ≠ .slhDsaSha2128s || payload.allowedTxTypes = AllowedTx.slhDsaOnly)
    .invalidKeyPermissions
  return { algId, pkBytes := payload.pkBytes, keyVersion := payload.keyVersion,
           validFromHeight := payload.validFromHeight,
           status := initialKeyStatus store.blockHeight payload.validFromHeight,
           allowedTxTypes := payload.allowedTxTypes }

def ensureAccountInvariants (account : Account) : Except ApplyError Unit :=
  account.checkInvariants.mapError fun violated =>
    match violated with
    | .noActiveKey => .insufficientActiveKeys
    | .duplicateVersions => .keyVersionConflict
    | .eoaAuthData => .payloadDecode AccountInvariant.eoaAuthData.message

def maxKeyVersion (keys : KeySet) : Nat := (keys.map KeyEntry.keyVersion).foldl max 0

def revokeKey (keyVersion : Nat) : KeySet → KeySet
  | [] => []
  | key :: rest =>
      if key.keyVersion = keyVersion then { key with status := .revoked } :: rest
      else key :: revokeKey keyVersion rest

/-- The common end of the three handlers: the sender's keys are replaced in place, the
account invariants are checked, and the leaf is committed. -/
def replaceKeys (store : StateStore) (sender : Account) (address : Address) (keys : KeySet) :
    Except ApplyError StateStore := do
  ensureAccountInvariants { sender with keys }
  return (store.modifyAccount address fun account => { account with keys })
    |>.commitAccountMutation env address

def applyKeyAdd (store : StateStore) (tx : Transaction) : Except ApplyError StateStore := do
  let payload ← decodeKeyAddPayload env tx.payload
  let newKey ← buildNewKeyEntry store payload
  let sender ← okOr (store.getAccount tx.sender) .keyNotFound
  require (newKey.keyVersion ≠ 0 && maxKeyVersion sender.keys < newKey.keyVersion) .keyVersionConflict
  replaceKeys env store sender tx.sender (sender.keys ++ [newKey])

def applyKeyRotate (store : StateStore) (tx : Transaction) : Except ApplyError StateStore := do
  let (payload, revokeKeyVersion) ← decodeKeyRotatePayload env tx.payload
  let newKey ← buildNewKeyEntry store payload
  let sender ← okOr (store.getAccount tx.sender) .keyNotFound
  require (newKey.keyVersion ≠ 0 && maxKeyVersion sender.keys < newKey.keyVersion) .keyVersionConflict
  require (revokeKeyVersion ≠ newKey.keyVersion) .invalidKeyRotation
  let target ← okOr (sender.keys.find? fun key => key.keyVersion = revokeKeyVersion) .keyNotFound
  require (target.status ≠ .revoked) .keyAlreadyRevoked
  require (target.status ≠ .pending) .invalidKeyRotation
  replaceKeys env store sender tx.sender (revokeKey revokeKeyVersion sender.keys ++ [newKey])

def applyKeyRevoke (store : StateStore) (tx : Transaction) : Except ApplyError StateStore := do
  let targetKeyVersion ← decodeKeyRevokePayload env tx.payload
  require (targetKeyVersion ≠ tx.sigKeyVersion) .signerIsTarget
  let sender ← okOr (store.getAccount tx.sender) .keyNotFound
  let target ← okOr (sender.keys.find? fun key => key.keyVersion = targetKeyVersion) .keyNotFound
  require (target.status ≠ .revoked) .keyAlreadyRevoked
  replaceKeys env store sender tx.sender (revokeKey targetKeyVersion sender.keys)

end KeyManagement

end ViperChain
