import ConfidentialWorker.Runtime.BlockHashes
import ConfidentialWorker.Runtime.Era

/-!
# Signed transactions

`create_transaction` signs a call for submission from an off-chain worker.  The
signed payload is made of the call, the signed extensions, and what these add
from the state of the chain: versions, the genesis hash, and the hash of the
block at which the era begins.  When an extrinsic is checked, the payload is
built again from the state at that time.

The payload, the signature scheme and the check are parts of `sp_runtime` and
`frame_system`.  They are the parameter `SigningLibrary`, and
`SigningLibrary.Documented` states what is documented about them: a signature
is valid for what was signed.  Extensions without data are left out.
-/

namespace ConfidentialWorker

abbrev Index := UInt32

structure RuntimeVersion where
  specVersion : UInt32
  transactionVersion : UInt32
  deriving DecidableEq, Repr

/-- The version of the runtime. -/
def version : RuntimeVersion :=
  ⟨1, 1⟩

/-- The extensions with data: `CheckEra`, `CheckNonce` and
`ChargeTransactionPayment`. -/
structure SignedExtra (Era : Type) where
  era : Era
  nonce : Index
  tip : ℕ
  deriving DecidableEq

/-- What `CheckSpecVersion`, `CheckTxVersion`, `CheckGenesis` and `CheckEra`
add to the payload. -/
structure AdditionalSigned (Hash : Type) where
  specVersion : UInt32
  transactionVersion : UInt32
  genesisHash : Hash
  eraHash : Hash
  deriving DecidableEq

structure SignedPayload (Call Era Hash : Type) where
  call : Call
  extra : SignedExtra Era
  additionalSigned : AdditionalSigned Hash
  deriving DecidableEq

inductive MultiAddress (AccountId : Type) where
  | id (account : AccountId)
  deriving DecidableEq

structure UncheckedExtrinsic (Call AccountId Signature Era : Type) where
  call : Call
  address : MultiAddress AccountId
  signature : Signature
  extra : SignedExtra Era

inductive InvalidTransaction where
  | ancientBirthBlock
  | badProof
  deriving DecidableEq, Repr

/-- The parts of `sp_runtime` and `frame_system` that sign and check
extrinsics. -/
structure SigningLibrary (eras : EraLibrary) (store : BlockStore) where
  Call : Type
  Public : Type
  AccountId : Type
  Signature : Type
  Encoded : Type
  noHash : store.Hash
  intoAccount : Public → AccountId
  newPayload :
    Call → SignedExtra eras.Era → store.State →
      Except InvalidTransaction (SignedPayload Call eras.Era store.Hash)
  usingEncoded : SignedPayload Call eras.Era store.Hash → Encoded
  sign : Encoded → Public → Option Signature
  verify : Signature → Encoded → AccountId → Bool
  check :
    UncheckedExtrinsic Call AccountId Signature eras.Era → store.State →
      Except InvalidTransaction Unit

namespace SigningLibrary

variable {eras : EraLibrary} {store : BlockStore}

/-- What the extensions add in a state; the era must begin at a block whose
hash is stored. -/
def additionalSigned (noHash : store.Hash) (extra : SignedExtra eras.Era)
    (state : store.State) :
    Except InvalidTransaction (AdditionalSigned store.Hash) :=
  let current := Unsigned.saturated 64 (store.blockNumber state)
  let birth := Unsigned.saturated 32 (eras.birth extra.era current)
  match store.blockHash state birth with
  | none => .error .ancientBirthBlock
  | some eraHash =>
      .ok
        { specVersion := version.specVersion
          transactionVersion := version.transactionVersion
          genesisHash := (store.blockHash state 0).getD noHash
          eraHash := eraHash }

/-- The documented behaviour of the library. -/
structure Documented (lib : SigningLibrary eras store) : Prop where
  newPayload_eq : ∀ call extra state,
    lib.newPayload call extra state =
      (additionalSigned lib.noHash extra state).map
        fun additional => ⟨call, extra, additional⟩
  verify_signed : ∀ {encoded signer signature},
    lib.sign encoded signer = some signature →
      lib.verify signature encoded (lib.intoAccount signer) = true
  check_eq : ∀ call account signature extra state,
    lib.check ⟨call, .id account, signature, extra⟩ state =
      match lib.newPayload call extra state with
      | .error error => .error error
      | .ok payload =>
          if lib.verify signature (lib.usingEncoded payload) account then
            .ok ()
          else
            .error .badProof

/-- A library whose signatures are the payload and the account that signed it.
Calls and keys are numbers, and every key is its own account. -/
def ideal (eras : EraLibrary) (store : BlockStore) (noHash : store.Hash)
    [DecidableEq eras.Era] [DecidableEq store.Hash] :
    SigningLibrary eras store where
  Call := ℕ
  Public := ℕ
  AccountId := ℕ
  Signature := SignedPayload ℕ eras.Era store.Hash × ℕ
  Encoded := SignedPayload ℕ eras.Era store.Hash
  noHash := noHash
  intoAccount signer := signer
  newPayload call extra state :=
    (additionalSigned noHash extra state).map
      fun additional => ⟨call, extra, additional⟩
  usingEncoded payload := payload
  sign encoded signer := some (encoded, signer)
  verify signature presented account :=
    decide (presented = signature.1 ∧ account = signature.2)
  check extrinsic state :=
    match extrinsic.address with
    | .id account =>
        match additionalSigned noHash extrinsic.extra state with
        | .error error => .error error
        | .ok additional =>
            if decide
                (⟨extrinsic.call, extrinsic.extra, additional⟩ =
                    extrinsic.signature.1 ∧
                  account = extrinsic.signature.2)
            then .ok ()
            else .error .badProof

theorem ideal_verify_iff
    {noHash : store.Hash} [DecidableEq eras.Era] [DecidableEq store.Hash]
    (signature : (ideal eras store noHash).Signature)
    (presented : (ideal eras store noHash).Encoded)
    (account : (ideal eras store noHash).AccountId) :
    (ideal eras store noHash).verify signature presented account = true ↔
      presented = signature.1 ∧ account = signature.2 := by
  simp only [ideal, decide_eq_true_eq]

theorem ideal_documented
    (noHash : store.Hash) [DecidableEq eras.Era] [DecidableEq store.Hash] :
    (ideal eras store noHash).Documented where
  newPayload_eq _ _ _ := rfl
  verify_signed := by
    intro encoded signer signature signed
    cases signed
    exact (ideal_verify_iff _ _ _).mpr ⟨rfl, rfl⟩
  check_eq := by
    intro call account signature extra state
    simp only [ideal]
    cases additionalSigned noHash extra state with
    | error error =>
        rfl
    | ok additional =>
        rfl

end SigningLibrary

/-- Build and sign an extrinsic for a call. -/
def createTransaction {eras : EraLibrary} {store : BlockStore}
    (lib : SigningLibrary eras store) (blockHashCount : UInt32)
    (state : store.State) (call : lib.Call) (signer : lib.Public)
    (account : lib.AccountId) (nonce : Index) :
    Option
      (UncheckedExtrinsic lib.Call lib.AccountId lib.Signature eras.Era) :=
  let extra : SignedExtra eras.Era :=
    { era := transactionEra eras blockHashCount (store.blockNumber state)
      nonce := nonce
      tip := 0 }
  match lib.newPayload call extra state with
  | .error _ => none
  | .ok rawPayload =>
      match lib.sign (lib.usingEncoded rawPayload) signer with
      | none => none
      | some signature =>
          some ⟨rawPayload.call, .id account, signature, rawPayload.extra⟩

section Signed

variable {eras : EraLibrary} {store : BlockStore}
  {lib : SigningLibrary eras store} (documented : lib.Documented)
include documented

/-- An extrinsic that is created is signed over its own payload. -/
theorem signed_of_created
    {blockHashCount : UInt32} {state : store.State} {call : lib.Call}
    {signer : lib.Public} {account : lib.AccountId} {nonce : Index}
    {extrinsic : UncheckedExtrinsic lib.Call lib.AccountId lib.Signature eras.Era}
    (created :
      createTransaction lib blockHashCount state call signer account nonce =
        some extrinsic) :
    ∃ additional signature,
      extrinsic =
          ⟨call, .id account, signature,
            transactionEra eras blockHashCount (store.blockNumber state),
            nonce, 0⟩ ∧
        SigningLibrary.additionalSigned lib.noHash extrinsic.extra state =
            .ok additional ∧
          lib.sign (lib.usingEncoded ⟨call, extrinsic.extra, additional⟩)
              signer =
            some signature := by
  unfold createTransaction at created
  simp only [documented.newPayload_eq] at created
  generalize built :
    SigningLibrary.additionalSigned lib.noHash
        ⟨transactionEra eras blockHashCount (store.blockNumber state), nonce, 0⟩
        state =
      added at created
  cases added with
  | error error =>
      cases created
  | ok additional =>
      simp only [Except.map] at created
      generalize signing :
        lib.sign
            (lib.usingEncoded
              ⟨call,
                ⟨transactionEra eras blockHashCount (store.blockNumber state),
                  nonce, 0⟩,
                additional⟩)
            signer =
          signed at created
      cases signed with
      | none =>
          cases created
      | some signature =>
          cases created
          exact ⟨additional, signature, rfl, built, signing⟩

/-- A signed extrinsic is valid in the states in which its signature is one of
the payload that is built again. -/
theorem check_ok_iff
    {call : lib.Call} {account : lib.AccountId} {signature : lib.Signature}
    {extra : SignedExtra eras.Era} {state : store.State} :
    lib.check ⟨call, .id account, signature, extra⟩ state = .ok () ↔
      ∃ current,
        SigningLibrary.additionalSigned lib.noHash extra state =
            .ok current ∧
          lib.verify signature (lib.usingEncoded ⟨call, extra, current⟩)
              account =
            true := by
  rw [documented.check_eq, documented.newPayload_eq]
  cases SigningLibrary.additionalSigned lib.noHash extra state with
  | error error =>
      simp [Except.map]
  | ok current =>
      simp only [Except.map, Except.ok.injEq, exists_eq_left']
      cases lib.verify signature (lib.usingEncoded ⟨call, extra, current⟩)
          account with
      | true =>
          exact iff_of_true rfl rfl
      | false =>
          exact
            iff_of_false (fun accepted => by cases accepted)
              Bool.false_ne_true

end Signed

end ConfidentialWorker
