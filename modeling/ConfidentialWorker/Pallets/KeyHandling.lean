import ConfidentialWorker.Pallets.HookRuns

/-!
# How the hook handles the key

Two promises about the key in local storage, with the exact inputs on which
the code keeps them:

* a key that is missing or no text is an error of the lookup, on which the hook
  exits early.  The lookup panics on bytes that are no text;
* the log does not depend on the key.  One record of the run holds the key, and
  no other record does.
-/

namespace ConfidentialWorker.OffchainWorker

open Program

variable {width : ℕ} {frame : FrameSystem width}

/-! ## Missing and invalid keys -/

def KeyMissingOrInvalid (db : OffchainDb) : Prop :=
  ∀ bytes, storedKey db = some bytes → ¬ Utf8.WellFormed bytes

/-- The hook always gets a result from the lookup, and without a valid key it
returns early: no HTTP call is made and nothing is sent. -/
structure HookContract
    (client : HttpClient (Chain frame)) (blockNumber : BlockNumber width)
    (host : Host (Chain frame)) : Prop where
  getReturns :
    ∃ result : Except String String, getApiKey.outcome host = .ok result
  exitsEarly :
    KeyMissingOrInvalid host.localStorage →
      (offchainWorker client blockNumber).outcome host = .ok ⟨⟩ ∧
        (∀ call ∈ HostM.issued (offchainWorker client blockNumber) host,
          call.isStorage = true) ∧
          ((offchainWorker client blockNumber).final host).sentRequests =
            host.sentRequests

theorem lookupCall_isStorage : lookupCall.isStorage = true :=
  rfl

private theorem hookContract_of_absent
    (client : HttpClient (Chain frame)) (blockNumber : BlockNumber width)
    {host : Host (Chain frame)}
    (absent : storedKey host.localStorage = none) :
    HookContract client blockNumber host := by
  obtain ⟨_, lookup, _⟩ := getApiKey_of_absent absent
  obtain ⟨reached, run, called, _, sameSent⟩ :=
    offchainWorker_of_absent client blockNumber absent
  constructor
  · exact ⟨_, congrArg Prod.fst lookup⟩
  · intro _
    refine ⟨congrArg Prod.fst run, ?_, ?_⟩
    · intro call member
      rw [HostM.issued_of_apply_eq run called] at member
      rw [List.mem_singleton.mp member]
      exact lookupCall_isStorage
    · rw [final, run]
      exact sameSent

private theorem hookContract_of_text
    (client : HttpClient (Chain frame)) (blockNumber : BlockNumber width)
    {host : Host (Chain frame)} {apiKey : String}
    (present : storedKey host.localStorage = some (Utf8.encode apiKey)) :
    HookContract client blockNumber host := by
  constructor
  · exact ⟨_, congrArg Prod.fst (getApiKey_of_text present)⟩
  · intro invalid
    exact False.elim (invalid _ present (Utf8.wellFormed_encode apiKey))

theorem not_hookContract_of_illFormed
    (client : HttpClient (Chain frame)) (blockNumber : BlockNumber width)
    {host : Host (Chain frame)} {bytes : Bytes}
    (present : storedKey host.localStorage = some bytes)
    (illFormed : ¬ Utf8.WellFormed bytes) :
    ¬ HookContract client blockNumber host := by
  intro contract
  obtain ⟨result, returned⟩ := contract.getReturns
  have stopped :
      (getApiKey : HostM (Chain frame) (Except String String)).outcome host =
        .error (.panic "Invalid UTF-8") :=
    congrArg Prod.fst (getApiKey_of_illFormed present illFormed)
  rw [stopped] at returned
  cases returned

theorem hookContract_iff
    (client : HttpClient (Chain frame)) (blockNumber : BlockNumber width)
    (host : Host (Chain frame)) :
    HookContract client blockNumber host ↔
      OffchainApiKey.StoredIsText host.localStorage apiKeyName := by
  rcases OffchainApiKey.stored_cases host.localStorage apiKeyName with
    absent | ⟨apiKey, present⟩ | ⟨bytes, present, illFormed⟩
  · exact
      iff_of_true (hookContract_of_absent client blockNumber absent)
        (OffchainApiKey.storedIsText_of_absent absent)
  · exact
      iff_of_true (hookContract_of_text client blockNumber present)
        (OffchainApiKey.storedIsText_of_text present)
  · exact
      iff_of_false
        (not_hookContract_of_illFormed client blockNumber present illFormed)
        (OffchainApiKey.not_storedIsText present illFormed)

/-- A lookup keeps its promise exactly when what is stored is a text, and the
hook keeps its own exactly when this holds of the worker's key. -/
theorem keyHandling_iff_storedIsText
    (client : HttpClient (Chain frame)) (blockNumber : BlockNumber width)
    (host : Host (Chain frame)) (key : String) :
    (OffchainApiKey.LookupContract host key ↔
        OffchainApiKey.StoredIsText host.localStorage key) ∧
      (HookContract client blockNumber host ↔
        OffchainApiKey.StoredIsText host.localStorage apiKeyName) :=
  ⟨OffchainApiKey.lookupContract_iff_storedIsText host key,
    hookContract_iff client blockNumber host⟩

/-- A store that holds the given bytes under the worker's key. -/
def keyStore (bytes : Bytes) : OffchainDb :=
  OffchainDb.set (fun _ _ => none) .persistent (Utf8.encode apiKeyName) bytes

theorem storedKey_keyStore (bytes : Bytes) :
    storedKey (keyStore bytes) = some bytes := by
  simp [storedKey, OffchainApiKey.stored, keyStore, OffchainDb.set]

/-- A host of a run that permits HTTP and stores the given bytes. -/
def keyHost (bytes : Bytes) : Host (Chain (FrameSystem.listing 32)) :=
  Host.atStart ⟨true⟩ (keyStore bytes) 0
    (OffchainFetcher.answeringExchange (.endOfBody 0)) ⟨[], fun _ => none⟩

theorem keyHandling_fails_on_byte_ff :
    ¬ OffchainApiKey.LookupContract (keyHost [0xFF]) apiKeyName ∧
      ¬ HookContract (HttpClient.reference _) 1 (keyHost [0xFF]) := by
  have present :
      storedKey (keyHost [0xFF]).localStorage = some [0xFF] :=
    storedKey_keyStore [0xFF]
  have illFormed : ¬ Utf8.WellFormed [0xFF] := by
    decide
  constructor
  · rw [OffchainApiKey.lookupContract_iff_storedIsText]
    exact OffchainApiKey.not_storedIsText present illFormed
  · exact not_hookContract_of_illFormed _ _ present illFormed

/-! ## The key in the log -/

/-- Both stores hold a text under the worker's key, and agree elsewhere. -/
structure DifferOnlyInKey
    (left right : OffchainDb) (leftKey rightKey : String) : Prop where
  leftStored : storedKey left = some (Utf8.encode leftKey)
  rightStored : storedKey right = some (Utf8.encode rightKey)
  agree :
    ∀ kind name,
      ¬ (kind = .persistent ∧ name = Utf8.encode apiKeyName) →
        left kind name = right kind name

/-- The log of a run of the hook on this host, with the given store. -/
def workerLog (client : HttpClient (Chain frame))
    (blockNumber : BlockNumber width) (host : Host (Chain frame))
    (db : OffchainDb) : List LogRecord :=
  ((offchainWorker client blockNumber).final
    { host with localStorage := db }).log

/-- The fetch comes to the same for all keys, so that the record of the key is
the only one that tells two keys apart. -/
theorem workerLog_of_text
    {client : HttpClient (Chain frame)} (documented : client.Documented)
    (blockNumber : BlockNumber width) (host : Host (Chain frame)) :
    ∃ later,
      ∀ db apiKey,
        storedKey db = some (Utf8.encode apiKey) →
          workerLog client blockNumber host db =
            host.log ++ [pingRecord, keyRecord apiKey] ++ later := by
  cases permits : host.capabilities.http with
  | false =>
      refine ⟨[], ?_⟩
      intro db apiKey present
      have run :
          offchainWorker client blockNumber { host with localStorage := db } =
            _ :=
        offchainWorker_of_missing documented blockNumber permits present
      rw [workerLog, final, run]
      simp [keyLogged]
  | true =>
      obtain ⟨result, _, _, _, _, _, expected, _⟩ :=
        fetchString_authenticated documented "" permits
      refine
        ⟨[responseRecord result, blockRecord host.chain blockNumber], ?_⟩
      intro db apiKey present
      have dbPermits :
          ({ host with localStorage := db } : Host _).capabilities.http =
            true :=
        permits
      obtain ⟨found, reached, _, run, _, _, fetchResult, logged, _⟩ :=
        offchainWorker_of_permits documented blockNumber dbPermits present
      rw [workerLog, final, run, logged,
        fetchResult_unique fetchResult expected]
      simp

private theorem keyRecord_injective : Function.Injective keyRecord := by
  intro left right same
  have sameMessage :
      "API key retrieved: " ++ left = "API key retrieved: " ++ right :=
    congrArg LogRecord.message same
  exact (String.append_right_inj _).mp sameMessage

/-- Two runs on stores that differ in the key alone write the same log exactly
when the keys do not differ. -/
theorem workerLog_eq_iff
    {client : HttpClient (Chain frame)} (documented : client.Documented)
    (blockNumber : BlockNumber width) (host : Host (Chain frame))
    {left right : OffchainDb} {leftKey rightKey : String}
    (differ : DifferOnlyInKey left right leftKey rightKey) :
    workerLog client blockNumber host left =
        workerLog client blockNumber host right ↔
      leftKey = rightKey := by
  obtain ⟨later, logged⟩ := workerLog_of_text documented blockNumber host
  rw [logged left leftKey differ.leftStored,
    logged right rightKey differ.rightStored]
  constructor
  · intro sameLog
    have sameRecord : keyRecord leftKey = keyRecord rightKey := by
      simpa using sameLog
    exact keyRecord_injective sameRecord
  · intro sameKey
    rw [sameKey]

/-- The stores of the two keys differ in nothing else. -/
private theorem keyStore_differOnlyInKey (leftKey rightKey : String) :
    DifferOnlyInKey (keyStore (Utf8.encode leftKey))
      (keyStore (Utf8.encode rightKey)) leftKey rightKey where
  leftStored := storedKey_keyStore _
  rightStored := storedKey_keyStore _
  agree kind name elsewhere := by
    simp [keyStore, OffchainDb.set, elsewhere]

theorem workerLog_tells_keys_apart :
    DifferOnlyInKey (keyStore (Utf8.encode "alpha"))
        (keyStore (Utf8.encode "omega")) "alpha" "omega" ∧
      workerLog (HttpClient.reference _) 1 (keyHost [])
          (keyStore (Utf8.encode "alpha")) ≠
        workerLog (HttpClient.reference _) 1 (keyHost [])
          (keyStore (Utf8.encode "omega")) := by
  refine ⟨keyStore_differOnlyInKey _ _, ?_⟩
  intro sameLog
  obtain ⟨later, logged⟩ :=
    workerLog_of_text HttpClient.reference_documented
      (1 : BlockNumber 32) (keyHost [])
  rw [logged _ "alpha" (storedKey_keyStore _),
    logged _ "omega" (storedKey_keyStore _)] at sameLog
  have sameRecord : keyRecord "alpha" = keyRecord "omega" := by
    simpa using sameLog
  have differentKeys : "alpha" ≠ "omega" := by
    decide
  exact differentKeys (keyRecord_injective sameRecord)

theorem workerLog_eq_iff_of_alpha_omega :
    workerLog (HttpClient.reference _) 1 (keyHost [])
          (keyStore (Utf8.encode "alpha")) =
        workerLog (HttpClient.reference _) 1 (keyHost [])
          (keyStore (Utf8.encode "omega")) ↔
      "alpha" = "omega" :=
  workerLog_eq_iff HttpClient.reference_documented 1 (keyHost [])
    (keyStore_differOnlyInKey "alpha" "omega")

end ConfidentialWorker.OffchainWorker
