import ConfidentialWorker.Host.Evaluation

/-!
# `offchain-utils`: API keys in local storage

The trait `OffchainApiKey` keeps API keys in the persistent local storage of
the node, under the bytes of a name.  A stored value is any byte string: the
node's RPC writes bytes, not texts.
-/

namespace ConfidentialWorker.OffchainApiKey

open Program

variable {χ : Type}

/-- Fetch the raw key string from local offchain storage. -/
def doFetchLocal (key : String) : HostM χ (Option String) := do
  match ← HostM.localStorageGet .persistent (Utf8.encode key) with
  | some apiKeyBytes =>
      match Utf8.decode apiKeyBytes with
      | some apiKey => pure (some apiKey)
      -- `String::from_utf8(api_key_bytes).expect(..)`
      | none => HostM.panic "Invalid UTF-8"
  | none =>
      HostM.log .error "offchain_utils::offchain_api_key"
        "API key not found in offchain storage"
      pure none

def missingOrInvalid : String := "Missing or invalid API key"

/-- Fetch the API key for a given `key`. -/
def fetchApiKeyForRequest (key : String) :
    HostM χ (Except String String) := do
  match ← doFetchLocal key with
  | some apiKey => pure (.ok apiKey)
  | none => pure (.error missingOrInvalid)

/-- Store an API key in local offchain storage for a given `key`. -/
def storeApiKey (key value : String) : HostM χ PUnit :=
  HostM.localStorageSet .persistent (Utf8.encode key) (Utf8.encode value)

/-! ## Evaluation -/

/-- What is stored under a name. -/
def stored (db : OffchainDb) (key : String) : Option Bytes :=
  db .persistent (Utf8.encode key)

/-- The host once the key has been asked for. -/
def asked (key : String) (host : Host χ) : Host χ :=
  { host with
    calls := host.calls ++ [.localStorageGet .persistent (Utf8.encode key)] }

private theorem localStorageGet_apply (key : String) (host : Host χ) :
    HostM.localStorageGet .persistent (Utf8.encode key) host =
      (.ok (stored host.localStorage key), asked key host) :=
  HostM.call_answer_apply (by simp [HostCall.needsHttp]) _

private theorem doFetchLocal_of_absent
    {key : String} {host : Host χ}
    (absent : stored host.localStorage key = none) :
    ∃ reached,
      doFetchLocal key host = (.ok none, reached) ∧
        reached.calls = (asked key host).calls ∧
          reached.log =
            host.log ++
              [⟨.error, "offchain_utils::offchain_api_key",
                "API key not found in offchain storage"⟩] := by
  have lookup := localStorageGet_apply key host
  rw [absent] at lookup
  exact ⟨_, bind_of_ok lookup _, rfl, rfl⟩

private theorem doFetchLocal_of_text
    {key text : String} {host : Host χ}
    (present : stored host.localStorage key = some (Utf8.encode text)) :
    doFetchLocal key host = (.ok (some text), asked key host) := by
  have lookup := localStorageGet_apply key host
  rw [present] at lookup
  rw [doFetchLocal, bind_of_ok lookup]
  simp only [Utf8.decode_encode]
  rfl

/-- Bytes that are no text stop the run: the `expect` on the decoded string
panics before the missing key could be reported. -/
private theorem doFetchLocal_of_illFormed
    {key : String} {bytes : Bytes} {host : Host χ}
    (present : stored host.localStorage key = some bytes)
    (illFormed : ¬ Utf8.WellFormed bytes) :
    doFetchLocal key host =
      (.error (.panic "Invalid UTF-8"), asked key host) := by
  have lookup := localStorageGet_apply key host
  rw [present] at lookup
  rw [doFetchLocal, bind_of_ok lookup]
  simp only [Utf8.decode_eq_none_iff.mpr illFormed]
  rfl

/-- Every stored value is absent, a text, or no text at all. -/
theorem stored_cases (db : OffchainDb) (key : String) :
    stored db key = none ∨
      (∃ text, stored db key = some (Utf8.encode text)) ∨
        ∃ bytes, stored db key = some bytes ∧ ¬ Utf8.WellFormed bytes := by
  cases found : stored db key with
  | none =>
      exact Or.inl rfl
  | some bytes =>
      by_cases wellFormed : Utf8.WellFormed bytes
      · obtain ⟨text, encoded⟩ := Utf8.wellFormed_iff.mp wellFormed
        exact Or.inr (Or.inl ⟨text, by rw [encoded]⟩)
      · exact Or.inr (Or.inr ⟨bytes, rfl, wellFormed⟩)

theorem fetchApiKeyForRequest_of_absent
    {key : String} {host : Host χ}
    (absent : stored host.localStorage key = none) :
    ∃ reached,
      fetchApiKeyForRequest key host =
          (.ok (.error missingOrInvalid), reached) ∧
        reached.calls = (asked key host).calls ∧
          reached.log =
            host.log ++
              [⟨.error, "offchain_utils::offchain_api_key",
                "API key not found in offchain storage"⟩] := by
  obtain ⟨reached, lookup, called, logged⟩ := doFetchLocal_of_absent absent
  exact ⟨reached, bind_of_ok lookup _, called, logged⟩

theorem fetchApiKeyForRequest_of_text
    {key text : String} {host : Host χ}
    (present : stored host.localStorage key = some (Utf8.encode text)) :
    fetchApiKeyForRequest key host = (.ok (.ok text), asked key host) :=
  bind_of_ok (doFetchLocal_of_text present) _

theorem fetchApiKeyForRequest_of_illFormed
    {key : String} {bytes : Bytes} {host : Host χ}
    (present : stored host.localStorage key = some bytes)
    (illFormed : ¬ Utf8.WellFormed bytes) :
    fetchApiKeyForRequest key host =
      (.error (.panic "Invalid UTF-8"), asked key host) :=
  bind_of_error (doFetchLocal_of_illFormed present illFormed) _

/-! ## What a lookup promises -/

/-- A lookup returns the text stored under the key, and reports the key as
missing or invalid when nothing or no text is stored there. -/
structure LookupContract (host : Host χ) (key : String) : Prop where
  returns : ∃ result, (fetchApiKeyForRequest key).outcome host = .ok result
  ok_iff :
    ∀ text,
      (fetchApiKeyForRequest key).outcome host = .ok (.ok text) ↔
        ∃ bytes,
          stored host.localStorage key = some bytes ∧
            Utf8.WellFormed bytes ∧ Utf8.decode bytes = some text
  error_iff :
    (fetchApiKeyForRequest key).outcome host =
        .ok (.error missingOrInvalid) ↔
      stored host.localStorage key = none ∨
        ∃ bytes,
          stored host.localStorage key = some bytes ∧
            ¬ Utf8.WellFormed bytes

/-- Whatever is stored under the key is a text. -/
def StoredIsText (db : OffchainDb) (key : String) : Prop :=
  ∀ bytes, stored db key = some bytes → Utf8.WellFormed bytes

theorem storedIsText_of_absent
    {db : OffchainDb} {key : String} (absent : stored db key = none) :
    StoredIsText db key := by
  intro bytes present
  rw [absent] at present
  cases present

theorem storedIsText_of_text
    {db : OffchainDb} {key text : String}
    (present : stored db key = some (Utf8.encode text)) :
    StoredIsText db key := by
  intro bytes found
  rw [present] at found
  cases found
  exact Utf8.wellFormed_encode text

theorem not_storedIsText
    {db : OffchainDb} {key : String} {bytes : Bytes}
    (present : stored db key = some bytes)
    (illFormed : ¬ Utf8.WellFormed bytes) :
    ¬ StoredIsText db key :=
  fun isText => illFormed (isText bytes present)

theorem lookupContract_iff_storedIsText (host : Host χ) (key : String) :
    LookupContract host key ↔ StoredIsText host.localStorage key := by
  rcases stored_cases host.localStorage key with
    absent | ⟨text, present⟩ | ⟨bytes, present, illFormed⟩
  · obtain ⟨reached, run, _⟩ := fetchApiKeyForRequest_of_absent absent
    have answered :
        (fetchApiKeyForRequest key).outcome host =
          .ok (.error missingOrInvalid) :=
      congrArg Prod.fst run
    refine
      iff_of_true ⟨⟨_, answered⟩, ?_, ?_⟩ (storedIsText_of_absent absent)
    · intro text
      simp [answered, absent]
    · simp [answered, absent]
  · have answered :
        (fetchApiKeyForRequest key).outcome host = .ok (.ok text) :=
      congrArg Prod.fst (fetchApiKeyForRequest_of_text present)
    have wellFormed := Utf8.wellFormed_encode text
    refine
      iff_of_true ⟨⟨_, answered⟩, ?_, ?_⟩ (storedIsText_of_text present)
    · intro asked
      simp [answered, present, wellFormed]
    · simp [answered, present, wellFormed]
  · refine iff_of_false ?_ (not_storedIsText present illFormed)
    intro contract
    obtain ⟨result, answered⟩ := contract.returns
    have stopped :
        (fetchApiKeyForRequest key).outcome host =
          .error (.panic "Invalid UTF-8") :=
      congrArg Prod.fst (fetchApiKeyForRequest_of_illFormed present illFormed)
    rw [stopped] at answered
    cases answered

/-! ## Storing a key -/

theorem storeApiKey_apply (key value : String) (host : Host χ) :
    storeApiKey key value host =
      (.ok ⟨⟩,
        { host with
          calls :=
            host.calls ++
              [.localStorageSet .persistent (Utf8.encode key)
                (Utf8.encode value)]
          localStorage :=
            host.localStorage.set .persistent (Utf8.encode key)
              (Utf8.encode value) }) :=
  HostM.call_answer_apply (by simp [HostCall.needsHttp]) _

/-- A stored key is the one looked up next, and other keys are not touched:
the byte strings of two names differ when the names do. -/
theorem stored_set (db : OffchainDb) (key value asked : String) :
    stored (db.set .persistent (Utf8.encode key) (Utf8.encode value)) asked =
      if asked = key then some (Utf8.encode value) else stored db asked := by
  simp only [stored, OffchainDb.set, true_and]
  by_cases same : asked = key
  · rw [if_pos same, if_pos (congrArg Utf8.encode same)]
  · rw [if_neg same, if_neg fun equality => same (Utf8.encode_injective equality)]

end ConfidentialWorker.OffchainApiKey
