import ConfidentialWorker.Runtime.SignedTransactions

/-!
# How long a signed transaction is valid

An extrinsic that `create_transaction` signs is valid until its era ends, and
not after.  Three things have to agree for this at every block: the era begins
at the block it began at when it was signed, the hash of that block is still
stored, and it is the hash that was signed.
-/

namespace ConfidentialWorker

/-- What is signed while the era begins at a block whose hash is stored. -/
def additionalAt {Hash : Type} (hash : ℕ → Hash) (birth : ℕ) :
    AdditionalSigned Hash :=
  { specVersion := version.specVersion
    transactionVersion := version.transactionVersion
    genesisHash := hash 0
    eraHash := hash birth }

/-- The payload of a call while the era begins at a block of the chain. -/
def payloadAt {Call Era Hash : Type} (hash : ℕ → Hash) (call : Call)
    (extra : SignedExtra Era) (birth : ℕ) : SignedPayload Call Era Hash :=
  ⟨call, extra, additionalAt hash birth⟩

/-- Among the blocks of one chain no two hashes collide, and among the payloads
of one call that differ in such a hash no two encodings do; a signature of one
of them is not valid for another. -/
structure SigningLibrary.Distinguishes {eras : EraLibrary} {store : BlockStore}
    (lib : SigningLibrary eras store) (hash : ℕ → store.Hash)
    (call : lib.Call) (extra : SignedExtra eras.Era) : Prop where
  hashes :
    ∀ first < 2 ^ 32, ∀ second < 2 ^ 32,
      hash first = hash second → first = second
  encodings :
    ∀ first < 2 ^ 32, ∀ second < 2 ^ 32,
      lib.usingEncoded (payloadAt hash call extra first) =
          lib.usingEncoded (payloadAt hash call extra second) →
        hash first = hash second
  signatures :
    ∀ first < 2 ^ 32, ∀ second < 2 ^ 32,
      ∀ signer signature account,
        lib.sign (lib.usingEncoded (payloadAt hash call extra first)) signer =
            some signature →
          lib.verify signature
                (lib.usingEncoded (payloadAt hash call extra second)) account =
              true →
            lib.usingEncoded (payloadAt hash call extra first) =
              lib.usingEncoded (payloadAt hash call extra second)

/-- The validity of an extrinsic created at a block: its era begins at `birth`
and lasts for `period` blocks. -/
structure ValidUntil {eras : EraLibrary} {store : BlockStore}
    (lib : SigningLibrary eras store) (blockHashCount : UInt32)
    (hash : ℕ → store.Hash) (number : ℕ)
    (extrinsic : UncheckedExtrinsic lib.Call lib.AccountId lib.Signature eras.Era)
    (birth period : ℕ) : Prop where
  birth_le : birth ≤ number - 1
  powerOfTwo : period.isPowerOfTwo
  four_le : 4 ≤ period
  le_count : period ≤ blockHashCount.toNat
  born :
    ∀ later,
      number ≤ later →
        later < birth + period →
          eras.birth extrinsic.extra.era later = birth
  retained :
    ∀ {moment later state},
      store.Reached hash moment later state →
        number ≤ later →
          later < birth + period →
            store.blockHash state birth = some (hash birth)
  valid :
    ∀ {moment later state},
      store.Reached hash moment later state →
        number ≤ later →
          later < birth + period →
            lib.check extrinsic state = .ok ()
  expired :
    lib.Distinguishes hash extrinsic.call extrinsic.extra →
      ∀ {moment later state},
        store.Reached hash moment later state →
          birth + period ≤ later →
            lib.check extrinsic state ≠ .ok ()
  immediate : period ≤ 4096 → birth = number - 1

/-! ## The era over time -/

/-- The period of the era of a transaction. -/
def periodOf (blockHashCount : UInt32) : ℕ :=
  EraLibrary.mortalPeriod (eraPeriod blockHashCount)

/-- The phase of the era, rounded down to a multiple of its quantum. -/
def phaseOf (blockHashCount : UInt32) (number : ℕ) : ℕ :=
  Periods.quantised (EraLibrary.quantum (periodOf blockHashCount))
    ((number - 1) % periodOf blockHashCount)

/-- The block at which the era of a transaction begins. -/
def birthOf (blockHashCount : UInt32) (number : ℕ) : ℕ :=
  number - 1 -
    (number - 1) % periodOf blockHashCount %
      EraLibrary.quantum (periodOf blockHashCount)

/-- The phases of short eras are not rounded. -/
private theorem birthOf_of_short
    {blockHashCount : UInt32} {number : ℕ}
    (short : periodOf blockHashCount ≤ 4096) :
    birthOf blockHashCount number = number - 1 := by
  have quantumOne : EraLibrary.quantum (periodOf blockHashCount) = 1 := by
    unfold EraLibrary.quantum
    omega
  rw [birthOf, quantumOne, Nat.mod_one, Nat.sub_zero]

private theorem phase_le
    {blockHashCount : UInt32} {number : ℕ} (positive : 0 < number) :
    phaseOf blockHashCount number ≤ number := by
  have rounded : phaseOf blockHashCount number ≤ (number - 1) % _ :=
    Periods.quantised_le _ ((number - 1) % periodOf blockHashCount)
  have phase := Nat.mod_le (number - 1) (periodOf blockHashCount)
  omega

section Era

variable {blockHashCount : UInt32} (large : 4 ≤ blockHashCount.toNat)
include large

private theorem period_bounds :
    4 ≤ periodOf blockHashCount ∧
      periodOf blockHashCount ≤ blockHashCount.toNat := by
  obtain ⟨_, least, _, leCount⟩ := mortalPeriod_mem_upTo large
  exact ⟨least, leCount⟩

private theorem quantum_bounds :
    0 < EraLibrary.quantum (periodOf blockHashCount) ∧
      EraLibrary.quantum (periodOf blockHashCount) <
        periodOf blockHashCount := by
  have bounds := period_bounds large
  unfold EraLibrary.quantum
  omega

/-- The era begins shortly before the transaction is created. -/
private theorem birthOf_bounds {number : ℕ} (positive : 0 < number) :
    birthOf blockHashCount number ≤ number - 1 ∧
      number < birthOf blockHashCount number + periodOf blockHashCount := by
  obtain ⟨quantumPositive, fine⟩ := quantum_bounds large
  have lost :=
    Nat.mod_lt ((number - 1) % periodOf blockHashCount) quantumPositive
  unfold birthOf
  omega

/-- The block after the current one lies in the period that begins there. -/
private theorem start_eq_birthOf {number : ℕ} (positive : 0 < number) :
    Periods.start (periodOf blockHashCount) (phaseOf blockHashCount number)
        number =
      birthOf blockHashCount number := by
  obtain ⟨quantumPositive, fine⟩ := quantum_bounds large
  have start :
      Periods.start (periodOf blockHashCount) (phaseOf blockHashCount number)
          (number - 1 + 1) =
        birthOf blockHashCount number :=
    Periods.start_quantised quantumPositive fine
  rw [Nat.sub_add_cancel positive] at start
  exact start

variable {eras : EraLibrary} (documented : eras.Documented)
include documented

omit large in
private theorem birth_eq_start
    {number : ℕ} (small : number < 2 ^ 32) (later : ℕ) :
    eras.birth (transactionEra eras blockHashCount number) later =
      Periods.start (periodOf blockHashCount) (phaseOf blockHashCount number)
        later := by
  have current :
      Unsigned.saturatingSub (Unsigned.saturated 64 number) 1 = number - 1 := by
    rw [Unsigned.saturated_eq (by omega)]
    rfl
  rw [transactionEra, current, documented.birth_mortal]
  rfl

/-- The era begins at the same block at all blocks of its period. -/
theorem birth_eq_of_lt
    {number later : ℕ} (positive : 0 < number) (small : number < 2 ^ 32)
    (ordered : number ≤ later)
    (before :
      later < birthOf blockHashCount number + periodOf blockHashCount) :
    eras.birth (transactionEra eras blockHashCount number) later =
      birthOf blockHashCount number := by
  have bounds := period_bounds large
  rw [← start_eq_birthOf large positive] at before ⊢
  rw [birth_eq_start documented small]
  exact
    Periods.start_eq_of_lt (by omega) ordered (phase_le positive) before

/-- After that it begins at another block. -/
theorem le_birth_of_le
    {number later : ℕ} (positive : 0 < number) (small : number < 2 ^ 32)
    (ended :
      birthOf blockHashCount number + periodOf blockHashCount ≤ later) :
    birthOf blockHashCount number + periodOf blockHashCount ≤
      eras.birth (transactionEra eras blockHashCount number) later := by
  have bounds := period_bounds large
  rw [← start_eq_birthOf large positive] at ended ⊢
  rw [birth_eq_start documented small]
  exact Periods.le_start_of_le (by omega) ended

end Era

/-! ## The payload over time -/

section Payload

variable {eras : EraLibrary} {store : BlockStore} {blockHashCount : UInt32}
  {hash : ℕ → store.Hash} {moment : BlockStore.Moment} {number : ℕ}
  {state : store.State}
  (known : store.Knows blockHashCount hash moment number state)
include known

/-- While the birth block is known, its hash is what is signed. -/
private theorem additionalSigned_of_stored
    (noHash : store.Hash) {extra : SignedExtra eras.Era} {birth : ℕ}
    (positive : 0 < number) (small : birth < 2 ^ 32)
    (born : eras.birth extra.era number = birth)
    (stored : store.blockHash state birth = some (hash birth)) :
    SigningLibrary.additionalSigned noHash extra state =
      .ok (additionalAt hash birth) := by
  have numberSmall := known.number_lt
  have current : Unsigned.saturated 64 (store.blockNumber state) = number := by
    rw [known.number_eq, Unsigned.saturated_eq (by omega)]
  have birthBlock :
      Unsigned.saturated 32 (eras.birth extra.era number) = birth := by
    rw [born, Unsigned.saturated_eq small]
  simp only [SigningLibrary.additionalSigned, current, birthBlock, stored,
    known.genesis positive, Option.getD_some, additionalAt]

/-- Once the era begins at a later block, the hash of a later block is what is
signed, if anything is. -/
private theorem exists_block_of_added
    {noHash : store.Hash} {extra : SignedExtra eras.Era} {birth : ℕ}
    (earlier : birth + 1 < number)
    (later : birth < eras.birth extra.era number)
    {additional : AdditionalSigned store.Hash}
    (added :
      SigningLibrary.additionalSigned noHash extra state = .ok additional) :
    ∃ block,
      birth < block ∧ block < 2 ^ 32 ∧
        additional = additionalAt hash block := by
  have numberSmall := known.number_lt
  have current : Unsigned.saturated 64 (store.blockNumber state) = number := by
    rw [known.number_eq, Unsigned.saturated_eq (by omega)]
  have bounds :
      birth < Unsigned.saturated 32 (eras.birth extra.era number) ∧
        Unsigned.saturated 32 (eras.birth extra.era number) < 2 ^ 32 := by
    unfold Unsigned.saturated
    omega
  simp only [SigningLibrary.additionalSigned, current,
    known.genesis (by omega), Option.getD_some] at added
  generalize Unsigned.saturated 32 (eras.birth extra.era number) = block
    at added bounds
  refine ⟨block, bounds.1, bounds.2, ?_⟩
  cases stored : store.blockHash state block with
  | none =>
      rw [stored] at added
      cases added
  | some found =>
      rw [stored] at added
      cases added
      rcases known.sound block found stored with own | ⟨first, _⟩
      · rw [own]
        rfl
      · omega

end Payload

section Chain

variable {eras : EraLibrary} (erasDocumented : eras.Documented)
  {store : BlockStore} {blockHashCount : UInt32}
  (storeDocumented : store.Documented blockHashCount)
  {lib : SigningLibrary eras store} (documented : lib.Documented)
  (large : 4 ≤ blockHashCount.toNat)
  {hash : ℕ → store.Hash} {moment : BlockStore.Moment} {number later : ℕ}
  {state : store.State}

include large in
/-- The hash of the birth block is kept until the era ends. -/
private theorem stored_of_lt
    (known : store.Knows blockHashCount hash moment later state)
    (positive : 0 < number) (ordered : number ≤ later)
    (before :
      later < birthOf blockHashCount number + periodOf blockHashCount) :
    store.blockHash state (birthOf blockHashCount number) =
      some (hash (birthOf blockHashCount number)) := by
  obtain ⟨birthLe, _⟩ := birthOf_bounds large positive
  obtain ⟨_, leCount⟩ := period_bounds large
  exact known.recent _ (by omega) (by omega)

include erasDocumented large in
/-- The same is signed at all blocks until the era ends. -/
private theorem additionalSigned_of_lt
    (known : store.Knows blockHashCount hash moment later state)
    (positive : 0 < number) (ordered : number ≤ later)
    (before :
      later < birthOf blockHashCount number + periodOf blockHashCount)
    (noHash : store.Hash) (nonce : Index) :
    SigningLibrary.additionalSigned noHash
        ⟨transactionEra eras blockHashCount number, nonce, 0⟩ state =
      .ok (additionalAt hash (birthOf blockHashCount number)) := by
  have small := known.number_lt
  obtain ⟨birthLe, _⟩ := birthOf_bounds large positive
  apply additionalSigned_of_stored known noHash (by omega) (by omega)
  · exact birth_eq_of_lt large erasDocumented positive (by omega) ordered before
  · exact stored_of_lt large known positive ordered before

include erasDocumented storeDocumented documented large

/-- In every state of the chain the payload can be built, so that only signing
can fail. -/
theorem exists_created
    (reached : store.Reached hash moment number state) (positive : 0 < number)
    (call : lib.Call) (signer : lib.Public) (account : lib.AccountId)
    (nonce : Index)
    (signs : ∀ encoded, (lib.sign encoded signer).isSome) :
    ∃ extrinsic,
      createTransaction lib blockHashCount state call signer account nonce =
        some extrinsic := by
  have known := BlockStore.reached_knows storeDocumented reached
  obtain ⟨_, notEnded⟩ := birthOf_bounds large positive
  have added :=
    additionalSigned_of_lt erasDocumented large known positive le_rfl notEnded
      lib.noHash nonce
  unfold createTransaction
  simp only [documented.newPayload_eq, known.number_eq, added, Except.map]
  obtain ⟨signature, signed⟩ := Option.isSome_iff_exists.mp (signs _)
  rw [signed]
  exact ⟨_, rfl⟩

/-- An extrinsic that `create_transaction` signs at block `number` is valid
exactly until its era ends. -/
theorem createTransaction_validUntil
    (reached : store.Reached hash moment number state) (positive : 0 < number)
    {call : lib.Call} {signer : lib.Public} {account : lib.AccountId}
    {nonce : Index} (matching : account = lib.intoAccount signer)
    {extrinsic : UncheckedExtrinsic lib.Call lib.AccountId lib.Signature eras.Era}
    (created :
      createTransaction lib blockHashCount state call signer account nonce =
        some extrinsic) :
    ∃ birth period,
      ValidUntil lib blockHashCount hash number extrinsic birth period := by
  have known := BlockStore.reached_knows storeDocumented reached
  have small := known.number_lt
  obtain ⟨birthLe, notEnded⟩ := birthOf_bounds large positive
  obtain ⟨fourLe, leCount⟩ := period_bounds large
  obtain ⟨powerOfTwo, _⟩ := mortalPeriod_mem_upTo large
  obtain ⟨additional, signature, rfl, added, signed⟩ :=
    signed_of_created documented created
  rw [known.number_eq] at added signed
  have now :=
    additionalSigned_of_lt erasDocumented large known positive le_rfl notEnded
      lib.noHash nonce
  -- what was signed is what is added at every block of the era
  cases now.symm.trans added
  refine
    ⟨birthOf blockHashCount number, periodOf blockHashCount,
      { birth_le := birthLe
        powerOfTwo := powerOfTwo
        four_le := fourLe
        le_count := leCount
        born := ?born
        retained := ?retained
        valid := ?valid
        expired := ?expired
        immediate := birthOf_of_short }⟩
  case born =>
    intro later ordered before
    rw [known.number_eq]
    exact birth_eq_of_lt large erasDocumented positive small ordered before
  case retained =>
    intro moment later state laterReached ordered before
    have laterKnown := BlockStore.reached_knows storeDocumented laterReached
    exact stored_of_lt large laterKnown positive ordered before
  case valid =>
    intro moment later state laterReached ordered before
    have laterKnown := BlockStore.reached_knows storeDocumented laterReached
    have rebuilt :=
      additionalSigned_of_lt erasDocumented large laterKnown positive ordered
        before lib.noHash nonce
    rw [known.number_eq]
    refine (check_ok_iff documented).mpr ⟨_, rebuilt, ?_⟩
    rw [matching]
    exact documented.verify_signed signed
  case expired =>
    intro distinguishes moment later state laterReached ended valid
    have laterKnown := BlockStore.reached_knows storeDocumented laterReached
    rw [known.number_eq] at distinguishes valid
    have next := le_birth_of_le large erasDocumented positive small ended
    obtain ⟨current, rebuilt, accepted⟩ :=
      (check_ok_iff documented).mp valid
    obtain ⟨block, after, blockSmall, current_eq⟩ :=
      exists_block_of_added laterKnown
        (show birthOf blockHashCount number + 1 < later by omega)
        (by
          change _ < eras.birth (transactionEra eras blockHashCount number) later
          omega)
        rebuilt
    rw [current_eq] at accepted
    -- the payload of a later block is encoded otherwise
    have sameEncoding :=
      distinguishes.signatures _ (by omega) block blockSmall signer signature
        account signed accepted
    have sameHash :=
      distinguishes.encodings _ (by omega) block blockSmall sameEncoding
    have sameBlock :=
      distinguishes.hashes _ (by omega) block blockSmall sameHash
    omega

end Chain

/-! ## A chain with hashes of 256 bits -/

/-- Hashes that differ until their numbers no longer fit. -/
def numberedHash (block : ℕ) : BitVec 256 :=
  BitVec.ofNat 256 block

private theorem numberedHash_eq
    {first second : ℕ} (firstSmall : first < 2 ^ 32)
    (secondSmall : second < 2 ^ 32)
    (same : numberedHash first = numberedHash second) : first = second := by
  have values := congrArg BitVec.toNat same
  simp only [numberedHash, BitVec.toNat_ofNat] at values
  rw [Nat.mod_eq_of_lt (by omega), Nat.mod_eq_of_lt (by omega)] at values
  exact values

/-- The store and the library of the example chain. -/
abbrev numberedStore : BlockStore :=
  BlockStore.table (BitVec 256) (numberedHash 0) 4096

instance : DecidableEq numberedStore.Hash :=
  inferInstanceAs (DecidableEq (BitVec 256))

def numberedLibrary : SigningLibrary EraLibrary.reference numberedStore :=
  SigningLibrary.ideal EraLibrary.reference numberedStore (numberedHash 0)

theorem numberedLibrary_documented : numberedLibrary.Documented := by
  unfold numberedLibrary
  exact SigningLibrary.ideal_documented _

theorem numberedLibrary_distinguishes
    (call : ℕ) (extra : SignedExtra EraLibrary.reference.Era) :
    numberedLibrary.Distinguishes numberedHash call extra where
  hashes first firstSmall second secondSmall same :=
    numberedHash_eq firstSmall secondSmall same
  encodings first _ second _ same :=
    congrArg (fun payload => payload.additionalSigned.eraHash) same
  signatures first _ second _ signer signature account signed accepted := by
    cases signed
    exact ((SigningLibrary.ideal_verify_iff _ _ _).mp accepted).1.symm

/-- The third block of the example chain, while it executes. -/
private theorem reached_thirdBlock :
    ∃ state, numberedStore.Reached numberedHash .within 3 state :=
  ⟨_,
    (((BlockStore.Reached.genesis.initialized (by decide)).finalized.initialized
      (by decide)).finalized.initialized (by decide))⟩

/-- An extrinsic that is created in the third block, and which expires. -/
theorem createTransaction_validUntil_in_thirdBlock :
    ∃ extrinsic birth period,
      ValidUntil numberedLibrary 4096 numberedHash 3 extrinsic birth period ∧
        numberedLibrary.Distinguishes numberedHash extrinsic.call
          extrinsic.extra := by
  obtain ⟨state, reached⟩ := reached_thirdBlock
  have storeDocumented :=
    BlockStore.table_documented (BitVec 256) (numberedHash 0) 4096
  have documented := numberedLibrary_documented
  obtain ⟨extrinsic, created⟩ :=
    exists_created EraLibrary.reference_documented storeDocumented documented
      (by decide) reached (by decide) (7 : ℕ) (5 : ℕ) (5 : ℕ) 0
      (fun _ => rfl)
  obtain ⟨birth, period, valid⟩ :=
    createTransaction_validUntil EraLibrary.reference_documented
      storeDocumented documented (by decide) reached (by decide) rfl created
  exact
    ⟨extrinsic, birth, period, valid,
      numberedLibrary_distinguishes extrinsic.call extrinsic.extra⟩

end ConfidentialWorker
