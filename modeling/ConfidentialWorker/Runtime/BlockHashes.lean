import ConfidentialWorker.Library.Unsigned

/-!
# The hashes of recent blocks

`frame_system` keeps the hashes of the most recent blocks in storage, as many
as `BlockHashCount` says, and the one of the genesis block.  It is not part of
the repository: its functions are the parameter `BlockStore`, and
`BlockStore.Documented` states what each of them does to the block number and
to the stored hashes.

`Reached` are the states of one chain: a block is initialised, executes and is
finalised, and an off-chain worker sees the state after a block with that block
initialised again.  In each of these states the recent hashes are stored, and
every stored hash is the one of its block.
-/

namespace ConfidentialWorker

/-- The parts of `frame_system` that deal with block numbers and hashes. -/
structure BlockStore where
  State : Type
  Hash : Type
  genesis : State
  blockNumber : State → ℕ
  blockHash : State → ℕ → Option Hash
  initializeBlock : ℕ → Hash → State → State
  insertHash : ℕ → Hash → State → State
  finalizeBlock : State → State

namespace BlockStore

/-- The block whose hash is removed when a block is finalised. -/
def toRemove (blockHashCount : UInt32) (number : ℕ) : ℕ :=
  Unsigned.saturatingSub
    (Unsigned.saturatingSub number blockHashCount.toNat) 1

/-- The documented behaviour of `frame_system`: the hash of the parent is
stored when a block is initialised, and the hash that is too old is removed
when it is finalised, unless it is the one of the genesis block.  The genesis
state has an entry for the genesis block only. -/
structure Documented (store : BlockStore) (blockHashCount : UInt32) : Prop where
  genesis_number : store.blockNumber store.genesis = 0
  genesis_hash : ∀ number, number ≠ 0 →
    store.blockHash store.genesis number = none
  initialize_number : ∀ number parentHash state,
    store.blockNumber (store.initializeBlock number parentHash state) = number
  initialize_hash : ∀ number parentHash state asked,
    store.blockHash (store.initializeBlock number parentHash state) asked =
      if asked = number - 1 then
        some parentHash
      else
        store.blockHash state asked
  insertHash_number : ∀ number hash state,
    store.blockNumber (store.insertHash number hash state) =
      store.blockNumber state
  insertHash_hash : ∀ number hash state asked,
    store.blockHash (store.insertHash number hash state) asked =
      if asked = number then some hash else store.blockHash state asked
  finalize_number : ∀ state,
    store.blockNumber (store.finalizeBlock state) = store.blockNumber state
  finalize_hash : ∀ state asked,
    store.blockHash (store.finalizeBlock state) asked =
      if asked ≠ 0 ∧ asked = toRemove blockHashCount (store.blockNumber state)
      then none
      else store.blockHash state asked

/-- A store that consists of the block number and the hashes. -/
def table (Hash : Type) (genesisHash : Hash) (blockHashCount : UInt32) :
    BlockStore where
  State := ℕ × (ℕ → Option Hash)
  Hash := Hash
  genesis := (0, fun asked => if asked = 0 then some genesisHash else none)
  blockNumber state := state.1
  blockHash state asked := state.2 asked
  initializeBlock number parentHash state :=
    (number,
      fun asked =>
        if asked = number - 1 then some parentHash else state.2 asked)
  insertHash number hash state :=
    (state.1,
      fun asked => if asked = number then some hash else state.2 asked)
  finalizeBlock state :=
    (state.1,
      fun asked =>
        if asked ≠ 0 ∧ asked = toRemove blockHashCount state.1 then
          none
        else
          state.2 asked)

theorem table_documented
    (Hash : Type) (genesisHash : Hash) (blockHashCount : UInt32) :
    (table Hash genesisHash blockHashCount).Documented blockHashCount where
  genesis_number := rfl
  genesis_hash _ later := if_neg later
  initialize_number _ _ _ := rfl
  initialize_hash _ _ _ _ := rfl
  insertHash_number _ _ _ := rfl
  insertHash_hash _ _ _ _ := rfl
  finalize_number _ := rfl
  finalize_hash _ _ := rfl

/-- Where a state stands in the life of a block. -/
inductive Moment where
  | within
  | after
  | offchain
  deriving DecidableEq, Repr

variable (store : BlockStore)

/-- The states of the chain whose blocks have these hashes. -/
inductive Reached (hash : ℕ → store.Hash) : Moment → ℕ → store.State → Prop
  | genesis : Reached hash .after 0 store.genesis
  | initialized {number : ℕ} {state : store.State} :
      Reached hash .after number state →
      number + 1 < 2 ^ 32 →
      Reached hash .within (number + 1)
        (store.initializeBlock (number + 1) (hash number) state)
  | executed {number : ℕ} {state next : store.State} :
      Reached hash .within number state →
      store.blockNumber next = store.blockNumber state →
      store.blockHash next = store.blockHash state →
      Reached hash .within number next
  | finalized {number : ℕ} {state : store.State} :
      Reached hash .within number state →
      Reached hash .after number (store.finalizeBlock state)
  | offchain {number : ℕ} {state : store.State} :
      Reached hash .after (number + 1) state →
      Reached hash .offchain (number + 1)
        (store.insertHash (number + 1) (hash (number + 1))
          (store.initializeBlock (number + 1) (hash number) state))

/-- How many more hashes than `BlockHashCount` are stored. -/
def Moment.spare : Moment → ℕ
  | .within => 1
  | .after => 0
  | .offchain => 0

/-- What a state of the chain knows of it. -/
structure Knows (blockHashCount : UInt32) (hash : ℕ → store.Hash)
    (moment : Moment) (number : ℕ) (state : store.State) : Prop where
  number_eq : store.blockNumber state = number
  number_lt : number < 2 ^ 32
  recent : ∀ block < number,
    number ≤ block + blockHashCount.toNat + moment.spare →
      store.blockHash state block = some (hash block)
  genesis : 0 < number → store.blockHash state 0 = some (hash 0)
  sound : ∀ block found,
    store.blockHash state block = some found →
      found = hash block ∨ (number = 0 ∧ block = 0)

variable {store} {blockHashCount : UInt32} {hash : ℕ → store.Hash}

/-- What a block executes changes neither its number nor the hashes. -/
private theorem knows_executed
    {moment : Moment} {number : ℕ} {state next : store.State}
    (known : store.Knows blockHashCount hash moment number state)
    (sameNumber : store.blockNumber next = store.blockNumber state)
    (sameHashes : store.blockHash next = store.blockHash state) :
    store.Knows blockHashCount hash moment number next where
  number_eq := sameNumber.trans known.number_eq
  number_lt := known.number_lt
  recent := by
    rw [sameHashes]
    exact known.recent
  genesis := by
    rw [sameHashes]
    exact known.genesis
  sound := by
    rw [sameHashes]
    exact known.sound

section Steps

variable (documented : store.Documented blockHashCount)
include documented

private theorem knows_genesis :
    store.Knows blockHashCount hash .after 0 store.genesis where
  number_eq := documented.genesis_number
  number_lt := by omega
  recent block earlier _ := by omega
  genesis positive := by omega
  sound block found stored := by
    by_cases first : block = 0
    · exact Or.inr ⟨rfl, first⟩
    · rw [documented.genesis_hash block first] at stored
      cases stored

/-- Initialising a block keeps correct hashes and adds the one of its parent. -/
private theorem stored_initialized
    {number block : ℕ} {state : store.State}
    (held :
      block = number ∨ store.blockHash state block = some (hash block)) :
    store.blockHash
        (store.initializeBlock (number + 1) (hash number) state) block =
      some (hash block) := by
  rw [documented.initialize_hash, Nat.add_sub_cancel]
  by_cases parent : block = number
  · rw [if_pos parent, parent]
  · rw [if_neg parent]
    exact held.resolve_left parent

private theorem eq_or_stored_of_initialized
    {number block : ℕ} {state : store.State} {found : store.Hash}
    (stored :
      store.blockHash
          (store.initializeBlock (number + 1) (hash number) state) block =
        some found) :
    found = hash block ∨
      block ≠ number ∧ store.blockHash state block = some found := by
  rw [documented.initialize_hash, Nat.add_sub_cancel] at stored
  by_cases parent : block = number
  · rw [if_pos parent] at stored
    rw [parent]
    exact Or.inl (Option.some.inj stored).symm
  · rw [if_neg parent] at stored
    exact Or.inr ⟨parent, stored⟩

private theorem knows_initialized
    {number : ℕ} {state : store.State}
    (known : store.Knows blockHashCount hash .after number state)
    (fits : number + 1 < 2 ^ 32) :
    store.Knows blockHashCount hash .within (number + 1)
      (store.initializeBlock (number + 1) (hash number) state) where
  number_eq := documented.initialize_number _ _ _
  number_lt := fits
  recent block earlier near := by
    apply stored_initialized documented
    by_cases parent : block = number
    · exact Or.inl parent
    · right
      apply known.recent block (by omega)
      simp only [Moment.spare] at near ⊢
      omega
  genesis _ := by
    apply stored_initialized documented
    by_cases first : number = 0
    · exact Or.inl first.symm
    · exact Or.inr (known.genesis (by omega))
  sound block found stored := by
    left
    rcases eq_or_stored_of_initialized documented stored with
      same | ⟨notParent, before⟩
    · exact same
    · rcases known.sound block found before with same | ⟨first, zero⟩
      · exact same
      · exact absurd (zero.trans first.symm) notParent

/-- Finalising a block removes a hash that is no longer recent. -/
private theorem knows_finalized
    {number : ℕ} {state : store.State}
    (known : store.Knows blockHashCount hash .within number state) :
    store.Knows blockHashCount hash .after number
      (store.finalizeBlock state) where
  number_eq := (documented.finalize_number state).trans known.number_eq
  number_lt := known.number_lt
  recent block earlier near := by
    simp only [Moment.spare] at near
    rw [documented.finalize_hash, known.number_eq, if_neg]
    · apply known.recent block earlier
      simp only [Moment.spare]
      omega
    · rintro ⟨_, removed⟩
      unfold toRemove Unsigned.saturatingSub at removed
      omega
  genesis positive := by
    rw [documented.finalize_hash, if_neg (by simp)]
    exact known.genesis positive
  sound block found stored := by
    rw [documented.finalize_hash] at stored
    split_ifs at stored
    exact known.sound block found stored

private theorem knows_offchain
    {number : ℕ} {state : store.State}
    (known : store.Knows blockHashCount hash .after (number + 1) state) :
    store.Knows blockHashCount hash .offchain (number + 1)
      (store.insertHash (number + 1) (hash (number + 1))
        (store.initializeBlock (number + 1) (hash number) state)) where
  number_eq := by
    rw [documented.insertHash_number, documented.initialize_number]
  number_lt := known.number_lt
  recent block earlier near := by
    rw [documented.insertHash_hash, if_neg (by omega)]
    apply stored_initialized documented
    exact Or.inr (known.recent block earlier near)
  genesis positive := by
    rw [documented.insertHash_hash, if_neg (by omega)]
    apply stored_initialized documented
    exact Or.inr (known.genesis positive)
  sound block found stored := by
    left
    rw [documented.insertHash_hash] at stored
    by_cases own : block = number + 1
    · rw [if_pos own] at stored
      rw [own]
      exact (Option.some.inj stored).symm
    · rw [if_neg own] at stored
      rcases eq_or_stored_of_initialized documented stored with
        same | ⟨_, before⟩
      · exact same
      · rcases known.sound block found before with same | ⟨impossible, _⟩
        · exact same
        · omega

end Steps

/-- In every state of a chain the recent hashes are stored, and no wrong ones. -/
theorem reached_knows
    (documented : store.Documented blockHashCount)
    {moment : Moment} {number : ℕ} {state : store.State}
    (reached : store.Reached hash moment number state) :
    store.Knows blockHashCount hash moment number state := by
  induction reached with
  | genesis =>
      exact knows_genesis documented
  | initialized _ fits inductionHypothesis =>
      exact knows_initialized documented inductionHypothesis fits
  | executed _ sameNumber sameHashes inductionHypothesis =>
      exact knows_executed inductionHypothesis sameNumber sameHashes
  | finalized _ inductionHypothesis =>
      exact knows_finalized documented inductionHypothesis
  | offchain _ inductionHypothesis =>
      exact knows_offchain documented inductionHypothesis

end BlockStore

end ConfidentialWorker
