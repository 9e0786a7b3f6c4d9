import ConfidentialWorker.Xcm.ActingOrigins

/-!
# Accounts and dispatch origins of locations

A location may own an account of this chain, and may be converted to an origin
that a call is dispatched with.  A conversion is a tuple of converters, of which
the first one that takes the location decides.

The converters belong to `xcm-builder` and are the parameter
`OriginConverters`.  The account of another chain is a text of a few bytes,
filled up with zeros: `Parent` for the relay chain, and `sibl` with the number
of a sibling chain.
-/

namespace ConfidentialWorker

abbrev AccountId32 := Vector UInt8 32

/-- The origins of the runtime: those of `frame_system`, of `pallet_xcm` and of
`cumulus_pallet_xcm`. -/
inductive RuntimeOrigin where
  | root
  | signed (who : AccountId32)
  | none
  | xcm (location : Location)
  | xcmResponse (location : Location)
  | relay
  | siblingParachain (id : UInt32)
  deriving DecidableEq

namespace Location

def sibling (id : UInt32) : Location :=
  ⟨1, Junctions.single (.parachain id)⟩

def account (network : Option NetworkId) (id : AccountId32) : Location :=
  ⟨0, Junctions.single (.accountId32 network id)⟩

end Location

/-! ## The accounts of other chains -/

/-- Decode an account from bytes that are followed by zeros. -/
def padded (bytes : List UInt8) : AccountId32 :=
  Vector.ofFn fun place => bytes.getD place 0

def littleEndian (number : UInt32) : List UInt8 :=
  [number.toUInt8, (number >>> 8).toUInt8, (number >>> 16).toUInt8,
    (number >>> 24).toUInt8]

/-- The account of the relay chain: `Parent`. -/
def parentAccount : AccountId32 :=
  padded [0x50, 0x61, 0x72, 0x65, 0x6E, 0x74]

/-- The account of a sibling chain: `sibl` and its number. -/
def siblingAccount (id : UInt32) : AccountId32 :=
  padded ([0x73, 0x69, 0x62, 0x6C] ++ littleEndian id)

theorem padded_getElem (bytes : List UInt8) {place : ℕ} (bound : place < 32) :
    (padded bytes)[place] = bytes.getD place 0 := by
  simp [padded]

/-- Texts of one length are told apart by what they are decoded to. -/
theorem eq_of_padded {first second : List UInt8}
    (sameLength : first.length = second.length) (short : first.length ≤ 32)
    (same : padded first = padded second) : first = second := by
  apply List.ext_getElem sameLength
  intro place inFirst inSecond
  have bound : place < 32 := by
    omega
  have bytes := padded_getElem first bound
  simp only [same, padded_getElem second bound] at bytes
  simpa [List.getD, inFirst, inSecond] using bytes.symm

theorem littleEndian_length (number : UInt32) :
    (littleEndian number).length = 4 :=
  rfl

theorem littleEndian_injective : Function.Injective littleEndian := by
  intro first second same
  simp only [littleEndian, List.cons.injEq, and_true] at same
  obtain ⟨lowest, low, high, highest⟩ := same
  have lowestNat := congrArg UInt8.toNat lowest
  have lowNat := congrArg UInt8.toNat low
  have highNat := congrArg UInt8.toNat high
  have highestNat := congrArg UInt8.toNat highest
  simp only [UInt32.toNat_toUInt8, UInt32.toNat_shiftRight,
    Nat.shiftRight_eq_div_pow] at lowestNat lowNat highNat highestNat
  apply UInt32.toNat_inj.mp
  have firstBound := first.toNat_lt
  have secondBound := second.toNat_lt
  simp at lowNat highNat highestNat
  omega

theorem siblingAccount_injective : Function.Injective siblingAccount := by
  intro first second same
  have texts :=
    eq_of_padded
      (by rw [List.length_append, List.length_append, littleEndian_length,
        littleEndian_length])
      (by rw [List.length_append, littleEndian_length]; decide) same
  exact littleEndian_injective (List.append_cancel_left texts)

theorem parentAccount_ne_siblingAccount (id : UInt32) :
    parentAccount ≠ siblingAccount id := by
  intro same
  have firstByte : parentAccount[0] = (siblingAccount id)[0] := by
    rw [same]
  rw [parentAccount, siblingAccount, padded_getElem, padded_getElem]
    at firstByte
  have different : (0x50 : UInt8) ≠ 0x73 := by
    decide
  exact different firstByte

/-! ## The converters -/

abbrev ConvertLocation :=
  Location → Option AccountId32

/-- No value means that the location is handed back. -/
abbrev ConvertOrigin :=
  Location → OriginKind → Option RuntimeOrigin

/-- The converters of `xcm-builder`. -/
structure OriginConverters where
  locationTuple : List ConvertLocation → ConvertLocation
  parentIsPreset : ConvertLocation
  siblingParachainConvertsVia : ConvertLocation
  accountId32Aliases : Option NetworkId → ConvertLocation
  originTuple : List ConvertOrigin → ConvertOrigin
  sovereignSignedViaLocation : ConvertLocation → ConvertOrigin
  relayChainAsNative : RuntimeOrigin → ConvertOrigin
  siblingParachainAsNative : ConvertOrigin
  signedAccountId32AsNative : Option NetworkId → ConvertOrigin
  xcmPassthrough : ConvertOrigin
  signedToAccountId32 : Option NetworkId → RuntimeOrigin → Option Location

/-- The location is an account of this chain, without a network or with this
one. -/
def IsLocalAccount (network : Option NetworkId) (location : Location)
    (id : AccountId32) : Prop :=
  location = Location.account none id ∨ location = Location.account network id

/-- The documented behaviour of the converters. -/
structure OriginConverters.Documented (lib : OriginConverters) : Prop where
  locationTuple_eq : ∀ converters location,
    lib.locationTuple converters location =
      converters.findSome? fun convert => convert location
  parentIsPreset_iff : ∀ location account,
    lib.parentIsPreset location = some account ↔
      location = Location.parent ∧ account = parentAccount
  siblingParachainConvertsVia_iff : ∀ location account,
    lib.siblingParachainConvertsVia location = some account ↔
      ∃ id, location = Location.sibling id ∧ account = siblingAccount id
  accountId32Aliases_iff : ∀ network location account,
    lib.accountId32Aliases network location = some account ↔
      IsLocalAccount network location account
  originTuple_eq : ∀ converters location kind,
    lib.originTuple converters location kind =
      converters.findSome? fun convert => convert location kind
  sovereignSignedViaLocation_iff : ∀ convert location kind origin,
    lib.sovereignSignedViaLocation convert location kind = some origin ↔
      kind = .sovereignAccount ∧
        ∃ account, convert location = some account ∧ origin = .signed account
  relayChainAsNative_iff : ∀ relayOrigin location kind origin,
    lib.relayChainAsNative relayOrigin location kind = some origin ↔
      kind = .native ∧ location = Location.parent ∧ origin = relayOrigin
  siblingParachainAsNative_iff : ∀ location kind origin,
    lib.siblingParachainAsNative location kind = some origin ↔
      kind = .native ∧
        ∃ id,
          location = Location.sibling id ∧ origin = .siblingParachain id
  signedAccountId32AsNative_iff : ∀ network location kind origin,
    lib.signedAccountId32AsNative network location kind = some origin ↔
      kind = .native ∧
        ∃ id, IsLocalAccount network location id ∧ origin = .signed id
  xcmPassthrough_iff : ∀ location kind origin,
    lib.xcmPassthrough location kind = some origin ↔
      kind = .xcm ∧ origin = .xcm location
  signedToAccountId32_iff : ∀ network origin location,
    lib.signedToAccountId32 network origin = some location ↔
      ∃ who, origin = .signed who ∧ location = Location.account network who

/-! ## Converters as documented -/

namespace Location

/-- The number of the sibling chain at a location. -/
def siblingId (location : Location) : Option UInt32 :=
  if location.parents = 1 then
    match location.interior.items with
    | [.parachain id] => some id
    | _ => none
  else
    none

/-- The account of this chain at a location. -/
def localId (network : Option NetworkId) (location : Location) :
    Option AccountId32 :=
  if location.parents = 0 then
    match location.interior.items with
    | [.accountId32 found id] =>
        if found = none ∨ found = network then some id else none
    | _ => none
  else
    none

private theorem eq_single {location : Location} {parents : UInt8}
    {junction : Junction} (sameParents : location.parents = parents)
    (items : location.interior.items = [junction]) :
    location = ⟨parents, Junctions.single junction⟩ := by
  obtain ⟨found, ⟨junctions, fits⟩⟩ := location
  cases sameParents
  cases items
  rfl

theorem siblingId_eq_some_iff {location : Location} {id : UInt32} :
    location.siblingId = some id ↔ location = Location.sibling id := by
  unfold siblingId
  constructor
  · intro found
    split_ifs at found with parents
    split at found
    · rename_i items
      cases found
      exact eq_single parents items
    · cases found
  · intro same
    rw [same]
    rfl

theorem localId_eq_some_iff {network : Option NetworkId} {location : Location}
    {id : AccountId32} :
    location.localId network = some id ↔
      IsLocalAccount network location id := by
  unfold localId
  constructor
  · intro found
    split_ifs at found with parents
    split at found
    · rename_i items
      split_ifs at found with named
      cases found
      rcases named with anywhere | here
      · rw [anywhere] at items
        exact Or.inl (eq_single parents items)
      · rw [here] at items
        exact Or.inr (eq_single parents items)
    · cases found
  · intro isLocal
    rcases isLocal with same | same
    · rw [same]
      simp [Location.account, Junctions.single]
    · rw [same]
      simp [Location.account, Junctions.single]

end Location

namespace OriginConverters

def reference : OriginConverters where
  locationTuple converters location :=
    converters.findSome? fun convert => convert location
  parentIsPreset location :=
    if location = Location.parent then some parentAccount else none
  siblingParachainConvertsVia location :=
    location.siblingId.map siblingAccount
  accountId32Aliases network location := location.localId network
  originTuple converters location kind :=
    converters.findSome? fun convert => convert location kind
  sovereignSignedViaLocation convert location kind :=
    if kind = .sovereignAccount then (convert location).map .signed else none
  relayChainAsNative relayOrigin location kind :=
    if kind = .native ∧ location = Location.parent then
      some relayOrigin
    else
      none
  siblingParachainAsNative location kind :=
    if kind = .native then
      location.siblingId.map .siblingParachain
    else
      none
  signedAccountId32AsNative network location kind :=
    if kind = .native then (location.localId network).map .signed else none
  xcmPassthrough location kind :=
    if kind = .xcm then some (.xcm location) else none
  signedToAccountId32 network
    | .signed who => some (Location.account network who)
    | _ => none

theorem reference_documented : reference.Documented where
  locationTuple_eq _ _ := rfl
  parentIsPreset_iff location account := by
    simp [reference, eq_comm]
  siblingParachainConvertsVia_iff location account := by
    simp [reference, Location.siblingId_eq_some_iff, eq_comm (b := account)]
  accountId32Aliases_iff network location account :=
    Location.localId_eq_some_iff
  originTuple_eq _ _ _ := rfl
  sovereignSignedViaLocation_iff convert location kind origin := by
    simp [reference, eq_comm]
  relayChainAsNative_iff relayOrigin location kind origin := by
    simp [reference, and_assoc, eq_comm]
  siblingParachainAsNative_iff location kind origin := by
    simp [reference, Location.siblingId_eq_some_iff, eq_comm (b := origin)]
  signedAccountId32AsNative_iff network location kind origin := by
    simp [reference, Location.localId_eq_some_iff, eq_comm (b := origin)]
  xcmPassthrough_iff location kind origin := by
    simp [reference, eq_comm]
  signedToAccountId32_iff network origin location := by
    cases origin <;> simp [reference, eq_comm]

end OriginConverters

end ConfidentialWorker
