import ConfidentialWorker.Runtime.XcmConfig
import ConfidentialWorker.Xcm.Conversions

/-!
# Accounts and dispatch origins on this chain

`LocationToAccountId` gives an account to the relay chain, to every sibling
chain and to every account of this chain.  `XcmOriginToTransactDispatchOrigin`
turns a location into the origin of a call.  No kind of origin turns it into
the root origin.
-/

namespace ConfidentialWorker

def relayNetwork : Option NetworkId := none

def locationToAccountId (lib : OriginConverters) : ConvertLocation :=
  lib.locationTuple
    [lib.parentIsPreset, lib.siblingParachainConvertsVia,
      lib.accountId32Aliases relayNetwork]

def xcmOriginToTransactDispatchOrigin (lib : OriginConverters) :
    ConvertOrigin :=
  lib.originTuple
    [lib.sovereignSignedViaLocation (locationToAccountId lib),
      lib.relayChainAsNative .relay, lib.siblingParachainAsNative,
      lib.signedAccountId32AsNative relayNetwork, lib.xcmPassthrough]

def localOriginToLocation (lib : OriginConverters) :
    RuntimeOrigin → Option Location :=
  lib.signedToAccountId32 relayNetwork

/-! ## The tuples of converters -/

/-- Where all alternatives that give a value give the same one, their order
does not matter. -/
theorem findSome?_eq_some_iff_of_agree
    {α β : Type} {alternatives : List α} {value : α → Option β}
    (agree :
      ∀ left ∈ alternatives, ∀ right ∈ alternatives, ∀ first second,
        value left = some first → value right = some second →
          first = second)
    {found : β} :
    alternatives.findSome? value = some found ↔
      ∃ alternative ∈ alternatives, value alternative = some found := by
  constructor
  · intro first
    exact List.exists_of_findSome?_eq_some first
  · intro given
    obtain ⟨alternative, member, gives⟩ := given
    cases first : alternatives.findSome? value with
    | none =>
        have nothingGiven := List.findSome?_eq_none_iff.mp first
        rw [nothingGiven alternative member] at gives
        cases gives
    | some other =>
        obtain ⟨earlier, earlierMember, givesOther⟩ :=
          List.exists_of_findSome?_eq_some first
        rw [agree earlier earlierMember alternative member other found
          givesOther gives]

namespace Location

theorem sibling_ne_parent (id : UInt32) : sibling id ≠ parent := by
  intro same
  cases same

theorem account_ne_parent (network : Option NetworkId) (id : AccountId32) :
    account network id ≠ parent := by
  intro same
  cases same

theorem account_ne_sibling (network : Option NetworkId) (who : AccountId32)
    (id : UInt32) :
    account network who ≠ sibling id := by
  intro same
  cases same

theorem sibling_injective {first second : UInt32}
    (same : sibling first = sibling second) : first = second := by
  cases same
  rfl

theorem account_injective {network : Option NetworkId}
    {first second : AccountId32}
    (same : account network first = account network second) :
    first = second := by
  cases same
  rfl

end Location

/-- Who owns which account: the relay chain, a sibling chain or the account
itself. -/
def Owns (location : Location) (account : AccountId32) : Prop :=
  (location = Location.parent ∧ account = parentAccount) ∨
    (∃ id, location = Location.sibling id ∧ account = siblingAccount id) ∨
      location = Location.account none account

theorem Owns.unique {location : Location} {first second : AccountId32}
    (firstOwned : Owns location first) (secondOwned : Owns location second) :
    first = second := by
  rcases firstOwned with ⟨rfl, rfl⟩ | ⟨id, rfl, rfl⟩ | rfl
  · rcases secondOwned with ⟨_, rfl⟩ | ⟨id, same, _⟩ | same
    · rfl
    · exact absurd same.symm (Location.sibling_ne_parent id)
    · exact absurd same.symm (Location.account_ne_parent _ _)
  · rcases secondOwned with ⟨same, _⟩ | ⟨other, same, rfl⟩ | same
    · exact absurd same (Location.sibling_ne_parent id)
    · rw [Location.sibling_injective same]
    · exact absurd same.symm (Location.account_ne_sibling _ _ _)
  · rcases secondOwned with ⟨same, _⟩ | ⟨id, same, _⟩ | same
    · exact absurd same (Location.account_ne_parent _ _)
    · exact absurd same (Location.account_ne_sibling _ _ _)
    · exact Location.account_injective same

section Converters

variable {lib : OriginConverters} (documented : lib.Documented)
include documented

theorem locationToAccountId_iff {location : Location} {account : AccountId32} :
    locationToAccountId lib location = some account ↔
      Owns location account := by
  have owned :
      ∀ account,
        (∃ convert ∈
              [lib.parentIsPreset, lib.siblingParachainConvertsVia,
                lib.accountId32Aliases relayNetwork],
            convert location = some account) ↔
          Owns location account := by
    intro account
    simp only [List.mem_cons, List.not_mem_nil, or_false, exists_eq_or_imp,
      exists_eq_left, documented.parentIsPreset_iff,
      documented.siblingParachainConvertsVia_iff,
      documented.accountId32Aliases_iff, IsLocalAccount, relayNetwork, or_self]
    rfl
  rw [locationToAccountId, documented.locationTuple_eq,
    findSome?_eq_some_iff_of_agree]
  · exact owned account
  · intro left leftMember right rightMember first second givesFirst givesSecond
    have firstOwned := (owned first).mp ⟨left, leftMember, givesFirst⟩
    have secondOwned := (owned second).mp ⟨right, rightMember, givesSecond⟩
    exact firstOwned.unique secondOwned

end Converters

/-- Which location is dispatched as which origin, for which kind of origin. -/
def DispatchesAs (location : Location) (kind : OriginKind)
    (origin : RuntimeOrigin) : Prop :=
  (kind = .sovereignAccount ∧
      ∃ account, Owns location account ∧ origin = .signed account) ∨
    (kind = .native ∧ location = Location.parent ∧ origin = .relay) ∨
      (kind = .native ∧
          ∃ id,
            location = Location.sibling id ∧ origin = .siblingParachain id) ∨
        (kind = .native ∧
            ∃ id,
              location = Location.account none id ∧ origin = .signed id) ∨
          kind = .xcm ∧ origin = .xcm location

theorem DispatchesAs.unique {location : Location} {kind : OriginKind}
    {first second : RuntimeOrigin}
    (firstDispatches : DispatchesAs location kind first)
    (secondDispatches : DispatchesAs location kind second) :
    first = second := by
  cases kind with
  | sovereignAccount =>
      simp only [DispatchesAs, reduceCtorEq, true_and, false_and, or_false]
        at firstDispatches secondDispatches
      obtain ⟨account, owned, rfl⟩ := firstDispatches
      obtain ⟨other, otherOwned, rfl⟩ := secondDispatches
      rw [owned.unique otherOwned]
  | native =>
      simp only [DispatchesAs, reduceCtorEq, true_and, false_and, false_or,
        or_false] at firstDispatches secondDispatches
      rcases firstDispatches with ⟨rfl, rfl⟩ | ⟨id, rfl, rfl⟩ | ⟨id, rfl, rfl⟩
      · rcases secondDispatches with ⟨_, rfl⟩ | ⟨id, same, _⟩ | ⟨id, same, _⟩
        · rfl
        · exact absurd same.symm (Location.sibling_ne_parent id)
        · exact absurd same.symm (Location.account_ne_parent _ id)
      · rcases secondDispatches with
          ⟨same, _⟩ | ⟨other, same, rfl⟩ | ⟨who, same, _⟩
        · exact absurd same (Location.sibling_ne_parent id)
        · rw [Location.sibling_injective same]
        · exact absurd same.symm (Location.account_ne_sibling _ who id)
      · rcases secondDispatches with
          ⟨same, _⟩ | ⟨other, same, _⟩ | ⟨who, same, rfl⟩
        · exact absurd same (Location.account_ne_parent _ id)
        · exact absurd same (Location.account_ne_sibling _ id other)
        · rw [Location.account_injective same]
  | superuser =>
      simp only [DispatchesAs, reduceCtorEq, false_and, or_false]
        at firstDispatches
  | xcm =>
      simp only [DispatchesAs, reduceCtorEq, true_and, false_and, false_or]
        at firstDispatches secondDispatches
      rw [firstDispatches, secondDispatches]

section Converters

variable {lib : OriginConverters} (documented : lib.Documented)
include documented

theorem dispatchOrigin_iff
    {location : Location} {kind : OriginKind} {origin : RuntimeOrigin} :
    xcmOriginToTransactDispatchOrigin lib location kind = some origin ↔
      DispatchesAs location kind origin := by
  have dispatched :
      ∀ origin,
        (∃ convert ∈
              [lib.sovereignSignedViaLocation (locationToAccountId lib),
                lib.relayChainAsNative .relay, lib.siblingParachainAsNative,
                lib.signedAccountId32AsNative relayNetwork,
                lib.xcmPassthrough],
            convert location kind = some origin) ↔
          DispatchesAs location kind origin := by
    intro origin
    simp only [List.mem_cons, List.not_mem_nil, or_false, exists_eq_or_imp,
      exists_eq_left, documented.sovereignSignedViaLocation_iff,
      documented.relayChainAsNative_iff,
      documented.siblingParachainAsNative_iff,
      documented.signedAccountId32AsNative_iff, documented.xcmPassthrough_iff,
      locationToAccountId_iff documented, IsLocalAccount, relayNetwork,
      or_self]
    rfl
  rw [xcmOriginToTransactDispatchOrigin, documented.originTuple_eq,
    findSome?_eq_some_iff_of_agree]
  · exact dispatched origin
  · intro left leftMember right rightMember first second givesFirst givesSecond
    have firstDispatches :=
      (dispatched first).mp ⟨left, leftMember, givesFirst⟩
    have secondDispatches :=
      (dispatched second).mp ⟨right, rightMember, givesSecond⟩
    exact firstDispatches.unique secondDispatches

end Converters

/-! ## Accounts are kept apart -/

/-- The account is the sovereign account of another chain. -/
def SovereignOf (location : Location) (account : AccountId32) : Prop :=
  (location = Location.parent ∧ account = parentAccount) ∨
    ∃ id, location = Location.sibling id ∧ account = siblingAccount id

theorem owns_iff {location : Location} {account : AccountId32} :
    Owns location account ↔
      SovereignOf location account ∨
        location = Location.account none account :=
  or_assoc.symm

theorem SovereignOf.unique_location
    {first second : Location} {account : AccountId32}
    (firstOwns : SovereignOf first account)
    (secondOwns : SovereignOf second account) : first = second := by
  rcases firstOwns with ⟨rfl, rfl⟩ | ⟨id, rfl, rfl⟩
  · rcases secondOwns with ⟨rfl, _⟩ | ⟨id, _, same⟩
    · rfl
    · exact absurd same (parentAccount_ne_siblingAccount id)
  · rcases secondOwns with ⟨_, same⟩ | ⟨other, rfl, same⟩
    · exact absurd same.symm (parentAccount_ne_siblingAccount id)
    · rw [siblingAccount_injective same]

/-- One location is another chain, and the other one the local account with
the bytes of its sovereign account. -/
def SharesAccount (account : AccountId32) (chain here : Location) : Prop :=
  SovereignOf chain account ∧ here = Location.account none account

/-- Two locations have one account only where a chain meets the local account
with the bytes of its sovereign account, and a local account comes back from
its location. -/
structure AccountsKeptApart (lib : OriginConverters) : Prop where
  shared_iff :
    ∀ first second account,
      first ≠ second →
        (locationToAccountId lib first = some account ∧
            locationToAccountId lib second = some account ↔
          SharesAccount account first second ∨
            SharesAccount account second first)
  roundTrip :
    ∀ who,
      ∃ location,
        localOriginToLocation lib (.signed who) = some location ∧
          locationToAccountId lib location = some who ∧
            xcmOriginToTransactDispatchOrigin lib location .native =
              some (.signed who)

theorem accounts_keptApart
    {lib : OriginConverters} (documented : lib.Documented) :
    AccountsKeptApart lib where
  shared_iff := by
    intro first second account different
    rw [locationToAccountId_iff documented, locationToAccountId_iff documented,
      owns_iff, owns_iff]
    constructor
    · intro both
      obtain ⟨sovereign | isLocal, otherSovereign | otherLocal⟩ := both
      · exact absurd (sovereign.unique_location otherSovereign) different
      · exact Or.inl ⟨sovereign, otherLocal⟩
      · exact Or.inr ⟨otherSovereign, isLocal⟩
      · exact absurd (isLocal.trans otherLocal.symm) different
    · intro shared
      rcases shared with ⟨sovereign, isLocal⟩ | ⟨sovereign, isLocal⟩
      · exact ⟨Or.inl sovereign, Or.inr isLocal⟩
      · exact ⟨Or.inr isLocal, Or.inl sovereign⟩
  roundTrip := by
    intro who
    refine ⟨Location.account none who, ?_, ?_, ?_⟩
    · exact
        (documented.signedToAccountId32_iff _ _ _).mpr ⟨who, rfl, rfl⟩
    · exact (locationToAccountId_iff documented).mpr (Or.inr (Or.inr rfl))
    · apply (dispatchOrigin_iff documented).mpr
      exact Or.inr (Or.inr (Or.inr (Or.inl ⟨rfl, who, rfl, rfl⟩)))

theorem accounts_keptApart_reference :
    AccountsKeptApart OriginConverters.reference :=
  accounts_keptApart OriginConverters.reference_documented

end ConfidentialWorker
