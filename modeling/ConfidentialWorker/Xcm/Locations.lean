import Mathlib.Data.List.Basic

/-!
# Locations

Where a message comes from is a location relative to this chain: a number of
parents to leave, and junctions to enter from there.  The locations are those
of version 4 of the language; at most eight junctions are possible.

Entering further junctions stays within a location.  A set of locations that
has with a location also everything that location lies within is closed
outwards: it cannot be entered from outside by descending.
-/

namespace ConfidentialWorker

inductive NetworkId where
  | byGenesis (genesisHash : Vector UInt8 32)
  | byFork (blockNumber : UInt64) (blockHash : Vector UInt8 32)
  | polkadot
  | kusama
  | westend
  | rococo
  | wococo
  | ethereum (chainId : UInt64)
  | bitcoinCore
  | bitcoinCash
  | polkadotBulletin
  deriving DecidableEq

inductive BodyId where
  | unit
  | moniker (name : Vector UInt8 4)
  | index (index : UInt32)
  | executive
  | technical
  | legislative
  | judicial
  | defense
  | administration
  | treasury
  deriving DecidableEq

inductive BodyPart where
  | voice
  | members (count : UInt32)
  | fraction (nom denom : UInt32)
  | atLeastProportion (nom denom : UInt32)
  | moreThanProportion (nom denom : UInt32)
  deriving DecidableEq

inductive Junction where
  | parachain (id : UInt32)
  | accountId32 (network : Option NetworkId) (id : Vector UInt8 32)
  | accountIndex64 (network : Option NetworkId) (index : UInt64)
  | accountKey20 (network : Option NetworkId) (key : Vector UInt8 20)
  | palletInstance (index : UInt8)
  | generalIndex (index : BitVec 128)
  | generalKey (length : UInt8) (data : Vector UInt8 32)
  | onlyChild
  | plurality (id : BodyId) (part : BodyPart)
  | globalConsensus (network : NetworkId)
  deriving DecidableEq

def maxJunctions : ℕ := 8

/-- The junctions of a location, outermost first. -/
structure Junctions where
  items : List Junction
  fits : items.length ≤ maxJunctions
  deriving DecidableEq

namespace Junctions

def here : Junctions :=
  ⟨[], Nat.zero_le _⟩

def single (junction : Junction) : Junctions :=
  ⟨[junction], Nat.succ_le_succ (Nat.zero_le 7)⟩

def first (junctions : Junctions) : Option Junction :=
  junctions.items.head?

end Junctions

structure Location where
  parents : UInt8
  interior : Junctions
  deriving DecidableEq

namespace Location

def parent : Location :=
  ⟨1, Junctions.here⟩

/-- Enter further junctions, when they fit. -/
def appendWith (location : Location) (suffix : Junctions) : Option Location :=
  if fits :
      (location.interior.items ++ suffix.items).length ≤ maxJunctions
  then
    some ⟨location.parents, ⟨_, fits⟩⟩
  else
    none

end Location

/-- How many junctions two locations share. -/
def sharedLength : List Junction → List Junction → ℕ
  | target :: targets, viewer :: viewers =>
      if target = viewer then sharedLength targets viewers + 1 else 0
  | _, _ => 0

/-- The location of `target` as seen from `viewer`. -/
def Junctions.relativeTo (target viewer : Junctions) : Location where
  parents :=
    UInt8.ofNat
      (viewer.items.length - sharedLength target.items viewer.items)
  interior :=
    ⟨target.items.drop (sharedLength target.items viewer.items),
      Nat.le_trans (List.drop_sublist _ _).length_le target.fits⟩

/-! ## Descending -/

namespace Location

/-- A location lies within another one if one descends from there to it. -/
def IsWithin (location ancestor : Location) : Prop :=
  location.parents = ancestor.parents ∧
    ancestor.interior.items <+: location.interior.items

theorem isWithin_refl (location : Location) : location.IsWithin location :=
  ⟨rfl, List.prefix_refl _⟩

theorem isWithin_trans {inner middle outer : Location}
    (first : inner.IsWithin middle) (second : middle.IsWithin outer) :
    inner.IsWithin outer :=
  ⟨first.1.trans second.1, second.2.trans first.2⟩

theorem appendWith_isWithin {location entered : Location} {suffix : Junctions}
    (descended : location.appendWith suffix = some entered) :
    entered.IsWithin location := by
  unfold appendWith at descended
  split_ifs at descended with fits
  cases descended
  exact ⟨rfl, List.prefix_append _ _⟩

/-- With a location, all those that it lies within. -/
def ClosedOutwards (among : Location → Bool) : Prop :=
  ∀ location ancestor,
    location.IsWithin ancestor → among location = true → among ancestor = true

end Location

end ConfidentialWorker
