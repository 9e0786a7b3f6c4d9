import ConfidentialWorker.Pallets.OffchainWorker
import ConfidentialWorker.Pallets.Template

/-!
# The runtime

The runtime composes the two pallets under the names `TemplatePallet` and
`OcwPallet`.  What they keep is one number each, and `Registers` is this
abstract view: two numbers without a bound.

`dispatch_cases` is the refinement.  A dispatch fails for the reason that the
abstract view gives and leaves the chain as it was, or it succeeds and moves
the registers as the abstract machine does.
-/

namespace ConfidentialWorker.Runtime

open Program

variable {width : ℕ} {frame : FrameSystem width}

def templatePallet : PalletInfo :=
  ⟨50, "TemplatePallet"⟩

def ocwPallet : PalletInfo :=
  ⟨51, "OcwPallet"⟩

inductive RuntimeCall where
  | templateDoSomething (bn : UInt32)
  | templateCauseError
  | ocwDoSomething (bn : UInt32)
  deriving DecidableEq, Repr

def RuntimeCall.dispatch (origin : frame.Origin) :
    RuntimeCall → DispatchM frame PUnit
  | .templateDoSomething bn => Template.doSomething templatePallet origin bn
  | .templateCauseError => Template.causeError templatePallet origin
  | .ocwDoSomething bn => OffchainWorker.doSomething ocwPallet origin bn

/-- `TemplatePallet::Something`. -/
def templateValue (chain : Chain frame) : Option (CompositeStruct width) :=
  chain.storage templatePallet.something

/-- `OcwPallet::Something`. -/
def ocwValue (chain : Chain frame) : Option (CompositeStruct width) :=
  chain.storage ocwPallet.something

/-- The two items of one name live apart. -/
theorem something_ne : templatePallet.something ≠ ocwPallet.something := by
  decide

/-! ## The abstract machine -/

@[ext]
structure Registers where
  template : Option ℕ
  ocw : Option ℕ
  deriving DecidableEq, Repr

namespace Registers

def empty : Registers :=
  ⟨none, none⟩

/-- What a successful call does to the registers. -/
def apply (registers : Registers) : RuntimeCall → Registers
  | .templateDoSomething bn => { registers with template := some bn.toNat }
  | .templateCauseError =>
      { registers with template := registers.template.map (· + 1) }
  | .ocwDoSomething bn => { registers with ocw := some bn.toNat }

def after (calls : List RuntimeCall) : Registers :=
  calls.foldl apply empty

theorem after_snoc (calls : List RuntimeCall) (call : RuntimeCall) :
    after (calls ++ [call]) = (after calls).apply call := by
  simp [after]

/-- Calls that set no template value count up the one that is there. -/
private theorem foldl_template_of_unset
    {calls : List RuntimeCall}
    (unset : ∀ bn, .templateDoSomething bn ∉ calls) (registers : Registers) :
    (calls.foldl apply registers).template =
      registers.template.map (· + calls.count .templateCauseError) := by
  induction calls generalizing registers with
  | nil =>
      simp
  | cons call rest inductionHypothesis =>
      have restUnset : ∀ bn, .templateDoSomething bn ∉ rest :=
        fun bn member => unset bn (List.mem_cons_of_mem call member)
      rw [List.foldl_cons, inductionHypothesis restUnset]
      cases call with
      | templateDoSomething bn =>
          exact False.elim (unset bn List.mem_cons_self)
      | templateCauseError =>
          have counted :
              (registers.apply .templateCauseError).template =
                registers.template.map (· + 1) :=
            rfl
          rw [counted, List.count_cons_self]
          cases registers.template with
          | none =>
              rfl
          | some value =>
              simp only [Option.map_some, Option.some.injEq]
              omega
      | ocwDoSomething bn =>
          simp [apply]

private theorem foldl_ocw_of_unset
    {calls : List RuntimeCall}
    (unset : ∀ bn, .ocwDoSomething bn ∉ calls) (registers : Registers) :
    (calls.foldl apply registers).ocw = registers.ocw := by
  induction calls generalizing registers with
  | nil =>
      rfl
  | cons call rest inductionHypothesis =>
      have restUnset : ∀ bn, .ocwDoSomething bn ∉ rest :=
        fun bn member => unset bn (List.mem_cons_of_mem call member)
      rw [List.foldl_cons, inductionHypothesis restUnset]
      cases call with
      | ocwDoSomething bn =>
          exact False.elim (unset bn List.mem_cons_self)
      | templateDoSomething bn | templateCauseError =>
          rfl

theorem after_template_of_unset
    {calls : List RuntimeCall}
    (unset : ∀ bn, .templateDoSomething bn ∉ calls) :
    (after calls).template = none := by
  rw [after, foldl_template_of_unset unset]
  rfl

theorem after_template_of_latest
    (earlier : List RuntimeCall) (bn : UInt32) {later : List RuntimeCall}
    (unset : ∀ other, .templateDoSomething other ∉ later) :
    (after (earlier ++ .templateDoSomething bn :: later)).template =
      some (bn.toNat + later.count .templateCauseError) := by
  rw [after, List.foldl_append, List.foldl_cons, foldl_template_of_unset unset]
  rfl

theorem after_ocw_of_unset
    {calls : List RuntimeCall}
    (unset : ∀ bn, .ocwDoSomething bn ∉ calls) :
    (after calls).ocw = none := by
  rw [after, foldl_ocw_of_unset unset]
  rfl

theorem after_ocw_of_latest
    (earlier : List RuntimeCall) (bn : UInt32) {later : List RuntimeCall}
    (unset : ∀ other, .ocwDoSomething other ∉ later) :
    (after (earlier ++ .ocwDoSomething bn :: later)).ocw =
      some bn.toNat := by
  rw [after, List.foldl_append, List.foldl_cons, foldl_ocw_of_unset unset]
  rfl

end Registers

/-! ## The refinement -/

def registers (chain : Chain frame) : Registers where
  template := (templateValue chain).map fun stored => stored.blockNumber.toNat
  ocw := (ocwValue chain).map fun stored => stored.blockNumber.toNat

/-- Why a call fails, if it does. -/
inductive Fails (origin : frame.Origin) (chain : Chain frame) :
    RuntimeCall → DispatchError → Prop where
  | badOrigin (call : RuntimeCall) :
      frame.Unsigned origin → Fails origin chain call .badOrigin
  | noneValue :
      ¬ frame.Unsigned origin →
      templateValue chain = none →
        Fails origin chain .templateCauseError
          (Template.Error.noneValue.dispatch templatePallet)
  | storageOverflow (stored : CompositeStruct width) :
      ¬ frame.Unsigned origin →
      templateValue chain = some stored →
      stored.blockNumber.toNat = 2 ^ width - 1 →
        Fails origin chain .templateCauseError
          (Template.Error.storageOverflow.dispatch templatePallet)

/-- Storing calls fail for their origin only. -/
theorem fails_storing_iff
    {origin : frame.Origin} {chain : Chain frame} {call : RuntimeCall}
    (stores : call ≠ .templateCauseError) (error : DispatchError) :
    Fails origin chain call error ↔
      error = .badOrigin ∧ frame.Unsigned origin := by
  constructor
  · intro fails
    cases fails with
    | badOrigin _ unsigned =>
        exact ⟨rfl, unsigned⟩
    | noneValue _ _ | storageOverflow _ _ _ _ =>
        exact False.elim (stores rfl)
  · rintro ⟨rfl, unsigned⟩
    exact .badOrigin _ unsigned

private theorem registers_update_template
    (chain : Chain frame) (system : frame.System)
    (stored : CompositeStruct width) :
    registers
        { system := system
          storage :=
            Function.update chain.storage templatePallet.something
              (some stored) : Chain frame } =
      { registers chain with template := some stored.blockNumber.toNat } := by
  have apart := something_ne.symm
  simp [registers, templateValue, ocwValue, apart]

private theorem registers_update_ocw
    (chain : Chain frame) (system : frame.System)
    (stored : CompositeStruct width) :
    registers
        { system := system
          storage :=
            Function.update chain.storage ocwPallet.something
              (some stored) : Chain frame } =
      { registers chain with ocw := some stored.blockNumber.toNat } := by
  have apart := something_ne
  simp [registers, templateValue, ocwValue, apart]

/-- What a dispatch may do: fail for one of the reasons and change nothing, or
succeed without one and move the registers. -/
inductive Dispatched (origin : frame.Origin) (chain : Chain frame)
    (call : RuntimeCall) :
    Except DispatchError PUnit × Chain frame → Prop where
  | failed (error : DispatchError) :
      Fails origin chain call error →
        Dispatched origin chain call (.error error, chain)
  | succeeded (after : Chain frame) :
      (∀ error, ¬ Fails origin chain call error) →
      registers after = (registers chain).apply call →
        Dispatched origin chain call (.ok ⟨⟩, after)

variable (documented : frame.Documented)
include documented

private theorem storeSomething_dispatched
    {pallet : PalletInfo} {origin : frame.Origin} (chain : Chain frame)
    {call : RuntimeCall} {bn : UInt32}
    (stores : call ≠ .templateCauseError)
    (dispatches :
      call.dispatch origin = DispatchM.storeSomething pallet origin bn)
    (moves :
      ∀ system,
        registers
            { system := system
              storage :=
                Function.update chain.storage pallet.something
                  (some ⟨BlockNumber.ofU32 width bn⟩) : Chain frame } =
          (registers chain).apply call) :
    Dispatched origin chain call (call.dispatch origin chain) := by
  rw [dispatches]
  cases signer : frame.signer origin with
  | none =>
      rw [DispatchM.storeSomething_apply_of_unsigned documented bn chain signer]
      exact .failed _ (.badOrigin call signer)
  | some who =>
      have signed : ¬ frame.Unsigned origin :=
        FrameSystem.not_unsigned_of_signer signer
      rw [DispatchM.storeSomething_apply_of_signed documented bn chain signer]
      refine .succeeded _ ?_ (moves _)
      intro error fails
      exact signed ((fails_storing_iff stores error).mp fails).2

private theorem causeError_dispatched
    (wide : 32 ≤ width) (origin : frame.Origin) (chain : Chain frame) :
    Dispatched origin chain .templateCauseError
      (RuntimeCall.templateCauseError.dispatch origin chain) := by
  change Dispatched _ _ _ (Template.causeError templatePallet origin chain)
  cases signer : frame.signer origin with
  | none =>
      rw [Template.causeError_apply_of_unsigned documented chain signer]
      exact .failed _ (.badOrigin _ signer)
  | some who =>
      have signed : ¬ frame.Unsigned origin :=
        FrameSystem.not_unsigned_of_signer signer
      cases found : chain.storage templatePallet.something with
      | none =>
          rw [Template.causeError_apply_of_none documented signer found]
          exact .failed _ (.noneValue signed found)
      | some old =>
          rw [Template.causeError_apply_of_some documented signer found]
          rcases BlockNumber.checkedAdd_one_cases wide old.blockNumber with
            ⟨greatest, overflow⟩ | ⟨notGreatest, next, added, counted⟩
          · rw [overflow]
            exact .failed _ (.storageOverflow old signed found greatest)
          · rw [added]
            refine .succeeded _ ?_ ?_
            · intro error fails
              cases fails with
              | badOrigin _ unsigned =>
                  exact signed unsigned
              | noneValue _ empty =>
                  rw [templateValue, found] at empty
                  cases empty
              | storageOverflow stored _ foundStored greatest =>
                  rw [templateValue, found] at foundStored
                  cases foundStored
                  exact notGreatest greatest
            · rw [registers_update_template]
              simp [Registers.apply, registers, templateValue, found, counted]

/-- Every dispatch refines the abstract machine. -/
theorem dispatch_cases
    (wide : 32 ≤ width) (origin : frame.Origin) (chain : Chain frame)
    (call : RuntimeCall) :
    Dispatched origin chain call (call.dispatch origin chain) := by
  cases call with
  | templateCauseError =>
      exact causeError_dispatched documented wide origin chain
  | templateDoSomething bn =>
      apply storeSomething_dispatched documented chain (by simp) rfl
      intro system
      rw [registers_update_template, BlockNumber.toNat_ofU32 wide]
      rfl
  | ocwDoSomething bn =>
      apply storeSomething_dispatched documented chain (by simp) rfl
      intro system
      rw [registers_update_ocw, BlockNumber.toNat_ofU32 wide]
      rfl

end ConfidentialWorker.Runtime
