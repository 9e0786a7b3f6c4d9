import ConfidentialWorker.Runtime.AdmittedMessages
import ConfidentialWorker.Runtime.XcmOrigins
import ConfidentialWorker.Xcm.Dispatching

/-!
# Whom the calls of a message act for

The message queue knows two kinds of senders: the relay chain, whose messages
come down to this chain, and the sibling chains.  Neither aliases nor aliasers
are configured, so that a message acts within its sender.  Of the locations
there few own an account or are dispatched as an origin:

* a sibling chain acts as itself, under its own account;
* the relay chain acts as itself or as one of the sibling chains, which its
  messages may descend to.

No message acts as an account of this chain or as root.
-/

namespace ConfidentialWorker

variable {V : Vocabulary} {Encoded Call State : Type}

/-- The parts of `XcmConfig` that decide about calls: all calls are safe. -/
def xcmCalls (converters : OriginConverters) (decode : Encoded → Option Call)
    (weight : Call → Weight)
    (dispatch : RuntimeOrigin → Call → State → State) :
    CallConfig Encoded Call State where
  decode := decode
  safeCallFilter := everything
  originConverter := xcmOriginToTransactDispatchOrigin converters
  weight := weight
  dispatch := dispatch

/-- The senders that the queues of `DmpQueue` and `XcmpQueue` enqueue with. -/
inductive AggregateMessageOrigin where
  | parent
  | sibling (id : UInt32)
  deriving DecidableEq, Repr

def AggregateMessageOrigin.toLocation : AggregateMessageOrigin → Location
  | .parent => Location.parent
  | .sibling id => Location.sibling id

/-- The accounts that a sender may act for. -/
def AggregateMessageOrigin.MayOwn (account : AccountId32) :
    AggregateMessageOrigin → Prop
  | .parent => account = parentAccount ∨ ∃ id, account = siblingAccount id
  | .sibling id => account = siblingAccount id

/-- The origins that the calls of a sender may be dispatched with. -/
def AggregateMessageOrigin.MayDispatch (sender : AggregateMessageOrigin) :
    RuntimeOrigin → Prop
  | .signed who => sender.MayOwn who
  | .relay => sender = .parent
  | .siblingParachain id => sender = .parent ∨ sender = .sibling id
  | .xcm location => location.IsWithin sender.toLocation
  | .root | .none | .xcmResponse _ => False

section Within

variable {sender : AggregateMessageOrigin} {location : Location}
  (within : location.IsWithin sender.toLocation)
include within

private theorem within_parents : location.parents = 1 := by
  cases sender with
  | parent | sibling _ =>
      exact within.1

private theorem within_not_local (id : AccountId32) :
    location ≠ Location.account none id := by
  intro same
  have outside := within_parents within
  rw [same] at outside
  cases outside

private theorem within_of_parent (atParent : location = Location.parent) :
    sender = .parent := by
  cases sender with
  | parent =>
      rfl
  | sibling id =>
      rw [atParent] at within
      have initial := within.2
      simp [AggregateMessageOrigin.toLocation, Location.sibling,
        Location.parent, Junctions.single, Junctions.here] at initial

private theorem within_of_sibling {id : UInt32}
    (atSibling : location = Location.sibling id) :
    sender = .parent ∨ sender = .sibling id := by
  cases sender with
  | parent =>
      exact Or.inl rfl
  | sibling sent =>
      rw [atSibling] at within
      have initial := within.2
      simp [AggregateMessageOrigin.toLocation, Location.sibling,
        Junctions.single] at initial
      rw [initial]
      exact Or.inr rfl

private theorem mayOwn_of_within {account : AccountId32}
    (owns : Owns location account) : sender.MayOwn account := by
  rcases owns with ⟨atParent, rfl⟩ | ⟨id, atSibling, rfl⟩ | isLocal
  · rw [within_of_parent within atParent]
    exact Or.inl rfl
  · rcases within_of_sibling within atSibling with rfl | rfl
    · exact Or.inr ⟨id, rfl⟩
    · rfl
  · exact absurd isLocal (within_not_local within account)

private theorem mayDispatch_of_within {kind : OriginKind}
    {origin : RuntimeOrigin} (dispatches : DispatchesAs location kind origin) :
    sender.MayDispatch origin := by
  rcases dispatches with
    ⟨_, account, owns, rfl⟩ | ⟨_, atParent, rfl⟩ | ⟨_, id, atSibling, rfl⟩ |
      ⟨_, id, isLocal, _⟩ | ⟨_, rfl⟩
  · exact mayOwn_of_within within owns
  · exact within_of_parent within atParent
  · exact within_of_sibling within atSibling
  · exact absurd isLocal (within_not_local within id)
  · exact within

end Within

/-- A message acts within its sender, for the accounts of the sender.  What is
dispatched of it has an origin of the sender's, and it leads from the state
before the message to the state after it. -/
structure ActsForSender {executor : XcmMachine (V.dispatching Encoded)}
    (view : executor.CallView State) {κ : Type} (kept : State → κ)
    (converters : OriginConverters) (calls : CallConfig Encoded Call State)
    (sender : AggregateMessageOrigin)
    (visits : List (Instruction (V.dispatching Encoded) × executor.Vm))
    (last : executor.Vm) : Prop where
  isWithin :
    ∀ visit ∈ visits, ∀ location,
      executor.origin visit.2 = some location →
        location.IsWithin sender.toLocation
  account :
    ∀ visit ∈ visits, ∀ location account,
      executor.origin visit.2 = some location →
      locationToAccountId converters location = some account →
        sender.MayOwn account
  dispatch :
    ∀ dispatch ∈ executor.dispatches calls visits,
      sender.MayDispatch dispatch.origin
  state :
    History.Passes calls.apply kept
      (view.state (executor.new sender.toLocation))
      (executor.dispatches calls visits) (view.state last)

section Dispatched

variable {executor : XcmExecutor (V.dispatching Encoded)}
  (executorDocumented : executor.Documented) (tracks : executor.TracksOrigin)
  {converters : OriginConverters} (converts : converters.Documented)
  {builder : XcmBuilder (V.dispatching Encoded)} {parachainId : UInt32}
  {sender : AggregateMessageOrigin} {weight : Weight}
  {inspection : Inspection (V.dispatching Encoded)}
  {visits : List (Instruction (V.dispatching Encoded) × executor.Vm)}
  {last : executor.Vm}
  (acts :
    executor.Acts (xcmConfig builder parachainId) sender.toLocation weight
      inspection visits last)
include executorDocumented tracks acts

theorem isWithin_of_acts
    {visit : Instruction (V.dispatching Encoded) × executor.Vm}
    (member : visit ∈ visits) {location : Location}
    (acting : executor.origin visit.2 = some location) :
    location.IsWithin sender.toLocation :=
  originWithin_of_acts tracks rfl rfl executorDocumented.machine.new_origin acts
    visit member location acting

include converts

/-- What is dispatched at an instruction has an origin of the sender's. -/
theorem mayDispatch_of_dispatched
    {decode : Encoded → Option Call} {callWeight : Call → Weight}
    {run : RuntimeOrigin → Call → State → State}
    {visit : Instruction (V.dispatching Encoded) × executor.Vm}
    (member : visit ∈ visits) {dispatch : Dispatch Call}
    (dispatched :
      executor.dispatched (xcmCalls converters decode callWeight run) visit =
        some dispatch) :
    sender.MayDispatch dispatch.origin := by
  obtain ⟨transact, _, result⟩ := XcmMachine.dispatched_eq_some_iff.mp dispatched
  obtain ⟨location, acting, _, _, converted, _⟩ :=
    (CallConfig.transact_eq_ok_iff _).mp result
  exact
    mayDispatch_of_within
      (isWithin_of_acts executorDocumented tracks acts member acting)
      ((dispatchOrigin_iff converts).mp converted)

end Dispatched

/-- Nothing that is executed or dispatched of a message acts for anybody but
its sender. -/
theorem message_actsForSender
    {builder : XcmBuilder (V.dispatching Encoded)}
    {executor : XcmExecutor (V.dispatching Encoded)}
    (executorDocumented : executor.Documented) (tracks : executor.TracksOrigin)
    {converters : OriginConverters} (converts : converters.Documented)
    {decode : Encoded → Option Call} {callWeight : Call → Weight}
    {run : RuntimeOrigin → Call → State → State}
    {view : executor.CallView State} {κ : Type} {kept : State → κ}
    (handles :
      view.Dispatches (xcmCalls converters decode callWeight run) kept)
    {parachainId : UInt32} (sender : AggregateMessageOrigin) {weight : Weight}
    {inspection : Inspection (V.dispatching Encoded)}
    {executed : List (Instruction (V.dispatching Encoded))}
    (executes :
      executor.Executes (xcmConfig builder parachainId) sender.toLocation
        weight inspection executed) :
    ∃ visits last,
      executor.Acts (xcmConfig builder parachainId) sender.toLocation weight
          inspection visits last ∧
        visits.map Prod.fst = executed ∧
          ActsForSender view kept converters
            (xcmCalls converters decode callWeight run) sender visits
            last := by
  obtain ⟨visits, last, acts, same⟩ :=
    executed_iff_acts.mp
      ((executorDocumented.executes_iff _ _ _ _ _).mp executes)
  refine ⟨visits, last, acts, same, ?_⟩
  constructor
  · intro visit member location acting
    exact isWithin_of_acts executorDocumented tracks acts member acting
  · intro visit member location account acting converted
    exact
      mayOwn_of_within
        (isWithin_of_acts executorDocumented tracks acts member acting)
        ((locationToAccountId_iff converts).mp converted)
  · intro dispatch member
    obtain ⟨visit, visitMember, dispatched⟩ := List.mem_filterMap.mp member
    exact
      mayDispatch_of_dispatched executorDocumented tracks converts acts
        visitMember dispatched
  · exact XcmMachine.passes_of_acts handles acts

/-! A sibling chain pays for a message with a call. -/

/-- Calls that are numbers, on a state that lists what was dispatched. -/
def recordingCalls : CallConfig ℕ ℕ (List (Dispatch ℕ)) :=
  xcmCalls OriginConverters.reference some (fun _ => ⟨100010000, 0⟩)
    fun origin call state => state ++ [⟨origin, call⟩]

def recordingExecutor : XcmExecutor (Vocabulary.plain.dispatching ℕ) :=
  .ofMachine ((XcmMachine.reference _).onState recordingCalls [])

def payingMessage : Inspection (Vocabulary.plain.dispatching ℕ) where
  instructions :=
    [.withdrawAsset [(1 : ℕ)], .buyExecution (1 : ℕ) .unlimited,
      .other (.transact .sovereignAccount ⟨200000000, 0⟩ (7 : ℕ))]
  properties := ⟨Weight.zero, none⟩

def payingExecuted : List (Instruction (Vocabulary.plain.dispatching ℕ)) :=
  [.withdrawAsset [(1 : ℕ)],
    .buyExecution (1 : ℕ) (.limited ⟨3200000000, 196608⟩),
    .other (.transact .sovereignAccount ⟨200000000, 0⟩ (7 : ℕ))]

theorem message_actsForSender_payingMessage :
    ∃ visits last,
      recordingExecutor.Acts (xcmConfig (XcmBuilder.reference _) 2000)
          (AggregateMessageOrigin.sibling 2001).toLocation
          ⟨3200000000, 196608⟩ payingMessage visits last ∧
        visits.map Prod.fst = payingExecuted ∧
          ActsForSender
            ((XcmMachine.reference _).onStateView recordingCalls []) id
            OriginConverters.reference recordingCalls (.sibling 2001) visits
            last := by
  have admitted :
      barrier (XcmBuilder.reference _) 2000
          (AggregateMessageOrigin.sibling 2001).toLocation
          ⟨3200000000, 196608⟩ payingMessage =
        (.ok ⟨⟩, { payingMessage with instructions := payingExecuted }) :=
    rfl
  have executes :
      recordingExecutor.Executes (xcmConfig (XcmBuilder.reference _) 2000)
        (AggregateMessageOrigin.sibling 2001).toLocation ⟨3200000000, 196608⟩
        payingMessage payingExecuted := by
    apply XcmMachine.Executed.admitted admitted
    exact
      XcmMachine.Runs.step (List.cons_ne_nil _ _) (XcmMachine.Runs.done _)
  exact
    message_actsForSender
      (XcmExecutor.ofMachine_documented
        (XcmMachine.onState_documented XcmMachine.reference_documented))
      (XcmMachine.onState_tracksOrigin reference_tracksOrigin)
      OriginConverters.reference_documented
      (XcmMachine.onState_dispatches id) (.sibling 2001) executes

end ConfidentialWorker
