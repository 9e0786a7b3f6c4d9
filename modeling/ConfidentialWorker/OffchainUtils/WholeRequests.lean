import ConfidentialWorker.Library.Sequence
import ConfidentialWorker.OffchainUtils.FetchGuarantees

/-!
# A request is sent whole or not at all

The sending calls of a fetch follow one plan: start the request, add every
header in the order in which it was added, finalise.  They end with the first
call that the host refuses.  A call counts as made when the host accepts it, so
the whole plan is made exactly when no call is refused; only then does the
fetch wait for a response, and otherwise nothing is on the wire.
-/

namespace ConfidentialWorker.OffchainFetcher

open Program Http

variable {χ : Type}

/-- The sending calls that a fetch issues, also the one that is refused. -/
def issuedSends
    (client : HttpClient χ) (request : HttpRequest) (host : Host χ) :
    List HostCall :=
  (HostM.issued (fetch client request) host).filter HostCall.buildsRequest

/-- The sending calls that the host accepts. -/
def madeSends
    (client : HttpClient χ) (request : HttpRequest) (host : Host χ) :
    List HostCall :=
  Sequence.accepted
    (host.exchange.accepts request.headers.length (some (deadlineFrom host)))
    (issuedSends client request host)

/-- The host accepts every sending call that the fetch issues. -/
def NoneRefused
    (client : HttpClient χ) (request : HttpRequest) (host : Host χ) : Prop :=
  ∀ index < (issuedSends client request host).length,
    Accepts request host index

/-- The fetch waits for a response. -/
def Waits
    (client : HttpClient χ) (request : HttpRequest) (host : Host χ) : Prop :=
  ∃ id deadline,
    .httpResponseWait id deadline ∈ HostM.issued (fetch client request) host

/-- The request of a URL and the headers added to it, one after the other. -/
def requestWith (url : String) (added : List (String × String)) : HttpRequest :=
  added.foldl
    (fun request header => request.addHeader header.1 header.2)
    (HttpRequest.new url)

/-- The calls that send a request whole. -/
def sendingPlan (url : String) (added : List (String × String))
    (deadline : Timestamp) (id : RequestId) : List HostCall :=
  .httpRequestStart "GET" url ::
    (added.map fun header => .httpRequestAddHeader id header.1 header.2) ++
      [.httpRequestWriteBody id [] (some deadline)]

/-- What a fetch promises about sending a request. -/
structure WholeOrNotAtAll
    (client : HttpClient χ) (url : String) (added : List (String × String))
    (host : Host χ) (id : RequestId) : Prop where
  issued_prefix :
    issuedSends client (requestWith url added) host <+:
      sendingPlan url added (deadlineFrom host) id
  made_prefix :
    madeSends client (requestWith url added) host <+:
      sendingPlan url added (deadlineFrom host) id
  stops :
    ∀ index,
      index + 1 < (issuedSends client (requestWith url added) host).length →
        Accepts (requestWith url added) host index
  made_whole_iff :
    madeSends client (requestWith url added) host =
        sendingPlan url added (deadlineFrom host) id ↔
      NoneRefused client (requestWith url added) host
  waits_iff :
    Waits client (requestWith url added) host ↔
      madeSends client (requestWith url added) host =
        sendingPlan url added (deadlineFrom host) id
  sent :
    NoneRefused client (requestWith url added) host →
      ((fetch client (requestWith url added)).final host).sentRequests =
        host.sentRequests ++ [⟨"GET", url, added⟩]
  failed :
    ¬ NoneRefused client (requestWith url added) host →
      (fetch client (requestWith url added)).outcome host =
          .ok (.error sendFailed) ∧
        (∀ deadline,
          .httpRequestWriteBody id [] deadline ∉
            madeSends client (requestWith url added) host) ∧
          ((fetch client (requestWith url added)).final host).sentRequests =
            host.sentRequests

/-- The same on any host.  One without the HTTP capability stops the fetch at
its first sending call. -/
structure SentWholeOrNotAtAll
    (client : HttpClient χ) (url : String) (added : List (String × String))
    (host : Host χ) : Prop where
  permitted :
    host.capabilities.http = true →
      ∃ id, WholeOrNotAtAll client url added host id
  stopped :
    host.capabilities.http = false →
      (fetch client (requestWith url added)).outcome host =
          .error .missingCapability ∧
        issuedSends client (requestWith url added) host =
            [.httpRequestStart "GET" url] ∧
          ¬ Waits client (requestWith url added) host ∧
            ((fetch client (requestWith url added)).final host).sentRequests =
              host.sentRequests

/-- No header is dropped, merged or moved. -/
theorem requestWith_eq (url : String) (added : List (String × String)) :
    requestWith url added = ⟨url, added⟩ := by
  have keeps :
      ∀ (rest : List (String × String)) (request : HttpRequest),
        rest.foldl
            (fun request header => request.addHeader header.1 header.2)
            request =
          ⟨request.url, request.headers ++ rest⟩ := by
    intro rest
    induction rest with
    | nil =>
        intro request
        simp
    | cons header rest inductionHypothesis =>
        intro request
        rw [List.foldl_cons, inductionHypothesis]
        simp [HttpRequest.addHeader]
  simpa [requestWith, HttpRequest.new] using keeps added (HttpRequest.new url)

private theorem plannedCalls_eq
    (url : String) (added : List (String × String)) (deadline : Timestamp)
    (id : RequestId) :
    (built (requestWith url added) deadline).plannedCalls id =
      sendingPlan url added deadline id := by
  rw [requestWith_eq]
  rfl

private theorem sendingPlan_builds
    {url : String} {added : List (String × String)} {deadline : Timestamp}
    {id : RequestId} :
    ∀ call ∈ sendingPlan url added deadline id,
      call.buildsRequest = true := by
  intro call member
  simp only [sendingPlan, List.cons_append, List.mem_cons, List.mem_append,
    List.mem_map, List.not_mem_nil, or_false] at member
  rcases member with start | ⟨header, _, added⟩ | write
  · rw [start]
    rfl
  · rw [← added]
    rfl
  · rw [write]
    rfl

/-- The finalising call stands at the end of the plan only. -/
private theorem finalise_not_mem_take
    {url : String} {added : List (String × String)} {deadline : Timestamp}
    {id : RequestId} {count : ℕ}
    (short : count < (sendingPlan url added deadline id).length)
    (limit : Option Timestamp) :
    .httpRequestWriteBody id [] limit ∉
      (sendingPlan url added deadline id).take count := by
  have headersOnly :
      count ≤
        (HostCall.httpRequestStart "GET" url ::
          added.map fun header =>
            .httpRequestAddHeader id header.1 header.2).length := by
    simp only [sendingPlan, List.length_append, List.length_singleton] at short
    omega
  intro member
  rw [sendingPlan, List.take_append_of_le_length headersOnly] at member
  have early := List.mem_of_mem_take member
  simp at early

private theorem filter_builds_of_planned
    {url : String} {added : List (String × String)} {deadline : Timestamp}
    {id : RequestId} {calls : List HostCall}
    (planned : calls <+: sendingPlan url added deadline id) :
    calls.filter HostCall.buildsRequest = calls :=
  List.filter_eq_self.mpr fun call member =>
    sendingPlan_builds call (planned.subset member)

private theorem wholeOrNotAtAll_of_sent
    {client : HttpClient χ} (documented : client.Documented)
    (url : String) (added : List (String × String)) {host : Host χ}
    (permits : host.capabilities.http = true)
    (goesOut : RequestGoesOut (requestWith url added) host) :
    ∃ id, WholeOrNotAtAll client url added host id := by
  obtain ⟨id, reached, made, run, called, reads, _, wire⟩ :=
    fetch_of_sent documented (requestWith url added) permits goesOut
  rw [plannedCalls_eq] at called
  have issued := HostM.issued_of_apply_eq run called
  have readsBuildNothing : made.filter HostCall.buildsRequest = [] := by
    rw [List.filter_eq_nil_iff]
    intro call member
    rw [reads call member]
    simp [HostCall.buildsRequest]
  have sends :
      issuedSends client (requestWith url added) host =
        sendingPlan url added (deadlineFrom host) id := by
    rw [issuedSends, issued, List.filter_cons_of_neg (by
      simp [HostCall.buildsRequest]), List.filter_append,
      filter_builds_of_planned (List.prefix_refl _),
      List.filter_cons_of_neg (by simp [HostCall.buildsRequest]),
      readsBuildNothing, List.append_nil]
  have noneRefused : NoneRefused client (requestWith url added) host :=
    fun index _ => goesOut.accepts index
  have whole :
      madeSends client (requestWith url added) host =
        sendingPlan url added (deadlineFrom host) id := by
    rw [madeSends, Sequence.accepted_of_all noneRefused, sends]
  have waits : Waits client (requestWith url added) host := by
    refine ⟨id, none, ?_⟩
    rw [issued]
    simp
  refine ⟨id, ?_⟩
  constructor
  · simp only [sends, List.prefix_refl]
  · simp only [whole, List.prefix_refl]
  · intro index bound
    exact goesOut.accepts index
  · exact iff_of_true whole noneRefused
  · exact iff_of_true waits whole
  · intro _
    rw [final, run, wire, requestWith_eq]
  · intro refused
    exact absurd noneRefused refused

private theorem wholeOrNotAtAll_of_refused
    {client : HttpClient χ} (documented : client.Documented)
    (url : String) (added : List (String × String)) {host : Host χ}
    (permits : host.capabilities.http = true)
    (unsent : ¬ RequestGoesOut (requestWith url added) host) :
    ∃ id, WholeOrNotAtAll client url added host id := by
  obtain ⟨id, reached, count, run, called, bound, before, here, frame⟩ :=
    fetch_of_refused documented (requestWith url added) permits unsent
  rw [plannedCalls_eq] at called bound
  have issued := HostM.issued_of_apply_eq run called
  have sends :
      issuedSends client (requestWith url added) host =
        (sendingPlan url added (deadlineFrom host) id).take (count + 1) := by
    rw [issuedSends, issued, List.filter_cons_of_neg (by
      simp [HostCall.buildsRequest]),
      filter_builds_of_planned (List.take_prefix _ _)]
  have issuedLength :
      (issuedSends client (requestWith url added) host).length = count + 1 := by
    rw [sends, List.length_take]
    omega
  have someRefused : ¬ NoneRefused client (requestWith url added) host := by
    intro noneRefused
    exact here (noneRefused count (by omega))
  have made :
      madeSends client (requestWith url added) host =
        (sendingPlan url added (deadlineFrom host) id).take count := by
    rw [madeSends, sends]
    exact
      Sequence.accepted_take_of_refused bound before (Bool.eq_false_iff.mpr here)
  have notWhole :
      madeSends client (requestWith url added) host ≠
        sendingPlan url added (deadlineFrom host) id := by
    intro whole
    have sameLength := congrArg List.length whole
    rw [made, List.length_take] at sameLength
    omega
  have notWaits : ¬ Waits client (requestWith url added) host := by
    rintro ⟨waitId, limit, member⟩
    rw [issued] at member
    rcases List.mem_cons.mp member with clock | sending
    · cases clock
    · have builds := sendingPlan_builds _ (List.mem_of_mem_take sending)
      cases builds
  refine ⟨id, ?_⟩
  constructor
  · rw [sends]
    exact List.take_prefix _ _
  · rw [made]
    exact List.take_prefix _ _
  · intro index earlier
    exact before index (by omega)
  · exact iff_of_false notWhole someRefused
  · exact iff_of_false notWaits notWhole
  · intro noneRefused
    exact absurd noneRefused someRefused
  · intro _
    refine ⟨congrArg Prod.fst run, ?_, ?_⟩
    · intro limit
      rw [made]
      exact finalise_not_mem_take bound limit
    · rw [final, run]
      exact congrArg Prod.snd frame

/-- A request is sent whole or not at all, whatever the host refuses. -/
theorem request_sentWholeOrNotAtAll
    {client : HttpClient χ} (documented : client.Documented)
    (url : String) (added : List (String × String)) (host : Host χ) :
    SentWholeOrNotAtAll client url added host := by
  constructor
  · intro permits
    by_cases goesOut : RequestGoesOut (requestWith url added) host
    · exact wholeOrNotAtAll_of_sent documented url added permits goesOut
    · exact wholeOrNotAtAll_of_refused documented url added permits goesOut
  · intro missing
    have run :=
      fetch_of_missing documented (requestWith url added) missing
    have issued := HostM.issued_of_apply_eq run rfl
    refine ⟨congrArg Prod.fst run, ?_, ?_, ?_⟩
    · rw [issuedSends, issued, requestWith_eq]
      rfl
    · rintro ⟨id, limit, member⟩
      rw [issued] at member
      simp at member
    · rw [final, run]

/-- A host that refuses the second header. -/
def secondHeaderRefused : Host Unit :=
  Host.atStart ⟨true⟩ (fun _ _ => none) 0
    { answeringExchange (.endOfBody 0) with
      addHeader := fun index => if index = 1 then .error () else .ok () } ()

theorem request_sentWholeOrNotAtAll_when_secondHeaderRefused :
    SentWholeOrNotAtAll (HttpClient.reference Unit)
      "https://postman-echo.com/basic-auth"
      [("Accept", "a"), ("Accept", "b"), ("Authorization", "alpha")]
      secondHeaderRefused :=
  request_sentWholeOrNotAtAll HttpClient.reference_documented _ _ _

end ConfidentialWorker.OffchainFetcher
