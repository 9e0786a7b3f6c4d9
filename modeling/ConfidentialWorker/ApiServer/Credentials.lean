import ConfidentialWorker.ApiServer.Authentication
import ConfidentialWorker.Pallets.KeyHandling

/-!
# The worker and the server

The worker sends the stored key as it is.  The server deletes the scheme from
what it receives, trims the rest, and compares it with the configured key,
which it leaves alone.  The two agree on a key exactly when this changes
nothing: the key neither begins nor ends with a space, nor contains the scheme.
-/

namespace ConfidentialWorker.ApiServer

open Program OffchainWorker

variable {width : ℕ} {frame : FrameSystem width}

def PrintableAscii (key : String) : Prop :=
  ∀ letter ∈ key.toList, 0x20 ≤ letter.toNat ∧ letter.toNat ≤ 0x7E

/-- A header value arrives as it was sent, or with spaces stripped around it. -/
def ArrivesAs (sent arrived : String) : Prop :=
  ∃ left right,
    (∀ letter ∈ left, letter = ' ') ∧ (∀ letter ∈ right, letter = ' ') ∧
      sent.toList = left ++ arrived.toList ++ right

/-- The server receives the worker's request. -/
structure Routed (wire : WireRequest) (req : IncomingMessage) : Prop where
  method : req.method = wire.method
  url : req.url = "/basic-auth"
  authorization :
    ∃ sent arrived,
      wire.headers = [("Authorization", sent)] ∧
        req.authorization = some arrived ∧ ArrivesAs sent arrived

/-- The host sends the worker's request and delivers this response whole. -/
structure Delivers (host : Host (Chain frame)) (response : Response) :
    Prop where
  goesOut : KeyedRequestGoesOut host
  status : host.exchange.wait.value = .finished response.status
  ended : host.exchange.body.failure = none
  whole : host.exchange.body.chunks.flatten = Utf8.encode response.body

/-- The request built from the key is answered with the confidential data,
which the worker gets and logs. -/
structure Authorised
    (client : HttpClient (Chain frame)) (blockNumber : BlockNumber width)
    (host : Host (Chain frame)) (key : String) (timestamp : IsoTimestamp)
    (response : Response) : Prop where
  response_eq : response = jsonResponse 200 2 (responseData timestamp)
  fetched :
    (OffchainFetcher.fetchString client (authenticatedRequest key)).outcome
        host =
      .ok (.ok response.body)
  logged :
    responseRecord (.ok response.body) ∈
      ((offchainWorker client blockNumber).final host).log

/-- However the key arrives and however the response is delivered, the worker
is authorised. -/
def Agree (parse : UrlParser)
    (client : HttpClient (Chain frame)) (blockNumber : BlockNumber width)
    (host : Host (Chain frame)) (key : String) : Prop :=
  ∀ req timestamp exchange response,
    Routed (keyedWire key) req →
    answer parse (some key) timestamp req = some response →
    Delivers { host with exchange } response →
      Authorised client blockNumber { host with exchange } key timestamp
        response

/-- The key has no space around it and no scheme in it. -/
structure CleanKey (key : String) : Prop where
  noLeadingSpace : ∀ rest, key.toList ≠ ' ' :: rest
  noTrailingSpace : ∀ front, key.toList ≠ front ++ [' ']
  noScheme : ¬ scheme.toList <:+: key.toList

/-! ## Keys that the server leaves alone -/

private theorem isSpace_iff_of_printable
    {letter : Char} (low : 0x20 ≤ letter.toNat) (high : letter.toNat ≤ 0x7E) :
    isSpace letter = true ↔ letter = ' ' := by
  constructor
  · intro space
    have code : letter.toNat = ' '.toNat := by
      simp only [isSpace, List.mem_cons, List.not_mem_nil, or_false,
        decide_eq_true_eq] at space
      change letter.toNat = 0x20
      omega
    exact Char.toNat_inj.mp code
  · intro same
    rw [same]
    decide

theorem presentedKey_eq_self_iff
    {key : String} (printable : PrintableAscii key) :
    presentedKey key = key ↔ CleanKey key := by
  have schemeNonempty : scheme.toList ≠ [] := by
    decide
  rw [presentedKey_eq_iff,
    Rewriting.trim_deleteFirst_eq_self_iff schemeNonempty]
  constructor
  · rintro ⟨trimmed, noScheme⟩
    have spaceIsBlank : isSpace ' ' = true := by
      decide
    refine ⟨?_, ?_, noScheme⟩
    · intro rest split
      have notBlank := trimmed.first ' ' rest split
      rw [spaceIsBlank] at notBlank
      cases notBlank
    · intro front split
      have notBlank := trimmed.last front ' ' split
      rw [spaceIsBlank] at notBlank
      cases notBlank
  · intro clean
    have notBlank {letter : Char} (member : letter ∈ key.toList)
        (notSpace : letter ≠ ' ') : isSpace letter = false := by
      obtain ⟨low, high⟩ := printable letter member
      rw [Bool.eq_false_iff, ne_eq, isSpace_iff_of_printable low high]
      exact notSpace
    refine ⟨⟨?_, ?_⟩, clean.noScheme⟩
    · intro letter rest split
      apply notBlank (by simp [split])
      intro same
      rw [same] at split
      exact clean.noLeadingSpace rest split
    · intro front letter split
      apply notBlank (by simp [split])
      intro same
      rw [same] at split
      exact clean.noTrailingSpace front split

/-- A key without spaces around it arrives as it was sent. -/
theorem arrived_eq_of_clean
    {key arrived : String} (clean : CleanKey key)
    (arrives : ArrivesAs key arrived) :
    arrived = key := by
  obtain ⟨left, right, leftSpaces, rightSpaces, split⟩ := arrives
  have leftEmpty : left = [] := by
    cases left with
    | nil =>
        rfl
    | cons letter rest =>
        rw [leftSpaces letter List.mem_cons_self] at split
        exact False.elim (clean.noLeadingSpace _ split)
  have rightEmpty : right = [] := by
    rcases List.eq_nil_or_concat' right with empty | ⟨front, letter, ended⟩
    · exact empty
    · have space : letter = ' ' :=
        rightSpaces letter (by simp [ended])
      rw [ended, space, ← List.append_assoc] at split
      exact False.elim (clean.noTrailingSpace _ split)
  rw [leftEmpty, rightEmpty, List.nil_append, List.append_nil] at split
  exact (String.toList_inj.mp split).symm

/-! ## Deliveries -/

/-- A body that comes in one piece. -/
def wholeBody : Bytes → BodyReads
  | [] => .endOfBody 0
  | head :: tail => .chunk head tail 0 (.endOfBody 0)

/-- The answers of a host that delivers the response at once. -/
def deliveringExchange (response : Response) : Exchange :=
  { OffchainFetcher.answeringExchange (wholeBody (Utf8.encode response.body))
    with wait := ⟨.finished response.status, 0⟩ }

theorem deliveringExchange_delivers
    (host : Host (Chain frame)) (response : Response) :
    Delivers { host with exchange := deliveringExchange response } response := by
  have sends :=
    OffchainFetcher.answeringExchange_sends
      (wholeBody (Utf8.encode response.body)) 1
      (some (OffchainFetcher.deadlineFrom host))
  refine ⟨⟨sends.started, sends.headersAdded, sends.finalised⟩, rfl, ?_, ?_⟩
  · change (wholeBody (Utf8.encode response.body)).failure = none
    cases Utf8.encode response.body <;> rfl
  · change (wholeBody (Utf8.encode response.body)).chunks.flatten = _
    cases Utf8.encode response.body with
    | nil =>
        rfl
    | cons head tail =>
        simp [wholeBody, BodyReads.chunks]

private theorem fetchResult_of_delivers
    {host : Host (Chain frame)} {response : Response}
    (delivers : Delivers host response) (ok : response.status = 200) :
    FetchResult host (.ok response.body) := by
  have status := delivers.status
  rw [ok] at status
  have fetched :
      host.exchange.fetched = .ok (Utf8.encode response.body) :=
    (OffchainFetcher.fetched_ok_iff _ _).mpr ⟨status, delivers.whole⟩
  refine Or.inl ⟨delivers.goesOut, ?_⟩
  rw [fetched, OffchainFetcher.textOf, Utf8.decode_encode]

/-- A response with status 200 that is delivered whole reaches the worker. -/
theorem authorised_of_delivers
    {client : HttpClient (Chain frame)} (documented : client.Documented)
    (blockNumber : BlockNumber width)
    {host : Host (Chain frame)} {key : String}
    (permits : host.capabilities.http = true)
    (present : storedKey host.localStorage = some (Utf8.encode key))
    {timestamp : IsoTimestamp} {response : Response}
    (response_eq : response = jsonResponse 200 2 (responseData timestamp))
    (delivers : Delivers host response) :
    Authorised client blockNumber host key timestamp response := by
  have status : response.status = 200 := by
    rw [response_eq]
    rfl
  have expected := fetchResult_of_delivers delivers status
  refine ⟨response_eq, ?_, ?_⟩
  · obtain ⟨result, _, _, run, _, _, fetchResult, _⟩ :=
      fetchString_authenticated documented key permits
    rw [outcome, run, fetchResult_unique fetchResult expected]
  · obtain ⟨result, reached, _, run, _, _, fetchResult, logged, _⟩ :=
      offchainWorker_of_permits documented blockNumber permits present
    rw [final, run, logged, fetchResult_unique fetchResult expected]
    simp

/-! ## Agreement -/

private theorem answer_of_accepted
    {parse : UrlParser}
    (servesPath : parse "/basic-auth" = some (some "/basic-auth"))
    {apiKeyEnv : Option String} {req : IncomingMessage}
    (method : req.method = "GET") (url : req.url = "/basic-auth")
    (accepted :
      presentedKey (req.authorization.getD "") = validApiKey apiKeyEnv)
    (timestamp : IsoTimestamp) :
    answer parse apiKeyEnv timestamp req =
      some (jsonResponse 200 2 (responseData timestamp)) := by
  have notPreflight : req.method ≠ "OPTIONS" := by
    rw [method]
    decide
  have notHead : req.method ≠ "HEAD" := by
    rw [method]
    decide
  have parsed : parse req.url = some (some "/basic-auth") := by
    rw [url]
    exact servesPath
  rw [answer_of_parsed parsed, Response.sentTo_of_not_head notHead]
  simp [respond, notPreflight, accepted, isProtected]

/-- Agreement is put to the test by a key that arrives as it was sent. -/
theorem presentedKey_of_agree
    {parse : UrlParser}
    (servesPath : parse "/basic-auth" = some (some "/basic-auth"))
    {client : HttpClient (Chain frame)}
    {blockNumber : BlockNumber width} {host : Host (Chain frame)}
    {key : String} (nonempty : key ≠ "")
    (agree : Agree parse client blockNumber host key) :
    presentedKey key = key := by
  let req : IncomingMessage := ⟨"GET", "/basic-auth", some key, get_ne_connect⟩
  have routed : Routed (keyedWire key) req :=
    ⟨rfl, rfl, key, key, rfl, rfl, [], [], by simp, by simp, by simp⟩
  have answered : answer parse (some key) newYear req = some _ :=
    answer_of_parsed servesPath
  have authorised :=
    agree req newYear _ _ routed answered (deliveringExchange_delivers host _)
  have givesOut : GivesOut parse (some key) newYear req := by
    refine ⟨_, answered, ?_⟩
    rw [authorised.response_eq]
    exact responseData_containsConfidential newYear
  rw [givesOut_iff, KeyAccepted, validApiKey_of_nonempty nonempty] at givesOut
  exact givesOut.2.2.1

theorem agree_of_cleanKey
    {parse : UrlParser}
    (servesPath : parse "/basic-auth" = some (some "/basic-auth"))
    {client : HttpClient (Chain frame)} (documented : client.Documented)
    (blockNumber : BlockNumber width) {host : Host (Chain frame)}
    (permits : host.capabilities.http = true)
    {key : String} (nonempty : key ≠ "") (printable : PrintableAscii key)
    (present : storedKey host.localStorage = some (Utf8.encode key))
    (clean : CleanKey key) :
    Agree parse client blockNumber host key := by
  intro req timestamp exchange response routed answered delivers
  obtain ⟨sent, arrived, headers, authorization, arrives⟩ :=
    routed.authorization
  have sameSent : key = sent := by
    simpa [keyedWire] using headers
  have sameArrived : arrived = key := by
    rw [← sameSent] at arrives
    exact arrived_eq_of_clean clean arrives
  have accepted :
      presentedKey (req.authorization.getD "") = validApiKey (some key) := by
    rw [authorization, Option.getD_some, sameArrived,
      validApiKey_of_nonempty nonempty]
    exact (presentedKey_eq_self_iff printable).mpr clean
  have response_eq :
      response = jsonResponse 200 2 (responseData timestamp) := by
    rw [answer_of_accepted servesPath routed.method routed.url accepted
      timestamp] at answered
    exact (Option.some.inj answered).symm
  have servedPermits :
      ({ host with exchange } : Host (Chain frame)).capabilities.http = true :=
    permits
  exact
    authorised_of_delivers documented blockNumber servedPermits present
      response_eq delivers

/-- Worker and server agree on exactly the clean keys. -/
theorem agree_iff_cleanKey
    {parse : UrlParser}
    (servesPath : parse "/basic-auth" = some (some "/basic-auth"))
    {client : HttpClient (Chain frame)} (documented : client.Documented)
    (blockNumber : BlockNumber width) {host : Host (Chain frame)}
    (permits : host.capabilities.http = true)
    {key : String} (nonempty : key ≠ "") (printable : PrintableAscii key)
    (present : storedKey host.localStorage = some (Utf8.encode key)) :
    Agree parse client blockNumber host key ↔ CleanKey key := by
  constructor
  · intro agree
    exact
      (presentedKey_eq_self_iff printable).mp
        (presentedKey_of_agree servesPath nonempty agree)
  · intro clean
    exact
      agree_of_cleanKey servesPath documented blockNumber permits nonempty
        printable present clean

private theorem printableAscii_bearer_key : PrintableAscii "Bearer abc" := by
  have checked :
      ("Bearer abc".toList.all fun letter =>
        0x20 ≤ letter.toNat ∧ letter.toNat ≤ 0x7E) = true := by
    decide
  intro letter member
  exact of_decide_eq_true (List.all_eq_true.mp checked letter member)

/-- A key that names its scheme is refused, although both sides hold it. -/
theorem agree_fails_on_bearer_key :
    storedKey (keyHost (Utf8.encode "Bearer abc")).localStorage =
        some (Utf8.encode "Bearer abc") ∧
      ¬ Agree plainParser (HttpClient.reference _) 1
        (keyHost (Utf8.encode "Bearer abc")) "Bearer abc" := by
  refine ⟨storedKey_keyStore _, ?_⟩
  intro agree
  have same : presentedKey "Bearer abc" = "Bearer abc" :=
    presentedKey_of_agree rfl (by decide) agree
  revert same
  decide

theorem agree_iff_cleanKey_on_bearer_key :
    Agree plainParser (HttpClient.reference _) 1
        (keyHost (Utf8.encode "Bearer abc")) "Bearer abc" ↔
      CleanKey "Bearer abc" :=
  agree_iff_cleanKey rfl HttpClient.reference_documented 1 rfl (by decide)
    printableAscii_bearer_key (storedKey_keyStore (Utf8.encode "Bearer abc"))

end ConfidentialWorker.ApiServer
