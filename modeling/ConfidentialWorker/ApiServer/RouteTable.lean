import ConfidentialWorker.ApiServer.Authentication

/-!
# The route table

The documented routes are the preflight, the public health check, the protected
data and everything else.  The handler checks the key before it looks at the
path, so it follows the table on every route but the health check, which is
answered to authorised requests only.
-/

namespace ConfidentialWorker.ApiServer

inductive Route where
  | preflight
  | health
  | confidential
  | unknown
  deriving DecidableEq, Repr

def routeOf (req : IncomingMessage) (pathname : Option String) : Route :=
  if req.method = "OPTIONS" then
    .preflight
  else if pathname = some "/api/health" then
    .health
  else if isProtected pathname then
    .confidential
  else
    .unknown

/-- The row of the table for a route. -/
def Route.Answers (timestamp : IsoTimestamp) (authorised : Prop)
    (response : Response) : Route → Prop
  | .preflight => response.status = 200 ∧ response.body = ""
  | .health =>
      response.status = 200 ∧
        response.body = Json.stringify 0 (ApiServer.health timestamp)
  | .confidential =>
      (authorised →
          response.status = 200 ∧
            response.body = Json.stringify 2 (responseData timestamp)) ∧
        (¬ authorised →
          response.status = 401 ∧ ¬ containsConfidential response.body)
  | .unknown => response.status ≠ 200

/-- The routes that anyone may ask for. -/
def Route.isPublic : Route → Bool
  | .preflight => true
  | .health => true
  | .confidential => false
  | .unknown => false

section Table

variable (parse : UrlParser) (apiKeyEnv : Option String)
  (timestamp : IsoTimestamp) (req : IncomingMessage)
  (pathname : Option String)

/-- The answer to a request does not depend on its Authorization header. -/
def IgnoresHeader : Prop :=
  ∀ authorization,
    answer parse apiKeyEnv timestamp
        { req with authorization := authorization } =
      answer parse apiKeyEnv timestamp req

/-- The answer is the one in the table for the path. -/
def AnswersByTable : Prop :=
  ∃ response,
    answer parse apiKeyEnv timestamp req = some response ∧
      (routeOf req pathname).Answers timestamp (KeyAccepted apiKeyEnv req)
        response

/-- The server treats a request for the path as the table says. -/
structure FollowsTable : Prop where
  answered : AnswersByTable parse apiKeyEnv timestamp req pathname
  ignoresHeader :
    (routeOf req pathname).isPublic = true →
      IgnoresHeader parse apiKeyEnv timestamp req

/-- An authorised HEAD request for the confidential data: it gets no body. -/
def DropsData : Prop :=
  req.method = "HEAD" ∧ isProtected pathname = true ∧
    KeyAccepted apiKeyEnv req

end Table

variable {parse : UrlParser} {apiKeyEnv : Option String}
  {timestamp : IsoTimestamp} {req : IncomingMessage}
  {pathname : Option String}

theorem routeOf_eq_health_iff :
    routeOf req pathname = .health ↔
      req.method ≠ "OPTIONS" ∧ pathname = some "/api/health" := by
  unfold routeOf
  split_ifs with preflight healthPath isData
  · simp [preflight]
  · simp [preflight, healthPath]
  · simp [healthPath]
  · simp [healthPath]

theorem validApiKey_ne_empty (apiKeyEnv : Option String) :
    validApiKey apiKeyEnv ≠ "" := by
  unfold validApiKey
  cases apiKeyEnv with
  | none =>
      decide
  | some key =>
      by_cases empty : key = ""
      · simp [empty]
      · simp [empty]

/-- A request without the header presents the empty key. -/
theorem not_keyAccepted_of_no_header
    (noHeader : req.authorization = none) :
    ¬ KeyAccepted apiKeyEnv req := by
  have presentsNothing : presentedKey "" = "" := by
    decide
  intro authorised
  rw [KeyAccepted, noHeader, Option.getD_none, presentsNothing] at authorised
  exact validApiKey_ne_empty apiKeyEnv authorised.symm

/-! ## The health check -/

section Parsed

variable (parsed : parse req.url = some pathname)
include parsed

private theorem answersByTable_iff :
    AnswersByTable parse apiKeyEnv timestamp req pathname ↔
      (routeOf req pathname).Answers timestamp (KeyAccepted apiKeyEnv req)
        ((respond apiKeyEnv timestamp req pathname).response.sentTo req) := by
  unfold AnswersByTable
  rw [answer_of_parsed parsed]
  simp only [Option.some.injEq, exists_eq_left']

theorem health_answersByTable_iff
    (isHealth : routeOf req pathname = .health) :
    AnswersByTable parse apiKeyEnv timestamp req pathname ↔
      req.method ≠ "HEAD" ∧ KeyAccepted apiKeyEnv req := by
  obtain ⟨method, path⟩ := routeOf_eq_health_iff.mp isHealth
  rw [answersByTable_iff parsed, isHealth]
  by_cases authorised : KeyAccepted apiKeyEnv req
  · rw [respond_of_health method authorised path]
    by_cases head : req.method = "HEAD"
    · refine iff_of_false ?_ (fun both => both.1 head)
      intro answers
      rw [Route.Answers, Response.sentTo_body_of_head head] at answers
      exact Json.stringify_object_ne_empty 0 _ answers.2.symm
    · rw [Response.sentTo_of_not_head head]
      exact iff_of_true ⟨rfl, rfl⟩ ⟨head, authorised⟩
  · rw [respond_of_refused method authorised]
    refine iff_of_false ?_ (fun both => authorised both.2)
    intro answers
    rw [Route.Answers, Response.sentTo_status] at answers
    exact absurd answers.1 (by decide)

/-- An authorised request for the health check is answered differently once
its header is left out. -/
theorem health_not_ignoresHeader
    (isHealth : routeOf req pathname = .health)
    (authorised : KeyAccepted apiKeyEnv req) :
    ¬ IgnoresHeader parse apiKeyEnv timestamp req := by
  intro ignores
  obtain ⟨method, path⟩ := routeOf_eq_health_iff.mp isHealth
  have bareParsed :
      parse ({ req with authorization := none } : IncomingMessage).url =
        some pathname :=
    parsed
  have refused :
      ¬ KeyAccepted apiKeyEnv { req with authorization := none } :=
    not_keyAccepted_of_no_header rfl
  have bareMethod :
      ({ req with authorization := none } : IncomingMessage).method ≠
        "OPTIONS" :=
    method
  have same := ignores none
  rw [answer_of_parsed bareParsed, answer_of_parsed parsed,
    respond_of_refused bareMethod refused,
    respond_of_health method authorised path, Option.some.injEq] at same
  have sameStatus := congrArg Response.status same
  rw [Response.sentTo_status, Response.sentTo_status] at sameStatus
  have differ : (401 : UInt16) ≠ 200 := by
    decide
  exact differ sameStatus

/-! ## The other routes -/

/-- Where the data are promised, everybody gets what is promised but those
whose method is HEAD. -/
private theorem confidential_answersByTable_iff
    (method : req.method ≠ "OPTIONS") (route : isProtected pathname = true)
    (isData : routeOf req pathname = .confidential) :
    AnswersByTable parse apiKeyEnv timestamp req pathname ↔
      ¬ DropsData apiKeyEnv req pathname := by
  rw [answersByTable_iff parsed, isData, Route.Answers, Response.sentTo_status]
  by_cases authorised : KeyAccepted apiKeyEnv req
  · rw [respond_of_protected method authorised route]
    by_cases head : req.method = "HEAD"
    · refine iff_of_false ?_ (not_not_intro ⟨head, route, authorised⟩)
      intro answers
      have body := (answers.1 authorised).2
      rw [Response.sentTo_body_of_head head] at body
      exact Json.stringify_object_ne_empty 2 _ body.symm
    · rw [Response.sentTo_of_not_head head]
      refine iff_of_true ⟨fun _ => ⟨rfl, rfl⟩, ?_⟩ (fun drops => head drops.1)
      intro refused
      exact absurd authorised refused
  · rw [respond_of_refused method authorised]
    refine
      iff_of_true ⟨fun accepted => absurd accepted authorised, ?_⟩
        (fun drops => authorised drops.2.2)
    intro _
    refine ⟨rfl, ?_⟩
    by_cases head : req.method = "HEAD"
    · rw [Response.sentTo_body_of_head head]
      exact not_containsConfidential_of_letter (by decide)
    · rw [Response.sentTo_of_not_head head]
      exact not_containsConfidential_of_letter (by decide)

private theorem unknown_answersByTable
    (method : req.method ≠ "OPTIONS") (route : isProtected pathname = false)
    (notHealth : pathname ≠ some "/api/health")
    (isUnknown : routeOf req pathname = .unknown) :
    AnswersByTable parse apiKeyEnv timestamp req pathname := by
  rw [answersByTable_iff parsed, isUnknown, Route.Answers,
    Response.sentTo_status]
  by_cases authorised : KeyAccepted apiKeyEnv req
  · rw [respond_of_unknown method authorised route notHealth]
    decide
  · rw [respond_of_refused method authorised]
    decide

theorem answersByTable_iff_of_not_health
    (notHealth : routeOf req pathname ≠ .health) :
    AnswersByTable parse apiKeyEnv timestamp req pathname ↔
      req.method = "OPTIONS" ∨ ¬ DropsData apiKeyEnv req pathname := by
  by_cases preflight : req.method = "OPTIONS"
  · have notHead : req.method ≠ "HEAD" := by
      rw [preflight]
      decide
    have isPreflight : routeOf req pathname = .preflight := if_pos preflight
    rw [answersByTable_iff parsed, isPreflight, respond_of_preflight preflight,
      Response.sentTo_of_not_head notHead]
    exact iff_of_true ⟨rfl, rfl⟩ (Or.inl preflight)
  · have notHealthPath : pathname ≠ some "/api/health" :=
      fun path => notHealth (routeOf_eq_health_iff.mpr ⟨preflight, path⟩)
    rw [or_iff_right preflight]
    cases route : isProtected pathname with
    | true =>
        apply confidential_answersByTable_iff parsed preflight route
        simp [routeOf, preflight, notHealthPath, route]
    | false =>
        refine iff_of_true ?_ (fun drops => ?_)
        · apply unknown_answersByTable parsed preflight route notHealthPath
          simp [routeOf, preflight, notHealthPath, route]
        · have isData := drops.2.1
          rw [route] at isData
          cases isData

theorem ignoresHeader_of_preflight (preflight : req.method = "OPTIONS") :
    IgnoresHeader parse apiKeyEnv timestamp req := by
  intro authorization
  have barePreflight :
      ({ req with authorization := authorization } : IncomingMessage).method =
        "OPTIONS" :=
    preflight
  have bareParsed :
      parse
          ({ req with authorization := authorization } : IncomingMessage).url =
        some pathname :=
    parsed
  rw [answer_of_parsed bareParsed, answer_of_parsed parsed,
    respond_of_preflight barePreflight, respond_of_preflight preflight]
  rfl

omit parsed in
private theorem preflight_of_public
    (notHealth : routeOf req pathname ≠ .health)
    (isPublic : (routeOf req pathname).isPublic = true) :
    req.method = "OPTIONS" := by
  by_contra method
  unfold routeOf at notHealth isPublic
  rw [if_neg method] at notHealth isPublic
  split_ifs at notHealth isPublic
  · exact notHealth rfl
  · cases isPublic
  · cases isPublic

/-- The server follows the table on every route but the health check, where
only the answers to authorised requests are the ones in the table.  A HEAD
request gets no body, and so not the one in the table. -/
theorem followsTable_iff :
    (FollowsTable parse apiKeyEnv timestamp req pathname ↔
        req.method = "OPTIONS" ∨
          pathname ≠ some "/api/health" ∧
            ¬ DropsData apiKeyEnv req pathname) ∧
      (AnswersByTable parse apiKeyEnv timestamp req pathname ↔
        req.method = "OPTIONS" ∨
          (pathname ≠ some "/api/health" ∧
              ¬ DropsData apiKeyEnv req pathname) ∨
            pathname = some "/api/health" ∧ req.method ≠ "HEAD" ∧
              KeyAccepted apiKeyEnv req) := by
  by_cases isHealth : routeOf req pathname = .health
  · obtain ⟨method, path⟩ := routeOf_eq_health_iff.mp isHealth
    have answers_iff :
        AnswersByTable parse apiKeyEnv timestamp req pathname ↔
          req.method ≠ "HEAD" ∧ KeyAccepted apiKeyEnv req :=
      health_answersByTable_iff parsed isHealth
    constructor
    · have notFollows :
          ¬ FollowsTable parse apiKeyEnv timestamp req pathname := by
        intro follows
        have authorised := (answers_iff.mp follows.answered).2
        have ignores := follows.ignoresHeader (by rw [isHealth]; rfl)
        exact health_not_ignoresHeader parsed isHealth authorised ignores
      refine iff_of_false notFollows ?_
      rintro (preflight | ⟨notHealth, -⟩)
      · exact method preflight
      · exact notHealth path
    · have excluded :
          ¬ (pathname ≠ some "/api/health" ∧
              ¬ DropsData apiKeyEnv req pathname) :=
        fun both => both.1 path
      rw [answers_iff, or_iff_right method, or_iff_right excluded,
        and_iff_right path]
  · have answers_iff :
        AnswersByTable parse apiKeyEnv timestamp req pathname ↔
          req.method = "OPTIONS" ∨ ¬ DropsData apiKeyEnv req pathname :=
      answersByTable_iff_of_not_health parsed isHealth
    have follows_iff :
        FollowsTable parse apiKeyEnv timestamp req pathname ↔
          AnswersByTable parse apiKeyEnv timestamp req pathname := by
      constructor
      · intro follows
        exact follows.answered
      · intro answered
        refine ⟨answered, fun isPublic => ?_⟩
        exact
          ignoresHeader_of_preflight parsed
            (preflight_of_public isHealth isPublic)
    rw [follows_iff, answers_iff]
    by_cases preflight : req.method = "OPTIONS"
    · simp [preflight]
    · have notHealthPath : pathname ≠ some "/api/health" :=
        fun path => isHealth (routeOf_eq_health_iff.mpr ⟨preflight, path⟩)
      simp [preflight, notHealthPath]

end Parsed

/-- The health check as a monitor asks for it. -/
def healthRequest : IncomingMessage :=
  ⟨"GET", "/api/health", none, get_ne_connect⟩

theorem healthRequest_not_followsTable :
    ¬ FollowsTable plainParser (some "secret") newYear healthRequest
        (some "/api/health") ∧
      (answer plainParser (some "secret") newYear healthRequest).map
          Response.status =
        some 401 := by
  have isHealth : routeOf healthRequest (some "/api/health") = .health := by
    decide
  have refused : ¬ KeyAccepted (some "secret") healthRequest :=
    not_keyAccepted_of_no_header rfl
  have parsed : plainParser healthRequest.url = some (some "/api/health") :=
    rfl
  constructor
  · intro follows
    have answers :=
      (health_answersByTable_iff parsed isHealth).mp follows.answered
    exact refused answers.2
  · rw [answer_of_parsed parsed, respond_of_refused (by decide) refused]
    rfl

theorem followsTable_iff_on_healthRequest :
    (FollowsTable plainParser (some "secret") newYear healthRequest
          (some "/api/health") ↔
        healthRequest.method = "OPTIONS" ∨
          some "/api/health" ≠ some "/api/health" ∧
            ¬ DropsData (some "secret") healthRequest (some "/api/health")) ∧
      (AnswersByTable plainParser (some "secret") newYear healthRequest
          (some "/api/health") ↔
        healthRequest.method = "OPTIONS" ∨
          (some "/api/health" ≠ some "/api/health" ∧
              ¬ DropsData (some "secret") healthRequest
                (some "/api/health")) ∨
            some "/api/health" = some "/api/health" ∧
              healthRequest.method ≠ "HEAD" ∧
                KeyAccepted (some "secret") healthRequest) :=
  followsTable_iff rfl

end ConfidentialWorker.ApiServer
