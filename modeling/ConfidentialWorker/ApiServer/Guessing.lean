import ConfidentialWorker.ApiServer.RouteTable
import ConfidentialWorker.Library.Guessing

/-!
# An attacker without the key

An attacker sends the API server requests of any shape, each chosen after the
answers to all requests before.  A refusal is the same whatever the key is,
and a preflight is answered before the key is looked at, so the attacker
learns from each request at most that the one key which the handler makes of
its Authorization header is wrong.

A request may take any path: also the health check and unknown paths tell an
attacker with a wrong key nothing about routes.  A URL that `url.parse` throws
at ends the process, whatever the key is, and nothing is answered after it.
-/

namespace ConfidentialWorker.ApiServer

/-- The answer to a request without the key. -/
def refusal (req : IncomingMessage) : Response :=
  if req.method = "OPTIONS" then ⟨200, corsHeaders, ""⟩
  else (jsonResponse 401 0 unauthorized).sentTo req

/-- A request, and the answer if there was one. -/
abbrev RoundTrip := IncomingMessage × Option Response

/-- A request without an answer has ended the process. -/
def ended (seen : List RoundTrip) : Bool :=
  seen.any fun exchange => exchange.2.isNone

section Served

variable (parse : UrlParser) (now : ℕ → IsoTimestamp)

/-- The server's answer after some exchanges. -/
def serve (apiKeyEnv : Option String) (seen : List RoundTrip)
    (req : IncomingMessage) : Option Response :=
  if ended seen then none
  else answer parse apiKeyEnv (now seen.length) req

/-- The answer after some exchanges to a request without the key. -/
def refuse (seen : List RoundTrip) (req : IncomingMessage) :
    Option Response :=
  if ended seen then none
  else (parse req.url).map fun _ => refusal req

/-- The key that the handler takes a request to present, if it looks. -/
def guess (seen : List RoundTrip) (req : IncomingMessage) : Option String :=
  if ended seen ∨ parse req.url = none ∨ req.method = "OPTIONS" then none
  else some (presentedKey (req.authorization.getD ""))

end Served

/-- With the key no request is refused. -/
private theorem status_of_accepted
    {apiKeyEnv : Option String} {req : IncomingMessage}
    {pathname : Option String} (method : req.method ≠ "OPTIONS")
    (accepted : KeyAccepted apiKeyEnv req) (timestamp : IsoTimestamp) :
    (respond apiKeyEnv timestamp req pathname).response.status ≠ 401 := by
  cases route : isProtected pathname with
  | true =>
      rw [respond_of_protected method accepted route]
      simp [jsonResponse]
  | false =>
      by_cases healthRoute : pathname = some "/api/health"
      · rw [respond_of_health method accepted healthRoute]
        simp [jsonResponse]
      · rw [respond_of_unknown method accepted route healthRoute]
        simp [jsonResponse]

private theorem respond_sentTo_eq_refusal_iff
    (apiKeyEnv : Option String) (timestamp : IsoTimestamp)
    (req : IncomingMessage) (pathname : Option String) :
    (respond apiKeyEnv timestamp req pathname).response.sentTo req =
        refusal req ↔
      req.method = "OPTIONS" ∨ ¬ KeyAccepted apiKeyEnv req := by
  by_cases preflight : req.method = "OPTIONS"
  · have notHead : req.method ≠ "HEAD" := by
      rw [preflight]
      decide
    rw [respond_of_preflight preflight, refusal, if_pos preflight,
      Response.sentTo_of_not_head notHead]
    exact iff_of_true rfl (Or.inl preflight)
  · rw [refusal, if_neg preflight, or_iff_right preflight]
    by_cases accepted : KeyAccepted apiKeyEnv req
    · refine iff_of_false ?_ (not_not_intro accepted)
      intro same
      have sameStatus := congrArg Response.status same
      rw [Response.sentTo_status, Response.sentTo_status] at sameStatus
      exact status_of_accepted preflight accepted timestamp sameStatus
    · rw [respond_of_refused preflight accepted]
      exact iff_of_true rfl accepted

section Served

variable {parse : UrlParser} {now : ℕ → IsoTimestamp}

theorem serve_eq_refuse_iff
    (apiKeyEnv : Option String) (seen : List RoundTrip)
    (req : IncomingMessage) :
    serve parse now apiKeyEnv seen req = refuse parse seen req ↔
      guess parse seen req ≠ some (validApiKey apiKeyEnv) := by
  unfold serve refuse guess
  by_cases isOver : ended seen = true
  · rw [if_pos isOver, if_pos isOver, if_pos (Or.inl isOver)]
    simp
  · rw [if_neg isOver, if_neg isOver]
    cases parsed : parse req.url with
    | none => simp [answer, handle, parsed]
    | some pathname =>
        rw [answer_of_parsed parsed, Option.map_some, Option.some.injEq,
          respond_sentTo_eq_refusal_iff]
        by_cases preflight : req.method = "OPTIONS"
        · simp [preflight]
        · simp [isOver, preflight, KeyAccepted]

private theorem refusal_not_containsConfidential (req : IncomingMessage) :
    ¬ containsConfidential (refusal req).body := by
  unfold refusal Response.sentTo
  split_ifs
  · exact not_containsConfidential_of_letter (by decide)
  · exact not_containsConfidential_of_letter (by decide)
  · exact not_containsConfidential_of_letter (by decide)

private theorem refuse_not_containsConfidential
    {seen : List RoundTrip} {req : IncomingMessage} {response : Response}
    (answered : refuse parse seen req = some response) :
    ¬ containsConfidential response.body := by
  unfold refuse at answered
  split_ifs at answered with isOver
  obtain ⟨_, _, response_eq⟩ := Option.map_eq_some_iff.mp answered
  rw [← response_eq]
  exact refusal_not_containsConfidential req

end Served

abbrev Attacker := Guessing.Strategy IncomingMessage (Option Response)

section Attack

variable (parse : UrlParser) (now : ℕ → IsoTimestamp) (attacker : Attacker)
  (rounds : ℕ)

/-- The requests of an attacker, with the server's answers. -/
def transcript (apiKeyEnv : Option String) : List RoundTrip :=
  Guessing.play attacker (serve parse now apiKeyEnv) rounds

/-- What an attacker sees who never hits upon the key. -/
def refusals : List RoundTrip :=
  Guessing.play attacker (refuse parse) rounds

/-- The keys an attacker tries who never hits upon the right one. -/
def triedKeys : List String :=
  Guessing.guesses (guess parse) attacker (refuse parse) rounds

/-- An attacker learns whether a key that was tried is the right one. -/
structure LearnsOnlyTries : Prop where
  /-- A key that was not tried shows in nothing the server answers. -/
  refused_iff :
    ∀ apiKeyEnv,
      transcript parse now attacker rounds apiKeyEnv =
          refusals parse attacker rounds ↔
        validApiKey apiKeyEnv ∉ triedKeys parse attacker rounds
  /-- Of any set of keys, each request tells at most one from the others. -/
  found_le :
    ∀ keys : Finset String,
      (∀ key ∈ keys,
          key ≠ "" ∧
            transcript parse now attacker rounds (some key) ≠
              refusals parse attacker rounds) →
        keys.card ≤ rounds
  secret :
    ∀ apiKeyEnv,
      validApiKey apiKeyEnv ∉ triedKeys parse attacker rounds →
        ∀ exchange ∈ transcript parse now attacker rounds apiKeyEnv,
          ∀ response, exchange.2 = some response →
            ¬ containsConfidential response.body

theorem attacker_learnsOnlyTries :
    LearnsOnlyTries parse now attacker rounds := by
  have refused_iff :
      ∀ apiKeyEnv,
        transcript parse now attacker rounds apiKeyEnv =
            refusals parse attacker rounds ↔
          validApiKey apiKeyEnv ∉ triedKeys parse attacker rounds := by
    intro apiKeyEnv
    apply Guessing.play_eq_refusals_iff
    intro seen req
    exact serve_eq_refuse_iff apiKeyEnv seen req
  refine ⟨refused_iff, ?_, ?_⟩
  · intro keys found
    have serves :
        ∀ key ∈ keys, ∀ seen req,
          serve parse now (some key) seen req = refuse parse seen req ↔
            guess parse seen req ≠ some key := by
      intro key member seen req
      have served :
          serve parse now (some key) seen req = refuse parse seen req ↔
            guess parse seen req ≠ some (validApiKey (some key)) :=
        serve_eq_refuse_iff (some key) seen req
      rw [validApiKey_of_nonempty (found key member).1] at served
      exact served
    exact
      Guessing.card_le_of_found serves fun key member => (found key member).2
  · intro apiKeyEnv untried exchange member response answered
    rw [(refused_iff apiKeyEnv).mpr untried] at member
    obtain ⟨_, served⟩ := Guessing.exists_of_mem_play member
    rw [answered] at served
    exact refuse_not_containsConfidential served.symm

end Attack

end ConfidentialWorker.ApiServer
