import ConfidentialWorker.ApiServer.Server

/-!
# Who gets the confidential data

The server gives the data out on a protected route exactly when the presented
key is the configured one.  A header presents a key when, up to white space, it
is the key or the scheme followed by the key.  The handler also accepts headers
that present no key: those with the scheme spliced into the key.
-/

namespace ConfidentialWorker.ApiServer

variable (parse : UrlParser)

theorem scheme_toList :
    scheme.toList = ['B', 'e', 'a', 'r', 'e', 'r', ' '] :=
  rfl

theorem presentedKey_eq_iff (authHeader key : String) :
    presentedKey authHeader = key ↔
      Rewriting.trim isSpace
          (Rewriting.deleteFirst scheme.toList authHeader.toList) =
        key.toList := by
  unfold presentedKey
  constructor
  · intro same
    rw [← same, String.toList_ofList]
  · intro same
    rw [same, String.ofList_toList]

theorem validApiKey_of_nonempty {key : String} (nonempty : key ≠ "") :
    validApiKey (some key) = key :=
  if_neg nonempty

/-- The path of a request is one with the confidential data. -/
def OnProtectedPath (req : IncomingMessage) : Prop :=
  ∃ pathname, parse req.url = some pathname ∧ isProtected pathname = true

/-- The server answers a request with the confidential data. -/
def GivesOut (apiKeyEnv : Option String) (timestamp : IsoTimestamp)
    (req : IncomingMessage) : Prop :=
  ∃ response,
    answer parse apiKeyEnv timestamp req = some response ∧
      containsConfidential response.body

private theorem not_containsConfidential_empty : ¬ containsConfidential "" :=
  not_containsConfidential_of_letter (by decide)

private theorem respond_containsConfidential_iff
    (apiKeyEnv : Option String) (timestamp : IsoTimestamp)
    (req : IncomingMessage) (pathname : Option String) :
    containsConfidential
        (respond apiKeyEnv timestamp req pathname).response.body ↔
      req.method ≠ "OPTIONS" ∧ KeyAccepted apiKeyEnv req ∧
        isProtected pathname = true := by
  by_cases preflight : req.method = "OPTIONS"
  · rw [respond_of_preflight preflight]
    exact
      iff_of_false not_containsConfidential_empty
        (fun asked => asked.1 preflight)
  · by_cases accepted : KeyAccepted apiKeyEnv req
    · cases route : isProtected pathname with
      | true =>
          rw [respond_of_protected preflight accepted route]
          exact
            iff_of_true (responseData_containsConfidential timestamp)
              ⟨preflight, accepted, rfl⟩
      | false =>
          refine iff_of_false ?_ (fun asked => by cases asked.2.2)
          by_cases healthRoute : pathname = some "/api/health"
          · rw [respond_of_health preflight accepted healthRoute]
            exact health_not_containsConfidential timestamp
          · rw [respond_of_unknown preflight accepted route healthRoute]
            exact not_containsConfidential_of_letter (by decide)
    · rw [respond_of_refused preflight accepted]
      exact
        iff_of_false (not_containsConfidential_of_letter (by decide))
          (fun asked => accepted asked.2.1)

theorem givesOut_iff
    (apiKeyEnv : Option String) (timestamp : IsoTimestamp)
    (req : IncomingMessage) :
    GivesOut parse apiKeyEnv timestamp req ↔
      req.method ≠ "OPTIONS" ∧ req.method ≠ "HEAD" ∧
        KeyAccepted apiKeyEnv req ∧ OnProtectedPath parse req := by
  constructor
  · intro givesOut
    obtain ⟨response, answered, contains⟩ := givesOut
    obtain ⟨pathname, parsed, response_eq⟩ := answer_eq_some_iff.mp answered
    have notHead : req.method ≠ "HEAD" := by
      intro head
      rw [response_eq, Response.sentTo_body_of_head head] at contains
      exact not_containsConfidential_empty contains
    rw [response_eq, Response.sentTo_of_not_head notHead,
      respond_containsConfidential_iff] at contains
    obtain ⟨method, accepted, route⟩ := contains
    exact ⟨method, notHead, accepted, pathname, parsed, route⟩
  · intro asked
    obtain ⟨method, notHead, accepted, pathname, parsed, route⟩ := asked
    refine ⟨_, answer_of_parsed parsed, ?_⟩
    rw [Response.sentTo_of_not_head notHead, respond_containsConfidential_iff]
    exact ⟨method, accepted, route⟩

/-- The header, without white space around it, is the key or the scheme
followed by the key after optional white space. -/
def PresentsKey (key authHeader : String) : Prop :=
  Rewriting.Presents isSpace scheme.toList key.toList authHeader.toList

/-- The first `Bearer ` of the header stands behind a letter that is no white
space, and the rest around it is the key. -/
def SchemeSpliced (key authHeader : String) : Prop :=
  Rewriting.Spliced isSpace scheme.toList key.toList authHeader.toList

theorem presentedKey_of_spliced
    {key authHeader : String} (spliced : SchemeSpliced key authHeader) :
    presentedKey authHeader = key := by
  rw [presentedKey_eq_iff]
  exact Rewriting.found_of_spliced spliced

/-- The confidential data goes to requests that present the key only, except
on protected routes with the scheme spliced into the key. -/
theorem authenticatesSoundly_iff
    {key : String} (nonempty : key ≠ "") (timestamp : IsoTimestamp)
    (req : IncomingMessage) :
    (GivesOut parse (some key) timestamp req →
        PresentsKey key (req.authorization.getD "")) ↔
      ¬ (req.method ≠ "OPTIONS" ∧ req.method ≠ "HEAD" ∧
          OnProtectedPath parse req ∧
            SchemeSpliced key (req.authorization.getD "")) := by
  have firstNotSpace : isSpace 'B' = false := by
    decide
  have lettersNonempty : key.toList ≠ [] := by
    intro empty
    exact nonempty (String.toList_eq_nil_iff.mp empty)
  rw [givesOut_iff, KeyAccepted, validApiKey_of_nonempty nonempty]
  constructor
  · rintro sound ⟨method, notHead, route, spliced⟩
    have presents :=
      sound ⟨method, notHead, presentedKey_of_spliced spliced, route⟩
    exact
      Rewriting.not_presents_of_spliced firstNotSpace spliced presents
  · rintro notSpliced ⟨method, notHead, accepted, route⟩
    have headerNotSpliced :
        ¬ SchemeSpliced key (req.authorization.getD "") :=
      fun spliced => notSpliced ⟨method, notHead, route, spliced⟩
    exact
      (Rewriting.found_presents_iff firstNotSpace lettersNonempty).mpr
        headerNotSpliced ((presentedKey_eq_iff _ _).mp accepted)

/-- A parser for URLs that are paths. -/
def plainParser (url : String) : Option (Option String) :=
  some (some url)

def newYear : IsoTimestamp where
  text := "2025-01-01T00:00:00.000Z"
  iso := by decide

def splicedRequest : IncomingMessage :=
  ⟨"GET", "/api/data", some "secBearer ret", get_ne_connect⟩

theorem splicedRequest_onProtectedPath :
    OnProtectedPath plainParser splicedRequest :=
  ⟨_, rfl, by decide⟩

theorem authenticatesSoundly_fails_on_splicedRequest :
    GivesOut plainParser (some "secret") newYear splicedRequest ∧
      ¬ PresentsKey "secret" "secBearer ret" := by
  constructor
  · rw [givesOut_iff]
    exact
      ⟨by decide, by decide, by decide, splicedRequest_onProtectedPath⟩
  · have trimmed :
        Rewriting.trim isSpace "secBearer ret".toList =
          "secBearer ret".toList := by
      decide
    rintro (isKey | ⟨gap, _, afterScheme⟩)
    · rw [trimmed] at isKey
      revert isKey
      decide
    · rw [trimmed, scheme_toList] at afterScheme
      have heads : some 's' = some 'B' := congrArg List.head? afterScheme
      revert heads
      decide

theorem authenticatesSoundly_iff_on_splicedRequest :
    (GivesOut plainParser (some "secret") newYear splicedRequest →
        PresentsKey "secret" (splicedRequest.authorization.getD "")) ↔
      ¬ (splicedRequest.method ≠ "OPTIONS" ∧ splicedRequest.method ≠ "HEAD" ∧
          OnProtectedPath plainParser splicedRequest ∧
            SchemeSpliced "secret" (splicedRequest.authorization.getD "")) :=
  authenticatesSoundly_iff plainParser (by decide) newYear splicedRequest

end ConfidentialWorker.ApiServer
