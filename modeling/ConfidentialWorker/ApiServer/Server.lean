import ConfidentialWorker.Library.Json
import ConfidentialWorker.Library.Rewriting

/-!
# The demo API server

The request handler of `http-api-server.js`: preflight, authentication, then
the routes, in this order.  `url.parse` is part of Node and stands as the
parameter `parse`; it gives no path for some URLs, and throws for others.  The
handler does not catch what it throws, so that the process ends there.

Node keeps CONNECT requests from the handler, and keeps the body of a response
to a HEAD request from the client.

The presented key is what remains of the Authorization header after the first
`Bearer ` is deleted, wherever it stands, and the rest is trimmed.
-/

namespace ConfidentialWorker.ApiServer

/-- The white space and line terminators that `String.prototype.trim` removes. -/
def isSpace (letter : Char) : Bool :=
  letter.toNat ∈
    [0x09, 0x0A, 0x0B, 0x0C, 0x0D, 0x20, 0xA0, 0x1680, 0x2000, 0x2001, 0x2002,
      0x2003, 0x2004, 0x2005, 0x2006, 0x2007, 0x2008, 0x2009, 0x200A, 0x2028,
      0x2029, 0x202F, 0x205F, 0x3000, 0xFEFF]

/-- What `Date.prototype.toISOString` is written with. -/
def isoLetters : List Char :=
  "+-.0123456789:TZ".toList

/-- A value of `new Date().toISOString()`. -/
structure IsoTimestamp where
  text : String
  iso : text.toList.all isoLetters.contains = true

/-- A request as Node hands it to the handler. -/
structure IncomingMessage where
  method : String
  url : String
  authorization : Option String
  notConnect : method ≠ "CONNECT"
  deriving DecidableEq

theorem get_ne_connect : "GET" ≠ "CONNECT" := by
  decide

/-- What `url.parse` comes to: the pathname, which may be missing, unless it
throws. -/
abbrev UrlParser := String → Option (Option String)

structure Response where
  status : UInt16
  headers : List (String × String)
  body : String
  deriving DecidableEq, Repr

/-- What a request leads to: lines on the console and a response. -/
structure Served where
  console : List String
  response : Response
  deriving DecidableEq, Repr

/-- `process.env.API_KEY || 'my_secret_api_key_12345'`. -/
def validApiKey (apiKey : Option String) : String :=
  match apiKey with
  | none => "my_secret_api_key_12345"
  | some key => if key = "" then "my_secret_api_key_12345" else key

def scheme : String := "Bearer "

/-- `authHeader.replace('Bearer ', '').trim()`. -/
def presentedKey (authHeader : String) : String :=
  String.ofList <|
    Rewriting.trim isSpace <|
      Rewriting.deleteFirst scheme.toList authHeader.toList

def corsHeaders : List (String × String) :=
  [("Access-Control-Allow-Origin", "*"),
    ("Access-Control-Allow-Methods", "GET, OPTIONS"),
    ("Access-Control-Allow-Headers", "Authorization, Content-Type")]

def jsonResponse (status : UInt16) (space : ℕ) (value : Json.Value) :
    Response where
  status := status
  headers := corsHeaders ++ [("Content-Type", "application/json")]
  body := Json.stringify space value

def unauthorized : Json.Value :=
  .object
    [("error", .string "Unauthorized"),
      ("message", .string "Invalid or missing API key")]

def secretValue : String := "This data is protected by API key authentication"

/-- The confidential data. -/
def confidentialData : List (String × Json.Value) :=
  [("temperature", .number "23.5"),
    ("humidity", .number "65"),
    ("status", .string "operational"),
    ("secret_value", .string secretValue)]

def responseMembers (timestamp : IsoTimestamp) : List (String × Json.Value) :=
  [("authenticated", .bool true),
    ("message", .string "Success! This is confidential data from the API."),
    ("timestamp", .string timestamp.text),
    ("data", .object confidentialData)]

def responseData (timestamp : IsoTimestamp) : Json.Value :=
  .object (responseMembers timestamp)

def health (timestamp : IsoTimestamp) : Json.Value :=
  .object
    [("status", .string "healthy"), ("timestamp", .string timestamp.text)]

def notFound : Json.Value :=
  .object
    [("error", .string "Not Found"),
      ("message", .string "Available endpoints: /api/data, /api/health")]

/-- The part of the Authorization header that is shown on the console. -/
def shownHeader (authHeader : String) : String :=
  if authHeader = "" then
    "(none)"
  else
    String.ofList (authHeader.toList.take 20) ++ "..."

def isProtected (pathname : Option String) : Bool :=
  pathname = some "/api/data" ∨ pathname = some "/basic-auth"

/-- The handler, once it has the path of a request. -/
def respond (apiKeyEnv : Option String) (timestamp : IsoTimestamp)
    (req : IncomingMessage) (pathname : Option String) : Served :=
  let requested :=
    "[" ++ timestamp.text ++ "] " ++ req.method ++ " " ++ req.url
  if req.method = "OPTIONS" then
    ⟨[requested], ⟨200, corsHeaders, ""⟩⟩
  else
    let authHeader := req.authorization.getD ""
    let apiKey := presentedKey authHeader
    let shown := "  Authorization: " ++ shownHeader authHeader
    if apiKey ≠ validApiKey apiKeyEnv then
      ⟨[requested, shown, "  ❌ Invalid API key"],
        jsonResponse 401 0 unauthorized⟩
    else if isProtected pathname then
      ⟨[requested, shown, "  ✅ Valid API key",
          "  📤 Returning confidential data"],
        jsonResponse 200 2 (responseData timestamp)⟩
    else if pathname = some "/api/health" then
      -- Only reached with a valid key, also on this public route.
      ⟨[requested, shown, "  ✅ Valid API key"],
        jsonResponse 200 0 (health timestamp)⟩
    else
      ⟨[requested, shown, "  ✅ Valid API key"], jsonResponse 404 0 notFound⟩

/-- The response that is sent for the one the handler ends with. -/
def Response.sentTo (req : IncomingMessage) (response : Response) : Response :=
  if req.method = "HEAD" then { response with body := "" } else response

/-- The handler passed to `createServer`, and what Node sends then.  Nothing is
served where `url.parse` throws. -/
def handle (parse : UrlParser) (apiKeyEnv : Option String)
    (timestamp : IsoTimestamp) (req : IncomingMessage) : Option Served :=
  (parse req.url).map fun pathname =>
    let served := respond apiKeyEnv timestamp req pathname
    { served with response := served.response.sentTo req }

/-- The response to a request. -/
def answer (parse : UrlParser) (apiKeyEnv : Option String)
    (timestamp : IsoTimestamp) (req : IncomingMessage) : Option Response :=
  (handle parse apiKeyEnv timestamp req).map Served.response

section Answers

variable {parse : UrlParser} {apiKeyEnv : Option String}
  {timestamp : IsoTimestamp} {req : IncomingMessage}

/-- What is sent is what the handler ends with, unless the method is HEAD. -/
theorem answer_eq_some_iff {response : Response} :
    answer parse apiKeyEnv timestamp req = some response ↔
      ∃ pathname,
        parse req.url = some pathname ∧
          response =
            (respond apiKeyEnv timestamp req pathname).response.sentTo req := by
  unfold answer handle
  cases parse req.url with
  | none => simp
  | some pathname => simp [eq_comm]

theorem answer_of_parsed {pathname : Option String}
    (parsed : parse req.url = some pathname) :
    answer parse apiKeyEnv timestamp req =
      some ((respond apiKeyEnv timestamp req pathname).response.sentTo req) :=
  answer_eq_some_iff.mpr ⟨pathname, parsed, rfl⟩

theorem Response.sentTo_of_not_head (notHead : req.method ≠ "HEAD")
    (response : Response) : response.sentTo req = response :=
  if_neg notHead

theorem Response.sentTo_status (req : IncomingMessage) (response : Response) :
    (response.sentTo req).status = response.status := by
  unfold Response.sentTo
  split_ifs
  · rfl
  · rfl

theorem Response.sentTo_body_of_head (head : req.method = "HEAD")
    (response : Response) : (response.sentTo req).body = "" := by
  rw [Response.sentTo, if_pos head]

end Answers

/-! ## What the handler ends with -/

/-- The server's own comparison of keys succeeds. -/
def KeyAccepted (apiKeyEnv : Option String) (req : IncomingMessage) : Prop :=
  presentedKey (req.authorization.getD "") = validApiKey apiKeyEnv

instance (apiKeyEnv : Option String) (req : IncomingMessage) :
    Decidable (KeyAccepted apiKeyEnv req) :=
  inferInstanceAs
    (Decidable
      (presentedKey (req.authorization.getD "") = validApiKey apiKeyEnv))

section Respond

variable {apiKeyEnv : Option String} {timestamp : IsoTimestamp}
  {req : IncomingMessage} {pathname : Option String}

theorem respond_of_preflight (preflight : req.method = "OPTIONS") :
    (respond apiKeyEnv timestamp req pathname).response =
      ⟨200, corsHeaders, ""⟩ := by
  simp [respond, preflight]

section NotPreflight

variable (method : req.method ≠ "OPTIONS")
include method

theorem respond_of_refused (refused : ¬ KeyAccepted apiKeyEnv req) :
    (respond apiKeyEnv timestamp req pathname).response =
      jsonResponse 401 0 unauthorized := by
  unfold KeyAccepted at refused
  simp [respond, method, refused]

variable (authorised : KeyAccepted apiKeyEnv req)
include authorised

theorem respond_of_protected (route : isProtected pathname = true) :
    (respond apiKeyEnv timestamp req pathname).response =
      jsonResponse 200 2 (responseData timestamp) := by
  unfold KeyAccepted at authorised
  simp [respond, method, authorised, route]

theorem respond_of_health (path : pathname = some "/api/health") :
    (respond apiKeyEnv timestamp req pathname).response =
      jsonResponse 200 0 (health timestamp) := by
  unfold KeyAccepted at authorised
  have notProtected : isProtected (some "/api/health") = false := by
    decide
  simp [respond, method, authorised, notProtected, path]

theorem respond_of_unknown (route : isProtected pathname = false)
    (notHealth : pathname ≠ some "/api/health") :
    (respond apiKeyEnv timestamp req pathname).response =
      jsonResponse 404 0 notFound := by
  unfold KeyAccepted at authorised
  simp [respond, method, authorised, route, notHealth]

end NotPreflight

end Respond

/-! ## The confidential body -/

def containsConfidential (body : String) : Prop :=
  secretValue.toList <:+: body.toList

theorem responseData_containsConfidential (timestamp : IsoTimestamp) :
    containsConfidential (Json.stringify 2 (responseData timestamp)) := by
  have plain : Json.isPlain secretValue.toList = true := by
    decide
  have inData : ("secret_value", .string secretValue) ∈ confidentialData := by
    simp [confidentialData]
  have inResponse :
      ("data", .object confidentialData) ∈ responseMembers timestamp := by
    simp [responseMembers]
  have printed :
      secretValue.toList <:+: (responseData timestamp).stringify 2 0 :=
    (Json.stringify_string_infix plain 2 2).trans <|
      (Json.stringify_member_infix inData 2 1).trans
        (Json.stringify_member_infix inResponse 2 0)
  unfold containsConfidential Json.stringify
  rw [String.toList_ofList]
  exact printed

/-- A letter of the confidential data that stands in no other body. -/
theorem not_containsConfidential_of_letter
    {body : String} (absent : 'c' ∉ body.toList) :
    ¬ containsConfidential body := by
  intro contains
  have inSecret : 'c' ∈ secretValue.toList := by
    decide
  exact absent (contains.subset inSecret)

private theorem mem_isoLetters
    (timestamp : IsoTimestamp) {letter : Char}
    (member : letter ∈ timestamp.text.toList) :
    letter ∈ isoLetters :=
  List.contains_iff_mem.mp
    (List.all_eq_true.mp timestamp.iso letter member)

private theorem quote_iso (timestamp : IsoTimestamp) :
    Json.quote timestamp.text = '"' :: timestamp.text.toList ++ ['"'] := by
  have plainLetters : Json.isPlain isoLetters = true := by
    decide
  apply Json.quote_of_isPlain
  apply List.all_eq_true.mpr
  intro letter member
  exact
    List.all_eq_true.mp plainLetters letter (mem_isoLetters timestamp member)

theorem health_not_containsConfidential (timestamp : IsoTimestamp) :
    ¬ containsConfidential (Json.stringify 0 (health timestamp)) := by
  apply not_containsConfidential_of_letter
  have notIso : 'c' ∉ timestamp.text.toList := by
    intro member
    have isoLetter : 'c' ∈ isoLetters := mem_isoLetters timestamp member
    revert isoLetter
    decide
  have printed :
      (Json.stringify 0 (health timestamp)).toList =
        "\x7b\"status\":\"healthy\",\"timestamp\":\"".toList ++
          timestamp.text.toList ++ "\"\x7d".toList := by
    unfold Json.stringify health
    rw [String.toList_ofList]
    simp only [Json.Value.stringify, Json.stringifyMembers, quote_iso]
    simp [Json.quote, Json.escape, Json.colon, Json.lineBreak]
  rw [printed]
  simp [notIso]

end ConfidentialWorker.ApiServer
