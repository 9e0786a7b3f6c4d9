import ConfidentialWorker.ApiServer.Authentication
import ConfidentialWorker.Library.JsonReading

/-!
# What the bodies of the server mean

Every response but those to a preflight and to a HEAD request has a JSON body.
It means one document, from which a client can tell what happened: the
confidential data are there exactly when the key was accepted on a protected
path, and an error is there exactly when the status is not 200.
-/

namespace ConfidentialWorker.ApiServer

open Json

variable (parse : UrlParser)

/-- What a client reads from a body. -/
structure ReadsBack (apiKeyEnv : Option String) (timestamp : IsoTimestamp)
    (req : IncomingMessage) (response : Response) (document : Document) :
    Prop where
  means : Means response.body.toList document
  authenticated :
    memberNamed "authenticated" document = some (.bool true) ↔
      KeyAccepted apiKeyEnv req ∧ OnProtectedPath parse req
  data :
    memberNamed "data" document ≠ none ↔
      memberNamed "authenticated" document = some (.bool true)
  error : memberNamed "error" document ≠ none ↔ response.status ≠ 200
  timestamp :
    memberNamed "timestamp" document = some (.string timestamp.text) ↔
      response.status = 200

theorem jsonResponse_means (status : UInt16) (space : ℕ) {value : Value}
    (numbers : value.hasNumbers = true) :
    Means (jsonResponse status space value).body.toList value.document :=
  means_stringify space numbers

private theorem onProtectedPath_iff
    {req : IncomingMessage} {pathname : Option String}
    (parsed : parse req.url = some pathname) :
    OnProtectedPath parse req ↔ isProtected pathname = true := by
  unfold OnProtectedPath
  rw [parsed]
  simp only [Option.some.injEq, exists_eq_left']

end ConfidentialWorker.ApiServer
