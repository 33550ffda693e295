import TimedLock.Client.Bundle

/-!
# The health endpoint

The one path that the application serves. A request is refused for its path first, then for the
form that it asks for, then for its sender and last for its method. The answer is 200 if the client
is healthy and 503 if it is not, and says why.
-/

namespace TimedLock.App

/-- A request. -/
structure Request where
  method : String
  path : String
  /-- The parameters of the query, in order. -/
  query : List (String × String)
  isAuthenticated : Bool

/-- An answer: a status, and a body unless there is nothing to say. -/
structure Response where
  status : Nat
  body : Option Value

/-- The path that is served. -/
def healthPath : String := "/api/v1/coordination/health/"

/-- The forms that an answer can be given in. -/
inductive Form
  | data
  /-- A page for people to read. -/
  | page
deriving DecidableEq, Repr

/-- The form that a request asks for, if there is such a form: the last parameter that names one
counts, and a blank name asks for nothing. -/
def Request.form? (request : Request) : Option Form :=
  let named := (request.query.filter (·.1 = "format")).getLast?.map (·.2)
  match named.getD "" with
  | "" | "json" => some .data
  | "api" => some .page
  | _ => none

/-- A body that gives one detail. -/
def detail (text : String) : Option Value := some (.dict [(.text "detail", .text text)])

/-- The body of a health report. The name is shown as text, and a missing one stays missing. -/
def reportBody (name : Value) (report : Report) : Value :=
  let shown := if name.isNull then .null else .text name.display
  .dict
    [(.text "name", shown), (.text "healthy", .bool report.healthy),
     (.text "message", .text report.message)]

/-- What is answered where no client was ever set up. -/
def unconfigured : Report := ⟨false, "ZooKeeper client is not configured"⟩

/-- What the endpoint can do, for those who ask. -/
def metadata : Value :=
  let texts (items : List String) : Value := .list (items.map .text)
  .dict
    [(.text "name", .text "Coordination Health Api"),
     (.text "description",
      .text "GET health of the managed ZooKeeper client (200 healthy, 503 not)."),
     (.text "renders", texts ["application/json", "text/html"]),
     (.text "parses",
      texts ["application/json", "application/x-www-form-urlencoded", "multipart/form-data"])]

variable {σ κ ρ : Type} [Journal σ]

/-- Reports the health of a bundle's client. -/
def health (bundle : Bundle σ κ ρ) (settings : Settings) : Run σ Response := do
  let report ← match (← bundle.state.get).health with
    | none => pure unconfigured
    | some check => bundle.checkHealth check
  pure ⟨if report.healthy then 200 else 503,
    some (reportBody settings.healthCheckNameInForce report)⟩

/-- Answers a request by its sender and its method. -/
def serve (bundle : Bundle σ κ ρ) (settings : Settings) (method : String)
    (isAuthenticated : Bool) : Run σ Response :=
  if !isAuthenticated then
    pure ⟨403, detail "Authentication credentials were not provided."⟩
  else if method = "GET" || method = "HEAD" then health bundle settings
  else if method = "OPTIONS" then pure ⟨200, some metadata⟩
  else
    let shown := "Method \"" ++ method ++ "\" not allowed."
    pure ⟨405, detail shown⟩

/-- Answers a request. The body of a page is not given, nor is one to a request for the head. -/
def respond (bundle : Bundle σ κ ρ) (settings : Settings) (request : Request) :
    Run σ Response := do
  let method := request.method.toUpper
  let hidesBody := method = "HEAD" || request.form? = some .page
  let response ←
    if request.path ≠ healthPath then pure ⟨404, none⟩
    else if request.form?.isNone then pure ⟨404, detail "Not found."⟩
    else serve bundle settings method request.isAuthenticated
  pure (if hidesBody then { response with body := none } else response)

end TimedLock.App
