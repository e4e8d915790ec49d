import Mathlib

/-! # Errors and responses — `src/error_handling.rs`

    Every fallible function of the backend returns `Result<T, QrError>`, here
    `Except QrError T`.  A handler turns its result into the pair the HTTP layer
    sends, `ReturnData T = (StatusCode, Json<Msg<T>>)`, through
    `result_to_handler`: success is `200` with the data; an error is the status
    code and `error_type` its variant is mapped to, with the error's `Display`
    text (the `#[error(...)]` strings) as `error_message`.

    `result_to_handler_with_log` only adds a log line, so the handlers below
    call `resultToHandler` directly.  The lemmas pin down the two shapes of a
    response and that only `Authorized` answers `401`. -/

namespace QrErrorHandling

/-- `QrError`. -/
inductive QrError where
  | environment (s : String)
  | searchEngineAddOrReplace (s : String)
  | searchEngineDelete (s : String)
  | searchEngineSearch (s : String)
  | databaseAdd (s : String)
  | databaseUpdate (s : String)
  | databaseDelete (s : String)
  | databaseGet (s : String)
  | urlQuery (s : String)
  | authorized
  | brokenUuid (s : String)
  | databaseNotFound (s : String)
  | tokioRuntime
  | migrations
  | connectionPool
  | loggingConfig
  | serve
  deriving DecidableEq, Repr

/-- `Display for QrError`, from the `#[error(...)]` attributes. -/
def QrError.toString : QrError → String
  | .environment s => "Couldn't found " ++ s ++ " on environment"
  | .searchEngineAddOrReplace s => "Couldn't add/replace " ++ s ++ " to search engine"
  | .searchEngineDelete s => "Couldn't delete " ++ s ++ " from search engine"
  | .searchEngineSearch s => "Couldn't search " ++ s ++ " from search engine"
  | .databaseAdd s => "Couldn't add " ++ s ++ " to database"
  | .databaseUpdate s => "Couldn't update " ++ s ++ " to database"
  | .databaseDelete s => "Couldn't delete " ++ s ++ " from database"
  | .databaseGet s => "Couldn't get " ++ s ++ " from database"
  | .urlQuery s => "Couldn't found " ++ s ++ " query in the url"
  | .authorized => "Unauthorized"
  | .brokenUuid s => s ++ " is broken UUID"
  | .databaseNotFound s => "Couldn't find " ++ s ++ " from database"
  | .tokioRuntime => "Failed to build the Tokio Runtime"
  | .migrations => "Failed to run migrations"
  | .connectionPool => "Failed to connection pool"
  | .loggingConfig => "Failed to set logging confing"
  | .serve => "Failed to serve app"

/-- An HTTP status code. -/
abbrev StatusCode := Nat

/-- The status code and `error_type` text `result_to_handler` gives each error
    (the source's spellings kept). -/
def QrError.codeAndType : QrError → StatusCode × String
  | .environment _ => (503, "CouldNotFoundEnv")
  | .searchEngineAddOrReplace _ => (500, "SearchEngineAddOrReplace")
  | .searchEngineDelete _ => (500, "SearchEngineDelete")
  | .searchEngineSearch _ => (500, "SearchEngineSearch")
  | .databaseAdd _ => (500, "DatabaseAdd")
  | .databaseUpdate _ => (500, "DatabaseUpdate")
  | .databaseDelete _ => (500, "DatabaseDelete")
  | .databaseGet _ => (500, "DatabaseGet")
  | .urlQuery _ => (400, "UrlQuery")
  | .authorized => (401, "Authorized")
  | .brokenUuid _ => (400, "BrokenUuid")
  | .databaseNotFound _ => (400, "DatabaseNotFound")
  | .tokioRuntime => (500, "TokioRutime")
  | .connectionPool => (500, "ConnectionPool")
  | .migrations => (500, "Migrations")
  | .loggingConfig => (500, "LoggingConfing")
  | .serve => (500, "Serve")

/-- `Msg<T>`, the JSON body of every response. -/
structure Msg (T : Type) where
  ok : Bool
  data : Option T
  errorType : Option String
  errorMessage : Option String
  deriving DecidableEq

/-- `ReturnData<T>`. -/
abbrev ReturnData (T : Type) := StatusCode × Msg T

/-- `result_to_handler`. -/
def resultToHandler {T : Type} : Except QrError T → ReturnData T
  | .ok t => (200, { ok := true, data := some t, errorType := none, errorMessage := none })
  | .error e =>
      (e.codeAndType.1,
        { ok := false, data := none, errorType := some e.codeAndType.2,
          errorMessage := some e.toString })

variable {T : Type}

@[simp] theorem resultToHandler_ok (t : T) :
    resultToHandler (.ok t : Except QrError T) =
      (200, { ok := true, data := some t, errorType := none, errorMessage := none }) := rfl

/-- A response reports success exactly when the result is `Ok`. -/
theorem resultToHandler_ok_iff (r : Except QrError T) :
    (resultToHandler r).2.ok = true ↔ ∃ t, r = .ok t := by
  cases r with
  | ok t => exact ⟨fun _ => ⟨t, rfl⟩, fun _ => rfl⟩
  | error e =>
      constructor
      · intro h
        exact Bool.noConfusion h
      · rintro ⟨t, ht⟩
        nomatch ht

/-- Only `Authorized` answers `401`. -/
theorem codeAndType_401 (e : QrError) : e.codeAndType.1 = 401 ↔ e = .authorized := by
  cases e <;> simp [QrError.codeAndType]

end QrErrorHandling
