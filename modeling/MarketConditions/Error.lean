import MarketConditions.Value

/-!
# Errors

What can go wrong, by cause, and the wording of each. Missing history, trades or flows are
no errors: they read as undefined.

- `LibraryError` — an indicator or function was asked for with parameters it cannot have
- `EvaluationError` — an expression does not fit together
- `PageError` — a page cannot be computed
- `SettingsError` — a setting is missing or out of its range
-/

namespace MarketConditions

/-- A request the indicator library refuses. -/
inductive LibraryError where
  | invalidParameter (indicator reason : String)
deriving DecidableEq, Repr

/-- An expression that cannot be evaluated. -/
inductive EvaluationError where
  | typeMismatch (expected found : ValueType) (context : String)
  | unknownProperty (indicator property : String)
  | missingProperty (indicator : String)
  | invalidArgument (function reason : String)
  | library (cause : LibraryError)
deriving DecidableEq, Repr

/-- A page that cannot be computed, or pages that cannot be managed. -/
inductive PageError where
  | computation (message : String)
  | series (reason : String)
  | noRuntime
deriving DecidableEq, Repr

/-- Settings that cannot be used. -/
inductive SettingsError where
  | parse (file reason : String)
  | missing (group key : String)
  | invalid (group key reason : String)
deriving DecidableEq, Repr

/-- The wording of a refusal. -/
def LibraryError.message : LibraryError → String
  | invalidParameter indicator reason => s!"invalid parameter for {indicator}: {reason}"

/-- The wording of an evaluation error. -/
def EvaluationError.message : EvaluationError → String
  | typeMismatch expected found context =>
    s!"type mismatch in {context}: expected {expected.text}, found {found.text}"
  | unknownProperty indicator property => s!"unknown property {property} for {indicator}"
  | missingProperty indicator => s!"{indicator} has several outputs; a property is required"
  | invalidArgument function reason => s!"invalid argument to {function}: {reason}"
  | library cause => cause.message

/-- The wording of a page error. -/
def PageError.message : PageError → String
  | computation message => s!"page computation failed: {message}"
  | series reason => s!"series unavailable: {reason}"
  | noRuntime => "page manager requires a tokio runtime"

/-- The wording of a settings error. -/
def SettingsError.message : SettingsError → String
  | parse file reason => s!"config parse error in {file}: {reason}"
  | missing group key => s!"missing config key [{group}] {key}"
  | invalid group key reason => s!"invalid config value [{group}] {key}: {reason}"

/-- A refusal by the library while a page is computed is a failed computation. -/
def PageError.ofLibrary (e : LibraryError) : PageError := .computation e.message

end MarketConditions
