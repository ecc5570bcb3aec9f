import Clickpath.Decimal.Reader

/-! # Settings

What a user decides for all runs, by variables of the environment.
-/

namespace Clickpath

/-- What a user decides for all runs. -/
structure Settings where
  screenshotsDirectory : String
  browser : String
  headless : Bool
  /-- The milliseconds after which a step gives up waiting. -/
  stepTimeout : Int
  maxConcurrentRuns : Int
  logLevel : String
  apiKey : Option String
  apiBaseUrl : Option String
  model : String

namespace Settings

/-- The variables of an environment. -/
abbrev Environment := List (String × String)

def affirmatives : List String := ["1", "true", "yes", "on"]

/-- A switch, with the position that it has when it is not set. -/
def flag (env : Environment) (name : String) (default : Bool) : Bool :=
  match env.lookup name with
  | none => default
  | some value => affirmatives.contains (Text.lower (Text.trim value))

/-- A whole number, with the text that stands in when it is not set. -/
def whole (env : Environment) (name default : String) : Except Decimal.NotWhole Int :=
  let text := (env.lookup name).getD default
  match Decimal.readWhole? 10 text.toList with
  | some n => .ok n
  | none => .error ⟨text, 10⟩

def ofEnvironment (env : Environment) : Except Decimal.NotWhole Settings := do
  let stepTimeout ← whole env "STEPFLOW_STEP_TIMEOUT_MS" "30000"
  let maxConcurrentRuns ← whole env "STEPFLOW_MAX_CONCURRENT_RUNS" "4"
  .ok {
    screenshotsDirectory := (env.lookup "STEPFLOW_SCREENSHOTS_DIR").getD "screenshots"
    browser := (env.lookup "STEPFLOW_BROWSER").getD "chromium"
    headless := flag env "STEPFLOW_HEADLESS" true
    stepTimeout
    maxConcurrentRuns
    logLevel := (env.lookup "STEPFLOW_LOG_LEVEL").getD "WARNING"
    apiKey := env.lookup "OPENAI_API_KEY"
    apiBaseUrl := (env.lookup "OPENAI_API_BASE_URL").orElse fun _ => env.lookup "OPENAI_BASE_URL"
    model := (env.lookup "OPENAI_MODEL").getD "gpt-4o" }

def standard : Settings where
  screenshotsDirectory := "screenshots"
  browser := "chromium"
  headless := true
  stepTimeout := 30000
  maxConcurrentRuns := 4
  logLevel := "WARNING"
  apiKey := none
  apiBaseUrl := none
  model := "gpt-4o"

/-- The key for the language model, unless it is missing or empty. -/
def usableKey? (s : Settings) : Option String := s.apiKey.bind Text.nonempty?

def missingKeyLines : List String :=
  ["Error: OPENAI_API_KEY environment variable is not set.",
   "Please export OPENAI_API_KEY='sk-...' or create a .env file."]

end Settings

end Clickpath
