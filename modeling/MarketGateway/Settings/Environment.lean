import MarketGateway.Settings.Basic
import MarketGateway.Settings.EnvironmentFile
import MarketGateway.Text.UpperCase

/-!
# Settings from the environment

Settings are read from variables whose names begin with a common part, after an environment file has
been loaded where one is asked for. The variables of the environment go before those of the file. A file may
also end the program: `ReadFault`.
-/

namespace MarketGateway.Settings

def required (env : Environment) (name : String) : Except ConfigError String :=
  match env.get? name with
  | some value => .ok value
  | none => .error (.missingVariable name)

/-- The setting of the window, the default one if the variable is not set. -/
def windowOf (env : Environment) (name : String) : Except ConfigError Nat :=
  match env.get? name with
  | some text => (Text.readUInt64 text).mapError fun e => .invalid (.notANumber name e)
  | none => .ok defaultWindowMs

def marketKindOf (env : Environment) (name : String) : Except ConfigError MarketKind :=
  match env.get? name with
  | some text => MarketKind.ofText text
  | none => .ok .spot

/-- Settings from the variables of an exchange; its name is put in capitals. -/
def ofEnvironment (exchange : String) (env : Environment) : Except ConfigError Settings := do
  let named (option : String) := Text.upper exchange ++ option
  let apiKey ← required env (named "_API_KEY")
  let secretKey ← required env (named "_SECRET_KEY")
  let windowMs ← windowOf env (named "_WINDOW_MS")
  let marketKind ← marketKindOf env (named "_MARKET_KIND")
  let s ← Settings.withWindow
    { ofKeys apiKey secretKey with
      baseUrl := env.get? (named "_BASE_URL")
      wsUrl := env.get? (named "_WS_URL") } windowMs
  return s.withMarketKind marketKind

/-! ### Files -/

/-- What keeps settings from being read. -/
inductive ReadFault where
  | error (error : ConfigError)
  | unsettable (wanted : EnvironmentFile.Unsettable)

def fileError (path reason : String) : ConfigError := .invalid (.environmentFile path reason)

def ReadFault.ofLoadFault (path : String) : EnvironmentFile.LoadFault → ReadFault
  | .error e => .error (fileError path e.message)
  | .unsettable wanted => .unsettable wanted

def defaultFile : String := ".env"

/-- The environment with the variables of a file, or nothing if there is no such file. -/
def loadFile (files : Files) (env : Environment) (path : String) : Except ReadFault (Option Environment) :=
  match files path with
  | .missing => .ok none
  | .refused reason => .error (.error (fileError path reason))
  | .opened content =>
    match EnvironmentFile.load env content with
    | .ok env => .ok (some env)
    | .error fault => .error (.ofLoadFault path fault)

/-- Settings after a file; a file that does not exist is not needed. -/
def ofFile (exchange : String) (files : Files) (env : Environment) (path : String) :
    Except ReadFault Settings := do
  let loaded ← loadFile files env path
  (ofEnvironment exchange (loaded.getD env)).mapError .error

/-- The files that are looked for, the first one that exists counts. -/
def candidates (env : Environment) : List String :=
  [".env.local", ".env." ++ (env.get? "ENVIRONMENT").getD "development", defaultFile]

def loadFirst (files : Files) (env : Environment) : List String → Except ReadFault Environment
  | [] => .ok env
  | path :: rest => do
    match ← loadFile files env path with
    | some env => return env
    | none => loadFirst files env rest

def ofFirstFile (exchange : String) (files : Files) (env : Environment) : Except ReadFault Settings := do
  let env ← loadFirst files env (candidates env)
  (ofEnvironment exchange env).mapError .error

end MarketGateway.Settings
