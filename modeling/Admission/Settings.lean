import Admission.Text.Case
import Admission.Text.Integer
import Admission.Text.Quoted

/-!
# Settings from the environment

Two sets of settings are taken from environment variables, in their order. Those of the application have names that may be
written in any letter case, the last spelling winning; those of the server have to be written as they are. A variable that
is set to nothing is set.
-/

namespace Admission

/-- Environment variables, in the order in which they were set. -/
abbrev Environment := List (Text × Text)

namespace Environment

/-- The variable of a name, letter case disregarded; of several spellings the last one set. -/
def valueOfAnyCase? (env : Environment) (name : Text) : Option Text :=
  (env.reverse.find? fun v => decide (v.1.lower = name.lower)).map (·.2)

/-- The variable of a name. -/
def valueOf? (env : Environment) (name : Text) : Option Text := env.lookup name

end Environment

/-- The settings of the application. -/
structure Settings where
  environment : Text
  corsOrigins : Text
  logLevel : Text
  logFormat : Text
  defaultDateFormat : Text
  defaultLocale : Text
  deriving DecidableEq

namespace Settings

/-- The settings that an environment makes. -/
def ofEnvironment (env : Environment) : Settings :=
  { environment := (env.valueOfAnyCase? "APP_ENV").getD "development"
    corsOrigins := (env.valueOfAnyCase? "CORS_ORIGINS").getD "*"
    logLevel := (env.valueOfAnyCase? "LOG_LEVEL").getD "INFO"
    logFormat := (env.valueOfAnyCase? "LOG_FORMAT").getD "json"
    defaultDateFormat := (env.valueOfAnyCase? "DEFAULT_DATE_FORMAT").getD "yyyy-MM-dd"
    defaultLocale := (env.valueOfAnyCase? "DEFAULT_LOCALE").getD "en" }

/-- The origins that a setting lists, between commas: each stripped, blank ones left out. A star alone lists all. -/
def originsOf (setting : Text) : List Text :=
  if setting.strip = Text.ofString "*" then ["*"]
  else ((Text.splitOn ',' setting).map Text.strip).filter fun origin => !origin.isEmpty

/-- The origins from which the application may be called. -/
def origins (s : Settings) : List Text := originsOf s.corsOrigins

end Settings

/-- The settings of the server. -/
structure ServerSettings where
  bind : Text
  workers : Int
  workerClass : Text
  keepAlive : Nat
  timeout : Nat
  logLevel : Text
  gracefulTimeout : Nat
  deriving DecidableEq

/-- Why an environment makes no settings of the server: the text that should name the number of workers is none, or is too
long for one. -/
inductive ServerSettingsFault where
  | notInteger (text : Text)
  | tooManyDigits (count : Nat)
  deriving DecidableEq

/-- The greatest length of a literal that is told in full. -/
def shownLiteralLength : Nat := 200

/-- What is told of an environment that makes no settings of the server. -/
def ServerSettingsFault.message : ServerSettingsFault → Text
  | .notInteger text => "invalid literal for int() with base 10: " ++ text.quoted.take shownLiteralLength
  | .tooManyDigits count => Text.tooManyDigits count

namespace ServerSettings

/-- The settings that an environment makes. -/
def ofEnvironment (env : Environment) : Except ServerSettingsFault ServerSettings :=
  let workers := (env.valueOf? "WORKERS").getD "2"
  match workers.readLiteral with
  | .error .notInteger => .error (.notInteger workers)
  | .error (.tooManyDigits count) => .error (.tooManyDigits count)
  | .ok n =>
    .ok
      { bind := "0.0.0.0:" ++ (env.valueOf? "PORT").getD "8000"
        workers := n
        workerClass := "uvicorn.workers.UvicornWorker"
        keepAlive := 5
        timeout := 30
        logLevel := ((env.valueOf? "LOG_LEVEL").getD "info").lower
        gracefulTimeout := 30 }

end ServerSettings

end Admission
