import QueryDesigner.Text.LetterCase
import QueryDesigner.Text.Numeral

/-!
# Settings

* `Settings` — what can be set from outside, with its defaults;
* `Settings.ofEnvironment` — the settings that environment variables give.
-/

namespace QueryDesigner

/-- What can be set from outside. -/
structure Settings where
  dialect : String := "mysql"
  logLevel : String := "INFO"
  /-- The length to which a statement is cut in a list. -/
  previewLength : Int := 100
  /-- The places from which the service may be called. -/
  origins : List String := ["http://localhost:3000"]
  deriving DecidableEq, Repr

namespace Settings

/-- The value of a variable; an empty one counts as not set. -/
def valueOf? (environment : List (String × String)) (name : String) : Option String :=
  (environment.lookup name).filter fun value => value != ""

/-- The pieces of a text between commas, trimmed, without the blank ones. -/
def originsOf (value : String) : List String :=
  ((value.splitOn ",").map Text.trim).filter fun origin => origin != ""

/-- The settings that environment variables give.  What is not set, and a length that is no integer,
is left at its default. -/
def ofEnvironment (environment : List (String × String)) : Settings :=
  let standard : Settings := {}
  let value := valueOf? environment
  { dialect := (value "QB_SQL_DIALECT").getD standard.dialect
    logLevel := ((value "QB_LOG_LEVEL").map Text.upper).getD standard.logLevel
    previewLength :=
      ((value "QB_TRUNCATE_LENGTH").bind Text.readInteger?).getD standard.previewLength
    origins := ((value "QB_CORS_ORIGINS").map originsOf).getD standard.origins }

end Settings

end QueryDesigner
