import Tabletop.Form.Scalar
import Tabletop.Registry
import Tabletop.Text.Case

/-!
# Settings

The configuration (specification, 10.7): what a service can be told by its environment. The case of
a variable's name does not matter, and of two variables that differ in case alone the later one
counts. Other variables are ignored.
-/
namespace Tabletop

open Form

abbrev Environment := List (Text × Text)

structure Settings where
  environment : Text := "local".toList
  debug : Bool := true
  logLevel : Text := "INFO".toList
  historyCapacity : Int := 50
  explosionLimit : Int := 50
  maxDice : Int := 100
  maxSides : Int := 1000
  seed : Option Int := none
  webhookUrl : Text := []
  webhookTimeout : Binary64 := .ofDecimal false 5 0
  deriving Repr

namespace Settings

/-- The value of a variable whose name is given in lower case. -/
def valueOf? (name : Text) (environment : Environment) : Option Text :=
  (environment.reverse.find? fun entry => Text.lower entry.1 == name).map Prod.snd

/-- A setting is read from its variable, or stays as it is without one. -/
def setting {α : Type} (environment : Environment) (name : String)
    (judge : Text → Except Flaw α) (absent : α) : Checked α :=
  match valueOf? name.toList environment with
  | none => .good absent
  | some value =>
    (Checked.ofJudgement (.text (String.ofList value)) (judge value)).below (.key name)

def ofEnvironment (environment : Environment) : Checked Settings :=
  let standard : Settings := {}
  Settings.mk <$> setting environment "environment" .ok standard.environment
    <*> setting environment "debug" truthOfText standard.debug
    <*> setting environment "log_level" .ok standard.logLevel
    <*> setting environment "history_capacity" wholeOfText standard.historyCapacity
    <*> setting environment "explosion_limit" wholeOfText standard.explosionLimit
    <*> setting environment "max_dice" wholeOfText standard.maxDice
    <*> setting environment "max_sides" wholeOfText standard.maxSides
    <*> setting environment "rng_seed" (fun value => (wholeOfText value).map some) standard.seed
    <*> setting environment "roll_webhook_url" .ok standard.webhookUrl
    <*> setting environment "roll_webhook_timeout_seconds" realOfText standard.webhookTimeout

/-- The names that a log level can have, in upper case. -/
def levels : List String :=
  ["CRITICAL", "FATAL", "ERROR", "WARN", "WARNING", "INFO", "DEBUG", "NOTSET"]

/-- The log level in upper case, if there is one of that name. -/
def level (settings : Settings) : Except Fault Text :=
  let name := Text.upper settings.logLevel
  if levels.contains (String.ofList name) then .ok name else .error (.unknownLevel name)

def limits (settings : Settings) : Limits :=
  { dice := settings.maxDice, sides := settings.maxSides, bursts := settings.explosionLimit }

/-- Every table draws from a copy of the source. -/
def tableDefaults {σ : Type} (settings : Settings) (source : σ) : TableDefaults σ :=
  { capacity := settings.historyCapacity, limits := settings.limits, source := fun _ => source }

end Settings

end Tabletop
