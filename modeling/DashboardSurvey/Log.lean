/-!
# The log

What happens behind an answer is told in a log.  Entries below the level in force are not shown.

* `Level` — the levels, with a rank and a name.
* `Level.ofName?` — the level that a name in the settings means; two levels have a second name.
* `Entry`, `visible` — a line of the log, and the lines that a level lets through.
-/

namespace DashboardSurvey

/-- How much an entry matters. -/
inductive Level where
  | all
  | debug
  | info
  | warning
  | error
  | critical
deriving DecidableEq, Repr

namespace Level

/-- Levels in ascending order. -/
def rank : Level → Nat
  | all => 0
  | debug => 10
  | info => 20
  | warning => 30
  | error => 40
  | critical => 50

/-- The name of a level. -/
def name : Level → String
  | all => "NOTSET"
  | debug => "DEBUG"
  | info => "INFO"
  | warning => "WARNING"
  | error => "ERROR"
  | critical => "CRITICAL"

/-- The names that the settings may use. -/
def names : List (String × Level) :=
  [("NOTSET", all), ("DEBUG", debug), ("INFO", info), ("WARN", warning), ("WARNING", warning),
    ("ERROR", error), ("FATAL", critical), ("CRITICAL", critical)]

/-- The level that a name means. -/
def ofName? (s : String) : Option Level := names.lookup s

/-- A level's own name means that level. -/
theorem ofName?_name (l : Level) : ofName? l.name = some l := by cases l <;> rfl

end Level

/-- A line of the log. -/
structure Entry where
  level : Level
  message : String
deriving DecidableEq, Repr

/-- The lines that a level lets through. -/
def visible (threshold : Level) (entries : List Entry) : List Entry :=
  entries.filter fun e => threshold.rank ≤ e.level.rank

end DashboardSurvey
