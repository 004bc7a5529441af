import DashboardSurvey.Address.Basic
import DashboardSurvey.Failure.Source
import DashboardSurvey.Files.Host
import DashboardSurvey.Json.Decode
import DashboardSurvey.Text.Ascii
import DashboardSurvey.Yaml.Error

/-!
# Why a request fails

Every step of the library says why it fails in a type of its own.  Here the causes come together,
because a request may go through all of the steps.

* `KeyFault` — why a value is not a key with which the server lets one in.
* `Failure` — the causes.
* `Failure.message` — their wording, which is what the one who asked is told.
-/

namespace DashboardSurvey

/-- Why a value is not a key with which the server lets one in. -/
inductive KeyFault where
  /-- values of this kind are no keys -/
  | notText (kind : Kind)
  /-- the text is not ASCII -/
  | notAscii (f : AsciiFault)
deriving DecidableEq, Repr

/-- The wording of a fault. -/
def KeyFault.message : KeyFault → String
  | .notText kind => "Header value must be str or bytes, not <class '" ++ kind.name ++ "'>"
  | .notAscii f => f.message

/-- Why a request fails. -/
inductive Failure where
  /-- a document does not have the shape that is needed -/
  | shape (e : ShapeError)
  /-- the metadata source failed -/
  | source (e : SourceError)
  /-- the metadata source failed in a way that it does not report -/
  | unexpected (reason : String)
  /-- tables are to be fetched by no worker at all -/
  | noWorkers
  /-- a text is not JSON -/
  | notJson (f : JsonFault)
  /-- a setting is not a number -/
  | notNumber (e : NumberError)
  /-- a file cannot be read -/
  | file (e : FileError)
  /-- the host cannot be asked for a name in a setting -/
  | naming (f : NameFault)
  /-- the settings in the file at a path cannot be read -/
  | settings (path : String) (e : YamlError)
  /-- the settings name a level that there is not -/
  | level (name : String)
  /-- something is not an address -/
  | address (e : AddressError)
  /-- something is not a key -/
  | key (f : KeyFault)

namespace Failure

/-- The wording of a cause. -/
def message : Failure → String
  | shape e => e.message
  | source e => e.message
  | unexpected reason => reason
  | noWorkers => "max_workers must be greater than 0"
  | notJson f => f.message
  | notNumber e => e.message
  | file e => e.message
  | naming f => f.message
  | settings path e => e.message path
  | level name => "Unknown level: " ++ quoted name
  | address e => e.message
  | key f => f.message

instance : Coe ShapeError Failure := ⟨shape⟩

/-- A step that can only fail by the shape of a value, as part of a request. -/
def ofShaped {α : Type} (r : Shaped α) : Except Failure α := r.mapError shape

end Failure

end DashboardSurvey
