import Companions.Strategy
import Companions.Text.Blank
set_option autoImplicit false

/-!
# Configuration

Which markers ask for a companion, and which class a `throwOnNull` companion throws.  A setting is
read as text: marker lists are comma-separated, and a setting without content leaves the default in
place, so the marker lists of a configuration that was read are never empty.
-/

namespace Companions

/-- The paths of the annotations that mark functions for either strategy, and the path of the class
that is thrown for null. -/
structure Config where
  nullMarkers : List String
  throwMarkers : List String
  errorClass : String
  deriving DecidableEq, Repr

namespace Config

/-- The markers and the error class that hold where nothing is set. -/
def standard : Config where
  nullMarkers :=
    ["org.itmo.my.pretty.plugin.GenerateOrNull", "org.itmo.my.pretty.plugin.Throws"]
  throwMarkers := ["org.itmo.my.pretty.plugin.GenerateOrThrow"]
  errorClass := "java.lang.IllegalStateException"

instance : Inhabited Config := ⟨standard⟩

/-- The markers that ask for companions of a strategy. -/
def markers (c : Config) : Strategy → List String
  | .nullOnThrow => c.nullMarkers
  | .throwOnNull => c.throwMarkers

/-- The setting that holds the markers of a strategy. -/
def markersKey : Strategy → String
  | .nullOnThrow => "SYNTH_NULL_MARKERS"
  | .throwOnNull => "SYNTH_THROW_MARKERS"

/-- The setting that holds the error class. -/
def errorClassKey : String := "SYNTH_ERROR_CLASS"

/-- The items of a marker setting, or the default if it has none. -/
def readMarkers (setting : Option String) (default : List String) : List String :=
  match setting.map Text.items with
  | none | some [] => default
  | some items => items

/-- The trimmed error class, or the default if the setting is blank. -/
def readErrorClass (setting : Option String) (default : String) : String :=
  match setting.map Text.trim with
  | none => default
  | some text => if text.isEmpty then default else text

/-- The standard configuration, overridden by the settings. -/
def ofSettings (setting : String → Option String) : Config where
  nullMarkers := readMarkers (setting (markersKey .nullOnThrow)) standard.nullMarkers
  throwMarkers := readMarkers (setting (markersKey .throwOnNull)) standard.throwMarkers
  errorClass := readErrorClass (setting errorClassKey) standard.errorClass

theorem readMarkers_ne_nil (setting : Option String) {default : List String}
    (h : default ≠ []) : readMarkers setting default ≠ [] := by
  unfold readMarkers
  split <;> simp_all

end Config

end Companions
