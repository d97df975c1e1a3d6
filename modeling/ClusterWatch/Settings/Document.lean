import ClusterWatch.Json.Reader
import ClusterWatch.Json.Record
import ClusterWatch.Json.Writer

/-!
Settings as documents. A document that is no JSON, or does not fit the settings, is refused
as a whole; one that does is checked like any other settings. A file has to be there and to
hold UTF-8 text.
-/
namespace ClusterWatch

inductive LoadError where
  | unreadable (path : String)
  | unfit
  | invalid (error : SettingsError)
deriving DecidableEq, Repr

def LoadError.message : LoadError → String
  | .unreadable path => "Failed to read settings file " ++ path
  | .unfit => "Failed to parse node settings"
  | .invalid error => error.message

namespace NodeSettings

def ofDocument (text : String) : Except LoadError NodeSettings :=
  match (Json.Value.parse? text).bind Json.nodeSettings.read with
  | none => .error .unfit
  | some settings =>
      match settings.validate with
      | .ok () => .ok settings
      | .error e => .error (.invalid e)

/-- The document of a file, given what was found under its path. -/
def ofFile (path : String) (content : Option (List UInt8)) : Except LoadError NodeSettings :=
  match content.bind fun bytes => String.fromUTF8? bytes.toByteArray with
  | none => .error (.unreadable path)
  | some text => ofDocument text

def toDocument (s : NodeSettings) : String := (Json.nodeSettings.write s).toText

end NodeSettings
end ClusterWatch
