/-
  Why a command fails, in words from the outermost to the innermost cause.
-/
import ChangeLog.Http.Error

namespace ChangeLog.Command

/-- Why a file of settings cannot be used. -/
inductive SettingsFault where
  | unreadable (cause : IoError)
  | illFormedText
  | refused (cause : ConfigError)
deriving DecidableEq, Repr

/-- The words for a fault, outermost first. -/
def SettingsFault.chain : SettingsFault → List String
  | .unreadable cause => ["I/O error: " ++ cause.message, cause.message]
  | .illFormedText =>
    ["I/O error: stream did not contain valid UTF-8", "stream did not contain valid UTF-8"]
  | .refused cause => [(Http.ServerError.config cause).message]

/-- Why a command fails. -/
inductive Failure where
  | opening (directory : String) (cause : LogError)
  | badPayload (text : String) (fault : Hex.Fault)
  | log (cause : LogError)
  | settings (path : String) (fault : SettingsFault)
  | server (cause : Http.ServerError)
deriving DecidableEq, Repr

/-- The words for a failure, outermost first. -/
def Failure.chain : Failure → List String
  | .opening directory cause => ["opening change log in " ++ directory, cause.message]
  | .badPayload text fault => ["invalid hex payload " ++ Text.quote text, fault.message]
  | .log cause => [cause.message]
  | .settings path fault => ("loading " ++ path) :: fault.chain
  | .server cause => [cause.message]

end ChangeLog.Command
