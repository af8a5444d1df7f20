import Conformance.FileTree

/-!
# Why a command is given up

Whatever is wrong with a single case is part of its result. What is listed here ends a command
without a result.
-/

namespace Conformance

/-- What is wrong with settings that can be read. -/
inductive SettingsFault where
  | zeroTimeout
  | zeroParallelism
  | zeroMaxFailures
  | noEngine
  deriving DecidableEq, Repr

/-- The wording of a settings fault. -/
def SettingsFault.message : SettingsFault → String
  | .zeroTimeout => "timeout_ms must be at least 1"
  | .zeroParallelism => "parallelism must be at least 1"
  | .zeroMaxFailures => "max_failures must be at least 1"
  | .noEngine => "no engine command configured (use --engine or [engine].command)"

/-- Why a command is given up. -/
inductive Abort where
  | rootNotFound (root : Path)
  | walk (path : Path) (error : FileError)
  | settingsUnreadable (path : Path) (error : FileError)
  | settingsMalformed (path : Path)
  | invalidSettings (fault : SettingsFault)
  | badPattern (pattern : String)
  | report (path : Path) (error : FileError)
  | reportMalformed
  | workerPool (detail : String)
  deriving DecidableEq, Repr

/-- The wording of an abort. -/
def Abort.message : Abort → String
  | .rootNotFound root => "case root not found: " ++ root.text
  | .walk path error =>
    "failed to walk case directory: IO error for operation on " ++ path.text ++ ": " ++
      error.message
  | .settingsUnreadable path error => "failed to read config " ++ path.text ++ ": " ++ error.message
  | .settingsMalformed path => "failed to parse config " ++ path.text
  | .invalidSettings fault => "invalid configuration: " ++ fault.message
  | .badPattern pattern => "invalid exclude pattern: " ++ pattern
  | .report path error => "report I/O failed for " ++ path.text ++ ": " ++ error.message
  | .reportMalformed => "report serialization failed"
  | .workerPool detail => "worker pool failure: " ++ detail

end Conformance
