/-!
# Log lines and diagnostics

What the library reports beside its results: log lines for the host's log, and diagnostics that
belong to a result.
-/

namespace Mdx

/-- How much a log line matters. -/
inductive Log.Level where
  | debug
  | warn
  deriving DecidableEq, Repr

/-- One line for the host's log. -/
structure Log where
  level : Log.Level
  message : String
  deriving DecidableEq, Repr

namespace Log

def debug (message : String) : Log := ⟨.debug, message⟩

def warn (message : String) : Log := ⟨.warn, message⟩

/-- The line with its level in front. -/
def text (line : Log) : String :=
  (match line.level with
    | .debug => "debug: "
    | .warn => "warn: ") ++ line.message

end Log

/-- How bad a recovered condition is. -/
inductive Severity where
  | warning
  | error
  deriving DecidableEq, Repr

/-- A condition that was recovered from. -/
structure Diagnostic where
  severity : Severity
  message : String
  deriving DecidableEq, Repr

namespace Diagnostic

def warning (message : String) : Diagnostic := ⟨.warning, message⟩

/-- The message with its severity in front. -/
def text (d : Diagnostic) : String :=
  (match d.severity with
    | .warning => "warning: "
    | .error => "error: ") ++ d.message

end Diagnostic

end Mdx
