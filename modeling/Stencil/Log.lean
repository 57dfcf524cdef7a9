/-!
Log records: what the parts of the program report while they work.
-/
namespace Stencil

inductive LogLevel where
  | debug
  | error
  deriving DecidableEq, Repr

def LogLevel.text : LogLevel → String
  | .debug => "DEBUG"
  | .error => "ERROR"

inductive LogSource where
  | config
  | minify
  | template
  | compiler
  | processor
  | cli
  deriving DecidableEq, Repr

def LogSource.text : LogSource → String
  | .config => "jinjify.config"
  | .minify => "jinjify.minify"
  | .template => "jinjify.jinja"
  | .compiler => "jinjify.compiler"
  | .processor => "jinjify.processor"
  | .cli => "jinjify.cli"

structure LogRecord where
  level : LogLevel
  source : LogSource
  message : String
  deriving DecidableEq, Repr

/-- The records that are shown: all of them, or those that are more than details. -/
def LogRecord.shownAt (verbose : Bool) (r : LogRecord) : Bool := verbose || r.level != .debug

end Stencil
