/-!
Notices: lines that are written for the people who run an application.
-/

namespace RelationalMapper

/-- How serious a notice is. -/
inductive Severity where
  | warning
  | error
  deriving Repr, DecidableEq, Inhabited

structure Notice where
  severity : Severity
  text : String
  deriving Repr, DecidableEq, Inhabited

namespace Severity

def name : Severity → String
  | warning => "WARNING"
  | error => "ERROR"

end Severity

def Notice.line (n : Notice) : String := n.severity.name ++ " " ++ n.text

end RelationalMapper
