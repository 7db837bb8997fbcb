import ChainGateway.Text.Ascii

/-!
# Log settings

The form and the level of log records are named by two settings.  The form must be spelled
exactly; the case of a level does not matter.
-/

namespace ChainGateway

open Text

/-- The form of log records. -/
inductive LogForm where
  | formatted
  | simple
  | json
  deriving DecidableEq, Repr, Inhabited

/-- Which log records are shown. -/
inductive LogLevel where
  | error
  | warn
  | info
  | debug
  | trace
  /-- Nothing is shown. -/
  | off
  deriving DecidableEq, Repr, Inhabited

/-- The form of a name, or why there is none. -/
def LogForm.ofName (name : String) : Except String LogForm :=
  if name = "formatted" then .ok .formatted
  else if name = "simple" then .ok .simple
  else if name = "json" ∨ name = "prod" ∨ name = "production" then .ok .json
  else .error ("unknown log type: " ++ name)

/-- The level of a name, or why there is none. -/
def LogLevel.ofName (name : String) : Except String LogLevel :=
  let folded := foldCase name
  if folded = "critical" ∨ folded = "error" then .ok .error
  else if folded = "support" ∨ folded = "warn" then .ok .warn
  else if folded = "normal" ∨ folded = "info" then .ok .info
  else if folded = "debug" then .ok .debug
  else if folded = "trace" then .ok .trace
  else if folded = "off" then .ok .off
  else .error ("unrecognized log level: " ++ name)

/-- The log settings of the environment, the form before the level, or why they are refused.  A
variable that is not set leaves the choice open. -/
def checkLogSettings (form? level? : Option String) : Except String Unit := do
  if let some name := form? then
    let _ ← LogForm.ofName name
  if let some name := level? then
    let _ ← LogLevel.ofName name

end ChainGateway
