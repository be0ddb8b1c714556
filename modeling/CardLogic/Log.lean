import CardLogic.Text.Basic

/-!
Log records: what an operation tells about itself while it runs.
-/

namespace CardLogic

inductive LogLevel where
  | debug
  | info
  | warning
  | error
  deriving DecidableEq, Repr

structure LogRecord where
  level : LogLevel
  text : Text
  deriving DecidableEq, Repr

end CardLogic
