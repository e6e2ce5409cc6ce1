/-!
# Secrets

A text that is shown and written as a fixed one.
-/

namespace BatchInsert

structure Secret where
  exposed : String
deriving DecidableEq

namespace Secret

/-- The same for every secret. -/
def text (_ : Secret) : String := "[REDACTED]"

/-- What documents hold in place of any secret. -/
def cover (_ : Secret) : String := "***REDACTED***"

end Secret

end BatchInsert
