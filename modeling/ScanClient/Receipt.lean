import ScanClient.Json.Record
import ScanClient.Text.Blank

/-!
# Upload receipts

The answer to an upload, which names the scan that has begun.
-/

namespace ScanClient

open Json

structure Receipt where
  scanId : Option String
  deriving DecidableEq, Repr

namespace Receipt

/-- The receipt of an answer without a body. -/
def empty : Receipt := ⟨none⟩

/-- The identifier of the scan, unless it is blank. -/
def usableId (r : Receipt) : Option String := r.scanId.filter fun id => !Text.isBlankText id

/-- While it is read, a receipt also tells whether its field has been given. -/
def shape : Shape (Option (Option String)) Receipt where
  expected := "struct UploadReceipt"
  fields := [.of "scan_id" (readOptional (readString "a string")) id fun _ a => some a]
  empty := none
  ofMembers := fun d => .ok ⟨d.getD none⟩
  ofElements := fun _ d => .ok ⟨d.getD none⟩

/-- The receipt a JSON text holds. -/
def parse (text : String) : Except ReadError Receipt := readAll (readRecord shape) text

end Receipt

end ScanClient
