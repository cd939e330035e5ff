import ScanClient.Text.Utf8

/-!
# Environment

The variables a process is started with. A value is any bytes; only some are text.
-/

namespace ScanClient

structure Environment where
  bindings : List (String × List UInt8)

namespace Environment

def bytes? (env : Environment) (name : String) : Option (List UInt8) := env.bindings.lookup name

/-- The value of a variable that is set to text. -/
def text? (env : Environment) (name : String) : Option String :=
  (env.bytes? name).bind Text.Utf8.decode?

end Environment

end ScanClient
