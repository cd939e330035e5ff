import ScanClient.Json.Value

/-!
# Service health

What the service says about itself: a document of any form, of which three texts are known.
-/

namespace ScanClient

structure Health where
  /-- Whether the service answered with success. -/
  ok : Bool
  /-- The status of the answer. -/
  code : Nat
  /-- The document, or null if the answer was none. -/
  body : Json.Value

namespace Health

def text? (h : Health) (key : String) : Option String := (h.body.member? key).bind Json.Value.text?

def apiStatus (h : Health) : Option String := h.text? "api_status"

def modelStatus (h : Health) : Option String := h.text? "model_status"

def version (h : Health) : Option String := h.text? "version"

end Health

end ScanClient
