import ScanClient.Health
import ScanClient.Result
import ScanClient.Text.Styled

/-!
# Reports

What the commands show on a terminal, line by line.
-/

namespace ScanClient.Cli

open Text

/-- The line under a heading. -/
def rule : String := String.ofList (List.replicate 41 '─')

def heading (icon title : String) : List String :=
  [styled [.bold, .cyan] (icon ++ " " ++ title), styled [.dim] rule]

/-- A name with blanks behind it up to the width of the first column. -/
def paddedKey (key : String) : String :=
  key ++ String.ofList (List.replicate (20 - key.length) ' ')

def row (key value : String) : String :=
  "  " ++ styled [.dim] (paddedKey key) ++ " " ++ styled [.white] value

def success (message : String) : String := styled [.green, .bold] "✓" ++ " " ++ message

def warning (message : String) : String :=
  styled [.yellow, .bold] "⚠" ++ " " ++ styled [.yellow] message

def failureLines (message : String) : List String :=
  ["", "  " ++ styled [.red, .bold] "✗ Error:" ++ " " ++ message, ""]

/-- A size in the largest unit it reaches. -/
def sizeText (size : Nat) : String :=
  if 1024 * 1024 ≤ size then (Double.div (.ofNat size) (.ofNat (1024 * 1024))).onePlace ++ " MiB"
  else if 1024 ≤ size then (Double.div (.ofNat size) (.ofNat 1024)).onePlace ++ " KiB"
  else toString size ++ " B"

def verdict (malicious : Bool) : String :=
  if malicious then styled [.onRed, .white, .bold] " MALICIOUS "
  else styled [.onGreen, .white, .bold] " CLEAN "

def resultLines (r : ScanResult) : List String :=
  "" :: heading "🛡" "Scan Result" ++
    [row "Verdict" (verdict r.isMalicious),
     row "Probability" r.percent,
     row "Risk Level" r.risk.name,
     row "File" r.filename,
     row "Scan Date" r.scanDate.shown,
     row "Scan ID" r.id,
     ""]

def scanTitle (name : String) : List String :=
  ["", "  ⛨ CyberGuard " ++ styled [.dim] ("scanning " ++ name ++ "..."), ""]

def progressLine (line : String) : String := "  " ++ styled [.dim] "›" ++ " " ++ line

def readyLine (name : String) (size : Nat) : String :=
  success (name ++ " is ready to scan (" ++ sizeText size ++ ")")

def healthVerdict (h : Health) : String :=
  if h.ok then success "scan service is healthy"
  else warning ("scan service is degraded (HTTP " ++ toString h.code ++ ")")

/-- The health of the service at an address, which took some milliseconds to tell. -/
def healthLines (baseUrl : String) (latency : Nat) (h : Health) : List String :=
  "" :: heading "🩺" "Scan Service Health" ++
    [row "Endpoint" baseUrl,
     row "API" (h.apiStatus.getD "unknown"),
     row "Model" (h.modelStatus.getD "unknown")] ++
    (match h.version with
      | some version => [row "Version" version]
      | none => []) ++
    [row "Latency" (toString latency ++ "ms"), "", healthVerdict h]

end ScanClient.Cli
