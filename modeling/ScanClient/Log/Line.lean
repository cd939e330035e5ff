import ScanClient.Log.Event
import ScanClient.Text.Quoted
import ScanClient.Text.Styled

/-!
# Log lines

An entry on a line of its own: the time, the level, the message, and the fields by name.
-/

namespace ScanClient.Log

open Text

def Level.style : Level → Style
  | .error => .red
  | .warn => .yellow
  | .info => .green
  | .debug => .blue
  | .trace => .magenta

/-- The name of a level with blanks in front of it, as wide as the longest. -/
def Level.padded (level : Level) : String :=
  String.ofList (List.replicate (5 - level.name.length) ' ') ++ level.name

def Datum.shown : Datum → String
  | .text s => quoted s
  | .plain s => s
  | .count n => toString n
  | .boolean b => if b then "true" else "false"
  | .double x => x.render .log

def fieldText (name : String) (datum : Datum) : String :=
  styled [.italic] name ++ styled [.dim] "=" ++ datum.shown

def Entry.line (time : String) (entry : Entry) : String :=
  " ".intercalate
    (styled [.dim] time :: styled [entry.level.style] entry.level.padded :: entry.message ::
      entry.fields.map fun (name, datum) => fieldText name datum)

end ScanClient.Log
