import ScanClient.Text.Hex

/-!
# Tables of characters

What a standard says about characters, as rows of items with blanks between them. An item is a code
point, or the first and the last of a run with a dash between them, and behind a colon what is said
about it. Runs stand in ascending order and do not overlap, so a run is found by halving.
-/

namespace ScanClient.Text

/-- A run of code points, and what a table says about it. -/
structure Run (α : Type) where
  first : Nat
  last : Nat
  said : α
  deriving Repr

structure Table (α : Type) where
  runs : Array (Run α)
  deriving Repr

namespace Table

/-- The run that holds a code point, among those from the position `low` to before `high`. -/
def search (table : Table α) (code low high : Nat) : Option (Run α) :=
  if low < high then
    let middle := low + (high - low) / 2
    match table.runs[middle]? with
    | none => none
    | some run =>
      if code < run.first then search table code low middle
      else if run.last < code then search table code (middle + 1) high
      else some run
  else none
termination_by high - low

def find? (table : Table α) (c : Char) : Option (Run α) :=
  table.search c.toNat 0 table.runs.size

def contains (table : Table α) (c : Char) : Bool := (table.find? c).isSome

end Table

/-! ## Reading -/

def hexNumber (digits : List Char) : Nat :=
  digits.foldl (fun n c => n * 16 + (hexDigitValue c).getD 0) 0

structure Item where
  first : Nat
  /-- The end of a run of more than one code point. -/
  last : Option Nat
  said : List Char

namespace Item

def read (item : List Char) : Item :=
  let span := item.takeWhile (· != ':')
  let first := span.takeWhile (· != '-')
  let last := span.drop (first.length + 1)
  ⟨hexNumber first, if last.isEmpty then none else some (hexNumber last),
    item.drop (span.length + 1)⟩

def run (item : Item) (said : α) : Run α := ⟨item.first, item.last.getD item.first, said⟩

end Item

namespace Table

def ofRows (rows : List String) (run : Item → Run α) : Table α :=
  let items := rows.flatMap fun row => row.toList.splitOn ' '
  ⟨(items.map fun item => run (Item.read item)).toArray⟩

/-- A table that only tells which characters are in it. -/
def ofRuns (rows : List String) : Table Unit := ofRows rows fun item => item.run ()

end Table

end ScanClient.Text
