/-!
# TOML values

A table remembers how it came to be, because that says who may still add to it. A header may open a
table once, also one that headers only named on their way. A dotted key goes on through tables that
dotted keys made and through no others. A table written in braces is closed.

Only texts and integers are kept as values of their own; no reader asks for more of a float, a truth
value or a date than that it is one.
-/

namespace Conformance.Toml

/-- How a table came to be. -/
inductive Form where
  /-- Named by a header on its way to another table. -/
  | implied
  /-- Opened by a header of its own. -/
  | headed
  /-- Named by a dotted key. -/
  | dotted
  /-- Written in braces. -/
  | closed
  deriving DecidableEq, Repr

/-- A TOML value. -/
inductive Value where
  | text (s : String)
  | integer (n : Int)
  /-- A float, a truth value, a date or a time. -/
  | other
  | array (items : List Value)
  | table (form : Form) (entries : List (String × Value))
  /-- The tables of headers in double brackets. -/
  | tables (items : List (List (String × Value)))
  deriving Repr, Inhabited

abbrev Entries := List (String × Value)

namespace Entries

/-- The entries with the value of `key` replaced by what `f` makes of it. -/
def alter (key : String) (f : Option Value → Option Value) : Entries → Option Entries
  | [] => (f none).map fun value => [(key, value)]
  | (k, v) :: rest =>
    if k = key then (f (some v)).map fun value => (k, value) :: rest
    else (alter key f rest).map ((k, v) :: ·)

/-- The items with the last one replaced by what `f` makes of it. -/
def alterLast (f : Entries → Option Entries) : List Entries → Option (List Entries)
  | [] => none
  | [last] => (f last).map fun last => [last]
  | item :: rest => (alterLast f rest).map (item :: ·)

/-- The entries with the table that a header's key leads to changed by `f`. -/
def within (f : Entries → Option Entries) : List String → Entries → Option Entries
  | [], entries => f entries
  | key :: keys, entries => alter key (fun
      | none => (within f keys []).map (.table .implied)
      | some (.table .closed _) => none
      | some (.table form inner) => (within f keys inner).map (.table form)
      | some (.tables items) => (alterLast (within f keys) items).map .tables
      | some _ => none) entries

/-- The entries with a value given to a dotted key. -/
def assign (value : Value) : List String → Entries → Option Entries
  | [], _ => none
  | [key], entries => alter key (fun
      | none => some value
      | some _ => none) entries
  | key :: keys, entries => alter key (fun
      | none => (assign value keys []).map (.table .dotted)
      | some (.table .dotted inner) => (assign value keys inner).map (.table .dotted)
      | some _ => none) entries

/-- The entries with a table opened by a header. -/
def openTable (key : List String) (entries : Entries) : Option Entries :=
  match key.getLast? with
  | none => none
  | some last => within (alter last fun
      | none => some (.table .headed [])
      | some (.table .implied inner) => some (.table .headed inner)
      | some _ => none) key.dropLast entries

/-- The entries with a table opened by a header in double brackets. -/
def openItem (key : List String) (entries : Entries) : Option Entries :=
  match key.getLast? with
  | none => none
  | some last => within (alter last fun
      | none => some (.tables [[]])
      | some (.tables items) => some (.tables (items ++ [[]]))
      | some _ => none) key.dropLast entries

end Entries

/-- The table written in braces. -/
def Value.ofPairs? (pairs : List (List String × Value)) : Option Value :=
  (pairs.foldlM (fun entries (key, value) => Entries.assign value key entries) []).map
    (.table .closed)

/-- A line of a document that is not blank. -/
inductive Statement where
  | header (key : List String)
  | item (key : List String)
  | pair (key : List String) (value : Value)
  deriving Repr

/-- The entries with one statement more, where pairs go to the table of `current`, and the header
that pairs after it go to. -/
def Entries.addStatement (entries : Entries) (current : List String) :
    Statement → Option (Entries × List String)
  | .header key => (entries.openTable key).map (·, key)
  | .item key => (entries.openItem key).map (·, key)
  | .pair key value => (within (assign value key) current entries).map (·, current)

/-- The entries of a document's statements. -/
def Entries.ofStatements? (statements : List Statement) : Option Entries := do
  let (entries, _) ← statements.foldlM (fun (entries, current) s => addStatement entries current s)
    (([], []) : Entries × List String)
  return entries

end Conformance.Toml
