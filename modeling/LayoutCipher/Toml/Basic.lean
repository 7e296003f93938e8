/-!
# Settings documents

The values of a TOML document.  Strings, arrays and tables are kept; of numbers, truth values and
dates only the fact that one stands there.
-/

namespace LayoutCipher.Toml

/-- How a table came to be; this decides who may add to it later. -/
inductive TableKind where
  /-- By a header of its own; the document as a whole counts as such a table. -/
  | headed
  /-- By the header of a table inside it. -/
  | implied
  /-- By a dotted key. -/
  | dotted
  /-- Between braces. -/
  | inline
  deriving DecidableEq, Repr

inductive Value where
  | string (s : String)
  /-- A number, a truth value or a date. -/
  | scalar
  | array (elements : List Value)
  | table (kind : TableKind) (entries : List (String × Value))
  /-- The tables that headers in double brackets add to, in order. -/
  | tables (elements : List (List (String × Value)))

/-- The entries of a table, in the order in which they were written. -/
abbrev Entries :=
  List (String × Value)

namespace Entries

def get? (key : String) (entries : Entries) : Option Value :=
  entries.lookup key

/-- Puts a value under a key: in place of the old value, or behind all others. -/
def put (key : String) (value : Value) : Entries → Entries
  | [] => [(key, value)]
  | (other, old) :: rest =>
      if other = key then (key, value) :: rest else (other, old) :: put key value rest

end Entries

/-- Follows keys into a table, creating tables of the kind `missing` on the way, and changes the
table at their end.  Only tables of kinds that `admits` allows are entered; of the tables of double
brackets the last one is. -/
def changeAt (missing : TableKind) (admits : TableKind → Bool)
    (change : TableKind → Entries → Option Entries) :
    (keys : List String) → (kind : TableKind) → Entries → Option Entries
  | [], kind, entries => change kind entries
  | key :: rest, _, entries =>
      match entries.get? key with
      | none => do
          let inner ← changeAt missing admits change rest missing []
          return entries.put key (.table missing inner)
      | some (.table kind inner) =>
          if admits kind then do
            let inner ← changeAt missing admits change rest kind inner
            return entries.put key (.table kind inner)
          else none
      | some (.tables elements) =>
          match elements.getLast? with
          | none => none
          | some inner => do
              let inner ← changeAt missing admits change rest .headed inner
              return entries.put key (.tables (elements.dropLast ++ [inner]))
      | some _ => none

/-- Adds the value of a dotted key to a table.  A dotted key may only pass through tables that
dotted keys made, and no key is given twice. -/
def addValue (parents : List String) (key : String) (value : Value) (entries : Entries) :
    Option Entries :=
  changeAt .dotted (fun kind => kind = .dotted || kind = .implied)
    (fun kind entries =>
      if kind = .dotted ↔ parents = [] then none
      else if (entries.get? key).isSome then none
      else some (entries.put key value))
    parents .headed entries

/-- Opens the table of a header.  A table that deeper headers implied may still be headed. -/
def openTable (parents : List String) (key : String) (entries : Entries) : Option Entries :=
  changeAt .implied (· ≠ .inline)
    (fun _ entries =>
      match entries.get? key with
      | none => some (entries.put key (.table .headed []))
      | some (.table .implied inner) => some (entries.put key (.table .headed inner))
      | some _ => none)
    parents .headed entries

/-- Opens one more table of a header in double brackets. -/
def openNextTable (parents : List String) (key : String) (entries : Entries) :
    Option Entries :=
  changeAt .implied (· ≠ .inline)
    (fun _ entries =>
      match entries.get? key with
      | none => some (entries.put key (.tables [[]]))
      | some (.tables elements) => some (entries.put key (.tables (elements ++ [[]])))
      | some _ => none)
    parents .headed entries

/-- Adds the value of a dotted key to the table of the last header. -/
def addUnder (header parents : List String) (key : String) (value : Value)
    (entries : Entries) : Option Entries :=
  changeAt .implied (fun _ => true) (fun _ entries => addValue parents key value entries)
    header .headed entries

end LayoutCipher.Toml
