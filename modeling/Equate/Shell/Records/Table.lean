import Std.Data.ExtTreeMap
import Equate.Shell.Records.Value

/-!
# Tables

A table has values for texts. The order in which its keys are told is that of rows: a key
stands in the row that its digest says, and one that is looked up comes to the front of its
row. Keys that have only been used as numbers stand in rows of their own until a text is
asked for. A table that holds the parts of a text numbers them.
-/
namespace Equate.Shell.Records

/-- A table. -/
structure Table where
  cells : Std.ExtTreeMap Octets Datum compare
  /-- The keys in rows, as texts. There are none as long as only numbers have been used. -/
  texts : Array (List Octets)
  /-- The keys in rows that have been used as numbers. -/
  numbers : Array (List Int)
  /-- How many rows there are. -/
  rows : Nat
  hasTexts : Bool
  hasNumbers : Bool
  /-- The keys are the numbers from one to this. -/
  parts : Option Nat

namespace Table

/-- How many rows a table has first. -/
def firstRows : Nat := 64

/-- How many keys a row may have on average. -/
def rowLength : Nat := 12

/-- The digest of a key. -/
def digest (t : Octets) : Nat :=
  t.foldl (fun h c => ((h ^^^ c.toNat) * 16777619) % 4294967296) 2166136261

/-- A table without keys. -/
def empty : Table :=
  ⟨Std.ExtTreeMap.empty, #[], #[], 0, false, false, none⟩

/-- The row of a text. -/
def rowOf (table : Table) (t : Octets) : Nat := digest t % table.rows

/-- The row of a number. -/
def rowOfNumber (table : Table) (n : Int) : Nat := (n % (table.rows : Int)).toNat

/-- The parts of a text, as keys that have been used as numbers. -/
def unfoldParts (table : Table) : Table :=
  match table.parts with
  | none => table
  | some n =>
    let rec grow : Nat → Nat → Nat
      | 0, rows => rows
      | fuel + 1, rows => if n ≤ rows * rowLength then rows else grow fuel (rows * 2)
    let rows := grow 40 firstRows
    let numbers := (List.range n).foldl (fun (numbers : Array (List Int)) i =>
      let row := (i + 1) % rows
      numbers.setIfInBounds row (((i + 1 : Nat) : Int) :: numbers.getD row []))
      (Array.replicate rows [])
    { table with numbers, rows, texts := Array.replicate rows [], hasNumbers := true, parts := none }

/-- Each key stands in a row as a text. -/
def withTexts (table : Table) : Table :=
  if table.hasTexts then table
  else
    let table := table.unfoldParts
    if table.rows = 0 then
      { table with
        texts := Array.replicate firstRows [], numbers := Array.replicate firstRows []
        rows := firstRows, hasTexts := true }
    else
      let texts := table.numbers.toList.flatten.foldl (fun (texts : Array (List Octets)) n =>
        let t := integerText n
        let row := table.rowOf t
        texts.setIfInBounds row (t :: texts.getD row [])) (Array.replicate table.rows [])
      { table with texts, hasTexts := true }

/-- Twice as many rows. The keys keep their order. -/
def double (table : Table) : Table :=
  let rows := table.rows * 2
  let grown : Table := { table with rows }
  let texts := (List.range rows).map fun i =>
    (table.texts.getD (i % table.rows) []).filter fun t => grown.rowOf t == i
  let numbers := (List.range rows).map fun i =>
    (table.numbers.getD (i % table.rows) []).filter fun n => grown.rowOfNumber n == i
  { grown with texts := texts.toArray, numbers := numbers.toArray }

/-- Room for one key more than there are. -/
def roomy (table : Table) : Table :=
  if table.rows * rowLength < table.cells.size + 1 then table.double else table

/-- A text is looked up; a new one is put in if that is wanted. -/
def touchText (table : Table) (t : Octets) (create : Bool) : Table :=
  let table := table.withTexts
  let move (table : Table) : Table :=
    let row := table.rowOf t
    let keys := t :: (table.texts.getD row []).filter fun other => other != t
    { table with texts := table.texts.setIfInBounds row keys }
  if table.cells.contains t then move table
  else if create then
    let table := move table.roomy
    { table with cells := table.cells.insert t .unset }
  else table

/-- A number is looked up; a new one is put in if that is wanted. -/
def touchNumber (table : Table) (n : Int) (create : Bool) : Table :=
  let t := integerText n
  match table.parts with
  | some count => if 1 ≤ n ∧ n ≤ count then table else hashed table.unfoldParts t
  | none => hashed table t
where
  /-- The same, in a table with rows. -/
  hashed (table : Table) (t : Octets) : Table :=
    let table := if table.rows = 0 then
        { table with
          texts := Array.replicate firstRows [], numbers := Array.replicate firstRows []
          rows := firstRows, hasNumbers := true }
      else table
    let row := table.rowOfNumber n
    let old := table.numbers.getD row []
    let front (table : Table) : Table :=
      let row := table.rowOfNumber n
      let keys := n :: (table.numbers.getD row []).filter fun other => other != n
      { table with numbers := table.numbers.setIfInBounds row keys, hasNumbers := true }
    if old.contains n then front table
    else if table.hasTexts then
      let table := table.touchText t create
      if table.cells.contains t then front table else table
    else if create then
      let table := front table.roomy
      { table with cells := table.cells.insert t .unset }
    else table

/-- A key: a number or a text. -/
inductive Key where
  | number (n : Int)
  | text (t : Octets)

/-- The key as a text. -/
def Key.toText : Key → Octets
  | number n => integerText n
  | text t => t

/-- A key is looked up. -/
def touch (table : Table) (k : Key) (create : Bool) : Table :=
  match k with
  | .number n => table.touchNumber n create
  | .text t => table.touchText t create

/-- The value of a key. -/
def get (table : Table) (k : Key) : Datum := (table.cells[k.toText]?).getD .unset

/-- A key has a value. -/
def has (table : Table) (k : Key) : Bool := table.cells.contains k.toText

/-- A key gets a value. -/
def set (table : Table) (k : Key) (d : Datum) : Table :=
  let table := table.touch k true
  { table with cells := table.cells.insert k.toText d }

/-- A key is taken out. -/
def remove (table : Table) (k : Key) : Table :=
  let t := k.toText
  if !table.cells.contains t then table
  else
    let table := (table.unfoldParts).touch k false
    let row := table.rowOf t
    let texts := table.texts.setIfInBounds row ((table.texts.getD row []).filter (· ≠ t))
    let numbers := match integer? t with
      | some n =>
        let row := table.rowOfNumber n
        table.numbers.setIfInBounds row ((table.numbers.getD row []).filter (· ≠ n))
      | none => table.numbers
    let cells := table.cells.erase t
    if cells.isEmpty then empty else { table with cells, texts, numbers }

/-- The parts of a text. -/
def ofParts (values : List Datum) : Table :=
  if values.isEmpty then empty
  else
    { empty with
      cells := (values.zipIdx 1).foldl (fun cells (d, i) => cells.insert (Text.decimal i) d)
        Std.ExtTreeMap.empty
      parts := some values.length }

/-- The keys in their order, with the table in which they have it. -/
def keys (table : Table) : List Octets × Table :=
  let table := table.withTexts
  (table.texts.toList.flatten, table)

end Table
end Equate.Shell.Records
