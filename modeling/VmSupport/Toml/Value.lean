import VmSupport.Decimal.Binary64

/-!
# The values of a TOML document

A document is a table: named values in the order in which they were first written. Two spellings of
the same value, such as an inline table and a table under a header, read as the same value here, but
an array in brackets is told from one whose elements are tables under headers. Of a date or a time
nothing but its presence is kept.
-/

namespace VmSupport.Toml

/-- A value. -/
inductive Value where
  | string (s : String)
  | integer (n : Int)
  | float (x : Decimal.Binary64)
  | boolean (b : Bool)
  | date
  | array (items : List Value)
  /-- The tables under the headers of an array. -/
  | rows (tables : List (List (String × Value)))
  | table (entries : List (String × Value))

/-- The named values of a table. -/
abbrev Entries := List (String × Value)

end VmSupport.Toml
