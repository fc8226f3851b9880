import ChatCommands.Decimal.Binary64

/-!
What a TOML document holds. A table and an array remember how they were
written, because that decides whether later lines may add to them.
-/

namespace ChatCommands.Toml

/-- How a table was written. -/
inductive TableForm where
  /-- Under a header of its own. -/
  | header
  /-- Named only on the way to another header. -/
  | implied
  /-- Named by a dotted key. -/
  | dotted
  /-- Between braces. -/
  | closed
  deriving DecidableEq

/-- How an array was written. -/
inductive ArrayForm where
  /-- One header for each of its tables. -/
  | headers
  /-- Between brackets. -/
  | closed
  deriving DecidableEq

/-- What a key stands for. -/
inductive Item where
  /-- A text. -/
  | text (value : String)
  /-- A whole number. -/
  | integer (value : Int)
  /-- A number with a point or an exponent. -/
  | float (value : Decimal.Binary64)
  /-- True or false. -/
  | boolean (value : Bool)
  /-- A date, a time of day or both, as written. -/
  | dateTime (spelling : String)
  /-- Items in order. -/
  | array (form : ArrayForm) (items : List Item)
  /-- Items by key. -/
  | table (form : TableForm) (entries : List (String × Item))

/-- Items by key. -/
abbrev Entries := List (String × Item)

end ChatCommands.Toml
