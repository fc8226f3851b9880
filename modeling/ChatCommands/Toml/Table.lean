import ChatCommands.Toml.Item

/-!
Adding to tables. What may be added to a table depends on how it was written
(`changeAt`): dotted keys extend what dotted keys made, headers take up what was
only named on the way to other headers, and nothing extends what was closed by a
bracket or a brace.
-/

namespace ChatCommands.Toml

/-- A path of keys and the last key. -/
def splitLast? : List String → Option (List String × String)
  | [] => none
  | [key] => some ([], key)
  | part :: rest => (splitLast? rest).map fun (path, key) => (part :: path, key)

/-- What becomes of the entries of a table of a given form, if it may be done to it. -/
abbrev TableChange := TableForm → Entries → Option (TableForm × Entries)

/-- The entries with another item for a key that they have. -/
def replaceItem (entries : Entries) (key : String) (item : Item) : Entries :=
  entries.map fun e => if e.1 == key then (key, item) else e

/-- Changes the table at the end of a path. Tables that are missing on the way are made. A path of a
dotted key leads through tables that dotted keys made and those that were only named on the way to
a header; a path of a header leads through all but closed ones. -/
def changeAt (change : TableChange) (isDotted : Bool) : List String → TableChange
  | [], form, entries => change form entries
  | part :: path, form, entries =>
    match entries.lookup part with
    | none =>
      (changeAt change isDotted path (if isDotted then .dotted else .implied) []).map
        fun (f, es) => (form, entries ++ [(part, .table f es)])
    | some (.table f es) =>
      if f == .closed || (isDotted && f == .header) then none
      else
        (changeAt change isDotted path f es).map fun (f, es) =>
          (form, replaceItem entries part (.table f es))
    | some (.array .headers items) =>
      match items.getLast? with
      | some (.table f es) =>
        (changeAt change isDotted path f es).map fun (f, es) =>
          (form, replaceItem entries part (.array .headers (items.dropLast ++ [.table f es])))
      | _ => none
    | some _ => none

/-- Gives a new key its item. With a path it has to be in a table that dotted keys made, and without
one in any other. -/
def assignHere (hasPath : Bool) (key : String) (item : Item) : TableChange := fun form entries =>
  if (form == .dotted) != hasPath || (entries.lookup key).isSome then none
  else some (form, entries ++ [(key, item)])

/-- Gives a key after a path its item. -/
def assignAt (path : List String) (key : String) (item : Item) : TableChange :=
  changeAt (assignHere (!path.isEmpty) key item) true path

/-- Begins a table under a header. One that was only named on the way to another header is taken
up. -/
def headerHere (key : String) : TableChange := fun form entries =>
  match entries.lookup key with
  | none => some (form, entries ++ [(key, .table .header [])])
  | some (.table .implied es) => some (form, replaceItem entries key (.table .header es))
  | some _ => none

/-- Begins the next table of an array. -/
def arrayHeaderHere (key : String) : TableChange := fun form entries =>
  match entries.lookup key with
  | none => some (form, entries ++ [(key, .array .headers [.table .header []])])
  | some (.array .headers items) =>
    some (form, replaceItem entries key (.array .headers (items ++ [.table .header []])))
  | some _ => none

/-- The table that keys between braces make. -/
def closedTable? (pairs : List (List String × Item)) : Option Item :=
  let add (form : TableForm) (entries : Entries) (pair : List String × Item) :
      Option (TableForm × Entries) :=
    (splitLast? pair.1).bind fun (path, key) => assignAt path key pair.2 form entries
  (pairs.foldlM (fun table pair => add table.1 table.2 pair) (TableForm.header, [])).map
    fun (_, entries) => .table .closed entries

end ChatCommands.Toml
