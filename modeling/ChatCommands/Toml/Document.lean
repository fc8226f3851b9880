import ChatCommands.Toml.Statement

/-!
A whole TOML document: its statements, one after another, build up one table.
-/

namespace ChatCommands.Toml

/-- Reads at most so many lines. -/
def readStatements? : Nat → List Char → Option (List Statement)
  | 0, cs => if cs.isEmpty then some [] else none
  | limit + 1, cs =>
    match lineEnd? cs with
    | some [] => some []
    | some rest => readStatements? limit rest
    | none =>
      match readStatement? (skipBlanks cs) with
      | none => none
      | some (statement, rest) =>
        match lineEnd? rest with
        | none => none
        | some rest => (readStatements? limit rest).map (statement :: ·)

/-- A document that is being built. -/
structure Building where
  /-- What it holds so far. -/
  entries : Entries := []
  /-- The path to the table of the last header. -/
  current : List String := []

namespace Building

/-- Changes the table at the end of a path from the top. -/
def changeAt? (b : Building) (change : TableChange) (path : List String) : Option Entries :=
  (changeAt change false path .header b.entries).map (·.2)

/-- Adds a statement. -/
def add? (b : Building) : Statement → Option Building
  | .header path key =>
    (b.changeAt? (headerHere key) path).map fun entries => ⟨entries, path ++ [key]⟩
  | .arrayHeader path key =>
    (b.changeAt? (arrayHeaderHere key) path).map fun entries => ⟨entries, path ++ [key]⟩
  | .assign path key item =>
    (b.changeAt? (assignAt path key item) b.current).map fun entries => ⟨entries, b.current⟩

end Building

/-- Reads a document. A mark of the byte order may stand in front. -/
def read? (document : String) : Option Entries :=
  let cs := match document.toList with
    | '\ufeff' :: rest => rest
    | cs => cs
  (readStatements? (cs.length + 1) cs).bind fun statements =>
    (statements.foldlM Building.add? {}).map Building.entries

end ChatCommands.Toml
