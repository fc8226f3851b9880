import ChatCommands.Config.Settings
import ChatCommands.Toml.Document

/-!
Settings from a configuration file, which is a TOML document with one table for
each group of settings. Whatever is left out has its default, and unknown keys
are ignored. A group may also be written as an array of its values in order;
a date in its place counts as a table without known keys.
-/

namespace ChatCommands

/-- Why settings cannot be loaded. -/
inductive LoadError where
  /-- There is no such file, or it is not a text. -/
  | unreadable
  /-- It is not a document, or a value is of the wrong kind. -/
  | malformed
  deriving DecidableEq

namespace Loading

open Toml

/-- What reads a value from an item. -/
abbrev Decoder (α : Type) := Item → Except LoadError α

/-- A text. -/
def text : Decoder String
  | .text s => .ok s
  | _ => .error .malformed

/-- A truth value. -/
def boolean : Decoder Bool
  | .boolean b => .ok b
  | _ => .error .malformed

/-- A whole number that is not negative. -/
def natural : Decoder Nat
  | .integer i => if i < 0 then .error .malformed else .ok i.toNat
  | _ => .error .malformed

/-- A text of one character. -/
def character : Decoder Char
  | .text s =>
    match s.toList with
    | [c] => .ok c
    | _ => .error .malformed
  | _ => .error .malformed

/-- An array of values of one kind. -/
def listOf {α : Type} (decode : Decoder α) : Decoder (List α)
  | .array _ items => items.mapM decode
  | _ => .error .malformed

/-- An opening and a closing mark; what follows them in their array is ignored. -/
def quotePair : Decoder (Char × Char)
  | .array _ (opening :: closing :: _) => do
    let opening ← character opening
    let closing ← character closing
    return (opening, closing)
  | _ => .error .malformed

/-- Whether an item holds nothing. -/
def isEmptyItem : Item → Bool
  | .array _ items => items.isEmpty
  | .table _ entries => entries.isEmpty
  | _ => false

/-- What becomes of undeclared flags: a name, or a table with the name as its only key and nothing
under it. -/
def unknownFlags : Decoder UnknownFlags
  | .text name => ofName name
  | .table _ [(name, content)] => if isEmptyItem content then ofName name else .error .malformed
  | _ => .error .malformed
where
  /-- What a name stands for. -/
  ofName : String → Except LoadError UnknownFlags
    | "reject" => .ok .reject
    | "ignore" => .ok .ignore
    | _ => .error .malformed

/-- The items of a group by key, if the item can be a group with those keys in that order. -/
def groupEntries (keys : List String) : Item → Except LoadError Entries
  | .table _ entries => .ok entries
  | .array _ items => .ok (keys.zip items)
  | .dateTime _ => .ok []
  | _ => .error .malformed

/-- The value of a key of a group, or its default. -/
def value {α : Type} (entries : Entries) (key : String) (decode : Decoder α) (otherwise : α) :
    Except LoadError α :=
  match entries.lookup key with
  | some item => decode item
  | none => .ok otherwise

/-- Recognition of commands. -/
def dispatch : Decoder DispatchSettings := fun item => do
  let es ← groupEntries ["prefixes", "case_insensitive", "ignore_bots", "strip_after_prefix",
    "report_not_found", "owners"] item
  let standard : DispatchSettings := {}
  let leads ← value es "prefixes" (listOf text) standard.leads
  let caseInsensitive ← value es "case_insensitive" boolean standard.caseInsensitive
  let ignoreBots ← value es "ignore_bots" boolean standard.ignoreBots
  let stripAfterLead ← value es "strip_after_prefix" boolean standard.stripAfterLead
  let reportNotFound ← value es "report_not_found" boolean standard.reportNotFound
  let owners ← value es "owners" (listOf natural) standard.owners
  return { leads, caseInsensitive, ignoreBots, stripAfterLead, reportNotFound, owners }

/-- Tokens. -/
def tokenizer : Decoder TokenizerSettings := fun item => do
  let es ← groupEntries ["escape", "extra_quotes"] item
  let standard : TokenizerSettings := {}
  let escape ← value es "escape" character standard.escape
  let extraQuotes ← value es "extra_quotes" (listOf quotePair) standard.extraQuotes
  return { escape, extraQuotes }

/-- How long the state of limits is kept. -/
def limits : Decoder LimitSettings := fun item => do
  let es ← groupEntries ["cooldown_retention_secs", "maintenance_interval_secs"] item
  let standard : LimitSettings := {}
  let retentionSeconds ← value es "cooldown_retention_secs" natural standard.retentionSeconds
  let intervalSeconds ← value es "maintenance_interval_secs" natural standard.intervalSeconds
  return { retentionSeconds, intervalSeconds }

/-- How flags are written. -/
def flags : Decoder FlagStyle := fun item => do
  let es ← groupEntries ["prefix", "delimiter", "unknown", "case_insensitive"] item
  let standard : FlagStyle := {}
  let lead ← value es "prefix" text standard.lead
  let delimiter ← value es "delimiter" text standard.delimiter
  let unknown ← value es "unknown" unknownFlags standard.unknown
  let caseInsensitive ← value es "case_insensitive" boolean standard.caseInsensitive
  return { lead, delimiter, unknown, caseInsensitive }

end Loading

namespace Settings

/-- Settings from the entries of a document. -/
def ofEntries (entries : Toml.Entries) : Except LoadError Settings := do
  let dispatch ← Loading.value entries "dispatch" Loading.dispatch {}
  let tokenizer ← Loading.value entries "tokenizer" Loading.tokenizer {}
  let limits ← Loading.value entries "limits" Loading.limits {}
  let flags ← Loading.value entries "flags" Loading.flags {}
  return { dispatch, tokenizer, limits, flags }

/-- Settings from the text of a configuration file. -/
def ofText (text : String) : Except LoadError Settings :=
  match Toml.read? text with
  | some entries => ofEntries entries
  | none => .error .malformed

/-- Settings from the bytes of a configuration file, if there is one. -/
def ofFile (bytes : Option ByteArray) : Except LoadError Settings :=
  match bytes.bind String.fromUTF8? with
  | some text => ofText text
  | none => .error .unreadable

end Settings

end ChatCommands
