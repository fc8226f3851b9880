import ChatCommands.Text.CaseTables
import ChatCommands.Text.Ranges

/-!
Full Unicode lower- and upper-casing of texts. A character may become several,
and a capital sigma becomes the final form where a word ends, so neither
mapping works character by character alone: `lower` of a text's beginning need
not begin `lower` of the whole text.
-/

namespace ChatCommands.Text

/-- The image of code point `n` under a mapping given by rows. -/
def mapCodePoint : List CaseRow → Nat → Nat
  | [], n => n
  | row :: rest, n =>
    if n < row.first then n
    else if n ≤ row.last && (n - row.first) % row.stride == 0 then row.target + (n - row.first)
    else mapCodePoint rest n

/-- The small form of a character standing alone. -/
def lowerChar (c : Char) : List Char :=
  if c == 'İ' then ['i', '\u0307'] else [Char.ofNat (mapCodePoint lowerRows c.toNat)]

/-- The capital form of a character, which may be several characters. -/
def upperChar (c : Char) : List Char :=
  match upperExpansions.lookup c.toNat with
  | some codes => codes.map Char.ofNat
  | none => [Char.ofNat (mapCodePoint upperRows c.toNat)]

/-- Whether the first character that counts for case is a cased letter. -/
def meetsCased (cs : List Char) : Bool :=
  match cs.dropWhile (fun c => inRanges ignorableRanges c.toNat) with
  | c :: _ => inRanges casedRanges c.toNat
  | [] => false

/-- Lower-cases `cs`, where `before` holds what came earlier, nearest first. A capital sigma ends a
word when a cased letter comes before it and none after it. -/
def lowerAfter (before : List Char) : List Char → List Char
  | [] => []
  | c :: rest =>
    let image :=
      if c == 'Σ' then (if meetsCased before && !meetsCased rest then ['ς'] else ['σ'])
      else lowerChar c
    image ++ lowerAfter (c :: before) rest

/-- The lower-case form of a list of characters. -/
def lowerChars (cs : List Char) : List Char := lowerAfter [] cs

/-- The lower-case form of a text. -/
def lower (s : String) : String := String.ofList (lowerChars s.toList)

/-- The upper-case form of a text. -/
def upper (s : String) : String := String.ofList (s.toList.flatMap upperChar)

end ChatCommands.Text
