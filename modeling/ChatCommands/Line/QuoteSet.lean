/-!
Quotation marks and the escape character of a command line. A set holds at
most one closing mark for each opening mark: adding a pair whose opening mark is
known replaces the closing mark in place (`withPair`), so the order of the pairs
is the order in which their opening marks came.
-/

namespace ChatCommands

/-- The pairs of quotation marks a tokenizer knows, and its escape character. -/
structure QuoteSet where
  /-- Opening marks with their closing marks. -/
  pairs : List (Char × Char)
  /-- Makes the next character literal. -/
  escape : Char
  deriving DecidableEq

namespace QuoteSet

/-- Replaces the closing mark of a known opening mark, or adds the pair at the end. -/
def setClosing (opening closing : Char) : List (Char × Char) → List (Char × Char)
  | [] => [(opening, closing)]
  | (o, c) :: rest =>
    if o == opening then (o, closing) :: rest else (o, c) :: setClosing opening closing rest

/-- The set with one more pair. -/
def withPair (q : QuoteSet) (opening closing : Char) : QuoteSet :=
  { q with pairs := setClosing opening closing q.pairs }

/-- The set with another escape character. -/
def withEscape (q : QuoteSet) (escape : Char) : QuoteSet := { q with escape := escape }

/-- The set made of exactly these pairs, a later one overriding an earlier one. -/
def ofPairs (pairs : List (Char × Char)) (escape : Char) : QuoteSet :=
  pairs.foldl (fun q p => q.withPair p.1 p.2) ⟨[], escape⟩

/-- The escape character unless another is chosen. -/
def defaultEscape : Char := '\\'

/-- Straight double quotation marks only. -/
def ascii : QuoteSet := ⟨[('"', '"')], defaultEscape⟩

/-- Straight double quotation marks and the typographic and East Asian ones that keyboards put in
their place. -/
def standard : QuoteSet where
  pairs := [
    ('"', '"'), ('\u2018', '\u2019'), ('\u201A', '\u201B'), ('\u201C', '\u201D'),
    ('\u201E', '\u201F'), ('\u2E42', '\u2E42'), ('\u300C', '\u300D'), ('\u300E', '\u300F'),
    ('\u301D', '\u301E'), ('\uFE41', '\uFE42'), ('\uFE43', '\uFE44'), ('\uFF02', '\uFF02'),
    ('\uFF62', '\uFF63'), ('\u00AB', '\u00BB'), ('\u2039', '\u203A'), ('\u300A', '\u300B'),
    ('\u3008', '\u3009')]
  escape := defaultEscape

/-- The closing mark of a span that `opening` opens. -/
def closingFor (q : QuoteSet) (opening : Char) : Option Char := q.pairs.lookup opening

/-- Whether `c` opens or closes quoted spans. -/
def isQuote (q : QuoteSet) (c : Char) : Bool := q.pairs.any fun p => p.1 == c || p.2 == c

end QuoteSet

end ChatCommands
