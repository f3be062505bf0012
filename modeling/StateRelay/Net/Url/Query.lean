import StateRelay.Net.Url.Parser

/-!
The names and values that a URL's query holds.
-/

namespace StateRelay.Net.Url

/-- The text of a query's piece: a plus sign stands for a space. -/
def decodePiece (s : List Char) : String :=
  Text.Utf8.decodeLossy
    (Percent.decode (Bytes.ofString (.ofList (s.map fun c => if c = '+' then ' ' else c))))

/-- The names and values of a query, in order. -/
def queryPairs (url : Url) : List (String × String) :=
  match url.query with
  | none => []
  | some q =>
    ((Address.pieces '&' q.toList).filter (!·.isEmpty)).map fun piece =>
      let (name, value) := splitAt '=' piece
      (decodePiece name, decodePiece (value.getD []))

end StateRelay.Net.Url
