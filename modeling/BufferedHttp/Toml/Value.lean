import BufferedHttp.Decimal.Binary64

/-!
# TOML values

The values of a document. A table keeps its keys in order and remembers how it came about, since
that decides what may still be added to it. Dates and times keep the text that they were written
with.
-/

namespace BufferedHttp.Toml

/-- How a table came about. -/
inductive Origin where
  | inline
  | header
  /-- Named on the way to another table in a header. -/
  | implied
  /-- Named in front of a dot in a key. -/
  | dotted
  deriving DecidableEq

inductive Value where
  | string (text : String)
  | integer (n : Int)
  | float (x : Decimal.Binary64)
  | boolean (b : Bool)
  | moment (text : String)
  | array (items : List Value)
  | table (origin : Origin) (entries : List (String × Value))
  /-- Tables under one name, each opened by a header of double brackets. -/
  | tables (items : List (List (String × Value)))

end BufferedHttp.Toml
