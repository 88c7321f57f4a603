/-! # String literals of the query language

A literal stands between double quotes. A quote inside it carries a backslash; a quote that
already follows a backslash is taken as written so and stays. -/

namespace Traversal.Text

/-- Gives every bare quote a backslash and leaves a backslash-quote pair as it is. -/
def escapeQuotes : List Char → List Char
  | [] => []
  | '\\' :: '"' :: rest => '\\' :: '"' :: escapeQuotes rest
  | c :: rest => if c = '"' then '\\' :: '"' :: escapeQuotes rest else c :: escapeQuotes rest

/-- The literal that stands for `s`. -/
def quoted (s : String) : String :=
  "\"" ++ String.ofList (escapeQuotes s.toList) ++ "\""

/-- Reads each backslash-quote pair as a quote. -/
def unescapeQuotes : List Char → List Char
  | [] => []
  | '\\' :: '"' :: rest => '"' :: unescapeQuotes rest
  | c :: rest => c :: unescapeQuotes rest

end Traversal.Text
