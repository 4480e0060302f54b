import LadderAtlas.Number.Whole

/-! # CSV

Records of cells between commas, one on a line. A cell that holds a comma, a double quote or a line
feed stands in double quotes, and a double quote inside it is written twice. -/

namespace LadderAtlas.Csv

def needsQuotes (s : List Char) : Bool := s.any fun c => c = ',' || c = '"' || c = '\n'

/-- The text with its double quotes written twice. -/
def doubled : List Char → List Char
  | [] => []
  | c :: s => if c = '"' then '"' :: '"' :: doubled s else c :: doubled s

def cell (s : List Char) : List Char := if needsQuotes s then '"' :: doubled s ++ ['"'] else s

/-- The cells of a record with a comma between any two. -/
def cells : List (List Char) → List Char
  | [] => []
  | [s] => cell s
  | s :: l => cell s ++ ',' :: cells l

def record (l : List (List Char)) : List Char := cells l ++ ['\n']

/-- A table with its header. -/
def table (header : List String) (rows : List (List String)) : String :=
  String.ofList ((header :: rows).flatMap fun r => record (r.map String.toList))

end LadderAtlas.Csv
