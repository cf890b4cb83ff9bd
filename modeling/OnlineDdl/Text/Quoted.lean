import OnlineDdl.Text.Pieces

/-! SQL quoting. Inside quotes the quote character is written twice; a quote that stands alone ends
the quoted text. Identifiers take double quotes and string literals single ones. -/

set_option autoImplicit false

namespace OnlineDdl.Text

def double (quote : Char) : List Char → List Char
  | [] => []
  | c :: rest => if c = quote then quote :: quote :: double quote rest else c :: double quote rest

def enclose (quote : Char) (s : List Char) : List Char := quote :: (double quote s ++ [quote])

-- Reads on after an opening quote: the text up to the closing quote and what follows it.
def scanBody (quote : Char) : List Char → Option (List Char × List Char)
  | [] => none
  | [c] => if c = quote then some ([], []) else none
  | c :: d :: rest =>
    if c = quote then
      if d = quote then (scanBody quote rest).map fun (s, after) => (quote :: s, after)
      else some ([], d :: rest)
    else (scanBody quote (d :: rest)).map fun (s, after) => (c :: s, after)

def scanQuoted (quote : Char) : List Char → Option (List Char × List Char)
  | [] => none
  | c :: rest => if c = quote then scanBody quote rest else none

end OnlineDdl.Text

namespace OnlineDdl

def quoteIdent (name : String) : String := String.ofList (Text.enclose '"' name.toList)

def quoteLiteral (value : String) : String := String.ofList (Text.enclose '\'' value.toList)

def quoteColumns (columns : List String) : String := Text.commaSeparated (columns.map quoteIdent)

end OnlineDdl
