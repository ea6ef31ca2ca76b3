/-
Ends of lines.

Three ways of ending a line are in use: a line feed, a carriage return, or both. Files are read as
if only line feeds were.
-/

set_option autoImplicit false

namespace ApiOutline.Text

/-- A text with a line feed at the end of every line. -/
def unifyBreaks : List Char → List Char
  | [] => []
  | '\r' :: '\n' :: rest => '\n' :: unifyBreaks rest
  | '\r' :: rest => '\n' :: unifyBreaks rest
  | c :: rest => c :: unifyBreaks rest

end ApiOutline.Text
