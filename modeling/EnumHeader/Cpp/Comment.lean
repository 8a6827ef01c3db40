import EnumHeader.Text.Blank
import EnumHeader.Text.Lines

/-!
# Comments

Free text as line comments. Blanks at the end of a line are dropped, and a line that ends in a
backslash is closed with another comment mark, because a backslash at the very end would draw the
next source line into the comment.
-/

namespace EnumHeader.Cpp

set_option autoImplicit false

def commentLine (line : List Char) : String :=
  let kept := Text.trimRight line
  if kept.isEmpty then "//"
  else if kept.getLast? = some '\\' then "// " ++ String.ofList kept ++ " //"
  else "// " ++ String.ofList kept

def commentLines (text : String) : List String :=
  (Text.lines text.toList).map commentLine

end EnumHeader.Cpp
