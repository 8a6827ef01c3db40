/-!
# Layout

Source text is laid out line by line from a list of steps. Each line is indented by the depth at
which it stands, except that an empty line stays empty; a step back from the left margin has no
effect. Every line ends in a line feed, whatever the line ending of the finished file.
-/

namespace EnumHeader.Cpp

set_option autoImplicit false

inductive Step where
  | line (text : String)
  | lines (texts : List String)
  | blank
  | indent
  | dedent
  /-- A header and an opening brace, each on a line; what follows is one level deeper. -/
  | opening (header : String)
  /-- A closing line, one level back. -/
  | closing (closer : String)
  /-- A function whose body is one statement. -/
  | function (signature statement : String)
  | raw (text : String)
  deriving Repr, DecidableEq, Inhabited

structure Page where
  indentUnit : String
  depth : Nat := 0
  text : String := ""
  deriving Repr, DecidableEq, Inhabited

namespace Page

def append (page : Page) (text : String) : Page :=
  { page with text := page.text ++ text }

/-- What stands in front of a line at the present depth. -/
def margin (page : Page) : String :=
  String.join (List.replicate page.depth page.indentUnit)

def blank (page : Page) : Page :=
  page.append "\n"

def line (page : Page) (text : String) : Page :=
  if text.isEmpty then page.blank else page.append (page.margin ++ text ++ "\n")

def lines (page : Page) (texts : List String) : Page :=
  texts.foldl line page

def indent (page : Page) : Page :=
  { page with depth := page.depth + 1 }

def dedent (page : Page) : Page :=
  { page with depth := page.depth - 1 }

def opening (page : Page) (header : String) : Page :=
  ((page.line header).line "\x7b").indent

def closing (page : Page) (closer : String) : Page :=
  page.dedent.line closer

def function (page : Page) (signature statement : String) : Page :=
  ((page.opening signature).line statement).closing "\x7d"

def apply (page : Page) : Step → Page
  | .line text => page.line text
  | .lines texts => page.lines texts
  | .blank => page.blank
  | .indent => page.indent
  | .dedent => page.dedent
  | .opening header => page.opening header
  | .closing closer => page.closing closer
  | .function signature statement => page.function signature statement
  | .raw text => page.append text

def applyAll (page : Page) (steps : List Step) : Page :=
  steps.foldl apply page

def history (page : Page) : List Step → List String
  | [] => []
  | step :: rest => (page.apply step).text :: (page.apply step).history rest

end Page

def layout (indentUnit : String) (steps : List Step) : String :=
  (Page.applyAll ⟨indentUnit, 0, ""⟩ steps).text

end EnumHeader.Cpp
