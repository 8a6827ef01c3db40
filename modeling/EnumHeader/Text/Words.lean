import EnumHeader.Text.Case
import EnumHeader.Text.Cluster

/-!
# Words of a name

A name in any of the usual cases is cut into words, which are then written in upper case with
underscores between them. Underscores, hyphens and spaces separate words and go away; words without
a character are kept, so that `__x` has three words. A letter keeps its accents: the parts that are
looked at are clusters, and one is a capital or a small letter only as a whole.
-/

namespace EnumHeader.Text

set_option autoImplicit false

def isSeparator (cluster : List Char) : Bool :=
  cluster == ['_'] || cluster == ['-'] || cluster == [' ']

def isDigitCluster (cluster : List Char) : Bool :=
  cluster.all Char.isDigit

/-- A word ends after `cluster` when `following` comes next: from lower to upper case, between a
letter and a digit, and before the last capital of a run of capitals that continues in lower case.
-/
def endsWord (cluster : List Char) (following : List (List Char)) : Bool :=
  match following with
  | [] => false
  | next :: later =>
      let hasCase (part : List Char) : Bool := isUpperCase part || isLowerCase part
      (isLowerCase cluster && isUpperCase next) || (hasCase cluster && isDigitCluster next) ||
        (isDigitCluster cluster && hasCase next) ||
        (isUpperCase cluster && isUpperCase next && (later.head?.map isLowerCase).getD false)

def words : List (List Char) → List (List (List Char))
  | [] => [[]]
  | cluster :: rest =>
      if isSeparator cluster then [] :: words rest
      else if endsWord cluster rest then [cluster] :: words rest
      else consToFirst cluster (words rest)

/-- Upper-case words with underscores between them: `HTTPServer` becomes `HTTP_SERVER`. -/
def upperSnake (name : String) : String :=
  "_".intercalate
    ((words (clusters name.toList)).map fun word => String.ofList (upper word.flatten))

end EnumHeader.Text
