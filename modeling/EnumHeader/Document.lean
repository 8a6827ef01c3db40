import EnumHeader.Document.Json
import EnumHeader.Document.Schema
import EnumHeader.Document.Toml

/-!
# Texts and documents

Reading a text as a document of either format. What a document has to hold is said by schemas.
-/

namespace EnumHeader.Document

set_option autoImplicit false

def parse (format : Format) (text : String) : Except Failure Node :=
  let node :=
    match format with
    | .toml => Toml.read text.toList
    | .json => Json.read text.toList
  match node with
  | some found => .ok found
  | none => .error (.malformed format)

end EnumHeader.Document
