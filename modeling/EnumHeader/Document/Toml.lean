import EnumHeader.Document.Toml.Scalar
import EnumHeader.Document.Toml.Tree

/-!
# TOML

Reading a TOML 1.1 document: lines that are headers or keys with values, where arrays and inline
tables may span lines and end in a comma. Keys and values nest only so deep. The result is one table
whose keys, like those of every table in it, are in ascending order.
-/

namespace EnumHeader.Document.Toml

set_option autoImplicit false

/-- The number of parts of the longest key, and of the levels of the deepest value. -/
def maxDepth : Nat :=
  80

mutual

/-- A value, without blanks before it. So many arrays and tables may be opened in one another as
there are levels. -/
def value (levels : Nat) : Nat → Reader Node
  | 0, _ => none
  | bound + 1, text =>
      match stringValue? text with
      | some found => do
          let (content, rest) ← found
          some (.string content, rest)
      | none =>
          match text, levels with
          | '[' :: rest, inside + 1 => do
              let (elements, left) ← elementsOf inside bound (← filler rest)
              some (.array elements, left)
          | '\x7b' :: rest, inside + 1 => do
              let (fields, left) ← fieldsOf inside bound [] (← filler rest)
              some (.table (fieldNodes fields), left)
          | _, _ => scalar text

def elementsOf (levels : Nat) : Nat → Reader (List Node)
  | 0, _ => none
  | bound + 1, text =>
      match text with
      | ']' :: left => some ([], left)
      | _ => do
          let (first, rest) ← value levels bound text
          match ← filler rest with
          | ']' :: left => some ([first], left)
          | ',' :: more => do
              let (later, left) ← elementsOf levels bound (← filler more)
              some (first :: later, left)
          | _ => none

/-- The fields of an inline table up to its end, added to those before them. -/
def fieldsOf (levels : Nat) : Nat → Fields → Reader Fields
  | 0, _, _ => none
  | bound + 1, fields, text =>
      match text with
      | '\x7d' :: left => some (fields, left)
      | _ => do
          let (keys, afterKeys) ← dottedKey maxDepth text
          let afterEqual ← expect '=' (← filler afterKeys)
          let (content, rest) ← value levels bound (← filler afterEqual)
          let fields ← addValue keys content fields
          match ← filler rest with
          | '\x7d' :: left => some (fields, left)
          | ',' :: more => fieldsOf levels bound fields (← filler more)
          | _ => none

end

structure Progress where
  fields : Fields := []
  header : List String := []

/-- A header after its first bracket: one table, or a further table of an array. -/
def headerLine (progress : Progress) (text : List Char) : Option (Progress × List Char) :=
  match text with
  | '[' :: rest => do
      let (keys, afterKeys) ← dottedKey maxDepth rest
      let left ← endOfLine (← expect ']' (← expect ']' afterKeys))
      let fields ← openElement keys progress.fields
      some (⟨fields, keys⟩, left)
  | _ => do
      let (keys, afterKeys) ← dottedKey maxDepth text
      let left ← endOfLine (← expect ']' afterKeys)
      let fields ← openTable keys progress.fields
      some (⟨fields, keys⟩, left)

def valueLine (progress : Progress) (text : List Char) : Option (Progress × List Char) := do
  let (keys, afterKeys) ← dottedKey maxDepth text
  let afterEqual ← expect '=' afterKeys
  let (content, rest) ← value maxDepth (2 * text.length + 2) (skipBlank afterEqual)
  let left ← endOfLine rest
  let fields ← addBelow progress.header keys content progress.fields
  some ({ progress with fields }, left)

/-- The lines of a document; each takes at least one character, which the bound counts. -/
def document : Nat → Progress → List Char → Option Fields
  | 0, progress, text => if text.isEmpty then some progress.fields else none
  | bound + 1, progress, text =>
      match skipBlank text with
      | [] => some progress.fields
      | '[' :: rest => do
          let (progress, left) ← headerLine progress rest
          document bound progress left
      | c :: rest =>
          if c = '#' ∨ c = '\n' ∨ c = '\r' then do
            let left ← endOfLine (c :: rest)
            document bound progress left
          else do
            let (progress, left) ← valueLine progress (c :: rest)
            document bound progress left

/-- A byte order mark at the start is no part of the document. -/
def withoutMark : List Char → List Char
  | '\uFEFF' :: rest => rest
  | text => text

def read (text : List Char) : Option Node := do
  let body := withoutMark text
  let fields ← document (body.length + 1) {} body
  some (.table (fieldNodes fields))

end EnumHeader.Document.Toml
