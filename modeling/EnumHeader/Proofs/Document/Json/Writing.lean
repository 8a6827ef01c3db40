import EnumHeader.Proofs.Document.Json.Grammar
import EnumHeader.Proofs.Text.Numeral
import Mathlib.Data.List.Forall2

/-!
# Written values

What the writer makes of a value is one of the texts of the value, as long as the value holds neither
fractions nor dates.
-/

namespace EnumHeader.Document.Json

set_option autoImplicit false

section Quotation

theorem escaped_char (c : Char) : WritesChar c (escapedChar c) := by
  have hexadecimal : ∀ code < 32, hexNumber?
      ['0', '0', Nat.digitChar (code / 16), Nat.digitChar (code % 16)] = some code := by decide
  unfold escapedChar
  split
  case h_8 notQuote notBackslash _ _ _ _ _ =>
    split
    next control => exact .unit (hexadecimal c.toNat control)
    next visible => exact .plain (by omega) notQuote notBackslash
  all_goals exact .short rfl

theorem escaped_chars (text : List Char) : WritesChars text (text.flatMap escapedChar) := by
  induction text with
  | nil => exact .nil
  | cons c rest ih => exact .cons (escaped_char c) ih

theorem quoted_chars (text : String) :
    (quoted (some text)).toList = '"' :: (text.toList.flatMap escapedChar ++ ['"']) := by
  simp [quoted]

end Quotation

section Brackets

theorem margin_spaces (depth : Nat) : IsSpaces (margin depth).toList := by
  intro c member
  rw [margin, String.toList_ofList] at member
  rw [List.eq_of_mem_replicate member]
  rfl

theorem line_spaces (depth : Nat) : IsSpaces ('\n' :: (margin depth).toList) :=
  List.forall_mem_cons.2 ⟨rfl, margin_spaces depth⟩

variable {Item : Type} {writes : Item → List Char → Prop}

/-- A way to write an item that leaves room for space around it. -/
def WritesPadded (writes : Item → List Char → Prop) (item : Item) (text : String) : Prop :=
  ∀ {before after : List Char}, IsSpaces before → IsSpaces after →
    writes item (before ++ (text.toList ++ after))

theorem separated_items {depth : Nat} {items : List Item} {texts : List String}
    (each : List.Forall₂ (WritesPadded writes) items texts) (filled : texts ≠ []) :
    Separated writes items
      ('\n' :: ([',', '\n'].intercalate (texts.map fun text => (margin (depth + 1) ++ text).toList) ++
        '\n' :: (margin depth).toList)) := by
  induction each with
  | nil => exact absurd rfl filled
  | @cons item text items texts first others ih =>
      cases others with
      | nil =>
          have only := Separated.last (first (line_spaces (depth + 1)) (line_spaces depth))
          simpa using only
      | cons second more =>
          have more := Separated.more (first (line_spaces (depth + 1)) no_spaces) (ih (by simp))
          simpa [List.intercalate_cons_cons] using more

theorem bracketed_items {opening closing : String} {depth : Nat} {texts : List String}
    (filled : texts ≠ []) :
    (bracketed opening closing depth texts).toList = opening.toList ++
      ('\n' :: ([',', '\n'].intercalate (texts.map fun text => (margin (depth + 1) ++ text).toList) ++
        '\n' :: (margin depth).toList)) ++ closing.toList := by
  have between : (",\n" : String).toList = [',', '\n'] := rfl
  unfold bracketed
  simp [filled, String.toList_intercalate, between, Function.comp_def]

end Brackets

section Values

/-- A leaf that has a text which reads back as the leaf. -/
def isWritable : Node → Bool
  | .null | .boolean _ => true
  | .integer value => decide (IntegerFits value)
  | .string text => text.isSome
  | _ => false

theorem element_padded {node : Node} {text : String} (writes : Writes node text.toList) :
    WritesPadded WritesElement node text :=
  fun spaceBefore spaceAfter => .padded spaceBefore writes spaceAfter

theorem field_padded {name : String} {node : Node} {text : String}
    (writes : Writes node text.toList) :
    WritesPadded WritesField (some name, node) (quoted (some name) ++ ": " ++ text) := by
  intro before after spaceBefore spaceAfter
  have blank : IsSpaces [' '] := by simp [IsSpaces, isSpace]
  have field := WritesField.keyed spaceBefore (escaped_chars name.toList) no_spaces
    (.padded blank writes spaceAfter)
  simpa [quoted_chars] using field

mutual

theorem writes_pretty (depth : Nat) :
    (node : Node) → node.everyLeaf isWritable = true → Writes node (pretty depth node).toList
  | .null, _ => by simpa [pretty] using Writes.null
  | .boolean true, _ => by simpa [pretty] using Writes.yes
  | .boolean false, _ => by simpa [pretty] using Writes.no
  | .integer value, writable => .integer (by simpa [Node.everyLeaf, isWritable] using writable)
  | .real value, writable => by simp [Node.everyLeaf, isWritable] at writable
  | .string none, writable => by simp [Node.everyLeaf, isWritable] at writable
  | .string (some text), _ => by
      rw [pretty, quoted_chars]
      exact .string (escaped_chars text.toList)
  | .datetime, writable => by simp [Node.everyLeaf, isWritable] at writable
  | .array [], _ => by
      simpa [pretty, prettyElements, bracketed] using Writes.emptyArray no_spaces
  | .array (first :: rest), writable => by
      have each := elements_pretty (depth + 1) (first :: rest) writable
      rw [pretty, bracketed_items (by simp [prettyElements])]
      exact .array (separated_items each (by simp [prettyElements]))
  | .table [], _ => by
      simpa [pretty, prettyFields, bracketed] using Writes.emptyTable no_spaces
  | .table (first :: rest), writable => by
      have each := fields_pretty (depth + 1) (first :: rest) writable
      rw [pretty, bracketed_items (by simp [prettyFields])]
      exact .table (separated_items each (by simp [prettyFields]))

theorem elements_pretty (depth : Nat) :
    (elements : List Node) → Node.everyElement isWritable elements = true →
      List.Forall₂ (WritesPadded WritesElement) elements (prettyElements depth elements)
  | [], _ => .nil
  | first :: rest, writable => by
      simp only [Node.everyElement, Bool.and_eq_true] at writable
      exact .cons (element_padded (writes_pretty depth first writable.1))
        (elements_pretty depth rest writable.2)

theorem fields_pretty (depth : Nat) :
    (fields : List (Wording × Node)) → Node.everyField isWritable fields = true →
      List.Forall₂ (WritesPadded WritesField) fields (prettyFields depth fields)
  | [], _ => .nil
  | (none, _) :: _, writable => by simp [Node.everyField, isWritable] at writable
  | (some name, content) :: rest, writable => by
      simp only [Node.everyField, Bool.and_eq_true] at writable
      exact .cons (field_padded (writes_pretty depth content writable.1.2))
        (fields_pretty depth rest writable.2)

end

end Values

theorem write_writes {node : Node} (writable : node.everyLeaf isWritable = true) :
    WritesElement node (write node).toList := by
  have element := WritesElement.padded no_spaces (writes_pretty 0 node writable) no_spaces
  simpa [write] using element

end EnumHeader.Document.Json
