import EnumHeader.Proofs.Cpp.Reading.Name
import EnumHeader.Proofs.Cpp.Reading.Printed
import EnumHeader.Proofs.Cpp.Reading.Text

/-!
# Reading of tables

The rows of a printed table say what they were written for: which constant, or which name with which
constant.
-/

namespace EnumHeader.Cpp.Reading

set_option autoImplicit false

theorem read_constant_row (name : String) :
    readConstantRow ("Value::" ++ name ++ ",").toList = some name := by
  have row : ("Value::" ++ name ++ ",").toList =
      ['V', 'a', 'l', 'u', 'e', ':', ':'] ++ name.toList ++ [','] := by simp
  have start : "Value::".toList = ['V', 'a', 'l', 'u', 'e', ':', ':'] := by decide
  have last : ("Value::" ++ name ++ ",").toList.getLast? = some ',' := by
    rw [row]
    exact List.getLast?_concat
  rw [readConstantRow, last, row, start]
  simp

theorem tokens_of_name_row (table : NameTable) {name : String} (word : IsWord name) :
    tokens (table.row name) =
      [.mark "\x7b", .quote table.stringType (escaped name.toList), .mark ",", .word "Value",
        .mark "::", .word name, .mark "\x7d", .mark ","] := by
  have opening : advance .nothing "\x7b ".toList = ([.mark "\x7b"], .nothing) := by decide
  have middle : ", Value::".toList = ", ".toList ++ "Value::".toList := by decide
  have separator : advance .nothing ", ".toList = ([.mark ","], .nothing) := by decide
  have ending : scan .nothing " \x7d,".toList = [.mark "\x7d", .mark ","] := by decide
  have text : table.row name =
      "\x7b " ++ stringLiteral table.stringType name ++ ", Value::" ++ name ++ " \x7d," := rfl
  rw [text]
  unfold tokens
  simp only [String.toList_append, middle, List.append_assoc]
  rw [scan_piece opening, scan_string_literal, scan_piece separator,
    scan_constant word _ (separate_of_separates (by decide)), ending]
  simp only [constantTokens, List.cons_append, List.nil_append]

theorem read_name_row (table : NameTable) {name : String} (word : IsWord name) :
    readNameRow (tokens (table.row name)) = some (name.toList, name) := by
  rw [tokens_of_name_row table word]
  simp [readNameRow, expect, unescape_escaped, readPath]

theorem read_rows {Item Row : Type} (items : List Item) (row : Item → Row) (value : Item → Datum)
    (read : Row → Option Datum) (reads : ∀ item ∈ items, read (row item) = some (value item)) :
    (items.map row).mapM read = some (items.map value) := by
  induction items with
  | nil => rfl
  | cons item items ih =>
      have first := reads item (by simp)
      have rest := ih fun other member => reads other (List.mem_cons_of_mem item member)
      simp [List.mapM_cons, first, rest]

end EnumHeader.Cpp.Reading
