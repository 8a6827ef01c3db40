import EnumHeader.Proofs.Cpp.Annotation
import EnumHeader.Proofs.Cpp.Reading.Declaration
import EnumHeader.Proofs.Cpp.Reading.Name

/-!
# Members read back

The text of members is read back as what the members declare: each is written as parts that say so,
whatever stands before and after it. Only functions and their bodies need conditions of some length,
because types and names of the definition stand in their lines.
-/

namespace EnumHeader.Cpp.Reading

set_option autoImplicit false

/-- The lines of the member are the parts of an outline, and what these declare is what the member
declares. -/
def Readable (member : Member) : Prop :=
  ∃ parts, Outlines (member.steps.flatMap Step.written) parts ∧
    parts.filterMap readPart = member.declaration.toList

theorem outline_of_members {members : List Member} (all : ∀ member ∈ members, Readable member) :
    ∃ parts, Outlines ((members.flatMap Member.steps).flatMap Step.written) parts ∧
      parts.filterMap readPart = members.filterMap Member.declaration := by
  induction members with
  | nil => exact ⟨[], outlines_nil, rfl⟩
  | cons member rest ih =>
      rw [List.forall_mem_cons] at all
      rcases all.1 with ⟨before, begins, reads⟩
      rcases ih all.2 with ⟨after, ends, later⟩
      refine ⟨before ++ after, ?_, ?_⟩
      · rw [List.flatMap_cons, List.flatMap_append]
        exact begins.append ends
      · rw [List.filterMap_append, reads, later, List.filterMap_cons]
        cases member.declaration <;> rfl

theorem readable_of_part {member : Member} {part : Part}
    (outlines : Outlines (member.steps.flatMap Step.written) [part])
    (reads : readPart part = member.declaration) : Readable member := by
  refine ⟨[part], outlines, ?_⟩
  rw [List.filterMap_cons, reads]
  cases member.declaration <;> rfl

section Words

variable {head word : String} {rest : List Char} (block : List String)
  (text : head.toList = word.toList ++ ' ' :: rest) (single : ' ' ∉ word.toList)
include text single

theorem read_part_eq :
    readPart ⟨head, block⟩ =
      if word = "using" then some (readAlias rest)
      else if word = "enum" then
        (enclosed "\x7d;" block).map (.enumeration (String.ofList (firstWord (afterWord rest))))
      else if word = "struct" then
        (enclosed "\x7d;" block).map fun _ => .record (String.ofList rest)
      else if word = "static" then
        if block = [] then readShort (afterWord (afterWord rest)) else readTable ⟨head, block⟩
      else if word = "friend" then none
      else if block = [] then readLastName head.toList
      else readFunction ⟨head, block⟩ := by
  have first : firstWord head.toList = word.toList := by
    rw [text]
    exact first_word_append single rest
  have later : afterWord head.toList = rest := by
    rw [text]
    exact after_word_append single rest
  simp only [readPart, first, later, String.ofList_toList]

theorem read_part_of_other (other : word ∉ declaringWords) :
    readPart ⟨head, block⟩ =
      if block = [] then readLastName head.toList else readFunction ⟨head, block⟩ := by
  simp only [declaringWords, List.mem_cons, List.not_mem_nil, or_false, not_or] at other
  rw [read_part_eq block text single, if_neg other.1, if_neg other.2.1, if_neg other.2.2.1,
    if_neg other.2.2.2.1, if_neg other.2.2.2.2]

end Words

section Members

theorem readable_gap : Readable .gap := by
  have plain : Plain "" := by
    constructor <;> decide
  exact readable_of_part (outlines_line plain) (by decide)

theorem readable_alias {name : String} (single : ' ' ∉ name.toList) (target : String) :
    Readable (.alias name target) := by
  let head := "using " ++ name ++ " = " ++ target ++ ";"
  have starts : First 'u' "using " := rfl
  have first : First 'u' head := (((starts.append name).append " = ").append target).append ";"
  have text : head.toList =
      "using".toList ++
        ' ' :: (name.toList ++ ' ' :: (['='] ++ ' ' :: (target.toList ++ [';']))) := by
    simp [head]
  have reads : readPart ⟨head, []⟩ = some (.alias name target) := by
    rw [read_part_eq [] text (by decide), if_pos rfl, readAlias, first_word_append single,
      after_word_append single, after_word_append (by decide), List.dropLast_concat,
      String.ofList_toList, String.ofList_toList]
  exact readable_of_part (outlines_line (plain_of_first first (by decide))) reads

theorem first_of_comment {text : String} (comment : IsComment text) : First '/' text := by
  rcases comment.marked with ⟨rest, start⟩
  unfold First
  rw [← start]
  rfl

theorem enumerator_nested (enumerator : Enumerator)
    (comments : ∀ line ∈ enumerator.comment, IsComment line) :
    Nested (enumerator.steps.flatMap Step.written) := by
  have comma : Last ',' "," := rfl
  have commented : Nested enumerator.comment :=
    nested_lines fun line inside =>
      plain_of_first (first_of_comment (comments line inside)) (by decide)
  have line := nested_line (plain_of_last (comma.append
    (enumerator.name ++ " = " ++ enumerator.value.text)) (by decide))
  exact commented.append line

theorem enumerators_nested {enumerators : List Enumerator}
    (comments : ∀ enumerator ∈ enumerators, ∀ line ∈ enumerator.comment, IsComment line) :
    Nested ((enumerators.flatMap Enumerator.steps).flatMap Step.written) := by
  induction enumerators with
  | nil => exact nested_nil
  | cons enumerator rest ih =>
      rw [List.forall_mem_cons] at comments
      rw [List.flatMap_cons, List.flatMap_append]
      exact (enumerator_nested enumerator comments.1).append (ih comments.2)

theorem readable_enumeration {name : String} (single : ' ' ∉ name.toList) (base : String)
    {enumerators : List Enumerator}
    (comments : ∀ enumerator ∈ enumerators, ∀ line ∈ enumerator.comment, IsComment line) :
    Readable (.enumeration name base enumerators) := by
  let head := "enum class " ++ name ++ " : " ++ base
  let inner := (enumerators.flatMap Enumerator.steps).flatMap Step.written
  have starts : First 'e' "enum class " := rfl
  have first : First 'e' head := ((starts.append name).append " : ").append base
  have text : head.toList =
      "enum".toList ++ ' ' :: ("class".toList ++ ' ' :: (name.toList ++ ' ' :: ([':'] ++ ' ' ::
        base.toList))) := by
    simp [head]
  have reads : readPart ⟨head, "\x7b" :: (inner ++ ["\x7d;"])⟩ = some (.enumeration name inner) := by
    rw [read_part_eq _ text (by decide), if_neg (by decide), if_pos rfl, enclosed_block,
      after_word_append (by decide), first_word_append single, String.ofList_toList]
    rfl
  have outlines := outlines_block (plain_of_first first (by decide)) (enumerators_nested comments)
    (by decide : "\x7d;" ∈ closers)
  apply readable_of_part _ reads
  simpa [Member.steps, Step.written, head, inner] using outlines

theorem readable_short (name : String) : Readable (.constant name) := by
  let head := "static constexpr Value " ++ name ++ " = Value::" ++ name ++ ";"
  have starts : First 's' "static constexpr Value " := rfl
  have first : First 's' head := (((starts.append name).append " = Value::").append name).append ";"
  have ends : Last ';' ";" := rfl
  have last : Last ';' head := ends.append ("static constexpr Value " ++ name ++ " = Value::" ++ name)
  have text : head.toList = "static".toList ++ ' ' :: ("constexpr".toList ++ ' ' ::
      ("Value".toList ++ ' ' :: (name.toList ++ " = Value::".toList ++ name.toList ++ [';']))) := by
    simp [head]
  have reads : readPart ⟨head, []⟩ = some (.constant name) := by
    rw [read_part_eq [] text (by decide), if_neg (by decide), if_neg (by decide),
      if_neg (by decide), if_pos rfl, if_pos rfl, after_word_append (by decide),
      after_word_append (by decide), read_short, String.ofList_toList]
  exact readable_of_part
    (outlines_line (plain_of_ends first last (by decide) (by decide) (by decide))) reads

theorem readable_record (name : String) (plain : Plain ("struct " ++ name)) {fields : List String}
    (declared : ∀ field ∈ fields, Plain field) : Readable (.record name fields) := by
  let head := "struct " ++ name
  have text : head.toList = "struct".toList ++ ' ' :: name.toList := by simp [head]
  have reads : readPart ⟨head, "\x7b" :: (fields ++ ["\x7d;"])⟩ = some (.record name) := by
    rw [read_part_eq _ text (by decide), if_neg (by decide), if_neg (by decide), if_pos rfl,
      enclosed_block, String.ofList_toList]
    rfl
  have outlines := outlines_block plain (nested_lines declared) (by decide : "\x7d;" ∈ closers)
  apply readable_of_part _ reads
  simpa [Member.steps, Step.written, head] using outlines

theorem readable_private {fieldType name : String} (word : ' ' ∉ fieldType.toList)
    (other : fieldType ∉ declaringWords) (single : ' ' ∉ name.toList)
    (plain : Plain (fieldType ++ " " ++ name ++ ";")) : Readable (.privateField fieldType name) := by
  let head := fieldType ++ " " ++ name ++ ";"
  have label : Plain "private:" := by
    constructor <;> decide
  have text : head.toList = fieldType.toList ++ ' ' :: (name.toList ++ [';']) := by simp [head]
  have whole : head.toList = (fieldType.toList ++ ' ' :: name.toList) ++ [';'] := by simp [head]
  have reads : readPart ⟨head, []⟩ = some (.field name) := by
    rw [read_part_of_other [] text word other, if_pos rfl, readLastName, whole,
      List.dropLast_concat, split_last_append _ single, List.getLast?_concat]
    simp
  refine ⟨[⟨"private:", []⟩, ⟨head, []⟩], ?_, ?_⟩
  · exact (outlines_line label).append (outlines_line plain)
  · have nothing : readPart ⟨"private:", []⟩ = none := by decide
    rw [List.filterMap_cons, nothing, List.filterMap_cons, reads]
    rfl

theorem read_table_head {elementType name : String} (element : IsWord elementType)
    (word : IsWord name) (size : Nat) :
    readTableHead
        (tokens ("static constexpr std::array<" ++ elementType ++ ", " ++ toString size ++ "> " ++
          name ++ " = \x7b\x7b")) =
      some (elementType, size, name) := by
  have opening : advance .nothing "static constexpr std::array<".toList =
      ([.word "static", .word "constexpr", .word "std", .mark "::", .word "array"],
        .mark ['<']) := by decide
  have symbol : String.ofList ['<'] = "<" := by decide
  have separator : advance .nothing ", ".toList = ([.mark ","], .nothing) := by decide
  have closing : advance .nothing "> ".toList = ([.mark ">"], .nothing) := by decide
  have ending : scan .nothing " = \x7b\x7b".toList =
      [.mark "=", .mark "\x7b", .mark "\x7b"] := by decide
  have afterType (rest : List Char) : Separate (", ".toList ++ rest) :=
    separate_append (by decide) rest
  have afterSize (rest : List Char) : Separate ("> ".toList ++ rest) :=
    separate_append (by decide) rest
  unfold tokens
  simp only [String.toList_append, List.append_assoc, decimal_of_nat]
  rw [scan_piece opening, scan_mark_word element.nonempty element.parts,
    scan_name element _ (afterType _), scan_piece separator,
    scan_number (decimal_is_number size .none) _ (afterSize _), scan_piece closing,
    scan_name word _ (separate_of_separates (by decide)), ending, symbol]
  simp [readTableHead, read_decimal]

theorem table_head_chars (elementType name : String) (size : Nat) :
    ("static constexpr std::array<" ++ elementType ++ ", " ++ toString size ++ "> " ++ name ++
        " = \x7b\x7b").toList =
      tableStart ++ (elementType.toList ++ (", ".toList ++ ((toString size).toList ++
        ("> ".toList ++ (name.toList ++ " = \x7b\x7b".toList))))) := by
  simp only [String.toList_append, List.append_assoc]
  rfl

theorem readable_table {elementType name : String} (element : IsWord elementType)
    (word : IsWord name) {rows : List String} (plain : ∀ row ∈ rows, Plain row) :
    Readable (.table elementType name rows) := by
  let head := "static constexpr std::array<" ++ elementType ++ ", " ++ toString rows.length ++ "> " ++
    name ++ " = \x7b\x7b"
  let rest := elementType.toList ++ (", ".toList ++ ((toString rows.length).toList ++
    ("> ".toList ++ (name.toList ++ " = \x7b\x7b".toList))))
  have whole : head.toList = tableStart ++ rest := table_head_chars elementType name rows.length
  have text : head.toList = "static".toList ++ ' ' :: ("constexpr std::array<".toList ++ rest) := by
    rw [whole]
    rfl
  have begins : tableStart.isPrefixOf head.toList = true :=
    List.isPrefixOf_iff_prefix.2 ⟨rest, whole.symm⟩
  have ends : Last '{' " = \x7b\x7b" := rfl
  have last : head.toList.getLast? = some '{' := ends.append _
  have table : opensTable head = true := by simp [opensTable, begins, last]
  have reads : readPart ⟨head, rows ++ ["\x7d\x7d;"]⟩ =
      some (.table elementType name rows.length rows) := by
    rw [read_part_eq _ text (by decide), if_neg (by decide), if_neg (by decide),
      if_neg (by decide), if_pos rfl, if_neg (by simp), readTable, read_table_head element word]
    simp
  have outlines := outlines_table table (nested_lines plain) (by decide : "\x7d\x7d;" ∈ closers)
  apply readable_of_part _ reads
  simpa [Member.steps, Step.written, head] using outlines

end Members

section Functions

/-- What a function is declared with tells it from all other declarations. -/
def IsLead (lead : String) : Prop :=
  ∃ word rest, lead.toList = word.toList ++ ' ' :: rest ∧ ' ' ∉ word.toList ∧
    word ∉ declaringWords ∧ lead.toList ≠ conversionLead

structure IsFunction (content : Method) : Prop where
  lead : IsLead content.lead
  name : ' ' ∉ content.name.toList ∧ '(' ∉ content.name.toList
  parameters : '(' ∉ content.parameters.toList ∧ ')' ∉ content.parameters.toList
  trail : content.trail = "noexcept" ∨ content.trail = "const noexcept"
  body : Nested (content.body.flatMap Step.written)

theorem outlines_bodied {signature : String} (plain : Plain signature) {body : List Step}
    (nested : Nested (body.flatMap Step.written)) :
    Outlines ((bodied signature body).flatMap Step.written)
      [⟨signature, "\x7b" :: (body.flatMap Step.written ++ ["\x7d"])⟩] := by
  have outlines := outlines_block plain nested (by decide : "\x7d" ∈ closers)
  simpa [bodied, Step.written] using outlines

theorem readable_method {content : Method} (function : IsFunction content) :
    Readable (.method content) := by
  obtain ⟨word, rest, starts, single, other, named⟩ := function.lead
  have trail : '(' ∉ content.trail.toList ∧ Last 't' content.trail := by
    rcases function.trail with same | same
    all_goals
      rw [same]
      exact ⟨by decide, rfl⟩
  have plain : Plain content.signature :=
    plain_of_last (trail.2.append (content.lead ++ " " ++ content.name ++ "(" ++
      content.parameters ++ ") ")) (by decide)
  have text : content.signature.toList = word.toList ++ ' ' :: (rest ++ " ".toList ++
      content.name.toList ++ "(".toList ++ content.parameters.toList ++ ") ".toList ++
        content.trail.toList) := by
    simp [Method.signature, starts]
  have opened : content.signature.toList = (content.lead.toList ++ ' ' :: content.name.toList) ++
      '(' :: (content.parameters.toList ++ (')' :: ' ' :: content.trail.toList)) := by
    simp [Method.signature]
  have unopened : '(' ∉ content.parameters.toList ++ (')' :: ' ' :: content.trail.toList) := by
    simp [function.parameters.1, trail.1]
  have taken : (content.parameters.toList ++ (')' :: ' ' :: content.trail.toList)).takeWhile
      (fun c => decide (c ≠ ')')) = content.parameters.toList := by
    rw [List.takeWhile_append_of_pos]
    · simp
    · intro c inside
      have other : c ≠ ')' := fun same => function.parameters.2 (same ▸ inside)
      simpa using other
  have reads : readPart ⟨content.signature,
      "\x7b" :: (content.body.flatMap Step.written ++ ["\x7d"])⟩ =
        (Member.method content).declaration := by
    rw [read_part_of_other _ text single other, if_neg (by simp), readFunction, opened,
      split_last_append _ unopened]
    simp only [Option.bind_eq_bind, Option.bind_some, split_last_append _ function.name.1,
      enclosed_block, named, if_false, taken, String.ofList_toList]
    rfl
  exact readable_of_part (outlines_bodied plain function.body) reads

theorem readable_constructor {text : String} {rest : List Char}
    (starts : text.toList = "constexpr".toList ++ ' ' :: rest) (last : Last '}' text) :
    Readable (.constructor text) := by
  have first : First 'c' text := by
    unfold First
    rw [starts]
    rfl
  have reads : readPart ⟨text, []⟩ = none := by
    have unended : text.toList.getLast? ≠ some ';' := by
      rw [show text.toList.getLast? = some '}' from last]
      decide
    rw [read_part_of_other [] starts (by decide) (by decide), if_pos rfl, readLastName]
    cases splitLast ' ' text.toList.dropLast with
    | none => rfl
    | some parts => simp [unended]
  exact readable_of_part (outlines_line (plain_of_first first (by decide))) reads

theorem read_conversion {part : Part} {name after : List Char}
    (opened : splitLast '(' part.head.toList = some (conversionLead ++ ' ' :: name, after))
    (single : ' ' ∉ name) : readFunction part = none := by
  have named := split_last_append conversionLead single
  unfold readFunction
  rw [opened]
  simp only [Option.bind_eq_bind, Option.bind_some, named, if_true]
  cases enclosed "\x7d" part.block <;> rfl

theorem readable_conversion {body : List Step} (nested : Nested (body.flatMap Step.written)) :
    Readable (.conversion "constexpr operator Value() const noexcept" body) := by
  have plain : Plain "constexpr operator Value() const noexcept" := by
    constructor <;> decide
  have opened : splitLast '(' "constexpr operator Value() const noexcept".toList =
      some (conversionLead ++ ' ' :: "Value".toList, ") const noexcept".toList) := by
    decide
  have text : "constexpr operator Value() const noexcept".toList =
      "constexpr".toList ++ ' ' :: "operator Value() const noexcept".toList := by
    decide
  have reads : readPart ⟨"constexpr operator Value() const noexcept",
      "\x7b" :: (body.flatMap Step.written ++ ["\x7d"])⟩ = none := by
    rw [read_part_of_other _ text (by decide) (by decide), if_neg (by simp)]
    exact read_conversion opened (by decide)
  exact readable_of_part (outlines_bodied plain nested) reads

theorem readable_friend {signature : String} {rest : List Char}
    (starts : signature.toList = "friend".toList ++ ' ' :: rest) {body : List Step}
    (nested : Nested (body.flatMap Step.written)) : Readable (.friend signature body) := by
  have first : First 'f' signature := by
    unfold First
    rw [starts]
    rfl
  have reads : readPart ⟨signature, "\x7b" :: (body.flatMap Step.written ++ ["\x7d"])⟩ = none := by
    rw [read_part_eq _ starts (by decide), if_neg (by decide), if_neg (by decide),
      if_neg (by decide), if_neg (by decide), if_pos rfl]
  exact readable_of_part (outlines_bodied (plain_of_first first (by decide)) nested) reads

end Functions

end EnumHeader.Cpp.Reading
