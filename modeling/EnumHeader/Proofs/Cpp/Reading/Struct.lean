import EnumHeader.Proofs.Cpp.Reading.Literal
import EnumHeader.Proofs.Cpp.Reading.Printed
import EnumHeader.Proofs.Cpp.Reading.Readable

/-!
# Structs read from their lines

From the lines of a struct its name, its declarations and the constants of its enumeration are read
back. A constant that is named like a comment is the one thing that is lost, because its line is one.
-/

namespace EnumHeader.Cpp

set_option autoImplicit false

open Reading

theorem comment_line_of_comment {text : String} (comment : IsComment text) :
    isCommentLine text.toList = true :=
  (note_of_comment (show IsIndent [] from nofun) comment).comment

/-- What follows the name in an enumerator makes no comment of it. -/
theorem comment_line_append (name rest : List Char) :
    isCommentLine (name ++ ' ' :: '=' :: rest) = isCommentLine name := by
  unfold isCommentLine
  rw [List.dropWhile_append]
  cases kept : name.dropWhile fun c => c == ' ' || c == '\t' with
  | nil => rfl
  | cons c more =>
      cases more with
      | nil =>
          have blank : ('/' == ' ') = false := rfl
          simp [List.isPrefixOf, blank]
      | cons d others => simp [List.isPrefixOf]

namespace Reading

theorem read_struct {struct : Struct} (comments : ∀ line ∈ struct.comment, IsComment line) :
    readStruct struct.lines =
      some (struct.name, (struct.members.flatMap Member.steps).flatMap Step.written) := by
  let inner := (struct.members.flatMap Member.steps).flatMap Step.written
  have lines : struct.lines =
      struct.comment ++ ("struct " ++ struct.name) :: "\x7b" :: (inner ++ ["\x7d;"]) := by
    simp [Struct.lines, Struct.steps, Step.written, inner]
  have passed : ∀ line ∈ struct.comment, isCommentLine line.toList = true :=
    fun line inside => comment_line_of_comment (comments line inside)
  have text : ("struct " ++ struct.name).toList = "struct".toList ++ ' ' :: struct.name.toList := by
    simp
  have code : isCommentLine ("struct " ++ struct.name).toList = false := by
    rw [text]
    rfl
  unfold readStruct
  rw [lines, List.dropWhile_append_of_pos passed, List.dropWhile_cons_of_neg (by rw [code]; decide)]
  simp only [text, first_word_append (by decide : ' ' ∉ "struct".toList),
    after_word_append (by decide : ' ' ∉ "struct".toList), enclosed_block, String.ofList_toList,
    if_true]
  rfl

theorem read_declarations {members : List Member} (all : ∀ member ∈ members, Readable member) :
    readDeclarations ((members.flatMap Member.steps).flatMap Step.written) =
      some (members.filterMap Member.declaration) := by
  rcases outline_of_members all with ⟨parts, outlines, reads⟩
  unfold readDeclarations
  rw [outlines.whole]
  exact congrArg some reads

section Enumerators

def IsLiteralChar (c : Char) : Prop :=
  Text.isNamePart c = true ∨ c ∈ "-()<>| ".toList

instance (c : Char) : Decidable (IsLiteralChar c) :=
  inferInstanceAs (Decidable (_ ∨ _))

theorem literal_chars_of_all {text : List Char}
    (all : text.all (fun c => decide (IsLiteralChar c)) = true) : ∀ c ∈ text, IsLiteralChar c := by
  intro c member
  exact of_decide_eq_true (List.all_eq_true.1 all c member)

theorem literal_chars {literal : Literal} (word : HasWordType literal) :
    ∀ c ∈ literal.text.toList, IsLiteralChar c := by
  have parts {text : List Char} (named : ∀ c ∈ text, Text.isNamePart c = true) :
      ∀ c ∈ text, IsLiteralChar c := fun c inside => .inl (named c inside)
  have decimal (n : Nat) (suffix : Suffix) := parts (decimal_is_number n suffix).parts
  have hex (n : Nat) (suffix : Suffix) := parts (hex_is_number n suffix).parts
  cases literal with
  | decimal value suffix =>
      cases value with
      | ofNat n =>
          rw [decimal_literal_text]
          exact decimal n suffix
      | negSucc n =>
          rw [negative_literal_text, List.forall_mem_cons]
          exact ⟨by decide, decimal (n + 1) suffix⟩
  | negatedLessOne magnitude suffix =>
      rw [difference_literal_text, List.forall_mem_append, List.forall_mem_cons,
        List.forall_mem_append]
      exact ⟨literal_chars_of_all rfl, by decide, decimal magnitude suffix,
        literal_chars_of_all rfl⟩
  | hexadecimal n suffix =>
      rw [hex_literal_text]
      exact hex n suffix
  | halves high low typeName =>
      have cast (n : Nat) : ∀ c ∈ castText typeName n, IsLiteralChar c := by
        unfold castText
        rw [List.forall_mem_append, List.forall_mem_append, List.forall_mem_append,
          List.forall_mem_append]
        exact ⟨literal_chars_of_all rfl, parts word.parts, literal_chars_of_all rfl, hex n .ull,
          literal_chars_of_all rfl⟩
      rw [halves_literal_text, List.forall_mem_append, List.forall_mem_append,
        List.forall_mem_append, List.forall_mem_append]
      exact ⟨literal_chars_of_all rfl, cast high, literal_chars_of_all rfl, cast low,
        literal_chars_of_all rfl⟩

theorem read_enumerator {enumerator : Enumerator} (word : HasWordType enumerator.value) :
    readEnumerator (enumerator.name ++ " = " ++ enumerator.value.text ++ ",").toList =
      some (enumerator.name, enumerator.value.text) := by
  have text : (enumerator.name ++ " = " ++ enumerator.value.text ++ ",").toList =
      (enumerator.name.toList ++ [' ']) ++
        '=' :: (' ' :: (enumerator.value.text.toList ++ [','])) := by
    simp
  have single : '=' ∉ ' ' :: (enumerator.value.text.toList ++ [',']) := by
    intro inside
    simp only [List.mem_cons, List.mem_append, List.not_mem_nil, or_false] at inside
    rcases inside with blank | within | comma
    · exact absurd blank (by decide)
    · exact absurd (literal_chars word _ within) (by decide)
    · exact absurd comma (by decide)
  have last : (' ' :: (enumerator.value.text.toList ++ [','])).getLast? = some ',' := by
    rw [← List.cons_append, List.getLast?_concat]
  unfold readEnumerator
  rw [text, split_last_append _ single]
  simp [last]

theorem read_enumerators {enumerators : List Enumerator}
    (comments : ∀ enumerator ∈ enumerators, ∀ line ∈ enumerator.comment, IsComment line)
    (words : ∀ enumerator ∈ enumerators, HasWordType enumerator.value) :
    readEnumerators ((enumerators.flatMap Enumerator.steps).flatMap Step.written) =
      (enumerators.filter fun enumerator => !isCommentLine enumerator.name.toList).map
        fun enumerator => (enumerator.name, enumerator.value.text) := by
  induction enumerators with
  | nil => rfl
  | cons enumerator rest ih =>
      rw [List.forall_mem_cons] at comments words
      have marked : (enumerator.comment.filter fun line => !isCommentLine line.toList) = [] := by
        rw [List.filter_eq_nil_iff]
        intro line inside
        simp [comment_line_of_comment (comments.1 line inside)]
      have chars : (enumerator.name ++ " = " ++ enumerator.value.text ++ ",").toList =
          enumerator.name.toList ++
            ' ' :: '=' :: (' ' :: (enumerator.value.text.toList ++ [','])) := by
        simp
      have named : isCommentLine (enumerator.name ++ " = " ++ enumerator.value.text ++ ",").toList =
          isCommentLine enumerator.name.toList := by
        rw [chars]
        exact comment_line_append _ _
      have lines : ((enumerator :: rest).flatMap Enumerator.steps).flatMap Step.written =
          enumerator.comment ++ (enumerator.name ++ " = " ++ enumerator.value.text ++ ",") ::
            (rest.flatMap Enumerator.steps).flatMap Step.written := by
        simp [Enumerator.steps, Step.written]
      have reads := read_enumerator words.1
      have later := ih comments.2 words.2
      unfold readEnumerators at later ⊢
      rw [lines, List.filter_append, marked, List.nil_append, List.filter_cons, List.filter_cons,
        named]
      cases isCommentLine enumerator.name.toList with
      | true => exact later
      | false =>
          simp only [Bool.not_false, if_true, List.map_cons, List.filterMap_cons, reads, later]

end Enumerators

end Reading

end EnumHeader.Cpp
