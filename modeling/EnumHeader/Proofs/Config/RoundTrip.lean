import EnumHeader.Config.Document
import EnumHeader.Proofs.Config.Accepted
import EnumHeader.Proofs.Document.Json.Reading
import EnumHeader.Proofs.Document.Json.Writing
import EnumHeader.Proofs.Document.Schema

/-!
# Configurations survive their documents

A configuration that passes its check is read back from every JSON text of its document, in
particular from the one that is written, whatever its strings hold.
-/

namespace EnumHeader

set_option autoImplicit false

open Document (Node Schema keyword_of_lookup list_of_nodes read_field)
open Document.Json (Writes WritesElement)

section Registry

variable {format : Document.Format}

def SizeType.contents (sizeType : SizeType) : List Node :=
  [.string sizeType.name, .integer sizeType.bits, .boolean sizeType.signed,
    .string sizeType.typeName]

theorem SizeType.read_of_node {sizeType : SizeType} (narrow : sizeType.bits ≤ 128) :
    SizeType.schema.read format sizeType.node = .ok sizeType := by
  have small : (sizeType.bits : Int) < Int.pow 2 32 := by
    change (sizeType.bits : Int) < 4294967296
    omega
  have bits : Document.count format (.integer sizeType.bits) = .ok sizeType.bits :=
    Document.count_of_integer small
  have keyed : sizeType.node = .table (Schema.keyed SizeType.schema.fields sizeType.contents) := rfl
  rw [keyed, Schema.read_table_of_elements (by decide) rfl]
  exact read_field rfl (read_field bits (read_field rfl (read_field rfl rfl)))

/-- For any number, since the bounds of 64 bits are not to be compared with a width. -/
theorem SizeType.fields_writable {name typeName : String} {bits : Int} {signed : Bool}
    (fits : Document.IntegerFits bits) :
    Node.everyLeaf Document.Json.isWritable (.table
      [("name", .string name), ("bits", .integer bits), ("is_signed", .boolean signed),
        ("type_name", .string typeName)]) = true := by
  simp [Node.everyLeaf, Node.everyField, Document.Json.isWritable, fits]

theorem SizeType.node_writable {sizeType : SizeType} (narrow : sizeType.bits ≤ 128) :
    sizeType.node.everyLeaf Document.Json.isWritable = true := by
  have fits : Document.IntegerFits sizeType.bits := by
    have high : Int.pow 2 64 = 18446744073709551616 := rfl
    have low : Int.pow 2 63 = 9223372036854775808 := rfl
    unfold Document.IntegerFits
    omega
  exact SizeType.fields_writable fits

end Registry

namespace Config

variable (config : Config)

def contents : List Node :=
  [stringsNode config.namespacePath,
    .string (keywordOf IncludeGuard.choices config.includeGuard),
    match config.guardMacro with
    | some name => .string (some name)
    | none => .null,
    .string (keywordOf LineEnding.choices config.lineEnding),
    .string config.indent,
    stringsNode config.preamble,
    stringsNode config.extraIncludes,
    .string (keywordOf StringTable.choices config.stringTable),
    .string (keywordOf StringType.choices config.stringType),
    .boolean config.bitfieldMacros,
    .boolean config.traitExtensions,
    .boolean config.embedTimestamp,
    .string config.runtimeNamespace,
    .boolean config.singleBitFlags,
    .string config.valueDefaultStyle.text,
    .string config.flagsDefaultStyle.text,
    .string config.valueSizeType,
    .string config.flagsSizeType,
    .array (config.sizeTypes.map SizeType.node)]

variable {config}

theorem of_node (accepted : config.Accepted) : ofNode .json config.node = .ok config := by
  have strings (texts : List String) :
      Document.list Document.string .json (stringsNode texts) = .ok texts :=
    list_of_nodes fun _ _ => rfl
  have registry : Document.list SizeType.schema.read .json
      (.array (config.sizeTypes.map SizeType.node)) = .ok config.sizeTypes :=
    list_of_nodes fun sizeType member => SizeType.read_of_node (accepted.widths sizeType member).2
  have guardMacro : Document.optional Document.string .json
      (match config.guardMacro with
        | some name => .string (some name)
        | none => .null) = .ok config.guardMacro := by
    cases config.guardMacro <;> rfl
  have includeGuard : IncludeGuard.choices.lookup
      (keywordOf IncludeGuard.choices config.includeGuard) = some config.includeGuard := by
    cases config.includeGuard <;> rfl
  have lineEnding : LineEnding.choices.lookup
      (keywordOf LineEnding.choices config.lineEnding) = some config.lineEnding := by
    cases config.lineEnding <;> rfl
  have stringTable : StringTable.choices.lookup
      (keywordOf StringTable.choices config.stringTable) = some config.stringTable := by
    cases config.stringTable <;> rfl
  have stringType : StringType.choices.lookup
      (keywordOf StringType.choices config.stringType) = some config.stringType := by
    cases config.stringType <;> rfl
  have style (style : DefaultStyle) : DefaultStyle.choices.lookup style.text = some style := by
    cases style <;> rfl
  have keyed : config.node = .table (Schema.keyed schema.fields config.contents) := rfl
  unfold ofNode
  rw [keyed, Schema.read_table_of_elements (by decide) rfl]
  refine read_field (strings _) (read_field (keyword_of_lookup includeGuard) ?_)
  refine read_field guardMacro (read_field (keyword_of_lookup lineEnding) (read_field rfl ?_))
  refine read_field (strings _) (read_field (strings _) ?_)
  refine read_field (keyword_of_lookup stringTable) (read_field (keyword_of_lookup stringType) ?_)
  refine read_field rfl (read_field rfl (read_field rfl (read_field rfl (read_field rfl ?_))))
  refine read_field (keyword_of_lookup (style _)) (read_field (keyword_of_lookup (style _)) ?_)
  exact read_field rfl (read_field rfl (read_field registry rfl))

theorem node_writable (accepted : config.Accepted) :
    config.node.everyLeaf Document.Json.isWritable = true := by
  have strings (texts : List String) :
      (stringsNode texts).everyLeaf Document.Json.isWritable = true := by
    change Node.everyElement _ (texts.map _) = true
    induction texts with
    | nil => rfl
    | cons text rest ih => exact ih
  have registry : Node.everyElement Document.Json.isWritable
      (config.sizeTypes.map SizeType.node) = true := by
    have widths := accepted.widths
    generalize config.sizeTypes = sizeTypes at widths
    induction sizeTypes with
    | nil => rfl
    | cons sizeType rest ih =>
        simp only [List.forall_mem_cons] at widths
        exact Bool.and_eq_true_iff.2 ⟨SizeType.node_writable widths.1.2, ih widths.2⟩
  cases named : config.guardMacro <;>
    simp [node, named, Node.everyLeaf, Node.everyField, strings, registry,
      Document.Json.isWritable]

/-- A configuration that passes its check is read back from every text of its document, and one of
them is the text that is written. -/
theorem round_trips (checked : config.check = .ok ()) :
    parse .json (Document.Json.write config.node) = .ok config ∧
      ∀ text : String, WritesElement config.node text.toList → parse .json text = .ok config := by
  have accepted := accepted_of_check checked
  have each (text : String) (writes : WritesElement config.node text.toList) :
      parse .json text = .ok config := by
    have read : Document.parse .json text = .ok config.node := by
      unfold Document.parse
      rw [Document.Json.read_of_writes writes]
    unfold parse
    rw [read]
    change (ofNode .json config.node >>= fun found => found.check >>= fun _ => pure found) = _
    rw [of_node accepted]
    change (config.check >>= fun _ => pure config) = _
    rw [checked]
    rfl
  exact ⟨each _ (Document.Json.write_writes (node_writable accepted)), each⟩

def worded : Config :=
  { namespacePath := ["app", "model"], preamble := ["// \"\\\" \t\x01 \u007f", "// ü 日本 😀\n", ""],
    extraIncludes := ["\"größe.h\""], lineEnding := .crlf, stringTable := .namesAndDescriptions,
    flagsSizeType := "größe",
    sizeTypes := [⟨"uint32", 32, false, "std::uint32_t"⟩, ⟨"größe", 128, false, "größe\x00"⟩] }

theorem worded_round_trips :
    worded.check = .ok () ∧ parse .json (Document.Json.write worded.node) = .ok worded ∧
      ∀ text : String, WritesElement worded.node text.toList → parse .json text = .ok worded := by
  have checked : worded.check = .ok () := by decide +kernel
  exact ⟨checked, round_trips checked⟩

end Config

end EnumHeader
