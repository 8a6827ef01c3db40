import EnumHeader.Config.Check
import EnumHeader.Document

/-!
# Configurations as documents

The keys under which a configuration is written, how it is read from a document, and the document it
is written as. Keys that the schema does not name are skipped, keys that are absent keep their
defaults, and a configuration that was read has passed its check.
-/

namespace EnumHeader

set_option autoImplicit false

open Document (Node Schema field keyword)

def IncludeGuard.choices : List (String × IncludeGuard) :=
  [("none", .none), ("pragma_once", .pragmaOnce), ("c_style", .cStyle)]

def LineEnding.choices : List (String × LineEnding) :=
  [("lf", .lf), ("crlf", .crlf)]

def StringTable.choices : List (String × StringTable) :=
  [("none", .none), ("names", .names), ("names_and_descriptions", .namesAndDescriptions)]

def StringType.choices : List (String × StringType) :=
  [("narrow", .narrow), ("wide", .wide)]

def keywordOf {α : Type} [DecidableEq α] (choices : List (String × α)) (value : α) : String :=
  ((choices.find? (·.2 = value)).map (·.1)).getD ""

def SizeType.schema : Schema SizeType where
  name := "SizeType"
  closed := false
  start := ⟨"", 0, false, ""⟩
  fields :=
    [field "name" Document.string (fun value record => { record with name := value }) true,
      field "bits" Document.count (fun value record => { record with bits := value }) true,
      field "is_signed" Document.boolean (fun value record => { record with signed := value }),
      field "type_name" Document.string (fun value record => { record with typeName := value })
        true]

def SizeType.node (sizeType : SizeType) : Node :=
  .table
    [("name", .string sizeType.name), ("bits", .integer sizeType.bits),
      ("is_signed", .boolean sizeType.signed), ("type_name", .string sizeType.typeName)]

namespace Config

def schema : Schema Config where
  name := "GeneratorConfig"
  closed := false
  start := {}
  fields :=
    [field "namespace" (Document.list Document.string)
        fun value record => { record with namespacePath := value },
      field "include_guard" (keyword IncludeGuard.choices)
        fun value record => { record with includeGuard := value },
      field "include_guard_macro" (Document.optional Document.string)
        fun value record => { record with guardMacro := value },
      field "line_ending" (keyword LineEnding.choices)
        fun value record => { record with lineEnding := value },
      field "indent" Document.string
        fun value record => { record with indent := value },
      field "preamble" (Document.list Document.string)
        fun value record => { record with preamble := value },
      field "additional_includes" (Document.list Document.string)
        fun value record => { record with extraIncludes := value },
      field "string_table" (keyword StringTable.choices)
        fun value record => { record with stringTable := value },
      field "string_type" (keyword StringType.choices)
        fun value record => { record with stringType := value },
      field "emit_bitfield_macros" Document.boolean
        fun value record => { record with bitfieldMacros := value },
      field "emit_type_trait_extensions" Document.boolean
        fun value record => { record with traitExtensions := value },
      field "embed_timestamp" Document.boolean
        fun value record => { record with embedTimestamp := value },
      field "runtime_namespace" Document.string
        fun value record => { record with runtimeNamespace := value },
      field "strict_single_bit_flags" Document.boolean
        fun value record => { record with singleBitFlags := value },
      field "value_enum_default_style" (keyword DefaultStyle.choices)
        fun value record => { record with valueDefaultStyle := value },
      field "flags_enum_default_style" (keyword DefaultStyle.choices)
        fun value record => { record with flagsDefaultStyle := value },
      field "default_value_enum_size_type" Document.string
        fun value record => { record with valueSizeType := value },
      field "default_flags_enum_size_type" Document.string
        fun value record => { record with flagsSizeType := value },
      field "size_types" (Document.list SizeType.schema.read)
        fun value record => { record with sizeTypes := value }]

def stringsNode (texts : List String) : Node :=
  .array (texts.map fun text => .string (some text))

/-- The document of a configuration, with every key. -/
def node (config : Config) : Node :=
  .table
    [("namespace", stringsNode config.namespacePath),
      ("include_guard", .string (keywordOf IncludeGuard.choices config.includeGuard)),
      ("include_guard_macro",
        match config.guardMacro with
        | some name => .string (some name)
        | none => .null),
      ("line_ending", .string (keywordOf LineEnding.choices config.lineEnding)),
      ("indent", .string config.indent),
      ("preamble", stringsNode config.preamble),
      ("additional_includes", stringsNode config.extraIncludes),
      ("string_table", .string (keywordOf StringTable.choices config.stringTable)),
      ("string_type", .string (keywordOf StringType.choices config.stringType)),
      ("emit_bitfield_macros", .boolean config.bitfieldMacros),
      ("emit_type_trait_extensions", .boolean config.traitExtensions),
      ("embed_timestamp", .boolean config.embedTimestamp),
      ("runtime_namespace", .string config.runtimeNamespace),
      ("strict_single_bit_flags", .boolean config.singleBitFlags),
      ("value_enum_default_style", .string config.valueDefaultStyle.text),
      ("flags_enum_default_style", .string config.flagsDefaultStyle.text),
      ("default_value_enum_size_type", .string config.valueSizeType),
      ("default_flags_enum_size_type", .string config.flagsSizeType),
      ("size_types", .array (config.sizeTypes.map SizeType.node))]

/-- The configuration that a document holds, unchecked. -/
def ofNode (format : Document.Format) (node : Node) : Except Failure Config :=
  schema.read format node

end Config

namespace Config

def parse (format : Document.Format) (text : String) : Except Failure Config := do
  let node ← Document.parse format text
  let config ← ofNode format node
  config.check
  return config

end Config

end EnumHeader
