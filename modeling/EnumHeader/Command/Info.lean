import EnumHeader.Command.Sources
import EnumHeader.Model
import EnumHeader.Validation

/-!
# The command that reports on enums

What follows from each definition, for reading or as a JSON document. A report can be limited to the
enum of one name, but the sources have to be valid as a whole.
-/

namespace EnumHeader

set_option autoImplicit false

open Document (Node)

def Validity.description : Validity → String
  | .singleValue value => "equals " ++ Text.decimal value
  | .always => "always valid"
  | .upperBound max => "v <= " ++ Text.decimal max
  | .lowerBound min => "v >= " ++ Text.decimal min
  | .range min max => Text.decimal min ++ " <= v <= " ++ Text.decimal max
  | .scan values => "scan of " ++ toString values.length ++ " values"
  | .flagsLowMask mask => "v <= " ++ Text.hex mask
  | .flagsMask mask => "no bits outside " ++ Text.hex mask

def Validity.node : Validity → Node
  | .singleValue value => .table [("single_value", .integer value)]
  | .always => .string "always"
  | .upperBound max => .table [("upper_bound", .integer max)]
  | .lowerBound min => .table [("lower_bound", .integer min)]
  | .range min max =>
      .table [("range", .table [("min", .integer min), ("max", .integer max)])]
  | .scan values => .table [("scan", .array (values.map Node.integer))]
  | .flagsLowMask mask => .table [("flags_low_mask", .integer mask)]
  | .flagsMask mask => .table [("flags_mask", .integer mask)]

def DefaultValue.node : DefaultValue → Node
  | .entry index => .table [("entry", .integer index)]
  | .raw value => .table [("raw", .integer value)]

def Metadata.node (metadata : Metadata) : Node :=
  .table
    [("min_entry", .integer metadata.minEntry),
      ("max_entry", .integer metadata.maxEntry),
      ("default", metadata.default.node),
      ("unique_values", .array (metadata.uniqueValues.map Node.integer)),
      ("unique_value_count", .integer metadata.uniqueCount),
      ("is_contiguous", .boolean metadata.isContiguous),
      ("bits_required_storage", .integer metadata.storageBits),
      ("bits_required_transmission", .integer metadata.transmissionBits),
      ("used_bits_mask", .integer metadata.usedBits),
      ("validity", metadata.validity.node)]

namespace Model

/-- The name of the default, or its bits if no entry has that value. -/
def defaultText (model : Model) : String :=
  match model.defaultEntry? with
  | some entry => entry.name
  | none => Text.hex (Integer.pattern model.defaultValue)

def node (model : Model) : Node :=
  .table
    [("name", .string model.name),
      ("kind", .string model.kind.text),
      ("size_type", .string model.sizeType.name),
      ("entries", .integer model.definition.entries.length),
      ("min", .string model.least.name),
      ("max", .string model.greatest.name),
      ("default", .string model.defaultText),
      ("metadata", model.metadata.node)]

def rows (model : Model) : List (String × String) :=
  let metadata := model.metadata
  let usedBits :=
    match model.kind with
    | .flags => [("Used bits:", Text.hex metadata.usedBits)]
    | .value => []
  [("Size type:", model.sizeType.name),
    ("Entries:",
      toString model.definition.entries.length ++ " (" ++ toString metadata.uniqueCount ++
        " unique values)"),
    ("Min / max:", model.least.name ++ " / " ++ model.greatest.name),
    ("Default:", model.defaultText),
    ("Contiguous:", if metadata.isContiguous then "yes" else "no"),
    ("Storage bits:", toString metadata.storageBits),
    ("Transmission bits:", toString metadata.transmissionBits)] ++
  usedBits ++
  [("Validity check:", metadata.validity.description)]

def padded (label : String) : String :=
  label ++ String.ofList (List.replicate (21 - label.length) ' ')

def report (model : Model) : String :=
  "\n=== " ++ model.name ++ " (" ++ model.kind.text ++ ") ===\n\n" ++
    String.join (model.rows.map fun (label, content) => padded label ++ content ++ "\n")

end Model

namespace Command

variable {m : Type → Type} [Monad m] [Host m]

inductive ReportForm where
  | pretty
  | json
  deriving Repr, DecidableEq, Inhabited

def reports (form : ReportForm) (models : List Model) : String :=
  match form with
  | .pretty => String.join (models.map Model.report)
  | .json => Document.Json.write (.array (models.map Model.node)) ++ "\n"

def selected (definitions : List Definition) : Option String → Except Failure (List Definition)
  | none => .ok definitions
  | some name =>
      match definitions.filter (·.name = name) with
      | [] => .error (.misuse (.noSuchEnum name))
      | found => .ok found

def info (sources : Sources) (form : ReportForm) (name : Option String) :
    ExceptT Failure m String := do
  let (config, definitions) ← load sources
  Validation.validate config definitions
  let models ← Model.buildAll config (← selected definitions name)
  return reports form models

end Command

end EnumHeader
