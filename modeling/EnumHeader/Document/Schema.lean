import EnumHeader.Document.Shortest
import EnumHeader.Error

/-!
# Schemas

Reading typed data out of a document. Reading goes through a document in order and stops at the
first fault. A record is a table of fields, or an array of its fields in the order of the schema; a
required field that is missing is noticed only after all that is there has been read.
-/

namespace EnumHeader.Document

set_option autoImplicit false

/-- How a value of one type is read from a document of a format. -/
abbrev Decoder (α : Type) := Format → Node → Except Failure α

def fail {α : Type} (format : Format) (fault : Fault) : Except Failure α :=
  .error (.data format fault)

/-- The text is no good after all: a value in it that is used makes no sense. -/
def malformed {α : Type} (format : Format) : Except Failure α :=
  .error (.malformed format)

/-- How a message describes a value. A TOML date is described as a map. -/
def Node.found (format : Format) : Node → Found
  | .null => .null
  | .boolean value => .boolean value
  | .integer value => .integer value
  | .real value => .float (value.text format)
  | .string text => .string (text.getD "")
  | .datetime => .map
  | .array _ => .sequence
  | .table _ => .map

def unexpected {α : Type} (format : Format) (node : Node) (expected : String) :
    Except Failure α :=
  if node.isUsable then fail format (.invalidType (node.found format) expected)
  else malformed format

/-- Passes over a value that is not wanted. TOML looks at every number in it, JSON at none. -/
def skip (format : Format) (node : Node) : Except Failure Unit :=
  match format with
  | .json => .ok ()
  | .toml => if node.everyLeaf Node.isReadable then .ok () else malformed format

/-- How deep a JSON value in use may nest, counted from the top of the document. -/
def depthLimit : Nat :=
  127

/-- Takes in a value before its type is known. All of it has to make sense, and a JSON value has to
stay within the depth limit together with the levels `around` it. -/
def takeIn (around : Nat) (format : Format) (node : Node) : Except Failure Unit :=
  if node.everyLeaf Node.isUsable && (format == .toml || around + node.depth ≤ depthLimit) then
    .ok ()
  else malformed format

/-! ## Leaves -/

def string : Decoder String := fun format node =>
  match node with
  | .string (some text) => .ok text
  | _ => unexpected format node "a string"

def boolean : Decoder Bool := fun format node =>
  match node with
  | .boolean value => .ok value
  | _ => unexpected format node "a boolean"

/-- An unsigned number of 32 bits. -/
def count : Decoder Nat := fun format node =>
  match node with
  | .integer value =>
      if 0 ≤ value ∧ value < Int.pow 2 32 then .ok value.toNat
      else if IntegerFits value then fail format (.invalidValue (.integer value) "u32")
      else malformed format
  | _ => unexpected format node "u32"

def list {α : Type} (element : Decoder α) : Decoder (List α) := fun format node =>
  match node with
  | .array elements => elements.mapM (element format)
  | _ => unexpected format node "a sequence"

/-- Only JSON can write an absent value. -/
def optional {α : Type} (decoder : Decoder α) : Decoder (Option α) := fun format node =>
  match format, node with
  | .json, .null => .ok none
  | _, _ => do
      let value ← decoder format node
      return some value

/-! ## Keywords -/

/-- What a TOML message calls the type of a value in the place of an empty table. -/
def Node.typeName : Node → String
  | .integer _ => "integer"
  | .string _ => "string"
  | .real _ => "float"
  | .boolean _ => "boolean"
  | .datetime => "datetime"
  | .array _ => "array"
  | .table _ => "table"
  | .null => "null"

/-- The value beside a keyword that is written as a table: nothing, as each format writes it. -/
def keywordPayload (format : Format) (node : Node) : Except Failure Unit :=
  match format, node with
  | .json, .null => .ok ()
  | .json, _ => unexpected format node "unit"
  | .toml, .table [] | .toml, .array [] => .ok ()
  | .toml, .table _ => fail format .keywordPayloadTable
  | .toml, .array _ => fail format .keywordPayloadArray
  | .toml, _ => fail format (.keywordPayload node.typeName)

def keyword {α : Type} (choices : List (String × α)) : Decoder α := fun format node =>
  let pick (name : String) : Except Failure α :=
    match choices.lookup name with
    | some value => .ok value
    | none => fail format (.unknownVariant name (choices.map (·.1)))
  match format, node with
  | _, .string (some name) => pick name
  | _, .string none => malformed format
  | .toml, .table [] => fail format (.keywordCount false)
  | .toml, .table (_ :: _ :: _) => fail format (.keywordCount true)
  | _, .table ((none, _) :: _) => malformed format
  | _, .table ((some name, payload) :: others) => do
      let value ← pick name
      keywordPayload format payload
      if others.isEmpty then return value else fail format (.notKeyword format)
  | _, _ => fail format (.notKeyword format)

/-! ## Records -/

structure Field (σ : Type) where
  name : String
  required : Bool := false
  read : Format → Node → σ → Except Failure σ

structure Schema (σ : Type) where
  /-- The name of the record in messages. -/
  name : String
  fields : List (Field σ)
  /-- Fields that the schema does not name are faults; otherwise they are skipped. -/
  closed : Bool
  start : σ

def field {σ α : Type} (name : String) (decoder : Decoder α) (store : α → σ → σ)
    (required : Bool := false) : Field σ :=
  { name
    required
    read := fun format node record => do
      let value ← decoder format node
      return store value record }

def datetimeKey : String :=
  "$__toml_private_datetime"

namespace Schema

variable {σ : Type} (schema : Schema σ)

def label : String :=
  "struct " ++ schema.name

def names : List String :=
  schema.fields.map Field.name

/-- Reads the fields of a table in their order; `seen` are the names before them. -/
def readFields (format : Format) (seen : List String) (record : σ) :
    List (Wording × Node) → Except Failure (List String × σ)
  | [] => .ok (seen, record)
  | (none, _) :: _ => malformed format
  | (some name, node) :: rest =>
      match schema.fields.find? (·.name = name) with
      | none =>
          if schema.closed then fail format (.unknownField name schema.names)
          else do
            skip format node
            readFields format seen record rest
      | some entry =>
          if seen.contains name then fail format (.duplicateField name)
          else do
            let record ← entry.read format node record
            readFields format (name :: seen) record rest

def missing? (seen : List String) : Option String :=
  (schema.fields.find? fun entry => entry.required && !seen.contains entry.name).map Field.name

def readTable (format : Format) (fields : List (Wording × Node)) : Except Failure σ := do
  let (seen, record) ← schema.readFields format [] schema.start fields
  match schema.missing? seen with
  | some name => fail format (.missingField name)
  | none => return record

/-- Reads elements as fields in the order of the schema, from the given position on. -/
def readElements (format : Format) (position : Nat) (record : σ) :
    List (Field σ) → List Node → Except Failure σ
  | [], [] => .ok record
  | [], _ :: _ =>
      match format with
      | .json => fail format .trailingElements
      | .toml => .ok record
  | entry :: fields, [] =>
      if entry.required then
        fail format (.invalidLength position
          (schema.label ++ " with " ++ toString schema.fields.length ++ " elements"))
      else readElements format (position + 1) record fields []
  | entry :: fields, node :: nodes => do
      let record ← entry.read format node record
      readElements format (position + 1) record fields nodes

/-- Reads a record from a table or from an array. A TOML date is a table of one private field. -/
def read : Decoder σ := fun format node =>
  match node with
  | .table fields => schema.readTable format fields
  | .datetime => schema.readTable format [(some datetimeKey, .datetime)]
  | .array elements => schema.readElements format 0 schema.start schema.fields elements
  | _ => unexpected format node schema.label

end Schema

end EnumHeader.Document
