import EnumHeader.Config

/-!
# Validating definitions

The rules that a list of definitions has to meet before anything is generated from it. Names of
enums are compared across the whole list first; then each definition goes through the rules in a
fixed order. The first broken rule is reported, with the earliest entry that breaks it.
-/

namespace EnumHeader.Validation

set_option autoImplicit false

/-- Names of the members that every generated type may have; an entry cannot take one of them. -/
def reservedNames : List String :=
  ["Value", "underlying_type", "value", "value_", "to_underlying", "reset_to_default",
    "reset_zero", "default_value", "min", "max", "count", "values", "is_contiguous",
    "bits_required_storage", "bits_required_transmission", "is_valid", "from_integer",
    "from_underlying_unsafe", "from_string", "to_string", "description", "NameEntry", "names",
    "test", "set", "unset", "flip", "flip_all", "all", "any", "none", "is_single",
    "all_flags_mask"]

/-- The first name that also stands earlier, with `seen` before the list. -/
def firstRepeated (seen : List String) : List String → Option String
  | [] => none
  | name :: rest =>
      if seen.contains name then some name else firstRepeated (name :: seen) rest

/-- The first entry whose value an earlier entry has, together with the earliest such entry. -/
def firstRepeatedValue (seen : List Entry) : List Entry → Option (Entry × Entry)
  | [] => none
  | entry :: rest =>
      match seen.find? (·.value = entry.value) with
      | some first => some (entry, first)
      | none => firstRepeatedValue (seen ++ [entry]) rest

def isSingleBit (value : Int) : Bool :=
  let bits := Integer.pattern value
  bits != 0 && bits &&& (bits - 1) == 0

/-- A rule gives the failure of a definition that breaks it. -/
abbrev Rule := Config → Definition → Option Failure

def firstEntry (definition : Definition) (isFault : Entry → Bool) (cause : Entry → Violation) :
    Option Failure :=
  (definition.entries.find? isFault).map fun entry => .violation (cause entry)

def onFlags (rule : Rule) : Rule := fun config definition =>
  match definition.kind with
  | .flags => rule config definition
  | .value => none

def distinctEntryNames : Rule := fun _ definition =>
  (firstRepeated [] definition.entryNames).map fun entry =>
    .violation (.repeatedEntryName definition.name entry)

def someEntry : Rule := fun _ definition =>
  if definition.entries.isEmpty then some (.violation (.noEntries definition.name)) else none

def nonnegativeFlags : Rule := onFlags fun _ definition =>
  firstEntry definition (·.value < 0) fun entry =>
    .negativeFlag definition.name entry.name entry.value

def distinctFlags : Rule := onFlags fun _ definition =>
  (firstRepeatedValue [] definition.entries).map fun (entry, first) =>
    .violation (.repeatedFlag definition.name entry.name first.name entry.value)

def unsignedFlags : Rule := onFlags fun config definition =>
  match config.sizeTypes[definition.sizeIndex]? with
  | some sizeType =>
      if sizeType.signed then some (.unsupported (.signedFlags definition.name sizeType.name))
      else none
  | none => none

def registeredStorage : Rule := fun config definition =>
  match config.sizeTypes[definition.sizeIndex]? with
  | some _ => none
  | none =>
      some (.unsupported
        (.unknownStorage definition.name definition.sizeIndex config.sizeTypes.length))

def representableValues : Rule := fun config definition =>
  match config.sizeTypes[definition.sizeIndex]? with
  | some sizeType =>
      firstEntry definition (fun entry => !decide (sizeType.Holds entry.value)) fun entry =>
        .outOfRange definition.name entry.name entry.value sizeType.name
  | none => none

def freeNames : Rule := fun _ definition =>
  firstEntry definition
    (fun entry => entry.name == definition.name || reservedNames.contains entry.name)
    fun entry => .reservedName definition.name entry.name

def singleBitFlags : Rule := onFlags fun config definition =>
  if config.singleBitFlags then
    firstEntry definition (fun entry => !isSingleBit entry.value) fun entry =>
      .notSingleBit definition.name entry.name entry.value
  else none

def existingDefault : Rule := fun _ definition =>
  match definition.defaultName with
  | some name =>
      if definition.entryNames.contains name then none
      else some (.violation (.unknownDefault definition.name name))
  | none => none

/-- The rules for one definition, in the order in which they are applied. -/
def rules : List Rule :=
  [distinctEntryNames, someEntry, nonnegativeFlags, distinctFlags, unsignedFlags,
    registeredStorage, representableValues, freeNames, singleBitFlags, existingDefault]

def definitionFault (config : Config) (definition : Definition) : Option Failure :=
  rules.findSome? fun rule => rule config definition

def fault (config : Config) (definitions : List Definition) : Option Failure :=
  match firstRepeated [] (definitions.map Definition.name) with
  | some name => some (.violation (.repeatedEnumName name))
  | none => definitions.findSome? (definitionFault config)

def validate (config : Config) (definitions : List Definition) : Except Failure Unit :=
  match fault config definitions with
  | some failure => .error failure
  | none => .ok ()

end EnumHeader.Validation
