import EnumHeader.Declaration.Resolve
import EnumHeader.Document
import EnumHeader.Proofs.Outcome
import EnumHeader.Proofs.Validation.Order
import Mathlib.Data.List.Forall2

/-!
# What definitions say about their declarations

Definitions that are read from a text say what the text declares: the enums and their entries in the
order of the text, with their own words and stated values, and with names that are identifiers. The
storage type is looked up in the registry, so that no rule about unknown storage can be broken later.
-/

namespace EnumHeader

set_option autoImplicit false

open Outcome (bind_eq_ok_iff)

section Entries

/-- The entry says what its declaration says. A value that is not stated is left open. -/
structure EntryDeclaration.ResolvesTo (declaration : EntryDeclaration) (entry : Entry) : Prop where
  name : entry.name = declaration.name
  identifier : Text.isIdentifier entry.name = true
  description : entry.description = declaration.description
  integer : ∀ value, declaration.value = some (.integer value) → entry.value = value
  numeral : ∀ text, declaration.value = some (.numeral text) →
    Text.readValue text = some entry.value

theorem StatedValue.resolve_numeral {enum entry text : String} {value : Int}
    (resolved : StatedValue.resolve enum entry (.numeral text) = .ok value) :
    Text.readValue text = some value := by
  simp only [StatedValue.resolve] at resolved
  split at resolved
  next found read =>
    obtain rfl := Except.ok.inj resolved
    exact read
  next => cases resolved

namespace EntryDeclaration

variable {kind : Kind} {enum : String} {assigned : Assigned}

theorem resolves_of_resolve {declaration : EntryDeclaration} {entry : Entry}
    (resolved : declaration.resolve kind enum assigned = .ok entry) :
    declaration.ResolvesTo entry := by
  unfold resolve at resolved
  split at resolved
  next identifier =>
    cases stated : declaration.value with
    | none =>
        rw [stated] at resolved
        obtain ⟨value, -, same⟩ := (bind_eq_ok_iff _ _ _).1 resolved
        obtain rfl := Except.ok.inj same
        refine ⟨rfl, identifier, rfl, ?_, ?_⟩ <;> simp [stated]
    | some own =>
        rw [stated] at resolved
        obtain ⟨value, found, same⟩ := (bind_eq_ok_iff _ _ _).1 resolved
        obtain rfl := Except.ok.inj same
        refine ⟨rfl, identifier, rfl, fun integer same => ?_, fun text same => ?_⟩
        · obtain rfl := Option.some.inj (stated.symm.trans same)
          exact (Except.ok.inj found).symm
        · obtain rfl := Option.some.inj (stated.symm.trans same)
          exact StatedValue.resolve_numeral found
  next => cases resolved

theorem resolves_of_resolve_all {declarations : List EntryDeclaration} {entries : List Entry}
    (resolved : resolveAll kind enum assigned declarations = .ok entries) :
    List.Forall₂ ResolvesTo declarations entries := by
  -- by induction on the declarations, whatever values come before them
  induction declarations generalizing assigned entries with
  | nil =>
      obtain rfl := Except.ok.inj resolved
      exact .nil
  | cons declaration rest ih =>
      obtain ⟨entry, first, resolved⟩ := (bind_eq_ok_iff _ _ _).1 resolved
      obtain ⟨later, others, same⟩ := (bind_eq_ok_iff _ _ _).1 resolved
      obtain rfl := Except.ok.inj same
      exact .cons (resolves_of_resolve first) (ih others)

end EntryDeclaration

end Entries

section Storage

structure Config.IsFirstPosition (config : Config) (name : String) (position : Nat) : Prop where
  named : ∃ sizeType, config.sizeTypes[position]? = some sizeType ∧ sizeType.name = name
  first : ∀ earlier < position, ∀ sizeType, config.sizeTypes[earlier]? = some sizeType →
    sizeType.name ≠ name

theorem Config.IsFirstPosition.registered {config : Config} {name : String} {position : Nat}
    (first : config.IsFirstPosition name position) : position < config.sizeTypes.length := by
  obtain ⟨sizeType, found, -⟩ := first.named
  exact (List.getElem?_eq_some_iff.1 found).1

theorem Config.first_position_of_index {config : Config} {name : String} {position : Nat}
    (found : config.sizeIndexOf name = .ok position) : config.IsFirstPosition name position := by
  unfold sizeIndexOf at found
  split at found
  next position' index =>
    obtain rfl := Except.ok.inj found
    obtain ⟨inside, named, first⟩ := List.findIdx?_eq_some_iff_getElem.1 index
    refine ⟨⟨_, List.getElem?_eq_getElem inside, by simpa using named⟩, ?_⟩
    intro earlier before sizeType there
    obtain ⟨within, rfl⟩ := List.getElem?_eq_some_iff.1 there
    simpa using first earlier before
  next => cases found

end Storage

section Enums

variable (config : Config) (kind : Kind)

def EnumDeclaration.sizeName (declaration : EnumDeclaration) : String :=
  declaration.sizeType.getD (config.defaultSizeName kind)

structure EnumDeclaration.ResolvesTo (declaration : EnumDeclaration) (definition : Definition) :
    Prop where
  name : definition.name = declaration.name
  identifier : Text.isIdentifier definition.name = true
  description : definition.description = declaration.description
  defaultName : definition.defaultName = declaration.defaultName
  defaultStyle : definition.defaultStyle = declaration.defaultStyle
  storage : config.IsFirstPosition (declaration.sizeName config kind) definition.sizeIndex
  entries : List.Forall₂ EntryDeclaration.ResolvesTo declaration.entries definition.entries
  kind : definition.kind = kind

variable {config kind}

theorem EnumDeclaration.size_index_eq (declaration : EnumDeclaration) :
    declaration.sizeIndex config kind = config.sizeIndexOf (declaration.sizeName config kind) := by
  unfold sizeIndex sizeName
  cases declaration.sizeType <;> rfl

theorem EnumDeclaration.resolves_of_resolve {declaration : EnumDeclaration}
    {definition : Definition} (resolved : declaration.resolve config kind = .ok definition) :
    declaration.ResolvesTo config kind definition := by
  unfold resolve at resolved
  split at resolved
  next identifier =>
    obtain ⟨position, found, resolved⟩ := (bind_eq_ok_iff _ _ _).1 resolved
    obtain ⟨entries, each, same⟩ := (bind_eq_ok_iff _ _ _).1 resolved
    obtain rfl := Except.ok.inj same
    rw [size_index_eq] at found
    exact ⟨rfl, identifier, rfl, rfl, rfl, Config.first_position_of_index found,
      EntryDeclaration.resolves_of_resolve_all each, rfl⟩
  next => cases resolved

end Enums

section Files

variable {config : Config} {definitions : List Definition}

/-- The definitions of the value enums come first, and both groups are in the order of the file. -/
def DeclarationFile.ResolvesTo (config : Config) (file : DeclarationFile)
    (definitions : List Definition) : Prop :=
  ∃ valueEnums flagsEnums, definitions = valueEnums ++ flagsEnums ∧
    List.Forall₂ (EnumDeclaration.ResolvesTo config .value) file.valueEnums valueEnums ∧
      List.Forall₂ (EnumDeclaration.ResolvesTo config .flags) file.flagsEnums flagsEnums

theorem DeclarationFile.resolves_of_resolve {file : DeclarationFile}
    (resolved : file.resolve config = .ok definitions) : file.ResolvesTo config definitions := by
  obtain ⟨valueEnums, values, resolved⟩ := (bind_eq_ok_iff _ _ _).1 resolved
  obtain ⟨flagsEnums, flags, same⟩ := (bind_eq_ok_iff _ _ _).1 resolved
  obtain rfl := Except.ok.inj same
  exact ⟨valueEnums, flagsEnums, rfl,
    (Outcome.map_m_forall values).imp fun _ _ => EnumDeclaration.resolves_of_resolve,
    (Outcome.map_m_forall flags).imp fun _ _ => EnumDeclaration.resolves_of_resolve⟩

theorem DeclarationFile.ResolvesTo.registered {file : DeclarationFile}
    (resolves : file.ResolvesTo config definitions) :
    ∀ definition ∈ definitions, definition.sizeIndex < config.sizeTypes.length := by
  obtain ⟨valueEnums, flagsEnums, rfl, values, flags⟩ := resolves
  have each {kind : Kind} {declarations : List EnumDeclaration} {group : List Definition}
      (matched : List.Forall₂ (EnumDeclaration.ResolvesTo config kind) declarations group) :
      ∀ definition ∈ group, definition.sizeIndex < config.sizeTypes.length := by
    induction matched with
    | nil => exact nofun
    | cons first _ ih => exact List.forall_mem_cons.2 ⟨first.storage.registered, ih⟩
  exact List.forall_mem_append.2 ⟨each values, each flags⟩

end Files

section Validation

open Validation

variable {config : Config} {name : String} {position size : Nat}

theorem Validation.unregistered_of_fault {definition : Definition}
    (reported : definitionFault config definition =
      some (.unsupported (.unknownStorage name position size))) :
    config.sizeTypes[definition.sizeIndex]? = none := by
  obtain ⟨rule, listed, reported⟩ := List.exists_of_findSome?_eq_some reported
  simp only [rules, List.mem_cons, List.not_mem_nil, or_false] at listed
  by_contra registered
  obtain ⟨sizeType, found⟩ := Option.ne_none_iff_exists'.1 registered
  have known : registeredStorage config definition = none := by
    unfold registeredStorage
    rw [found]
  rcases listed with rfl | rfl | rfl | rfl | rfl | rfl | rfl | rfl | rfl | rfl
  · simp [distinctEntryNames] at reported
  · simp [someEntry] at reported
  · simp [nonnegativeFlags, on_flags_eq_some_iff, first_entry_eq_some_iff] at reported
  · simp [distinctFlags, on_flags_eq_some_iff] at reported
  · simp [unsignedFlags, on_flags_eq_some_iff, found] at reported
  · simp [known] at reported
  · simp [representableValues, found, first_entry_eq_some_iff] at reported
  · simp [freeNames, first_entry_eq_some_iff] at reported
  · simp [singleBitFlags, on_flags_eq_some_iff, first_entry_eq_some_iff] at reported
  · cases named : definition.defaultName <;> simp [existingDefault, named] at reported

theorem Validation.storage_is_known {definitions : List Definition}
    (registered : ∀ definition ∈ definitions, definition.sizeIndex < config.sizeTypes.length) :
    validate config definitions ≠ .error (.unsupported (.unknownStorage name position size)) := by
  rw [Ne, validate_eq_error_iff_fault]
  intro reported
  unfold fault at reported
  split at reported
  next => cases reported
  next =>
    obtain ⟨definition, member, broken⟩ := List.exists_of_findSome?_eq_some reported
    have inside := List.getElem?_eq_getElem (registered definition member)
    rw [unregistered_of_fault broken] at inside
    cases inside

end Validation

/-- Whatever is read from a text follows its declarations, and names known storage types. -/
theorem Definition.parse_all_resolves (config : Config) (format : Document.Format) (text : String)
    {definitions : List Definition}
    (parsed : Definition.parseAll config format text = .ok definitions) :
    (∃ node file, Document.parse format text = .ok node ∧
      DeclarationFile.schema.read format node = .ok file ∧
        file.ResolvesTo config definitions) ∧
      (∀ definition ∈ definitions, definition.sizeIndex < config.sizeTypes.length) ∧
        ∀ name position size, Validation.validate config definitions ≠
          .error (.unsupported (.unknownStorage name position size)) := by
  obtain ⟨node, read, parsed⟩ := (bind_eq_ok_iff _ _ _).1 parsed
  obtain ⟨file, decoded, resolved⟩ := (bind_eq_ok_iff _ _ _).1 parsed
  have resolves := DeclarationFile.resolves_of_resolve resolved
  exact ⟨⟨node, file, read, decoded, resolves⟩, resolves.registered,
    fun _ _ _ => Validation.storage_is_known resolves.registered⟩

def mixedFile : String :=
  "\x7b\"flags_enums\":[\x7b\"name\":\"M\",\"size_type\":\"uint8\",\"entries\":[" ++
    "\x7b\"name\":\"A\",\"value\":\" 0x_F0\"\x7d]\x7d]," ++
    "\"value_enums\":[\x7b\"name\":\"L\",\"entries\":[\x7b\"name\":\"B\",\"value\":-3\x7d,\x7b\"name\":\"C\"\x7d]\x7d]\x7d"

def mixedDefinitions : List Definition :=
  [{ name := "L", kind := .value, sizeIndex := 6, entries := [⟨"B", -3, ""⟩, ⟨"C", -2, ""⟩] },
    { name := "M", kind := .flags, sizeIndex := 4, entries := [⟨"A", 240, ""⟩] }]

theorem mixed_file_resolves :
    Definition.parseAll {} .json mixedFile = .ok mixedDefinitions ∧
      (∃ node file, Document.parse .json mixedFile = .ok node ∧
        DeclarationFile.schema.read .json node = .ok file ∧
          file.ResolvesTo {} mixedDefinitions) ∧
        (∀ definition ∈ mixedDefinitions,
          definition.sizeIndex < ({} : Config).sizeTypes.length) ∧
          ∀ name position size, Validation.validate {} mixedDefinitions ≠
            .error (.unsupported (.unknownStorage name position size)) := by
  have parsed : Definition.parseAll {} .json mixedFile = .ok mixedDefinitions := by
    decide +kernel
  exact ⟨parsed, Definition.parse_all_resolves {} .json mixedFile parsed⟩

end EnumHeader
