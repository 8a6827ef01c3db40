import EnumHeader.Declaration
import EnumHeader.Proofs.Document.Schema
import EnumHeader.Proofs.Integer

/-!
# Stated integers

Integers of any size can be put into a declaration, but documents state only those of 64 bits. So
the declarations that are read from a document state values that entries can have.
-/

namespace EnumHeader

set_option autoImplicit false

open Document (field_keeps read_keeps mem_of_list optional_eq_ok)

/-- A stated integer has at most 128 bits. What a numeral says is bounded when it is read. -/
def StatedValue.Fits : StatedValue → Prop
  | .integer value => Integer.Fits value
  | .numeral _ => True

instance : (stated : StatedValue) → Decidable stated.Fits
  | .integer value => inferInstanceAs (Decidable (Integer.Fits value))
  | .numeral _ => isTrue trivial

def EntryDeclaration.Fits (declaration : EntryDeclaration) : Prop :=
  ∀ stated ∈ declaration.value, stated.Fits

instance (declaration : EntryDeclaration) : Decidable declaration.Fits :=
  inferInstanceAs (Decidable (∀ stated ∈ declaration.value, StatedValue.Fits stated))

def EnumDeclaration.Fits (declaration : EnumDeclaration) : Prop :=
  ∀ entry ∈ declaration.entries, entry.Fits

instance (declaration : EnumDeclaration) : Decidable declaration.Fits :=
  inferInstanceAs (Decidable (∀ entry ∈ declaration.entries, EntryDeclaration.Fits entry))

variable {format : Document.Format} {node : Document.Node}

theorem Integer.fits_of_word {value : Int} (word : Document.IntegerFits value) :
    Integer.Fits value := by
  simp only [Document.IntegerFits, int_pow_eq] at word
  simp only [Fits, least, greatest, int_pow_eq]
  omega

theorem StatedValue.fits_of_decode {stated : StatedValue}
    (read : StatedValue.decode format node = .ok stated) : stated.Fits := by
  obtain ⟨⟨⟩, taken, read⟩ := (Outcome.bind_eq_ok_iff _ _ _).1 read
  split at read
  next value _ =>
    obtain rfl := Except.ok.inj read
    have usable : (Document.Node.integer value).isUsable = true := by
      unfold Document.takeIn at taken
      split at taken
      next whole => exact (Bool.and_eq_true_iff.1 whole).1
      next => cases taken
    exact Integer.fits_of_word (of_decide_eq_true usable)
  next text =>
    obtain rfl := Except.ok.inj read
    trivial
  next => cases read

theorem EntryDeclaration.fits_of_read {declaration : EntryDeclaration}
    (read : EntryDeclaration.schema.read format node = .ok declaration) : declaration.Fits := by
  refine read_keeps EntryDeclaration.Fits (by decide) ?_ read
  simp only [EntryDeclaration.schema, List.forall_mem_cons, List.not_mem_nil, false_implies,
    implies_true, and_true]
  refine ⟨field_keeps fun _ _ _ _ _ before => before, field_keeps ?_,
    field_keeps fun _ _ _ _ _ before => before⟩
  intro format node value record decoded _ stated same
  obtain rfl : value = some stated := same
  exact StatedValue.fits_of_decode (optional_eq_ok decoded)

theorem EnumDeclaration.fits_of_read {declaration : EnumDeclaration}
    (read : EnumDeclaration.schema.read format node = .ok declaration) : declaration.Fits := by
  refine read_keeps EnumDeclaration.Fits (by decide) ?_ read
  simp only [EnumDeclaration.schema, List.forall_mem_cons, List.not_mem_nil, false_implies,
    implies_true, and_true]
  have kept {α : Type} {name : String} {decoder : Document.Decoder α}
      {store : α → EnumDeclaration → EnumDeclaration} {required : Bool}
      (apart : ∀ value record, (store value record).entries = record.entries) :
      (Document.field name decoder store required).Keeps EnumDeclaration.Fits :=
    field_keeps fun _ _ value record _ before => by simpa only [Fits, apart] using before
  refine ⟨kept fun _ _ => rfl, kept fun _ _ => rfl, kept fun _ _ => rfl, kept fun _ _ => rfl,
    kept fun _ _ => rfl, field_keeps ?_⟩
  intro format node entries record decoded _
  exact mem_of_list (fun _ _ => EntryDeclaration.fits_of_read) decoded

/-- No document states an integer that is too large for an entry. -/
theorem DeclarationFile.fits_of_read {file : DeclarationFile}
    (read : DeclarationFile.schema.read format node = .ok file) :
    (∀ declaration ∈ file.valueEnums, declaration.Fits) ∧
      ∀ declaration ∈ file.flagsEnums, declaration.Fits := by
  refine read_keeps (fun file => (∀ declaration ∈ file.valueEnums, declaration.Fits) ∧
    ∀ declaration ∈ file.flagsEnums, declaration.Fits) ⟨by simp [schema], by simp [schema]⟩ ?_ read
  simp only [DeclarationFile.schema, List.forall_mem_cons, List.not_mem_nil, false_implies,
    implies_true, and_true]
  constructor
  · exact field_keeps fun _ _ _ _ decoded before =>
      ⟨mem_of_list (fun _ _ => EnumDeclaration.fits_of_read) decoded, before.2⟩
  · exact field_keeps fun _ _ _ _ decoded before =>
      ⟨before.1, mem_of_list (fun _ _ => EnumDeclaration.fits_of_read) decoded⟩

end EnumHeader
