import EnumHeader.Proofs.Config.Check

/-!
# Accepted configurations

What follows for a configuration from the fact that its check succeeds. The storage types that it
registers have a width from 1 to 128, and its indent is blank.
-/

namespace EnumHeader.Config

set_option autoImplicit false

structure Accepted (config : Config) : Prop where
  widths : ∀ sizeType ∈ config.sizeTypes, 1 ≤ sizeType.bits ∧ sizeType.bits ≤ 128
  blankIndent : ∀ c ∈ config.indent.toList, c = ' ' ∨ c = '\t'

theorem accepted_of_check {config : Config} (checked : config.check = .ok ()) : Accepted config := by
  obtain ⟨-, -, -, indent, registry, -⟩ := config.check_eq_ok_iff.1 checked
  obtain ⟨-, -, usable⟩ := (check_registry_eq_ok_iff config.sizeTypes).1 registry
  exact ⟨fun sizeType member => (usable sizeType member).width,
    (check_indent_eq_ok_iff config.indent).1 indent⟩

theorem Accepted.effective_bits {config : Config} (accepted : Accepted config) {sizeType : SizeType}
    (member : sizeType ∈ config.sizeTypes) : sizeType.effectiveBits = sizeType.bits := by
  have width := accepted.widths sizeType member
  unfold SizeType.effectiveBits
  omega

end EnumHeader.Config
