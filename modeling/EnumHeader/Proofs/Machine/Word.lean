import EnumHeader.Proofs.Integer
import EnumHeader.Proofs.Outcome

/-!
# Machine arithmetic

Integers of 128 bits as a processor has them: unsigned words, whose sums and differences wrap where
that is asked for, and signed values. Every operation that can go wrong is checked. A position past
the end of a list, a shift by the width of the word or more, and a result outside its type are traps,
and a computation has a result only if it meets none of them.
-/

namespace EnumHeader.Machine

set_option autoImplicit false

inductive Trap where
  | index
  /-- A shift by the number of bits in the word or by more. -/
  | shift
  /-- A result that the type of the operands does not have. -/
  | overflow
  deriving Repr, DecidableEq, Inhabited

abbrev Checked := Except Trap

abbrev Word := BitVec 128

section Operations

def itemAt {Item : Type} (items : List Item) (position : Nat) : Checked Item :=
  match items[position]? with
  | some item => .ok item
  | none => .error .index

/-- Counts of bits have 32 bits; positions have more. -/
def addCounts (count other : Nat) : Checked Nat :=
  if count + other < 2 ^ 32 then .ok (count + other) else .error .overflow

def subCounts (count other : Nat) : Checked Nat :=
  if other ≤ count then .ok (count - other) else .error .overflow

def signed (value : Int) : Checked Int :=
  if Integer.Fits value then .ok value else .error .overflow

def subWords (word other : Word) : Checked Word :=
  if other.toNat ≤ word.toNat then .ok (word - other) else .error .overflow

def shiftLeft (word : Word) (amount : Nat) : Checked Word :=
  if amount < 128 then .ok (word <<< amount) else .error .shift

def shiftRight (word : Word) (amount : Nat) : Checked Word :=
  if amount < 128 then .ok (word >>> amount) else .error .shift

def toWord (value : Int) : Word :=
  BitVec.ofInt 128 value

end Operations

section Results

theorem item_at_of_found {Item : Type} {items : List Item} {position : Nat} {item : Item}
    (found : items[position]? = some item) : itemAt items position = .ok item := by
  rw [itemAt, found]

theorem add_counts_of_lt {count other : Nat} (small : count + other < 2 ^ 32) :
    addCounts count other = .ok (count + other) :=
  if_pos small

theorem sub_counts_of_le {count other : Nat} (below : other ≤ count) :
    subCounts count other = .ok (count - other) :=
  if_pos below

theorem signed_of_fits {value : Int} (fits : Integer.Fits value) : signed value = .ok value :=
  if_pos fits

theorem sub_words_of_le {word other : Word} (below : other.toNat ≤ word.toNat) :
    subWords word other = .ok (word - other) :=
  if_pos below

theorem shift_left_of_lt {amount : Nat} (inside : amount < 128) (word : Word) :
    shiftLeft word amount = .ok (word <<< amount) :=
  if_pos inside

theorem shift_right_of_lt {amount : Nat} (inside : amount < 128) (word : Word) :
    shiftRight word amount = .ok (word >>> amount) :=
  if_pos inside

end Results

section Values

theorem to_nat_to_word (value : Int) : (toWord value).toNat = Integer.pattern value := by
  rw [toWord, BitVec.toNat_ofInt, Integer.pattern]
  rfl

theorem to_nat_of_nonneg {value : Int} (nonneg : 0 ≤ value) (fits : Integer.Fits value) :
    (toWord value).toNat = value.toNat := by
  have bits := Integer.pattern_of_nonneg nonneg fits
  rw [to_nat_to_word]
  omega

theorem to_word_to_int (word : Word) : toWord word.toInt = word :=
  BitVec.ofInt_toInt

theorem to_int_eq_of_pattern (word : Word) : word.toInt = Integer.ofPattern word.toNat := by
  rw [BitVec.toInt_eq_toNat_cond, Integer.ofPattern]
  simp only [Nat.pow_eq, Integer.int_pow_eq]
  split <;> split <;> omega

theorem to_nat_one : (1 : Word).toNat = 1 :=
  rfl

theorem to_nat_power (exponent : Nat) (inside : exponent < 128) :
    ((1 : Word) <<< exponent).toNat = 2 ^ exponent := by
  have power : 2 ^ exponent < 2 ^ 128 := Nat.pow_lt_pow_right (by omega) inside
  rw [BitVec.toNat_shiftLeft, to_nat_one, Nat.one_shiftLeft, Nat.mod_eq_of_lt power]

theorem to_int_power (exponent : Nat) (inside : exponent < 127) :
    ((1 : Word) <<< exponent).toInt = 2 ^ exponent := by
  have power : 2 ^ exponent < 2 ^ 127 := Nat.pow_lt_pow_right (by omega) inside
  rw [to_int_eq_of_pattern, to_nat_power exponent (by omega), Integer.of_pattern_of_lt power]
  norm_cast

end Values

end EnumHeader.Machine
