import EnumHeader.Document.Schema
import EnumHeader.Proofs.Outcome

/-!
# Reading records

A table with all fields of a schema in their order is read like the array of their values, one field
after the other. What the start of a record has and every field keeps, the record that is read has.
-/

namespace EnumHeader.Document

set_option autoImplicit false

namespace Schema

variable {σ : Type} {schema : Schema σ} {format : Format}

def keyed (fields : List (Field σ)) (nodes : List Node) : List (Wording × Node) :=
  fields.zipWith (fun entry node => (some entry.name, node)) nodes

theorem field_of_name (distinct : schema.names.Nodup) {entry : Field σ}
    (member : entry ∈ schema.fields) : schema.fields.find? (·.name = entry.name) = some entry := by
  unfold names at distinct
  generalize schema.fields = fields at distinct member
  induction fields with
  | nil => cases member
  | cons first rest ih =>
      obtain ⟨other, distinct⟩ := List.nodup_cons.1 distinct
      rcases List.mem_cons.1 member with rfl | later
      · simp
      · have differ : first.name ≠ entry.name :=
          fun same => other (same ▸ List.mem_map_of_mem later)
        rw [List.find?_cons_of_neg (by simpa using differ)]
        exact ih distinct later

theorem read_fields_of_elements {fields : List (Field σ)}
    (listed : ∀ entry ∈ fields, schema.fields.find? (·.name = entry.name) = some entry)
    (distinct : (fields.map Field.name).Nodup) {nodes : List Node}
    (same : nodes.length = fields.length) (position : Nat) (seen : List String)
    (fresh : ∀ entry ∈ fields, entry.name ∉ seen) (record : σ) :
    schema.readFields format seen record (keyed fields nodes) =
      (schema.readElements format position record fields nodes).map
        ((fields.map Field.name).reverse ++ seen, ·) := by
  induction fields generalizing nodes position seen record with
  | nil =>
      obtain rfl := List.length_eq_zero_iff.1 same
      rfl
  | cons entry rest ih =>
      obtain ⟨node, nodes, rfl⟩ := List.exists_cons_of_length_eq_add_one same
      simp only [List.forall_mem_cons] at listed fresh
      obtain ⟨other, distinct⟩ := List.nodup_cons.1 distinct
      have unseen : seen.contains entry.name = false := by simpa using fresh.1
      have later : ∀ next ∈ rest, next.name ∉ entry.name :: seen := by
        intro next member
        rw [List.mem_cons, not_or]
        exact ⟨fun equal => other (equal ▸ List.mem_map_of_mem member), fresh.2 next member⟩
      have rest := fun record =>
        ih listed.2 distinct (by simpa using same) (position + 1) _ later record
      change schema.readFields format seen record ((some entry.name, node) :: keyed _ nodes) = _
      rw [readFields, listed.1, readElements]
      simp only [unseen, Bool.false_eq_true, if_false, rest]
      cases entry.read format node record with
      | error failure => rfl
      | ok next => simp [bind, Except.bind]

theorem read_table_of_elements (distinct : schema.names.Nodup) {nodes : List Node}
    (same : nodes.length = schema.fields.length) :
    schema.read format (.table (keyed schema.fields nodes)) =
      schema.readElements format 0 schema.start schema.fields nodes := by
  have read : schema.readFields format [] schema.start (keyed schema.fields nodes) = _ :=
    read_fields_of_elements (fun entry member => field_of_name distinct member) distinct same 0 []
      (by simp) schema.start
  have complete : schema.missing? ((schema.fields.map Field.name).reverse ++ []) = none := by
    unfold missing?
    rw [Option.map_eq_none_iff, List.find?_eq_none]
    intro entry member
    have seen : ∃ other ∈ schema.fields, other.name = entry.name := ⟨entry, member, rfl⟩
    simp [seen]
  change schema.readTable format _ = _
  unfold readTable
  rw [read]
  cases schema.readElements format 0 schema.start schema.fields nodes with
  | error failure => rfl
  | ok record =>
      simp only [Except.map, bind, Except.bind, complete]
      rfl

end Schema

section Keeping

variable {σ : Type} {schema : Schema σ} {holds : σ → Prop} {format : Format} {record last : σ}

def Field.Keeps (entry : Field σ) (holds : σ → Prop) : Prop :=
  ∀ format node record next, holds record → entry.read format node record = .ok next → holds next

theorem field_keeps {α : Type} {name : String} {decoder : Decoder α} {store : α → σ → σ}
    {required : Bool}
    (keeps : ∀ format node value record, decoder format node = .ok value → holds record →
      holds (store value record)) : (field name decoder store required).Keeps holds := by
  intro format node record next before read
  obtain ⟨value, decoded, same⟩ := (Outcome.bind_eq_ok_iff _ _ _).1 read
  obtain rfl := Except.ok.inj same
  exact keeps format node value record decoded before

theorem read_fields_keeps (each : ∀ entry ∈ schema.fields, entry.Keeps holds)
    {seen names : List String} {fields : List (Wording × Node)} (before : holds record)
    (read : schema.readFields format seen record fields = .ok (names, last)) : holds last := by
  induction fields generalizing seen record with
  | nil =>
      obtain ⟨-, rfl⟩ := Prod.mk.inj (Except.ok.inj read)
      exact before
  | cons first rest ih =>
      rcases first with ⟨_ | name, node⟩
      · cases read
      · rw [Schema.readFields] at read
        split at read
        next unknown =>
          split at read
          next => cases read
          next =>
            obtain ⟨_, -, read⟩ := (Outcome.bind_eq_ok_iff _ _ _).1 read
            exact ih before read
        next entry found =>
          split at read
          next => cases read
          next =>
            obtain ⟨next, stepped, read⟩ := (Outcome.bind_eq_ok_iff _ _ _).1 read
            exact ih (each entry (List.mem_of_find?_eq_some found) _ _ _ _ before stepped) read

theorem read_elements_keeps {fields : List (Field σ)} (each : ∀ entry ∈ fields, entry.Keeps holds)
    {position : Nat} {nodes : List Node} (before : holds record)
    (read : schema.readElements format position record fields nodes = .ok last) : holds last := by
  induction fields generalizing position nodes record with
  | nil =>
      cases nodes with
      | nil =>
          obtain rfl := Except.ok.inj read
          exact before
      | cons node nodes =>
          cases format with
          | json => cases read
          | toml =>
              obtain rfl := Except.ok.inj read
              exact before
  | cons entry rest ih =>
      obtain ⟨first, each⟩ := List.forall_mem_cons.1 each
      cases nodes with
      | nil =>
          unfold Schema.readElements at read
          split at read
          next => cases read
          next => exact ih each before read
      | cons node nodes =>
          obtain ⟨next, stepped, read⟩ := (Outcome.bind_eq_ok_iff _ _ _).1 read
          exact ih each (first _ _ _ _ before stepped) read

/-- What the record starts with and every field keeps, is true of the record that is read. -/
theorem read_keeps (holds : σ → Prop) (start : holds schema.start)
    (each : ∀ entry ∈ schema.fields, entry.Keeps holds) {node : Node}
    (read : schema.read format node = .ok record) : holds record := by
  have table {fields : List (Wording × Node)}
      (read : schema.readTable format fields = .ok record) : holds record := by
    obtain ⟨⟨seen, last⟩, fieldsRead, read⟩ := (Outcome.bind_eq_ok_iff _ _ _).1 read
    have kept := read_fields_keeps each start fieldsRead
    dsimp only at read
    split at read
    next => cases read
    next =>
      obtain rfl := Except.ok.inj read
      exact kept
  unfold Schema.read at read
  split at read
  next => exact table read
  next => exact table read
  next => exact read_elements_keeps each start read
  next =>
    unfold unexpected at read
    split at read <;> cases read

theorem mem_of_list {α : Type} {decoder : Decoder α} {holds : α → Prop}
    (each : ∀ node value, decoder format node = .ok value → holds value) {node : Node}
    {values : List α} (read : list decoder format node = .ok values) :
    ∀ value ∈ values, holds value := by
  unfold list at read
  split at read
  next elements =>
    have matched := Outcome.map_m_forall read
    clear read
    induction matched with
    | nil => nofun
    | cons decoded _ ih => exact List.forall_mem_cons.2 ⟨each _ _ decoded, ih⟩
  next =>
    unfold unexpected at read
    split at read <;> cases read

theorem optional_eq_ok {α : Type} {decoder : Decoder α} {node : Node} {value : α}
    (read : optional decoder format node = .ok (some value)) : decoder format node = .ok value := by
  unfold optional at read
  split at read
  next => cases read
  next =>
    obtain ⟨found, decoded, same⟩ := (Outcome.bind_eq_ok_iff _ _ _).1 read
    obtain rfl := Option.some.inj (Except.ok.inj same)
    exact decoded

end Keeping

section Decoders

variable {format : Format}

theorem read_field {σ α : Type} {schema : Schema σ} {name : String} {decoder : Decoder α}
    {store : α → σ → σ} {required : Bool} {fields : List (Field σ)} {node : Node}
    {nodes : List Node} {position : Nat} {record last : σ} {value : α}
    (decoded : decoder format node = .ok value)
    (later : schema.readElements format (position + 1) (store value record) fields nodes =
      .ok last) :
    schema.readElements format position record (field name decoder store required :: fields)
      (node :: nodes) = .ok last := by
  change ((decoder format node >>= fun value => pure (store value record)) >>= fun record =>
    schema.readElements format (position + 1) record fields nodes) = _
  rw [decoded]
  exact later

theorem list_of_nodes {α : Type} {decoder : Decoder α} {write : α → Node} {values : List α}
    (each : ∀ value ∈ values, decoder format (write value) = .ok value) :
    list decoder format (.array (values.map write)) = .ok values := by
  change (values.map write).mapM (decoder format) = .ok values
  induction values with
  | nil => rfl
  | cons value rest ih =>
      simp only [List.forall_mem_cons] at each
      rw [List.map_cons, List.mapM_cons, each.1, ih each.2]
      rfl

theorem count_of_integer {n : Nat} (small : (n : Int) < Int.pow 2 32) :
    count format (.integer n) = .ok n := by
  have bounded : 0 ≤ (n : Int) ∧ (n : Int) < Int.pow 2 32 := ⟨by omega, small⟩
  simp only [count, bounded, and_self, if_true, Int.toNat_natCast]

theorem keyword_of_lookup {α : Type} {choices : List (String × α)} {name : String} {value : α}
    (named : choices.lookup name = some value) :
    keyword choices format (.string (some name)) = .ok value := by
  simp [keyword, named]

end Decoders

end EnumHeader.Document
