import EnumHeader.Proofs.Cpp.Reading.Evaluation

/-!
# Runs of statements

What names, tests and searches come to in a scope. Statements that are run one after the other until
one gives a result are a search for the first of their results.
-/

namespace EnumHeader.Cpp.Reading

set_option autoImplicit false

attribute [local simp] Scope.evaluate Statement.run firstResult result

variable {scope : Scope}

theorem named_of_bind (value : Datum) {name : String} (plain : name ≠ "true" ∧ name ≠ "false") :
    (scope.bind name value).named [name] = some value := by
  simp [Scope.named, Scope.bind, plain]

theorem named_past_bind (value : Datum) {name other : String} (different : name ≠ other) :
    (scope.bind other value).named [name] = scope.named [name] := by
  have apart : (name == other) = false := by simpa using different
  simp [Scope.named, Scope.bind, List.lookup_cons, apart]

theorem result_of_give (value : Expression) :
    result scope [.give value] = scope.evaluate value := by
  cases given : scope.evaluate value <;> simp [given]

theorem run_give {value : Expression} {datum : Datum}
    (evaluates : scope.evaluate value = some datum) :
    (Statement.give value).run scope = some (some datum) := by
  simp [evaluates]

theorem run_test {condition : Expression} {truth : Bool}
    (evaluates : scope.evaluate condition = some (.boolean truth)) (body : Statement) :
    (Statement.test condition body).run scope = if truth then body.run scope else some none := by
  cases truth <;> simp [evaluates]

theorem evaluate_name {path : List String} {datum : Datum} (named : scope.named path = some datum) :
    scope.evaluate (.name path) = some datum := by
  simp [named]

theorem evaluate_binary (operator : Operator) {left right : Expression} {first second : Datum}
    (leftSide : scope.evaluate left = some first) (rightSide : scope.evaluate right = some second) :
    scope.evaluate (.binary operator left right) =
      operator.apply scope.storage first second := by
  simp [leftSide, rightSide]

theorem evaluate_cast {operand : Expression} {value : Int}
    (evaluates : scope.evaluate operand = some (.integer value))
    (stored : scope.storage.wrap value = value) :
    scope.evaluate (.cast "underlying_type" operand) = some (.integer value) := by
  simp [evaluates, stored, Literal.underlying]

section Search

variable {Source : Type} {sources : List Source} {test : Source → Bool} {value : Source → Datum}

/-- Items that give a result when they pass a test amount to a search for the first that does. -/
theorem first_result_find {Item : Type} {run : Item → Option (Option Datum)} (item : Source → Item)
    (runs : ∀ source ∈ sources,
      run (item source) = some (if test source then some (value source) else none)) :
    firstResult run (sources.map item) = some ((sources.find? test).map value) := by
  induction sources with
  | nil => rfl
  | cons source sources ih =>
      have first := runs source (by simp)
      have rest := ih fun other member => runs other (List.mem_cons_of_mem source member)
      cases passed : test source with
      | true => simp [first, passed]
      | false => simp [first, passed, rest]

theorem run_each {element table : String} {body : Statement} (row : Source → Datum)
    (rows : scope.table table = some (sources.map row))
    (runs : ∀ source ∈ sources, body.run (scope.bind element (row source)) =
      some (if test source then some (value source) else none)) :
    (Statement.each element table body).run scope = some ((sources.find? test).map value) := by
  simp only [Statement.run, rows, Option.bind_eq_bind, Option.bind_some]
  exact first_result_find row runs

theorem run_select {subject : Expression} {held : Datum} {arm : Source → Expression × Expression}
    {label : Source → Datum} (holds : scope.evaluate subject = some held)
    (labels : ∀ source ∈ sources, scope.evaluate (arm source).1 = some (label source))
    (values : ∀ source ∈ sources, scope.evaluate (arm source).2 = some (value source)) :
    (Statement.select subject (sources.map arm)).run scope =
      some ((sources.find? fun source => label source = held).map value) := by
  simp only [Statement.run, holds, Option.bind_eq_bind, Option.bind_some]
  apply first_result_find arm
  intro source member
  simp only [labels source member, values source member, Option.bind_some, Option.map_some,
    decide_eq_true_eq]
  split <;> rfl

end Search

theorem result_of_search {search : Statement} {found : Option Datum} {otherwise : Expression}
    {default : Datum} (searches : search.run scope = some found)
    (evaluates : scope.evaluate otherwise = some default) :
    result scope [search, .give otherwise] = some (found.getD default) := by
  cases found <;> simp [searches, evaluates]

end EnumHeader.Cpp.Reading
