import EnumHeader.Document.Basic

/-!
# Growing a TOML document

Headers and dotted keys add to a tree that remembers how each table came into being, because that
decides whether it may be added to. A table that a header names is open to no second header and to
no dotted key from outside; a table that only lies on the way of a header can be named later, or
become the table of dotted keys; a table of dotted keys grows by dotted keys and by headers of
tables inside it; and an inline table or array is closed.
-/

namespace EnumHeader.Document.Toml

set_option autoImplicit false

inductive Origin where
  /-- Named by a header, or the top of the document. -/
  | header
  /-- On the way of a header. -/
  | implied
  /-- Made by a dotted key, or taken over by one. -/
  | dotted
  deriving Repr, DecidableEq, Inhabited

inductive Branch where
  | value (node : Node)
  | table (origin : Origin) (fields : List (String × Branch))
  /-- An array of tables: the tables that are complete, latest first, and the open one. -/
  | tables (complete : List (List (String × Branch))) (latest : List (String × Branch))
  deriving Inhabited

abbrev Fields := List (String × Branch)

namespace Fields

/-- Keys stand in ascending order; a key that is there already keeps its place. -/
def set (name : String) (branch : Branch) : Fields → Fields
  | [] => [(name, branch)]
  | (other, present) :: rest =>
      if name < other then (name, branch) :: (other, present) :: rest
      else if name = other then (name, branch) :: rest
      else (other, present) :: set name branch rest

def find? (fields : Fields) (name : String) : Option Branch :=
  fields.lookup name

end Fields

/-- Changes the table at the end of a path, which is made where it is missing. A path leads into the
latest table of an array. A dotted path may not enter a table of a header and takes over the others.
-/
def changeAt (byDots : Bool) (change : Origin → Fields → Option Fields) :
    List String → Origin → Fields → Option Fields
  | [], origin, fields => change origin fields
  | name :: path, _, fields =>
      match fields.find? name with
      | none => do
          let origin := if byDots then Origin.dotted else Origin.implied
          let inner ← changeAt byDots change path origin []
          some (fields.set name (.table origin inner))
      | some (.value _) => none
      | some (.table origin inner) =>
          if byDots ∧ origin = .header then none
          else do
            let origin := if byDots then Origin.dotted else origin
            let inner ← changeAt byDots change path origin inner
            some (fields.set name (.table origin inner))
      | some (.tables complete latest) => do
          let latest ← changeAt byDots change path .header latest
          some (fields.set name (.tables complete latest))

def addValue (keys : List String) (node : Node) (fields : Fields) : Option Fields := do
  let name ← keys.getLast?
  let path := keys.dropLast
  changeAt true
    (fun origin inner =>
      if !path.isEmpty && origin != .dotted then none
      else if (inner.find? name).isSome then none
      else some (inner.set name (.value node)))
    path .header fields

def openTable (keys : List String) (fields : Fields) : Option Fields := do
  let name ← keys.getLast?
  changeAt false
    (fun _ inner =>
      match inner.find? name with
      | none => some (inner.set name (.table .header []))
      | some (.table .implied present) => some (inner.set name (.table .header present))
      | some _ => none)
    keys.dropLast .header fields

/-- Opens a further table of the array that a header names. -/
def openElement (keys : List String) (fields : Fields) : Option Fields := do
  let name ← keys.getLast?
  changeAt false
    (fun _ inner =>
      match inner.find? name with
      | none => some (inner.set name (.tables [] []))
      | some (.tables complete latest) => some (inner.set name (.tables (latest :: complete) []))
      | some _ => none)
    keys.dropLast .header fields

def addBelow (header keys : List String) (node : Node) (fields : Fields) : Option Fields :=
  changeAt false (fun _ inner => addValue keys node inner) header .header fields

mutual

def Branch.node : Branch → Node
  | .value node => node
  | .table _ fields => .table (fieldNodes fields)
  | .tables complete latest =>
      .array ((.table (fieldNodes latest) :: tableNodes complete).reverse)

def tableNodes : List (List (String × Branch)) → List Node
  | [] => []
  | first :: rest => .table (fieldNodes first) :: tableNodes rest

def fieldNodes : List (String × Branch) → List (Wording × Node)
  | [] => []
  | (name, branch) :: rest => (some name, branch.node) :: fieldNodes rest

end

end EnumHeader.Document.Toml
