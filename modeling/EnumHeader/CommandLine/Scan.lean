/-!
# Scanning a command line

A command line is scanned word by word against the switches that are known where the word stands. A
switch has a long name and possibly a letter; letters can be grouped behind one dash. A value stands
behind an equals sign, directly behind a letter, or in the next word, and in the next word it cannot
begin with a dash unless it is just that dash. The scan ends at the first word that does not fit, or
at a switch that asks for a notice.
-/

namespace EnumHeader.CommandLine

set_option autoImplicit false

/-- A text that is shown in place of running a command. -/
inductive Notice where
  | version
  | help
  deriving Repr, DecidableEq, Inhabited

inductive Use where
  /-- Given at most once, without a value. -/
  | flag
  /-- Given any number of times, without a value. -/
  | counter
  /-- Given at most once, with a path that is not empty. -/
  | path
  | word (choices : List String)
  | text
  | notice (notice : Notice)
  deriving Repr, DecidableEq, Inhabited

structure Switch where
  name : String
  letter : Option Char := none
  use : Use := .flag
  deriving Repr, DecidableEq, Inhabited

namespace Switch

def takesValue (switch : Switch) : Bool :=
  match switch.use with
  | .path | .word _ | .text => true
  | .flag | .counter | .notice _ => false

def isRepeatable (switch : Switch) : Bool :=
  switch.use == .counter

def allows (switch : Switch) (value : String) : Bool :=
  match switch.use with
  | .path => !value.isEmpty
  | .word choices => choices.contains value
  | .flag | .counter | .text | .notice _ => true

end Switch

inductive Stop where
  | usage
  | notice (notice : Notice)
  deriving Repr, DecidableEq, Inhabited

/-- The switches that were given by name, each with its value; an empty text stands for none. -/
abbrev Given :=
  List (String × String)

structure Scan where
  given : Given := []
  /-- A switch whose value may still be missing. It counts as given only once another switch or the
  end of the command line is reached. -/
  pending : Option (Switch × Option String) := none
  /-- The word `--` was seen; no switch can follow it. -/
  closed : Bool := false
  deriving Repr, Inhabited

namespace Scan

def awaitsValue (scan : Scan) : Bool :=
  match scan.pending with
  | some (_, none) => true
  | some (_, some _) | none => false

def accept (switch : Switch) (value : String) (scan : Scan) : Except Stop Scan :=
  if !switch.isRepeatable && (scan.given.lookup switch.name).isSome then .error .usage
  else if !switch.allows value then .error .usage
  else .ok { scan with given := (switch.name, value) :: scan.given }

def settle (scan : Scan) : Except Stop Scan :=
  match scan.pending with
  | none => .ok scan
  | some (_, none) => .error .usage
  | some (switch, some value) => { scan with pending := none }.accept switch value

def meet (switch : Switch) (attached : Option String) (scan : Scan) : Except Stop Scan :=
  match attached with
  | none => do
      let scan ← scan.settle
      match switch.use with
      | .notice notice => .error (.notice notice)
      | .flag | .counter => scan.accept switch ""
      | .path | .word _ | .text => .ok { scan with pending := some (switch, none) }
  | some value =>
      if switch.takesValue then do (← scan.settle).accept switch value else .error .usage

def nameAndValue (word : List Char) : String × Option String :=
  let name := String.ofList (word.takeWhile (· ≠ '='))
  match word.dropWhile (· ≠ '=') with
  | [] => (name, none)
  | _ :: value => (name, some (String.ofList value))

def long (known : List Switch) (word : List Char) (scan : Scan) : Except Stop Scan :=
  let (name, attached) := nameAndValue word
  match known.find? (·.name == name) with
  | some switch => scan.meet switch attached
  | none => .error .usage

/-- What directly follows a letter, as the value of its switch. -/
def attachedValue : List Char → Option String
  | [] => none
  | '=' :: value => some (String.ofList value)
  | value => some (String.ofList value)

/-- Letters behind one dash. The first that takes a value takes all that follows it. -/
def letters (known : List Switch) : List Char → Scan → Except Stop Scan
  | [], scan => .ok scan
  | letter :: rest, scan =>
      match known.find? (·.letter == some letter) with
      | none => .error .usage
      | some switch =>
          if switch.takesValue then scan.meet switch (attachedValue rest)
          else do letters known rest (← scan.meet switch none)

def operand (word : List Char) (scan : Scan) : Except Stop Scan :=
  match scan.pending with
  | some (switch, none) =>
      .ok { scan with pending := some (switch, some (String.ofList word)) }
  | some (_, some _) | none => .error .usage

def word (known : List Switch) (scan : Scan) (text : String) : Except Stop Scan :=
  if scan.closed then .error .usage
  else
    match text.toList with
    | ['-', '-'] => .ok { scan with closed := true }
    | '-' :: '-' :: rest => scan.long known rest
    | ['-'] => scan.operand ['-']
    | '-' :: rest => scan.letters known rest
    | rest => scan.operand rest

def words (known : List Switch) (scan : Scan) (texts : List String) : Except Stop Scan :=
  texts.foldlM (word known) scan

end Scan

end EnumHeader.CommandLine
