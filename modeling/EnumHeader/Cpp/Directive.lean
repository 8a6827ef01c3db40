import EnumHeader.Cpp.Layout

/-!
# Preprocessor directives

The directives that headers use, as data with their text. `Piece` mixes them with laid out code;
a directive always stands at the left margin.
-/

namespace EnumHeader.Cpp

set_option autoImplicit false

inductive Directive where
  | pragmaOnce
  /-- The argument with its brackets or quotes. -/
  | includeFile (target : String)
  | ifndef (macroName : String)
  | ifNotDefined (macroName : String)
  | ifDefined (macroName : String)
  | ifHasAttribute (attributeName : String)
  /-- Otherwise, if the macro has another value than this one. -/
  | elifNotEqual (macroName : String) (value : Nat)
  | endif
  /-- An end that says what it ends. -/
  | endifOf (macroName : String)
  /-- The name of a macro, with its parameter list if it has one, and its replacement. -/
  | define (macroName parameters replacement : String)
  | error (text : String)
  deriving Repr, DecidableEq, Inhabited

/-- A part of a line that is left out together with the blank before it when it is empty. -/
def blankBefore (text : String) : String :=
  if text.isEmpty then "" else " " ++ text

def Directive.text : Directive → String
  | .pragmaOnce => "#pragma once"
  | .includeFile target => "#include " ++ target
  | .ifndef macroName => "#ifndef " ++ macroName
  | .ifNotDefined macroName => "#if !defined(" ++ macroName ++ ")"
  | .ifDefined macroName => "#if defined(" ++ macroName ++ ")"
  | .ifHasAttribute attributeName => "#if __has_cpp_attribute(" ++ attributeName ++ ")"
  | .elifNotEqual macroName value => "#elif " ++ macroName ++ " != " ++ toString value
  | .endif => "#endif"
  | .endifOf macroName => "#endif // " ++ macroName
  | .define macroName parameters replacement =>
      "#define " ++ macroName ++ parameters ++ blankBefore replacement
  | .error text => "#error \"" ++ text ++ "\""

inductive Piece where
  | directive (content : Directive)
  | code (content : Step)
  deriving Repr, DecidableEq, Inhabited

def Piece.step : Piece → Step
  | .directive content => .line content.text
  | .code content => content

end EnumHeader.Cpp
