import SchemaValidation.Text.Escape
import SchemaValidation.Value.Coercion
import SchemaValidation.Value.Json

/-!
# Texts of values

The text of a value for readers is its data text, with words of their own for
absence and for callables. The diagnostic text names every constructor.
-/

namespace SchemaValidation

/-- The text of a callable. -/
def Callable.display (callable : Callable) : String :=
  "[function " ++ callable.name ++ "]"

/-- Texts with a separator between. -/
def commaSeparated (texts : List String) : String :=
  ", ".intercalate texts

namespace Value

/-- The text of a value for readers. -/
def display : Value → String
  | undefined => "undefined"
  | function callable => callable.display
  | value => value.toJson.render

/-- The text of a value as the subject of a text rule: the name it stands for, or its text for
readers where it stands for none. -/
def subjectText (value : Value) : String :=
  value.keyText?.getD value.display

mutual

/-- The diagnostic text of a value. -/
def diagnostic : Value → String
  | undefined => "Undefined"
  | null => "Null"
  | boolean holds => "Bool(" ++ truthWord holds ++ ")"
  | number x => "Number(" ++ x.diagnosticText ++ ")"
  | string text => "String(" ++ Text.escaped text ++ ")"
  | array items => "Array([" ++ commaSeparated (itemDiagnostics items) ++ "])"
  | object className members =>
      "Object(" ++ (match className with | some name => name ++ " " | none => "") ++
        "\x7b" ++ commaSeparated (memberDiagnostics members) ++ "\x7d)"
  | function callable => "Function(" ++ callable.display ++ ")"

/-- The diagnostic texts of items. -/
def itemDiagnostics : List Value → List String
  | [] => []
  | item :: rest => diagnostic item :: itemDiagnostics rest

/-- The diagnostic texts of members. -/
def memberDiagnostics : List (String × Value) → List String
  | [] => []
  | (key, item) :: rest =>
      (Text.escaped key ++ ": " ++ diagnostic item) :: memberDiagnostics rest

end

end Value

end SchemaValidation
