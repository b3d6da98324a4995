import AlloyGrade.Json.Basic
import AlloyGrade.Log.Event

/-! Log lines, for people and for programs. -/

namespace AlloyGrade

/-- The level with blanks in front, to a width of five. -/
def Level.padded (l : Level) : String :=
  "".pushn ' ' (5 - l.label.length) ++ l.label

namespace FieldValue

def shown : FieldValue → String
  | .text s => s
  | .int n => toString n
  | .flag b => if b then "true" else "false"

def toJson : FieldValue → Json
  | .text s => .str s
  | .int n => .int n
  | .flag b => .bool b

end FieldValue

namespace Event

/-- Level, message and fields; the values are written as they are. -/
def textLine (e : Event) : String :=
  e.level.padded ++ " " ++ e.message ++
    String.join (e.fields.map fun (name, value) => " " ++ name ++ "=" ++ value.shown) ++ "\n"

/-- One JSON document on a line, the message first among the fields. -/
def jsonLine (e : Event) : String :=
  (Json.obj [("level", .str e.level.label),
    ("fields", .obj (("message", .str e.message) :: e.fields.map fun (name, value) => (name, value.toJson)))]).compact ++
    "\n"

end Event

end AlloyGrade
