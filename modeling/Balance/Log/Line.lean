import Balance.Log.Record
import Balance.Text.Json

/-!
The two forms of a log line. A readable line names level, target, message and
values; a JSON line is an object with the values beside the message.
-/

namespace Balance.Log

namespace Value

/-- A text is quoted, everything else stands as it is. -/
def readable : Value → String
  | text value => Text.quoted value
  | value => value.plain

def toJson : Value → Json
  | text value | shown value => .text value
  | number value => .number value
  | flag value => .flag value

end Value

namespace Record

def readable (record : Record) : String :=
  record.level.name ++ " " ++ record.target ++ ": " ++
    " ".intercalate (record.message ::
      record.fields.map fun (name, value) => name ++ "=" ++ value.readable)

def toJson (record : Record) : Json :=
  .object [
    ("level", .text record.level.name),
    ("fields", .object (("message", .text record.message) ::
      record.fields.map fun (name, value) => (name, value.toJson))),
    ("target", .text record.target)]

def line (json : Bool) (record : Record) : String :=
  if json then record.toJson.compact else record.readable

end Record

end Balance.Log
