import FieldSeal.Error
import FieldSeal.Json.Printer
import FieldSeal.Json.Reader

/-!
# Names in messages

A suite is written as its code. A kind of sensitive values is written as its name, and is also read
from an object whose only member has this name and no value.
-/

namespace FieldSeal

open Json

def Suite.write (suite : Suite) : String := quote suite.code

/-- The suite that a text denotes. -/
def Suite.ofText? (text : String) : Option Suite :=
  (readAll Reader.string text).toOption.bind Suite.ofCode?

namespace SensitiveKind

def write (kind : SensitiveKind) : String := quote kind.name

/-- The kind that a text denotes. -/
def ofText? (text : String) : Option SensitiveKind :=
  match tokens text with
  | [.string (some name)] => ofName? name
  | [.openObject, .string (some name), .colon, .null, .closeObject] => ofName? name
  | _ => none

end SensitiveKind

end FieldSeal
