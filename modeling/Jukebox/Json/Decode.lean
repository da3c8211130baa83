import Jukebox.Json.Number
import Jukebox.Json.Reader

/-!
# Records in JSON

Reading the parts of a record out of a document. A record is written as an object, whose fields may come
in any order among others that do not count, or as an array of the values of all fields in order.

## Main definitions

* `Jukebox.Json.fields?`: the values of the fields of a record.
* `Jukebox.Json.required?`, `Jukebox.Json.optional?`: the meaning of a field.
* `Jukebox.Json.text?`, `Jukebox.Json.flag?`, `Jukebox.Json.whole?`, `Jukebox.Json.list?`: the meaning of
  a value.
-/

namespace Jukebox.Json

def text? : Json → Option String
  | .string spelling => unescape? spelling
  | _ => none

/-- A truth value. -/
def flag? : Json → Option Bool
  | .bool b => some b
  | _ => none

/-- A whole number from zero to `bound`. -/
def whole? (bound : Nat) : Json → Option Nat
  | .number literal => unsigned? bound literal
  | _ => none

/-- A floating-point number. -/
def real? : Json → Option Float
  | .number literal => float? literal
  | _ => none

/-- A list of values. -/
def list? {α : Type} (read : Json → Option α) : Json → Option (List α)
  | .array items => items.mapM read
  | _ => none

/-- The fields of an object by their names, the names being readable. -/
def named? (fields : List (Bytes × Json)) : Option (List (String × Json)) :=
  fields.mapM fun (name, value) => (unescape? name).map (·, value)

/-- The values of the named fields of a record, in the order of the names. A field may be missing but
not occur twice. -/
def fields? (names : List String) : Json → Option (List (Option Json))
  | .object fields => do
    let fields ← named? fields
    let known := fields.filter fun field => names.contains field.1
    if known.all fun field => (known.countP fun other => other.1 == field.1) = 1 then
      some (names.map fun name => known.lookup name)
    else none
  | .array items => if items.length = names.length then some (items.map some) else none
  | _ => none

/-- The meaning of a field that has to be there. -/
def required? {α : Type} (read : Json → Option α) (field : Option Json) : Option α :=
  field >>= read

/-- The meaning of a field that may be missing or null. -/
def optional? {α : Type} (read : Json → Option α) : Option Json → Option (Option α)
  | none | some .null => some none
  | some j => (read j).map some

end Jukebox.Json
