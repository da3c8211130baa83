import Jukebox.Json.Token

/-!
# Reading JSON

The document that a text spells. Arrays and objects may be nested to any depth, so the reader keeps the
ones that are open on a stack of its own.

## Main definitions

* `Jukebox.Json.Frame`: an array or object that is still open.
* `Jukebox.Json.parse?`: the document of a text.
-/

namespace Jukebox.Json

/-- An array or object that is still open. What it holds so far comes backwards; an object waits for the
value of a field. -/
inductive Frame where
  | array (items : List Json)
  | object (fields : List (Bytes × Json)) (name : Bytes)

/-- What may come next. -/
inductive Expect where
  /-- A value, or the end of an array that is still empty. -/
  | value (mayClose : Bool)
  /-- The name of a field, or the end of an object that is still empty. -/
  | name (mayClose : Bool) (fields : List (Bytes × Json))
  /-- The colon behind the name of a field. -/
  | colon (fields : List (Bytes × Json)) (name : Bytes)
  /-- A comma or an end behind a value. -/
  | more (value : Json)

/-- Reads the tokens of a document. -/
def build? : Expect → List Frame → List Token → Option Json
  | .more value, [], [] => some value
  | _, _, [] => none
  | .value mayClose, stack, token :: tokens =>
    match token, stack with
    | .scalar value, _ => build? (.more value) stack tokens
    | .openArray, _ => build? (.value true) (.array [] :: stack) tokens
    | .openObject, _ => build? (.name true []) stack tokens
    | .closeArray, .array _ :: stack => if mayClose then build? (.more (.array [])) stack tokens else none
    | _, _ => none
  | .name mayClose fields, stack, token :: tokens =>
    match token with
    | .scalar (.string name) => build? (.colon fields name) stack tokens
    | .closeObject => if mayClose then build? (.more (.object [])) stack tokens else none
    | _ => none
  | .colon fields name, stack, token :: tokens =>
    match token with
    | .colon => build? (.value false) (.object fields name :: stack) tokens
    | _ => none
  | .more value, stack, token :: tokens =>
    match token, stack with
    | .comma, .array items :: stack => build? (.value false) (.array (value :: items) :: stack) tokens
    | .closeArray, .array items :: stack =>
      build? (.more (.array (value :: items).reverse)) stack tokens
    | .comma, .object fields name :: stack =>
      build? (.name false ((name, value) :: fields)) stack tokens
    | .closeObject, .object fields name :: stack =>
      build? (.more (.object ((name, value) :: fields).reverse)) stack tokens
    | _, _ => none

/-- The document of a text. -/
def parse? (bytes : Bytes) : Option Json := do
  build? (.value false) [] (← scan? bytes)

end Jukebox.Json
