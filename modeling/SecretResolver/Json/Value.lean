import SecretResolver.Json.Tree
import SecretResolver.Record

set_option autoImplicit false

namespace SecretResolver

-- free-form data. Of several members of one name the last counts.
inductive Json where
  | null
  | bool (b : Bool)
  | number (n : Json.Number)
  | string (s : String)
  | array (items : List Json)
  | object (members : List (String × Json))

namespace Json

def lastOf {α : Type} (name : String) (members : List (String × α)) : Option α :=
  members.foldl (fun found (n, value) => if n = name then some value else found) none

theorem lastOf_append {α : Type} (name : String) (members : List (String × α)) (n : String)
    (value : α) : lastOf name (members ++ [(n, value)]) =
      if n = name then some value else lastOf name members := by
  simp [lastOf]

def get? (name : String) : Json → Option Json
  | object members => lastOf name members
  | _ => none

namespace Tree

mutual

def value? : Nat → Tree → Option Json
  | _, .null => some .null
  | _, .bool b => some (.bool b)
  | _, .number n => n.number?.map .number
  | _, .text items => (TextItem.string? items).map .string
  | 0, .array _ => none
  | 0, .object _ => none
  | depth + 1, .array items => (values? depth items).map .array
  | depth + 1, .object members => (memberValues? depth members).map .object

def values? : Nat → List Tree → Option (List Json)
  | _, [] => some []
  | depth, item :: items => do
    let item ← value? depth item
    let items ← values? depth items
    some (item :: items)

def memberValues? : Nat → List (List TextItem × Tree) → Option (List (String × Json))
  | _, [] => some []
  | depth, (name, value) :: members => do
    let name ← TextItem.string? name
    let value ← value? depth value
    let members ← memberValues? depth members
    some ((name, value) :: members)

end

def string? : Tree → Option String
  | .text items => TextItem.string? items
  | _ => none

def items? : Tree → Option (List Tree)
  | .array items => some items
  | _ => none

def members? : Tree → Option (List (String × Tree))
  | .object members => members.mapM fun (name, value) => do some (← TextItem.string? name, value)
  | _ => none

def record? : Tree → Option (Record Tree)
  | .array items => some (.listed items)
  | tree => (members? tree).map .named

def optional? {α : Type} (read : Tree → Option α) : Option Tree → Option (Option α)
  | none => some none
  | some .null => some none
  | some tree => (read tree).map some

end Tree

end Json

end SecretResolver
