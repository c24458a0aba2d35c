set_option autoImplicit false

-- How a record is written down: by name, or as a list in the order of its fields.

namespace SecretResolver

inductive Record (α : Type) where
  | named (entries : List (String × α))
  | listed (items : List α)

-- a field of a record; `trailing` says that a list may end before it
structure Record.Field where
  name : String
  trailing : Bool := false

namespace Record

variable {α : Type}

-- the one entry of that name, if any; two are refused
def only? (name : String) (entries : List (String × α)) : Option (Option α) :=
  match entries.filter (·.1 == name) with
  | [] => some none
  | [(_, value)] => some (some value)
  | _ => none

def zipFields : List Field → List α → Option (List (Option α))
  | [], [] => some []
  | [], _ :: _ => none
  | _ :: fields, item :: items => (zipFields fields items).map (some item :: ·)
  | field :: fields, [] => if field.trailing then (zipFields fields []).map (none :: ·) else none

def arrange (fields : List Field) : Record α → Option (List (Option α))
  | named entries => fields.mapM fun field => only? field.name entries
  | listed items => zipFields fields items

end Record

end SecretResolver
