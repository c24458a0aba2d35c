import SecretResolver.Host

set_option autoImplicit false

namespace SecretResolver

inductive FileTree.Node where
  | directory
  | file (content : ByteArray)

-- places are named from the root on
structure FileTree where
  working : List String := []
  nodes : List (List String × FileTree.Node) := []

namespace FileTree

def splitPath : List Char → List (List Char)
  | [] => [[]]
  | c :: cs =>
    if c = '/' then [] :: splitPath cs
    else
      match splitPath cs with
      | name :: names => (c :: name) :: names
      | [] => [[c]]

def components (path : String) : List String :=
  (splitPath path.toList).map String.ofList

def node? (t : FileTree) (place : List String) : Option Node :=
  if place.isPrefixOf t.working then some .directory
  else (t.nodes.find? (·.1 == place)).map (·.2)

def walk (t : FileTree) : (place names : List String) → Except FileFault (List String)
  | place, [] => .ok place
  | place, name :: names =>
    if name = "" ∨ name = "." then walk t place names
    else if name = ".." then walk t place.dropLast names
    else if 255 < name.utf8ByteSize then .error .nameTooLong
    else
      match t.node? (place ++ [name]) with
      | none => .error .missing
      | some (.file _) => .error .notDirectory
      | some .directory => walk t (place ++ [name]) names

def start (t : FileTree) (path : String) : List String :=
  if path.toList.head? = some '/' then [] else t.working

-- where the file of a path is, or would be
def place (t : FileTree) (path : String) : Except FileFault (List String) :=
  if '\x00' ∈ path.toList then .error .nulInName
  else if path = "" then .error .missing
  else if 4096 ≤ path.utf8ByteSize then .error .nameTooLong
  else do
    let names := components path
    let directory ← t.walk (t.start path) names.dropLast
    let name := names.getLast?.getD ""
    if name = "" ∨ name = "." ∨ name = ".." then .error .isDirectory
    else if 255 < name.utf8ByteSize then .error .nameTooLong
    else .ok (directory ++ [name])

def read (t : FileTree) (path : String) : Except FileFault ByteArray := do
  match t.node? (← t.place path) with
  | none => .error .missing
  | some .directory => .error .isDirectory
  | some (.file content) => .ok content

def removeAt (t : FileTree) (place : List String) : FileTree :=
  { t with nodes := t.nodes.filter (·.1 != place) }

def putAt (t : FileTree) (place : List String) (node : Node) : FileTree :=
  { t with nodes := (place, node) :: (t.removeAt place).nodes }

def remove (t : FileTree) (path : String) : FileTree :=
  match t.place path with
  | .ok place => t.removeAt place
  | .error _ => t

def put (t : FileTree) (path : String) (node : Node) : FileTree :=
  match t.place path with
  | .ok place => t.putAt place node
  | .error _ => t

end FileTree

end SecretResolver
