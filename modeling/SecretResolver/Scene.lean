import SecretResolver.Scene.FileTree

set_option autoImplicit false

namespace SecretResolver

structure Scene where
  files : FileTree := {}
  environment : List (String × ByteArray) := []
  delays : List FileTree := []
  replies : Option (List (Except String Http.Reply)) := none
  refusal : String := "nobody is there"
  requests : List Http.Request := []
  log : List Log.Entry := []

namespace Scene

-- a variable as it lies in memory, with an equals sign between its name and its value
def written (name : String) (value : List UInt8) : List UInt8 :=
  name.toUTF8.data.toList ++ '='.toUInt8 :: value

def valueIn? (sought : String) : String × ByteArray → Option ByteArray
  | (name, value) =>
    let bytes := written name value.data.toList
    let start := written sought []
    if start.isPrefixOf bytes then some (bytes.drop start.length).toByteArray else none

-- the name `A=B` finds what comes after `B=` in the value of `A`
def valueOf? (s : Scene) (name : String) : Option ByteArray :=
  if name = "" ∨ '\x00' ∈ name.toList then none else s.environment.findSome? (valueIn? name)

def unsetVariable (s : Scene) (name : String) : Scene :=
  { s with environment := s.environment.filter (·.1 != name) }

def setVariable (s : Scene) (name : String) (value : ByteArray) : Scene :=
  { s with environment := (name, value) :: (s.unsetVariable name).environment }

def exhausted : Http.Reply where
  status := 500
  body := .whole []

def exchange (request : Http.Request) (s : Scene) : Except String Http.Reply × Scene :=
  match s.replies with
  | none => (.error s.refusal, s)
  | some [] => (.ok exhausted, { s with requests := s.requests ++ [request] })
  | some (reply :: replies) =>
    (reply, { s with replies := some replies, requests := s.requests ++ [request] })

def sleep (s : Scene) : Scene :=
  match s.delays with
  | [] => s
  | files :: delays => { s with files, delays }

instance : Host (StateM Scene) where
  write entry := modify fun s => { s with log := s.log ++ [entry] }
  fileContent path := do return (← get).files.read path
  environmentValue name := do return (← get).valueOf? name
  exchange request := modifyGet (exchange request)
  sleep _ := modify sleep

end Scene

end SecretResolver
