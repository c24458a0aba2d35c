import SecretResolver.Json.Token

set_option autoImplicit false

namespace SecretResolver.Json

-- a document as it is written: texts are not spelled out, numbers not valued, and a name may come
-- twice in one object
inductive Tree where
  | null
  | bool (b : Bool)
  | number (n : Numeral)
  | text (items : List TextItem)
  | array (items : List Tree)
  | object (members : List (List TextItem × Tree))

namespace Tree

inductive Frame where
  | array (done : List Tree)
  | object (done : List (List TextItem × Tree))
  | member (done : List (List TextItem × Tree)) (name : List TextItem)

inductive Place where
  | value
  | firstItem
  | firstName
  | name
  | colon
  | separator
  deriving DecidableEq, Repr

inductive State where
  | inside (place : Place) (frames : List Frame)
  | finished (tree : Tree)

-- a value is complete: it goes into the innermost frame, or it is the document
def complete (tree : Tree) : List Frame → Option State
  | [] => some (.finished tree)
  | .array done :: frames => some (.inside .separator (.array (tree :: done) :: frames))
  | .member done name :: frames =>
      some (.inside .separator (.object ((name, tree) :: done) :: frames))
  | .object _ :: _ => none

def beginValue (token : Token) (frames : List Frame) : Option State :=
  match token with
  | .null => complete null frames
  | .bool b => complete (bool b) frames
  | .number n => complete (number n) frames
  | .text items => complete (text items) frames
  | .openBracket => some (.inside .firstItem (.array [] :: frames))
  | .openBrace => some (.inside .firstName (.object [] :: frames))
  | _ => none

def step : State → Token → Option State
  | .inside .value frames, token => beginValue token frames
  | .inside .firstItem (.array [] :: frames), .closeBracket => complete (array []) frames
  | .inside .firstItem frames, token => beginValue token frames
  | .inside .firstName (.object [] :: frames), .closeBrace => complete (object []) frames
  | .inside .firstName (.object done :: frames), .text name =>
      some (.inside .colon (.member done name :: frames))
  | .inside .name (.object done :: frames), .text name =>
      some (.inside .colon (.member done name :: frames))
  | .inside .colon frames, .colon => some (.inside .value frames)
  | .inside .separator (.array done :: frames), .comma =>
      some (.inside .value (.array done :: frames))
  | .inside .separator (.array done :: frames), .closeBracket =>
      complete (array done.reverse) frames
  | .inside .separator (.object done :: frames), .comma =>
      some (.inside .name (.object done :: frames))
  | .inside .separator (.object done :: frames), .closeBrace =>
      complete (object done.reverse) frames
  | _, _ => none

def ofTokens? (tokens : List Token) : Option Tree := do
  match ← tokens.foldlM step (.inside .value []) with
  | .finished tree => some tree
  | .inside _ _ => none

def parse (bytes : List UInt8) : Option Tree := do
  ofTokens? (← Token.scan bytes)

end Tree

end SecretResolver.Json
