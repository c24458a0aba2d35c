import SecretResolver.Toml.Token

set_option autoImplicit false

namespace SecretResolver.Toml

inductive Origin where
  | header
  | implied
  | dotted
  | braces
  deriving DecidableEq, Repr

inductive Value where
  | text (s : String)
  | integer (n : Int)
  | float (written : List Char)
  | boolean (b : Bool)
  | moment (written : List Char)
  | array (items : List Value)
  | table (origin : Origin) (entries : List (String × Value))
  | tables (before : List (List (String × Value))) (last : List (String × Value))

abbrev Entries := List (String × Value)

-- how deep brackets may stand in one another, and how many parts a name may have
def maxDepth : Nat := 80

-- the path of a name

def dotted : List Char → List (Option (List Char))
  | [] => []
  | '.' :: cs => none :: dotted cs
  | c :: cs =>
    match dotted cs with
    | some name :: parts => some (c :: name) :: parts
    | parts => some [c] :: parts

def isBareNameChar (c : Char) : Bool :=
  c.isAlphanum || c == '_' || c == '-'

-- names and the dots between them
def nameParts? : Token → Option (List (Option String))
  | .line cs => some [some (String.ofList cs)]
  | .word cs =>
    if cs.all fun c => isBareNameChar c || c == '.' then
      some ((dotted cs).map (·.map String.ofList))
    else none
  | _ => none

def alternating? : List (Option String) → Option (List String)
  | [some name] => some [name]
  | some name :: none :: parts => (alternating? parts).map (name :: ·)
  | _ => none

def path? (tokens : List Token) : Option (List String) := do
  let path ← alternating? (← tokens.mapM nameParts?).flatten
  if path.length ≤ maxDepth then some path else none

namespace Entries

def alter (name : String) (f : Option Value → Option Value) : Entries → Option Entries
  | [] => (f none).map fun value => [(name, value)]
  | (n, old) :: entries =>
    if n = name then (f (some old)).map fun value => (n, value) :: entries
    else (alter name f entries).map ((n, old) :: ·)

-- sets a name, dotted or not. The tables on its way are new or were made in this way, too; only the
-- last of them has to be.
def set (value : Value) : (path : List String) → Entries → Option Entries
  | [], _ => none
  | [name], entries => alter name (fun old => if old.isSome then none else some value) entries
  | name :: next :: path, entries =>
    alter name (fun
      | none => (set value (next :: path) []).map (.table .dotted)
      | some (.table .dotted inner) => (set value (next :: path) inner).map (.table .dotted)
      | some (.table .implied inner) =>
        if path = [] then none else (set value (next :: path) inner).map (.table .implied)
      | some (.tables before last) =>
        if path = [] then none else (set value (next :: path) last).map (.tables before)
      | some _ => none) entries

end Entries

namespace Value

def ofWord? (cs : List Char) : Option Value :=
  if cs = ['t', 'r', 'u', 'e'] then some (boolean true)
  else if cs = ['f', 'a', 'l', 's', 'e'] then some (boolean false)
  else
    match Number.integer? cs with
    | some n => some (integer n)
    | none =>
      if Number.isFloat cs then some (float cs)
      else if Moment.isMoment cs then some (moment cs)
      else none

inductive Frame where
  | array (done : List Value)
  | table (done : Entries)
  | entry (done : Entries) (path : List String)

inductive Place where
  | value
  | item
  | name (read : List Token)
  | equals (path : List String)
  | separator

inductive State where
  | inside (place : Place) (frames : List Frame)
  | finished (value : Value)

-- a value is complete: it goes where the innermost frame wants it
def complete (v : Value) : List Frame → Option State
  | [] => some (.finished v)
  | .array done :: frames => some (.inside .separator (.array (v :: done) :: frames))
  | .entry done path :: frames => do
    some (.inside .separator (.table (← Entries.set v path done) :: frames))
  | .table _ :: _ => none

def openFrame (frame : Frame) (place : Place) (frames : List Frame) : Option State :=
  if frames.length < maxDepth then some (.inside place (frame :: frames)) else none

def beginValue (token : Token) (frames : List Frame) : Option State :=
  match token with
  | .line cs => complete (text (String.ofList cs)) frames
  | .lines cs => complete (text (String.ofList cs)) frames
  | .word cs => do complete (← ofWord? cs) frames
  | .openBracket => openFrame (.array []) .item frames
  | .openBrace => openFrame (.table []) (.name []) frames
  | _ => none

-- inside of brackets a line may break anywhere but within a name
def step : State → Token → Option State
  | .inside .value (frame :: frames), .lineBreak => some (.inside .value (frame :: frames))
  | .inside .item frames, .lineBreak => some (.inside .item frames)
  | .inside (.name []) frames, .lineBreak => some (.inside (.name []) frames)
  | .inside (.name read) frames, .lineBreak => do
    some (.inside (.equals (← path? read.reverse)) frames)
  | .inside (.equals path) frames, .lineBreak => some (.inside (.equals path) frames)
  | .inside .separator frames, .lineBreak => some (.inside .separator frames)
  | .inside .value frames, token => beginValue token frames
  | .inside .item (.array done :: frames), .closeBracket => complete (array done.reverse) frames
  | .inside .item frames, token => beginValue token frames
  | .inside (.name []) (.table done :: frames), .closeBrace => complete (table .braces done) frames
  | .inside (.name read) (.table done :: frames), .equals => do
    some (.inside .value (.entry done (← path? read.reverse) :: frames))
  | .inside (.equals path) (.table done :: frames), .equals =>
    some (.inside .value (.entry done path :: frames))
  | .inside (.name read) frames, token => some (.inside (.name (token :: read)) frames)
  | .inside .separator (.array done :: frames), .comma =>
    some (.inside .item (.array done :: frames))
  | .inside .separator (.array done :: frames), .closeBracket =>
    complete (array done.reverse) frames
  | .inside .separator (.table done :: frames), .comma =>
    some (.inside (.name []) (.table done :: frames))
  | .inside .separator (.table done :: frames), .closeBrace => complete (table .braces done) frames
  | _, _ => none

def ofTokens? (tokens : List Token) : Option Value := do
  match ← tokens.foldlM step (.inside .value []) with
  | .finished v => some v
  | .inside _ _ => none

end Value

end SecretResolver.Toml
