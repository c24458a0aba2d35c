import SecretResolver.Toml.Value

set_option autoImplicit false

-- Whole documents: headers and entries, line by line.

namespace SecretResolver.Toml

structure Header where
  repeated : Bool
  path : List String
  deriving DecidableEq, Repr

inductive Statement where
  | empty
  | header (h : Header)
  | entry (path : List String) (value : Value)

namespace Statement

def dropBlanks (tokens : List Token) : List Token :=
  tokens.dropWhile (· == .blank)

def withoutBlanks (tokens : List Token) : List Token :=
  tokens.filter (· != .blank)

-- the brackets of a double one stand side by side
def headerOf? : List Token → Option Header
  | .openBracket :: .openBracket :: rest =>
    match (dropBlanks rest.reverse) with
    | .closeBracket :: .closeBracket :: name => do
      some ⟨true, ← path? (withoutBlanks name.reverse)⟩
    | _ => none
  | .openBracket :: rest =>
    match (dropBlanks rest.reverse) with
    | .closeBracket :: name => do some ⟨false, ← path? (withoutBlanks name.reverse)⟩
    | _ => none
  | _ => none

def ofTokens? (tokens : List Token) : Option Statement :=
  match dropBlanks tokens with
  | [] => some empty
  | .openBracket :: rest => (headerOf? (.openBracket :: rest)).map header
  | rest => do
    let tokens := withoutBlanks rest
    let path ← path? (tokens.takeWhile (· != .equals))
    let value ← Value.ofTokens? (tokens.dropWhile (· != .equals)).tail
    some (entry path value)

end Statement

-- line breaks inside of brackets end no statement
def splitStatements : (depth : Nat) → List Token → List (List Token)
  | _, [] => [[]]
  | 0, .lineBreak :: tokens => [] :: splitStatements 0 tokens
  | depth, token :: tokens =>
    let inner := match token with
      | .openBracket | .openBrace => depth + 1
      | .closeBracket | .closeBrace => depth - 1
      | _ => depth
    match splitStatements inner tokens with
    | first :: others => (token :: first) :: others
    | [] => [[token]]

namespace Entries

-- changes the entries that a header's path leads to. Tables on the way are made if there are none;
-- of an array of tables it is the last.
def within (f : Entries → Option Entries) : (path : List String) → Entries → Option Entries
  | [], entries => f entries
  | name :: path, entries =>
    alter name (fun
      | none => (within f path []).map (.table .implied)
      | some (.table .braces _) => none
      | some (.table origin inner) => (within f path inner).map (.table origin)
      | some (.tables before last) => (within f path last).map (.tables before)
      | some _ => none) entries

def openTable (name : String) : Entries → Option Entries :=
  alter name fun
    | none => some (.table .header [])
    | some (.table .implied inner) => some (.table .header inner)
    | some _ => none

def addTable (name : String) : Entries → Option Entries :=
  alter name fun
    | none => some (.tables [] [])
    | some (.tables before last) => some (.tables (before ++ [last]) [])
    | some _ => none

end Entries

structure Document where
  root : Entries
  current : List String

namespace Document

def add (d : Document) : Statement → Option Document
  | .empty => some d
  | .header h => do
    let name ← h.path.getLast?
    let place := if h.repeated then Entries.addTable name else Entries.openTable name
    some { root := ← Entries.within place h.path.dropLast d.root, current := h.path }
  | .entry path value => do
    some { d with root := ← Entries.within (Entries.set value path) d.current d.root }

def withoutByteOrderMark : List Char → List Char
  | '\uFEFF' :: cs => cs
  | cs => cs

def read (text : String) : Option Entries := do
  let tokens ← Token.scan (withoutByteOrderMark text.toList)
  let statements ← (splitStatements 0 tokens).mapM Statement.ofTokens?
  let document ← statements.foldlM add ⟨[], []⟩
  some document.root

end Document

end SecretResolver.Toml
