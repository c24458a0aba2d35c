set_option autoImplicit false

-- The part of a web address that names the server: who asks, a host and a port, of which the host
-- has to be there. An address of version six stands in brackets.

namespace SecretResolver.Http.Authority

-- what has been read: the brackets, and the colons and percent signs that the host or the port
-- would have. An at sign shows that all before it was neither.
structure Progress where
  colons : Nat := 0
  percent : Bool := false
  opened : Bool := false
  closed : Bool := false
  deriving DecidableEq, Repr

def maxColons : Nat := 8

def isPlain (c : Char) : Bool :=
  c.isAlphanum || "-._~!$&'()*+,;=".toList.contains c

def step (p : Progress) (c : Char) : Option Progress :=
  if c = ':' then
    if p.colons < maxColons then some { p with colons := p.colons + 1 } else none
  else if c = '%' then some { p with percent := true }
  else if c = '@' then some { p with colons := 0, percent := false }
  else if c = '[' then
    if p.percent ∨ p.opened then none else some { p with opened := true }
  else if c = ']' then
    if p.opened ∧ ¬p.closed then some { p with colons := 0, percent := false, closed := true }
    else none
  else if isPlain c then some p
  else none

def Progress.isComplete (p : Progress) : Bool :=
  p.colons ≤ 1 && !p.percent && p.opened == p.closed

-- the first character after the last at sign
def hostStart? (cs : List Char) : Option Char :=
  (cs.reverse.takeWhile (· != '@')).getLast?

def isWellFormed (cs : List Char) : Bool :=
  (cs.foldlM step {}).any Progress.isComplete && (hostStart? cs).any (· != ':')

end SecretResolver.Http.Authority
