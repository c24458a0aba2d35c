set_option autoImplicit false

-- Numbers as configuration documents write them.

namespace SecretResolver.Toml.Number

def digit? (base : Nat) (c : Char) : Option Nat :=
  let d :=
    if '0' ≤ c ∧ c ≤ '9' then some (c.toNat - '0'.toNat)
    else if 'a' ≤ c ∧ c ≤ 'z' then some (c.toNat - 'a'.toNat + 10)
    else if 'A' ≤ c ∧ c ≤ 'Z' then some (c.toNat - 'A'.toNat + 10)
    else none
  d.filter (· < base)

def digits? (base : Nat) : List Char → Option (List Nat)
  | [] => none
  | [c] => (digit? base c).map ([·])
  | c :: '_' :: cs => do
    let d ← digit? base c
    (digits? base cs).map (d :: ·)
  | c :: cs => do
    let d ← digit? base c
    (digits? base cs).map (d :: ·)

def ofDigits (base : Nat) (ds : List Nat) : Nat :=
  ds.foldl (fun n d => base * n + d) 0

-- no zero before another digit
def wholeDigits? (cs : List Char) : Option (List Nat) :=
  match digits? 10 cs with
  | some (0 :: _ :: _) => none
  | ds => ds

def splitSign : List Char → Bool × List Char
  | '-' :: cs => (true, cs)
  | '+' :: cs => (false, cs)
  | cs => (false, cs)

def signed (negative : Bool) (n : Nat) : Int :=
  if negative then -(n : Int) else n

def unsized? : List Char → Option Int
  | '0' :: 'x' :: cs => (digits? 16 cs).map fun ds => (ofDigits 16 ds : Int)
  | '0' :: 'o' :: cs => (digits? 8 cs).map fun ds => (ofDigits 8 ds : Int)
  | '0' :: 'b' :: cs => (digits? 2 cs).map fun ds => (ofDigits 2 ds : Int)
  | cs =>
    let (negative, cs) := splitSign cs
    (wholeDigits? cs).map fun ds => signed negative (ofDigits 10 ds)

def fits (bits : Nat) : Int → Bool
  | .ofNat n => n < 1 <<< bits
  | .negSucc n => n < 1 <<< (bits - 1)

def integer? (cs : List Char) : Option Int :=
  (unsized? cs).filter (fits 128)

def splitAt (p : Char → Bool) (cs : List Char) : List Char × Option (List Char) :=
  (cs.takeWhile fun c => !p c, (cs.dropWhile fun c => !p c).tail?)

def exponent? (cs : List Char) : Option Int :=
  let (negative, cs) := splitSign cs
  (digits? 10 cs).map fun ds => signed negative (ofDigits 10 ds)

-- whether a decimal fraction lies below the largest double and half a step
def isFinite (digits : List Nat) (exponent : Int) : Bool :=
  let digits := digits.dropWhile (· == 0)
  let places := digits.length + exponent
  let n := ofDigits 10 digits
  let bound := 1 <<< 1024 - 1 <<< 970
  if digits = [] ∨ places < 309 then true
  else if 309 < places then false
  else
    match exponent with
    | .ofNat e => n * Nat.pow 10 e < bound
    | .negSucc e => n < bound * Nat.pow 10 (e + 1)

def isDecimal (cs : List Char) : Bool :=
  let (mantissa, exponent) := splitAt (fun c => c == 'e' || c == 'E') (splitSign cs).2
  let (whole, fraction) := splitAt (· == '.') mantissa
  let parts : Option (List Nat × Int) := do
    let whole ← wholeDigits? whole
    let fraction ← match fraction with
      | some fraction => digits? 10 fraction
      | none => some []
    let exponent ← match exponent with
      | some exponent => exponent? exponent
      | none => some 0
    some (whole ++ fraction, exponent - fraction.length)
  match parts with
  | some (digits, shift) => (fraction.isSome || exponent.isSome) && isFinite digits shift
  | none => false

def isFloat (cs : List Char) : Bool :=
  match (splitSign cs).2 with
  | ['i', 'n', 'f'] => true
  | ['n', 'a', 'n'] => true
  | _ => isDecimal cs

end SecretResolver.Toml.Number
