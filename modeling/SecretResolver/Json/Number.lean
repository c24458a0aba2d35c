set_option autoImplicit false

namespace SecretResolver.Json

structure Numeral where
  negative : Bool
  whole : List Nat
  fraction : List Nat
  exponent : Option Int
  deriving DecidableEq, Repr

-- a number as it is kept. Whole numbers of one word are exact; others are a significand of one word
-- and a power of ten.
inductive Number where
  | integer (n : Int)
  | decimal (significand exponent : Int)
  deriving DecidableEq, Repr

namespace Numeral

def digit? (c : Char) : Option Nat :=
  if c.isDigit then some (c.toNat - '0'.toNat) else none

def takeDigits : List Char → List Nat × List Char
  | [] => ([], [])
  | c :: cs =>
    match digit? c with
    | some d => let (ds, rest) := takeDigits cs; (d :: ds, rest)
    | none => ([], c :: cs)

def ofDigits (ds : List Nat) : Nat :=
  ds.foldl (fun n d => 10 * n + d) 0

-- at least one digit, and no zero before another digit
def readWhole (cs : List Char) : Option (List Nat × List Char) :=
  match takeDigits cs with
  | ([], _) => none
  | (0 :: _ :: _, _) => none
  | (ds, rest) => some (ds, rest)

def readFraction : List Char → Option (List Nat × List Char)
  | '.' :: cs =>
    match takeDigits cs with
    | ([], _) => none
    | (ds, rest) => some (ds, rest)
  | cs => some ([], cs)

def readSigned : List Char → Option Int
  | '-' :: cs => magnitude cs |>.map fun n => -(n : Int)
  | '+' :: cs => magnitude cs |>.map fun n => (n : Int)
  | cs => magnitude cs |>.map fun n => (n : Int)
where
  magnitude (cs : List Char) : Option Nat :=
    match takeDigits cs with
    | ([], _) => none
    | (ds, []) => some (ofDigits ds)
    | (_, _ :: _) => none

def readExponent : List Char → Option (Option Int)
  | [] => some none
  | c :: cs => if c = 'e' ∨ c = 'E' then (readSigned cs).map some else none

def read (cs : List Char) : Option Numeral := do
  let (negative, cs) := match cs with
    | '-' :: rest => (true, rest)
    | _ => (false, cs)
  let (whole, cs) ← readWhole cs
  let (fraction, cs) ← readFraction cs
  let exponent ← readExponent cs
  some { negative, whole, fraction, exponent }

def absorb (significand : Nat) : List Nat → Nat × Nat
  | [] => (significand, 0)
  | d :: ds =>
    let next := 10 * significand + d
    if next < 1 <<< 64 then
      let (s, taken) := absorb next ds
      (s, taken + 1)
    else (significand, 0)

def roundToDouble (n : Nat) : Nat :=
  if n < 1 <<< 53 then n
  else
    let shift := n.log2 - 52
    let q := n >>> shift
    let r := n - q <<< shift
    let half := 1 <<< (shift - 1)
    let q := if r > half ∨ (r = half ∧ q % 2 = 1) then q + 1 else q
    q <<< shift

-- whether the product of the two doubles stays below the largest double and half a step
def isFinite (significand : Nat) (exponent : Int) : Bool :=
  match exponent with
  | .negSucc _ => true
  | .ofNat e =>
    significand == 0 ||
      (e ≤ 308 &&
        roundToDouble significand * roundToDouble (Nat.pow 10 e) < 1 <<< 1024 - 1 <<< 970)

def asDecimal (n : Numeral) : Option Number :=
  let (s, taken) := absorb 0 n.whole
  let dropped := n.whole.length - taken
  let (s, places) := absorb s n.fraction
  let exponent := n.exponent.getD 0 + (dropped : Int) - (places : Int)
  if isFinite s exponent then some (.decimal (if n.negative then -(s : Int) else s) exponent)
  else none

def number? (n : Numeral) : Option Number :=
  let whole := ofDigits n.whole
  let bound := if n.negative then 1 <<< 63 + 1 else 1 <<< 64
  if n.fraction = [] ∧ n.exponent = none ∧ whole < bound then
    some (.integer (if n.negative then -(whole : Int) else whole))
  else n.asDecimal

end Numeral

end SecretResolver.Json
