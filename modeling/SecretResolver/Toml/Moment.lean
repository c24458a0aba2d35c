set_option autoImplicit false

-- Dates and times of day, as far as it takes to tell whether there is such a moment.

namespace SecretResolver.Toml.Moment

def daysIn (year month : Nat) : Nat :=
  if month = 2 then
    if (year % 4 = 0 ∧ year % 100 ≠ 0) ∨ year % 400 = 0 then 29 else 28
  else if month = 4 ∨ month = 6 ∨ month = 9 ∨ month = 11 then 30
  else 31

def digit? (c : Char) : Option Nat :=
  if '0' ≤ c ∧ c ≤ '9' then some (c.toNat - '0'.toNat) else none

def two? (a b : Char) : Option Nat := do
  some (10 * (← digit? a) + (← digit? b))

def isBelow (bound : Nat) : Option Nat → Bool
  | some n => n < bound
  | none => false

def hasDateShape : List Char → Bool
  | [a, b, c, d, '-', e, f, '-', g, h] => [a, b, c, d, e, f, g, h].all fun x => (digit? x).isSome
  | _ => false

def isDate : List Char → Bool
  | [a, b, c, d, '-', e, f, '-', g, h] =>
    match two? a b, two? c d, two? e f, two? g h with
    | some century, some year, some month, some day =>
      1 ≤ month && month ≤ 12 && 1 ≤ day && day ≤ daysIn (100 * century + year) month
    | _, _, _, _ => false
  | _ => false

def isOffset : List Char → Bool
  | ['Z'] => true
  | ['z'] => true
  | [sign, a, b, ':', c, d] =>
    (sign == '+' || sign == '-') && isBelow 24 (two? a b) && isBelow 60 (two? c d)
  | _ => false

-- seconds, and a fraction of one, may be left out; sixty is the leap second
def isSecond : List Char → Bool
  | [] => true
  | [':', a, b] => isBelow 61 (two? a b)
  | ':' :: a :: b :: '.' :: c :: cs =>
    isBelow 61 (two? a b) && (c :: cs).all fun x => (digit? x).isSome
  | _ => false

def isTime : List Char → Bool
  | a :: b :: ':' :: c :: d :: cs => isBelow 24 (two? a b) && isBelow 60 (two? c d) && isSecond cs
  | _ => false

def isZoneStart (c : Char) : Bool :=
  c == 'Z' || c == 'z' || c == '+' || c == '-'

def isZonedTime (cs : List Char) : Bool :=
  let zone := cs.dropWhile fun c => !isZoneStart c
  isTime (cs.takeWhile fun c => !isZoneStart c) && (zone = [] || isOffset zone)

def isMoment (cs : List Char) : Bool :=
  match cs.splitAt 10 with
  | (date, mark :: time) =>
    isTime cs || (isDate date && (mark == 'T' || mark == 't' || mark == ' ') && isZonedTime time)
  | (date, []) => isTime cs || isDate date

end SecretResolver.Toml.Moment
