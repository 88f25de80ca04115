import Unchain.Accounting.Fields

/-!
RFC 3339 timestamps (`_timestamp`, `_timestamp_instant`).

The instant of a timestamp is counted in nanoseconds since the Unix epoch. The regular expression
lets any Unicode digit pass; `strptime` is stricter about the leading digits of its fields.
-/

namespace Unchain.Accounting

open Lib Lib.Effect Python

/-! ### Dates -/

def isLeap (year : Nat) : Bool := year % 4 = 0 && (year % 100 ≠ 0 || year % 400 = 0)

def daysInMonth (year month : Nat) : Nat :=
  if month = 2 then (if isLeap year then 29 else 28)
  else if [4, 6, 9, 11].contains month then 30 else 31

def daysBeforeMonth (year month : Nat) : Nat :=
  ((List.range month).tail.map (daysInMonth year)).sum

/-- `date.toordinal()`: day 1 is the first of January of the year 1. -/
def toOrdinal (year month day : Nat) : Nat :=
  (year - 1) * 365 + (year - 1) / 4 - (year - 1) / 100 + (year - 1) / 400
    + daysBeforeMonth year month + day

/-- `date(1970, 1, 1).toordinal()`. -/
def epochOrdinal : Nat := 719163

def digits? (cs : List Char) : Option Nat :=
  cs.foldlM (fun n c => (digit? c).map fun d => n * 10 + d) 0

/-- `%m` on two characters. -/
def month? (a b : Char) : Option Nat :=
  if (a = '0' && b != '0') || (a = '1' && ['0', '1', '2'].contains b) then
    if '0' ≤ b && b ≤ '9' then digits? [a, b] else none
  else none

/-- `%d` on two characters. -/
def day? (a b : Char) : Option Nat :=
  if (a = '0' && '1' ≤ b && b ≤ '9') || a = '1' || a = '2' || (a = '3' && (b = '0' || b = '1')) then
    digits? [a, b]
  else none

/-- `%H` on two characters. -/
def hour? (a b : Char) : Option Nat :=
  if a = '0' || a = '1' || (a = '2' && '0' ≤ b && b ≤ '3') then digits? [a, b] else none

/-- `%M` on two characters, and `%S` where `datetime` takes it. -/
def sixty? (a b : Char) : Option Nat :=
  if '0' ≤ a && a ≤ '5' then digits? [a, b] else none

/-- `datetime.strptime(text, "%Y-%m-%dT%H:%M:%S")` in seconds since the epoch. The text has matched
the regular expression, so every field has its full width. -/
def strptime? : List Char → Option Int
  | [y1, y2, y3, y4, '-', m1, m2, '-', d1, d2, 'T', h1, h2, ':', n1, n2, ':', s1, s2] => do
    let year ← digits? [y1, y2, y3, y4]
    let month ← month? m1 m2
    let day ← day? d1 d2
    let hour ← hour? h1 h2
    let minute ← sixty? n1 n2
    let second ← sixty? s1 s2
    if year = 0 || daysInMonth year month < day then none
    else
      some (((toOrdinal year month day : Int) - epochOrdinal) * 86400
        + hour * 3600 + minute * 60 + second)
  | _ => none

/-! ### The regular expression -/

def isDecimal (c : Char) : Bool := (digit? c).isSome

def isDateTime : List Char → Bool
  | [y1, y2, y3, y4, '-', m1, m2, '-', d1, d2, 'T', h1, h2, ':', n1, n2, ':', s1, s2] =>
    [y1, y2, y3, y4, m1, m2, d1, d2, h1, h2, n1, n2, s1, s2].all isDecimal
  | _ => false

/-- `(?:\.(?P<fraction>\d{1,9}))?`: the fraction's digits and what follows. -/
def splitFraction? : List Char → Option (List Char × List Char)
  | '.' :: cs =>
    let fraction := cs.takeWhile isDecimal
    if fraction.isEmpty || 9 < fraction.length then none
    else some (fraction, cs.dropWhile isDecimal)
  | cs => some ([], cs)

/-- `int(fraction.ljust(9, "0"))`. -/
def nanoseconds? (fraction : List Char) : Option Nat :=
  (digits? fraction).map fun n => n * 10 ^ (9 - fraction.length)

/-- The seconds of `Z` or `[+-]\d{2}:\d{2}`, as they are added. -/
def offsetSeconds? : List Char → Option Int
  | ['Z'] => some 0
  | [sign, h1, h2, ':', m1, m2] => do
    let hour ← digits? [h1, h2]
    let minute ← digits? [m1, m2]
    if 23 < hour || 59 < minute then none
    else if sign = '+' then some (-(((hour * 60 + minute) * 60 : Nat) : Int))
    else if sign = '-' then some (((hour * 60 + minute) * 60 : Nat) : Int)
    else none
  | _ => none

/-- `_timestamp_instant`; `none` is a `ValueError`. -/
def timestampInstant? (s : String) : Option Int := do
  let cs := s.toList
  let (fraction, offset) ← splitFraction? (cs.drop 19)
  let shift ← offsetSeconds? offset
  if !isDateTime (cs.take 19) then none
  else
    let seconds ← strptime? (cs.take 19)
    let nanoseconds ← nanoseconds? fraction
    return (seconds + shift) * 1000000000 + nanoseconds

section Fields

variable (host : BundleHost)

/-- `_timestamp(value, field_name, optional=False)`. -/
def timestamp (field : String) (v : Value) : Except PyError String := do
  let text ← canonicalText host 40 field v
  raiseIf (timestampInstant? text).isNone
    (protocolError (field ++ " must be a valid RFC3339 timestamp"))
  return text

/-- `_timestamp(value, field_name)`. -/
def optionalTimestamp (field : String) : Value → Except PyError (Option String) :=
  optionalField (timestamp host field)

def instant (text : String) : Int := (timestampInstant? text).getD 0

variable {host}

theorem timestamp_ok {field : String} {v : Value} {s : String}
    (h : timestamp host field v = .ok s) :
    v = .str s ∧ timestamp host field (.str s) = .ok s := by
  obtain ⟨t, text, rest⟩ := bind_ok h
  obtain ⟨valid, rest⟩ := raiseIf_bind_ok rest
  cases rest
  refine ⟨(canonicalText_ok text).1, ?_⟩
  rw [timestamp, canonicalText_again text]
  simp [bind, Except.bind, raiseIf, valid, pure, Except.pure]

theorem optionalTimestamp_ok {field : String} {v : Value} {s : Option String}
    (h : optionalTimestamp host field v = .ok s) : v = optionalValue .str s :=
  optionalField_ok (fun _ _ read => (timestamp_ok read).1) h

theorem optionalTimestamp_again {field : String} {v : Value} {s : Option String}
    (h : optionalTimestamp host field v = .ok s) :
    optionalTimestamp host field (optionalValue .str s) = .ok s := by
  rw [← optionalTimestamp_ok h]
  exact h

end Fields

example : timestampInstant? "1970-01-02T00:00:00.5+00:01" = some 86340500000000 := by
  decide +kernel

end Unchain.Accounting
