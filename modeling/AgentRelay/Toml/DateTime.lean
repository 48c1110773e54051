import AgentRelay.Decimal.Fixed
import AgentRelay.Toml.Number

/-!
# Dates and times of a TOML document

A date, a time of day, or both with the distance from universal time.  They have
to exist: days follow the calendar, and a minute has at most sixty-one seconds.
Of a fraction of a second nine digits count, and the others are dropped.

Main definitions:

- {lit}`Toml.DateTime`: dates and times.
- {lit}`Toml.DateTime.ofChars?`: the date or time that a word writes.
- {lit}`Toml.DateTime.text`: its one canonical text.
-/

namespace AgentRelay
namespace Toml

/-! ## Dates and times -/

/-- A day of the calendar. -/
structure Date where
  year : Nat
  month : Nat
  day : Nat
deriving DecidableEq, Repr

/-- A time of day.  Second sixty is a leap second. -/
structure TimeOfDay where
  hour : Nat
  minute : Nat
  second : Nat
  nanosecond : Nat
deriving DecidableEq, Repr

/-- The distance from universal time: none, or so many minutes ahead. -/
inductive Offset where
  | universal
  | ahead (minutes : Int)
deriving DecidableEq, Repr

/-- A date, a time of day, or both.  Only both together have an offset. -/
inductive DateTime where
  | date (d : Date)
  | time (t : TimeOfDay)
  | moment (d : Date) (t : TimeOfDay) (offset : Option Offset)
deriving DecidableEq, Repr

/-- Number of days in a month. -/
def daysIn (year month : Nat) : Nat :=
  if month = 2 then
    (if year % 4 = 0 ∧ (year % 100 ≠ 0 ∨ year % 400 = 0) then 29 else 28)
  else if month ∈ [4, 6, 9, 11] then 30
  else 31

/-! ## Reading -/

/-- The number of two decimal digits. -/
def twoDigits? (a b : Char) : Option Nat :=
  if a.isDigit && b.isDigit then some (groupedValue 10 [a, b]) else none

/-- The date at the front of a text. -/
def readDate : List Char → Option (Date × List Char)
  | y₁ :: y₂ :: y₃ :: y₄ :: '-' :: m₁ :: m₂ :: '-' :: d₁ :: d₂ :: rest => do
    let century ← twoDigits? y₁ y₂
    let year ← twoDigits? y₃ y₄
    let month ← twoDigits? m₁ m₂
    let day ← twoDigits? d₁ d₂
    let date : Date := ⟨century * 100 + year, month, day⟩
    if 1 ≤ month ∧ month ≤ 12 ∧ 1 ≤ day ∧ day ≤ daysIn date.year month then some (date, rest)
    else none
  | _ => none

/-- The nanoseconds that the digits after the point of a second write. -/
def nanoseconds (digits : List Char) : Nat :=
  let counted := digits.take 9
  groupedValue 10 counted * Nat.pow 10 (9 - counted.length)

/-- The nanoseconds at the front of a text; there need not be any. -/
def readFraction : List Char → Option (Nat × List Char)
  | '.' :: rest =>
    let digits := rest.takeWhile Char.isDigit
    if digits.isEmpty then none else some (nanoseconds digits, rest.drop digits.length)
  | cs => some (0, cs)

/-- The seconds and nanoseconds at the front of a text; there need not be any. -/
def readSeconds : List Char → Option (Nat × Nat × List Char)
  | ':' :: s₁ :: s₂ :: rest => do
    let second ← twoDigits? s₁ s₂
    let (nanosecond, rest) ← readFraction rest
    if second ≤ 60 then some (second, nanosecond, rest) else none
  | cs => some (0, 0, cs)

/-- The time of day at the front of a text. -/
def readTime : List Char → Option (TimeOfDay × List Char)
  | h₁ :: h₂ :: ':' :: m₁ :: m₂ :: rest => do
    let hour ← twoDigits? h₁ h₂
    let minute ← twoDigits? m₁ m₂
    let (second, nanosecond, rest) ← readSeconds rest
    if hour ≤ 23 ∧ minute ≤ 59 then some (⟨hour, minute, second, nanosecond⟩, rest) else none
  | _ => none

/-- The offset that a whole text writes; an empty text writes none. -/
def offset? : List Char → Option (Option Offset)
  | [] => some none
  | ['Z'] => some (some .universal)
  | ['z'] => some (some .universal)
  | [sign, h₁, h₂, ':', m₁, m₂] => do
    let hour ← twoDigits? h₁ h₂
    let minute ← twoDigits? m₁ m₂
    if 23 < hour ∨ 59 < minute then none
    else
      match splitSign [sign] with
      | (some .plus, _) => some (some (.ahead (hour * 60 + minute)))
      | (some .minus, _) => some (some (.ahead (-(hour * 60 + minute))))
      | (none, _) => none
  | _ => none

/-- A date. -/
def isDate (cs : List Char) : Bool :=
  match readDate cs with
  | some (_, []) => true
  | _ => false

namespace DateTime

/-- The date or time that a word writes.  A letter or a blank stands between a
date and a time of day. -/
def ofChars? (cs : List Char) : Option DateTime :=
  match readDate cs with
  | some (d, []) => some (.date d)
  | some (d, c :: rest) =>
    if c ∈ ['T', 't', ' '] then
      match readTime rest with
      | some (t, rest) => (offset? rest).map (.moment d t)
      | none => none
    else none
  | none =>
    match readTime cs with
    | some (t, []) => some (.time t)
    | _ => none

end DateTime

/-! ## Writing -/

/-- A number with at least so many digits. -/
def padded (width n : Nat) : List Char :=
  Decimal.padZeros width (Nat.toDigits 10 n)

/-- The text of a date. -/
def Date.chars (d : Date) : List Char :=
  padded 4 d.year ++ '-' :: padded 2 d.month ++ '-' :: padded 2 d.day

/-- The fraction of a second: none when it is zero, and no zeros at the end. -/
def fractionChars (nanosecond : Nat) : List Char :=
  if nanosecond = 0 then []
  else '.' :: ((padded 9 nanosecond).reverse.dropWhile (· = '0')).reverse

/-- The text of a time of day. -/
def TimeOfDay.chars (t : TimeOfDay) : List Char :=
  padded 2 t.hour ++ ':' :: padded 2 t.minute ++ ':' :: padded 2 t.second ++
    fractionChars t.nanosecond

/-- The text of an offset. -/
def Offset.chars : Offset → List Char
  | .universal => ['Z']
  | .ahead n =>
    (if n < 0 then '-' else '+') :: padded 2 (n.natAbs / 60) ++ ':' :: padded 2 (n.natAbs % 60)

namespace DateTime

/-- The text of a date or a time. -/
def chars : DateTime → List Char
  | date d => d.chars
  | time t => t.chars
  | moment d t offset => d.chars ++ 'T' :: t.chars ++ offset.elim [] Offset.chars

/-- The text of a date or a time. -/
def text (d : DateTime) : String :=
  String.ofList d.chars

end DateTime

end Toml
end AgentRelay
