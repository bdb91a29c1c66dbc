import ApiLint.Path.Numeral
import ApiLint.Text.Lines

/-!
# Dates and times

A date is a day of the calendar with a year of four digits. A time has hours, minutes,
seconds, perhaps fractions, and an offset. A sixtieth second is allowed where, seen
without the offset, it ends the day.
-/

namespace ApiLint.Format

def twoDigits? : Text → Option Nat
  | [a, b] =>
    if Numeral.isDecimal a && Numeral.isDecimal b then some (Numeral.ofDigits [a, b]) else none
  | _ => none

def isLeapYear (year : Nat) : Bool := year % 4 == 0 && (year % 100 != 0 || year % 400 == 0)

def daysOf (year month : Nat) : Nat :=
  if month = 2 then (if isLeapYear year then 29 else 28)
  else if month = 4 ∨ month = 6 ∨ month = 9 ∨ month = 11 then 30
  else 31

/-- Whether the text is a date such as `2024-02-29`. -/
def isDate (text : Text) : Bool :=
  match text with
  | [a, b, c, d, '-', m, n, '-', x, y] =>
    match twoDigits? [a, b], twoDigits? [c, d], twoDigits? [m, n], twoDigits? [x, y] with
    | some century, some year, some month, some day =>
      1 ≤ month && month ≤ 12 && 1 ≤ day && day ≤ daysOf (century * 100 + year) month
    | _, _, _, _ => false
  | _ => false

/-- An offset in minutes, its sign aside: the sign, and the minutes. -/
def offset? : Text → Option (Bool × Nat)
  | [z] => if z == 'Z' || z == 'z' then some (false, 0) else none
  | [sign, a, b, ':', c, d] =>
    if sign == '+' || sign == '-' then
      match twoDigits? [a, b], twoDigits? [c, d] with
      | some hours, some minutes =>
        if hours ≤ 23 ∧ minutes ≤ 59 then some (sign == '-', hours * 60 + minutes) else none
      | _, _ => none
    else none
  | _ => none

/-- What follows fractions of a second; nothing if there is a point without digits. -/
def afterFraction? : Text → Option Text
  | '.' :: rest =>
    if (rest.takeWhile Numeral.isDecimal).isEmpty then none
    else some (rest.dropWhile Numeral.isDecimal)
  | rest => some rest

def dayMinutes : Nat := 1440

/-- Whether the text is a time such as `23:59:60Z`. -/
def isTime (text : Text) : Bool :=
  match text with
  | a :: b :: ':' :: c :: d :: ':' :: e :: f :: rest =>
    match twoDigits? [a, b], twoDigits? [c, d], twoDigits? [e, f],
      (afterFraction? rest).bind offset? with
    | some hour, some minute, some second, some (behind, shift) =>
      let minutes := hour * 60 + minute
      let universal :=
        (if behind then minutes + shift else minutes + dayMinutes - shift) % dayMinutes
      hour ≤ 23 && minute ≤ 59 && second ≤ 60 && (second != 60 || universal == dayMinutes - 1)
    | _, _, _, _ => false
  | _ => false

/-- Whether the text is a date and a time with a letter between them. -/
def isDateTime (text : Text) : Bool :=
  let date := text.takeWhile fun c => c != 'T' && c != 't'
  match text.dropWhile fun c => c != 'T' && c != 't' with
  | _ :: time => isDate date && isTime time
  | [] => false

end ApiLint.Format
