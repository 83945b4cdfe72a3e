import DataBinding.Number.Decimal
import DataBinding.Toml.Lexical

namespace DataBinding.Toml

/-!
# Numbers and times of TOML documents

Whole numbers have 64 bits with a sign, and floating ones are the numbers next
to their numerals.  Dates and times are read for their text, which is written in
one form.
-/

/-- A scalar of a document. -/
inductive Scalar where
  | bool (value : Bool)
  | number (value : Number)
  | string (text : String)
  | moment (text : String)
  deriving Repr, DecidableEq

/-! ## Numbers -/

/-- Takes digits, between any two of which an underscore may stand. -/
def digitRun (isDigit : Char → Bool) :
    List Char → List Char × List Char
  | [] => ([], [])
  | '_' :: c :: rest =>
      if isDigit c then
        let (digits, after) := digitRun isDigit rest
        (c :: digits, after)
      else
        ([], '_' :: c :: rest)
  | c :: rest =>
      if isDigit c then
        let (digits, after) := digitRun isDigit rest
        (c :: digits, after)
      else
        ([], c :: rest)

/-- Takes digits that begin with a digit. -/
def digits?
    (isDigit : Char → Bool)
    (text : List Char) : Option (List Char × List Char) :=
  match text with
  | c :: _ => if isDigit c then some (digitRun isDigit text) else none
  | [] => none

/-- Takes whole decimal digits, of which a leading zero is the only one. -/
def wholeDigits? : List Char → Option (List Char × List Char)
  | '0' :: rest => some (['0'], rest)
  | text => digits? Char.isDigit text

/-- A whole number, if it fits 64 bits with a sign. -/
def integer?
    (negative : Bool)
    (value : Nat) : Option Scalar :=
  if negative then
    if value ≤ Nat.pow 2 63 then
      some (.number (.ofRatio (value != 0) value 1))
    else
      none
  else if value < Nat.pow 2 63 then
    some (.number (.ofNat value))
  else
    none

/-- The digits of the bases that have marks. -/
def baseOfMark? (mark : Char) : Option (Nat × (Char → Bool)) :=
  if mark = 'x' then
    some (16, fun c => (hexNumber? [c]).isSome)
  else if mark = 'o' then
    some (8, fun c => '0' ≤ c && c ≤ '7')
  else if mark = 'b' then
    some (2, fun c => c == '0' || c == '1')
  else
    none

/-- The value of digits to a base. -/
def numberToBase
    (base : Nat)
    (digits : List Char) : Nat :=
  digits.foldl (fun value c => value * base + (hexNumber? [c]).getD 0) 0

/-- Reads the digits of a whole number with the mark of its base. -/
def marked?
    (mark : Char)
    (text : List Char) : Option (Scalar × List Char) :=
  (baseOfMark? mark).bind fun (base, isDigit) =>
    (digits? isDigit text).bind fun (digits, rest) =>
      (integer? false (numberToBase base digits)).map fun scalar => (scalar, rest)

/-- Takes a point and the digits after it, if there is one. -/
def fractionPart? : List Char → Option (List Char × List Char)
  | '.' :: rest => (digits? Char.isDigit rest).map fun read => ('.' :: read.1, read.2)
  | text => some ([], text)

/-- Takes an exponent, if there is one. -/
def exponentPart? : List Char → Option (List Char × List Char)
  | [] => some ([], [])
  | c :: rest =>
      if c = 'e' ∨ c = 'E' then
        let (negative, unsigned) := takeSign rest
        (digits? Char.isDigit unsigned).map fun read =>
          ('e' :: (if negative then ['-'] else []) ++ read.1, read.2)
      else
        some ([], c :: rest)

/-- Whether a number has been rounded beyond the largest positive one. -/
def isOverflow (number : Number) : Bool :=
  number == .infinite false

/-- Reads a decimal number, whole or not. -/
def decimal?
    (negative : Bool)
    (text : List Char) : Option (Scalar × List Char) :=
  (wholeDigits? text).bind fun (whole, afterWhole) =>
    (fractionPart? afterWhole).bind fun (fraction, afterFraction) =>
      (exponentPart? afterFraction).bind fun (exponent, rest) =>
        if fraction = [] ∧ exponent = [] then
          (integer? negative (Nat.ofDigitChars 10 whole 0)).map fun scalar => (scalar, rest)
        else
          (Decimal.read? (whole ++ fraction ++ exponent)).bind fun decimal =>
            let number := { decimal with negative := negative }.toNumber
            if isOverflow number then none else some (.number number, rest)

/-- Reads a number after its sign. -/
def unsignedNumber?
    (negative : Bool) :
    List Char → Option (Scalar × List Char)
  | 'i' :: 'n' :: 'f' :: rest => some (.number (.infinite negative), rest)
  | 'n' :: 'a' :: 'n' :: rest => some (.number .nan, rest)
  | text => decimal? negative text

/-- Reads a number.  Only one without a sign may have the mark of a base. -/
def number? (text : List Char) : Option (Scalar × List Char) :=
  match text with
  | '+' :: rest => unsignedNumber? false rest
  | '-' :: rest => unsignedNumber? true rest
  | '0' :: mark :: rest =>
      if (baseOfMark? mark).isSome then
        marked? mark rest
      else
        unsignedNumber? false text
  | _ => unsignedNumber? false text

/-! ## Dates and times -/

/-- Takes a number of two digits in a range. -/
def twoDigits?
    (least greatest : Nat) :
    List Char → Option (Nat × List Char)
  | a :: b :: rest =>
      if a.isDigit && b.isDigit then
        let value := Nat.ofDigitChars 10 [a, b] 0
        if least ≤ value && value ≤ greatest then some (value, rest) else none
      else
        none
  | _ => none

/-- Takes a given character. -/
def expect? (c : Char) : List Char → Option (List Char)
  | d :: rest => if c = d then some rest else none
  | [] => none

/-- The number of days of a month. -/
def daysInMonth (year month : Nat) : Nat :=
  if month = 2 then
    if year % 4 = 0 ∧ (year % 100 ≠ 0 ∨ year % 400 = 0) then 29 else 28
  else if month = 4 ∨ month = 6 ∨ month = 9 ∨ month = 11 then
    30
  else
    31

/-- A number with zeros in front up to a count of digits. -/
def padded (count value : Nat) : List Char :=
  let digits := Nat.toDigits 10 value
  List.replicate (count - digits.length) '0' ++ digits

/-- Reads a date: its text and the rest. -/
def date? : List Char → Option (List Char × List Char)
  | a :: b :: c :: d :: text =>
      if [a, b, c, d].all Char.isDigit then do
        let year := Nat.ofDigitChars 10 [a, b, c, d] 0
        let text ← expect? '-' text
        let (month, text) ← twoDigits? 1 12 text
        let text ← expect? '-' text
        let (day, text) ← twoDigits? 1 (daysInMonth year month) text
        some ([a, b, c, d] ++ '-' :: padded 2 month ++ '-' :: padded 2 day, text)
      else
        none
  | _ => none

/-- The text of a fraction of a second: at most nine digits, the last not zero. -/
def secondFraction (digits : List Char) : List Char :=
  match ((digits.take 9).reverse.dropWhile (· == '0')).reverse with
  | [] => []
  | kept => '.' :: kept

/-- Reads a time of day: its text and the rest. -/
def time? (text : List Char) : Option (List Char × List Char) := do
  let (hour, text) ← twoDigits? 0 23 text
  let text ← expect? ':' text
  let (minute, text) ← twoDigits? 0 59 text
  let text ← expect? ':' text
  let (second, text) ← twoDigits? 0 60 text
  let whole := padded 2 hour ++ ':' :: padded 2 minute ++ ':' :: padded 2 second
  match text with
  | '.' :: rest =>
      let (digits, after) := takeDigits rest
      if digits = [] then
        some (whole, text)
      else
        some (whole ++ secondFraction digits, after)
  | text => some (whole, text)

/-- Reads an offset from universal time, if there is one. -/
def offset : List Char → List Char × List Char
  | [] => ([], [])
  | c :: rest =>
      if c = 'Z' ∨ c = 'z' then
        (['Z'], rest)
      else if c = '+' ∨ c = '-' then
        let read := do
          let (hours, text) ← twoDigits? 0 23 rest
          let text ← expect? ':' text
          let (minutes, text) ← twoDigits? 0 59 text
          some (hours, minutes, text)
        match read with
        | none => ([], c :: rest)
        | some (hours, minutes, text) =>
            let sign := if hours = 0 ∧ minutes = 0 then '+' else c
            (sign :: padded 2 hours ++ ':' :: padded 2 minutes, text)
      else
        ([], c :: rest)

/-- Reads the time of day after a date, if there is one. -/
def dateTime
    (date : List Char) :
    List Char → List Char × List Char
  | [] => (date, [])
  | c :: rest =>
      if c = 'T' ∨ c = 't' ∨ c = ' ' then
        match time? rest with
        | none => (date, c :: rest)
        | some (time, afterTime) =>
            let (offset, after) := offset afterTime
            (date ++ 'T' :: time ++ offset, after)
      else
        (date, c :: rest)

/-- Reads a date, a time of day or both. -/
def moment? (text : List Char) : Option (Scalar × List Char) :=
  let read :=
    match date? text with
    | some (date, rest) => some (dateTime date rest)
    | none => time? text
  read.map fun (moment, rest) => (.moment (String.ofList moment), rest)

/-! ## Scalars -/

/-- Reads a scalar. -/
def scalar? (text : List Char) : Option (Scalar × List Char) :=
  match text with
  | '"' :: _ => (string? text).map fun read => (.string (String.ofList read.1), read.2)
  | '\'' :: _ => (string? text).map fun read => (.string (String.ofList read.1), read.2)
  | 't' :: 'r' :: 'u' :: 'e' :: rest => some (.bool true, rest)
  | 'f' :: 'a' :: 'l' :: 's' :: 'e' :: rest => some (.bool false, rest)
  | _ =>
      match moment? text with
      | some read => some read
      | none => number? text

end DataBinding.Toml
