import Parlance.Parser.Wrapper
import Parlance.Token.Blank
import Parlance.Token.Letter

/-!
# Numbers

Decimal numbers of any number of digits, with a bound on the value: a natural number fits 64
bits, and an integer fits 64 bits with its sign, which is applied to a magnitude of 128 bits. A
number beyond its bound is read to its last digit and then refused.
-/

namespace Parlance.Token

open Parlance.Parser

/-- The number that decimal digits denote. -/
def decimal (digits : List Char) : Nat :=
  digits.foldl (fun n d => 10 * n + (d.toNat - '0'.toNat)) 0

/-- The largest natural number that is read. -/
def maxNat : Nat := 0xFFFFFFFFFFFFFFFF

/-- The largest magnitude that a sign is applied to. -/
def maxMagnitude : Nat := 0x7FFFFFFFFFFFFFFFFFFFFFFFFFFFFFFF

/-- The least integer that is read. -/
def minInt : Int := -0x8000000000000000

/-- The largest integer that is read. -/
def maxInt : Int := 0x7FFFFFFFFFFFFFFF

/-- Refuses a number by its digits. -/
def tooLarge {α : Type} (digits : List Char) : Parse α :=
  Parse.reject ("number too large: " ++ String.ofList digits)

/-- Digits without a sign. -/
def nat : Parser Nat :=
  map "nat" (verbatim (sequence digit)) fun digits =>
    if decimal digits ≤ maxNat then pure (decimal digits) else tooLarge digits

/-- The sign that may stand in front of an integer. -/
def sign : Parser String := pick [literal "+", literal "-"]

/-- The integer with a given sign and magnitude. -/
def signed (sign : Option String) (magnitude : Nat) : Int :=
  if sign = some "-" then -magnitude else magnitude

/-- Digits with at most one sign directly in front of them. -/
def int : Parser Int :=
  map "int" (verbatim (few do
      let sign ← (optional sign).parse
      let digits ← (sequence digit).parse
      pure (sign, digits)))
    fun (sign, digits) =>
      if decimal digits ≤ maxMagnitude then
        let value := signed sign (decimal digits)
        if minInt ≤ value ∧ value ≤ maxInt then pure value else tooLarge digits
      else tooLarge digits

end Parlance.Token
