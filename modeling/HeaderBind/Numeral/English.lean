/-
# HeaderBind.Numeral.English — numbers spelled out in words

A number is read in groups of three digits from the left, each followed by the
name of its scale: `one million two thousand one hundred and five`.  The word
`and` stands after the hundreds of a group and before a last group under one
hundred.  Scales are named up to 10^303, so numbers below 10^306 can be spelled.
-/
namespace HeaderBind.Numeral.English

set_option autoImplicit false

/-- The words for zero to nineteen. -/
def small : List String := [
  "zero", "one", "two", "three", "four", "five", "six", "seven", "eight", "nine", "ten",
  "eleven", "twelve", "thirteen", "fourteen", "fifteen", "sixteen", "seventeen", "eighteen",
  "nineteen"]

/-- The words for the tens from twenty on. -/
def tens : List String := [
  "twenty", "thirty", "forty", "fifty", "sixty", "seventy", "eighty", "ninety"]

/-- A number under one hundred. -/
def belowHundred (n : Nat) : List String :=
  if n < 20 then [small.getD n ""]
  else tens.getD (n / 10 - 2) "" :: if n % 10 = 0 then [] else [small.getD (n % 10) ""]

/-- A number under one thousand. -/
def belowThousand (n : Nat) : List String :=
  if n < 100 then belowHundred n
  else small.getD (n / 100) "" :: "hundred" ::
    if n % 100 = 0 then [] else "and" :: belowHundred (n % 100)

/-- The stems of the first nine `-illion`s. -/
def firstStems : List String := ["m", "b", "tr", "quadr", "quint", "sext", "sept", "oct", "non"]

/-- What a unit puts in front of the stem of a ten. -/
def unitStems : List String := [
  "", "un", "duo", "tre", "quattuor", "quin", "sex", "sept", "octo", "novem"]

/-- The stems of the tenth, twentieth, ... ninetieth `-illion`. -/
def tenStems : List String := [
  "dec", "vigint", "trigint", "quadragint", "quinquagint", "sexagint", "septuagint",
  "octogint", "nonagint"]

/-- The stem of the `i`-th `-illion`, from one to one hundred. -/
def stem (i : Nat) : String :=
  if i < 10 then firstStems.getD (i - 1) ""
  else if i < 100 then unitStems.getD (i % 10) "" ++ tenStems.getD (i / 10 - 1) ""
  else "cent"

/-- The name of the scale 1000^k, for `k` from one to one hundred and one. -/
def scale (k : Nat) : String := if k = 1 then "thousand" else stem (k - 1) ++ "illion"

/-- A number below 1000^(k+1). -/
def spellGroups : Nat → Nat → List String
  | 0, n => belowThousand n
  | k + 1, n =>
      let unit := Nat.pow 1000 (k + 1)
      if n < unit then spellGroups k n
      else
        let rest := n % unit
        belowThousand (n / unit) ++ scale (k + 1) ::
          (if rest = 0 then [] else if rest < 100 then "and" :: belowHundred rest
            else spellGroups k rest)

/-- The largest scale is 1000^101. -/
def largestScale : Nat := 101

/-- The first number that has no name. -/
def limit : Nat := Nat.pow 1000 (largestScale + 1)

/-- The words of a natural number. -/
def spell (n : Nat) : List String := spellGroups largestScale n

/-- The words of an integer, if it has a name. -/
def spellInt? (n : Int) : Option (List String) :=
  if n.natAbs < limit then
    some (if n < 0 then "minus" :: spell n.natAbs else spell n.natAbs)
  else none

end HeaderBind.Numeral.English
