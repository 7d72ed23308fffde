import Signpost.Text.Pieces

/-!
# Punycode

Punycode writes a text in lower case letters, digits and hyphens: first its ASCII characters, then,
behind the last hyphen, numbers that say which other characters go where. Each number counts on from
the place of the character before it. It is written in base 36, the least digit first, and ends at the
first digit below a threshold, which follows the sizes of the numbers so far.

* `Punycode.decode?` reads a text. One that breaks off in a number, or names what is no character, is
  refused.
-/

namespace Signpost.Host.Punycode

/-- The value of a digit: letters count before the decimal digits. -/
def digit? (c : Char) : Option Nat :=
  if 'a' ≤ c ∧ c ≤ 'z' then some (c.toNat - 0x61)
  else if c.isDigit then some (c.toNat - 0x30 + 26)
  else none

/-- What a digit has to stay below to end its number. -/
def threshold (bias place : Nat) : Nat := max 1 (min 26 (place - bias))

/-- The bias that a number of a certain size leads to. -/
def scaled (size : Nat) : Nat :=
  if 455 < size then 36 + scaled (size / 35) else 36 * size / (size + 38)
termination_by size
decreasing_by omega

/-- The bias after a number that placed one of so many characters. The first number counts less. -/
def adapt (number count : Nat) (isFirst : Bool) : Nat :=
  let size := if isFirst then number / 700 else number / 2
  scaled (size + size / count)

/-- A text read in part. The next character is `code` at the earliest, and goes in front of the
character at `index` or behind it; of the number that tells, some digits may have been read. -/
structure Progress where
  text : List Char
  code : Nat := 0x80
  index : Nat := 0
  bias : Nat := 72
  place : Nat := 36
  weight : Nat := 1
  number : Nat := 0

/-- Puts in the character that a number tells, if there is one. -/
def Progress.insert (p : Progress) (number : Nat) : Option Progress :=
  let count := p.text.length + 1
  let code := p.code + (p.index + number) / count
  let index := (p.index + number) % count
  if code.isValidChar then
    some
      { text := p.text.insertIdx index (Char.ofNat code)
        code
        index := index + 1
        bias := adapt number count (p.index = 0) }
  else none

/-- Reads one digit. -/
def Progress.step (p : Progress) (c : Char) : Option Progress := do
  let digit ← digit? c
  let number := p.number + digit * p.weight
  let threshold := threshold p.bias p.place
  if threshold ≤ digit then
    some { p with number, weight := p.weight * (36 - threshold), place := p.place + 36 }
  else p.insert number

/-- No digit of the next number has been read. -/
def Progress.isComplete (p : Progress) : Bool := p.weight = 1

/-- The text that follows the start, by the numbers behind it. -/
def extend? (start numbers : List Char) : Option (List Char) := do
  let p ← numbers.foldlM Progress.step { text := start }
  if p.isComplete then some p.text else none

/-- The text of its written form. A hyphen in front of all numbers needs characters before it. -/
def decode? (cs : List Char) : Option (List Char) :=
  match cut (· = '-') cs.reverse with
  | (_, some []) => none
  | (numbers, some start) => extend? start.reverse numbers.reverse
  | (_, none) => extend? [] cs

end Signpost.Host.Punycode
