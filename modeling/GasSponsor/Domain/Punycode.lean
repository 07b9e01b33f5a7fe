/-!
# Labels in ASCII

A label with other characters than ASCII is sent as its ASCII characters, a hyphen, and the other
characters in the order of their code points. Each of these is a number that tells how far to go on:
once around the text for every code point, and one step for every place. Numbers have digits of
decreasing weight, and the weights adapt to the numbers before.
-/

namespace GasSponsor.Domain.Punycode

def digitValue? (c : Char) : Option Nat :=
  if c.isLower then some (c.toNat - 97)
  else if c.isDigit then some (c.toNat - 48 + 26)
  else none

def threshold (position bias : Nat) : Nat :=
  if position ≤ bias then 1 else min (position - bias) 26

/-- Reads a number and adds it to `value`. The sum and the weights stay below 2³². -/
def readNumber (bias : Nat) : List Char → (position weight value : Nat) →
    Option (Nat × List Char)
  | [], _, _, _ => none
  | c :: cs, position, weight, value =>
    match digitValue? c with
    | none => none
    | some digit =>
      let value := value + digit * weight
      let least := threshold position bias
      let next := weight * (36 - least)
      if UInt32.size ≤ value then none
      else if digit < least then some (value, cs)
      else if UInt32.size ≤ next then none
      else readNumber bias cs (position + 36) next value

theorem length_readNumber {bias : Nat} {cs rest : List Char} {position weight value n : Nat}
    (h : readNumber bias cs position weight value = some (n, rest)) :
    rest.length < cs.length := by
  induction cs generalizing position weight value with
  | nil => simp [readNumber] at h
  | cons c cs ih =>
    simp only [readNumber] at h
    split at h
    · simp at h
    · split at h
      · simp at h
      · split at h
        · simp only [Option.some.injEq, Prod.mk.injEq] at h
          obtain ⟨_, rfl⟩ := h
          simp
        · split at h
          · simp at h
          · have := ih h
            simp only [List.length_cons]
            omega

def settle (number positions : Nat) : Nat × Nat :=
  if 455 < number then settle (number / 35) (positions + 36) else (number, positions)

/-- The bias after a number, the length of the text with the new character, and whether the number
was the first. -/
def adapt (number length : Nat) (first : Bool) : Nat :=
  let number := if first then number / 700 else number / 2
  let (number, positions) := settle (number + number / length) 0
  positions + 36 * number / (number + 38)

/-- Inserts characters into a text. The next number counts from place `place` and code point
`point`. -/
def insertFrom (text : List Char) (point place bias : Nat) (first : Bool) (cs : List Char) :
    Option (List Char) :=
  if cs = [] then some text
  else
    match h : readNumber bias cs 36 1 place with
    | none => none
    | some (steps, rest) =>
      let length := text.length + 1
      let bias := adapt (steps - place) length first
      let point := point + steps / length
      let place := steps % length
      have := length_readNumber h
      if point.isValidChar then
        insertFrom (text.take place ++ Char.ofNat point :: text.drop place) point (place + 1)
          bias false rest
      else none
termination_by cs.length

def decode (cs : List Char) : Option (List Char) :=
  let tail := (cs.reverse.takeWhile (· ≠ '-')).reverse
  let head := cs.take (cs.length - tail.length - 1)
  if head = [] then insertFrom [] 128 0 72 true cs else insertFrom head 128 0 72 true tail

end GasSponsor.Domain.Punycode
