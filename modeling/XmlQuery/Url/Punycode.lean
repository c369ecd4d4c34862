/-!
# Punycode

A label of a name is written in ASCII as its ASCII characters followed by code for the other ones.
The code tells, in the order of the characters and then of their places, how many pairs of a
character and a place are passed over before each. Every such distance is a number with digits to
the base 36, the lowest one first, whose last digit is known by a threshold that adapts to the
distances so far.

## Main definitions

* `Punycode.decode`: the label that a code is for
* `Punycode.encode`: the code of a label
-/

namespace XmlQuery.Url.Punycode

/-- The value of a digit: letters first. -/
def digit? (c : Char) : Option Nat :=
  if 'a' ≤ c ∧ c ≤ 'z' then some (c.toNat - 'a'.toNat)
  else if '0' ≤ c ∧ c ≤ '9' then some (c.toNat - '0'.toNat + 26)
  else none

/-- The digit with a value below 36. -/
def digit (value : Nat) : Char :=
  Char.ofNat (if value < 26 then 'a'.toNat + value else '0'.toNat + (value - 26))

/-- The threshold of a digit, whose place counts 36 for each digit up to it. -/
def threshold (place bias : Nat) : Nat :=
  if place ≤ bias then 1 else min 26 (place - bias)

theorem threshold_pos (place bias : Nat) : 0 < threshold place bias := by
  unfold threshold
  split <;> omega

/-- The part of a bias that comes from a distance: what is left of it after divisions by 35, and
36 for each of them. -/
def biasOf (distance : Nat) : Nat :=
  if 455 < distance then 36 + biasOf (distance / 35) else 36 * distance / (distance + 38)
termination_by distance
decreasing_by omega

/-- The bias after a distance, which was one among `count` characters. -/
def adapt (distance count : Nat) (isFirst : Bool) : Nat :=
  let scaled := if isFirst then distance / 700 else distance / 2
  biasOf (scaled + scaled / count)

/-! ## Decoding -/

/-- The distance at the front of a code, added to a number, and the rest of the code. Numbers have
thirty-two bits. -/
def readDistance (bias : Nat) : (place weight total : Nat) → List Char → Option (Nat × List Char)
  | _, _, _, [] => none
  | place, weight, total, c :: rest => do
    let value ← digit? c
    let total := total + value * weight
    let t := threshold place bias
    let weight' := weight * (36 - t)
    if Nat.pow 2 32 ≤ total then none
    else if value < t then some (total, rest)
    else if Nat.pow 2 32 ≤ weight' then none
    else readDistance bias (place + 36) weight' total rest

theorem length_of_readDistance {bias place weight total distance : Nat} {code rest : List Char}
    (h : readDistance bias place weight total code = some (distance, rest)) :
    rest.length < code.length := by
  induction code generalizing place weight total with
  | nil => simp [readDistance] at h
  | cons c others ih =>
    simp only [readDistance, Option.bind_eq_bind] at h
    cases hd : digit? c with
    | none => simp [hd] at h
    | some value =>
      simp only [hd, Option.bind_some] at h
      split at h
      · simp at h
      · split at h
        · simp at h
          simp [h.2]
        · split at h
          · simp at h
          · exact Nat.lt_succ_of_lt (ih h)

/-- The character with a code point that is one. -/
def character? (code : Nat) : Option Char :=
  if h : code.isValidChar then some (Char.ofNatAux code h) else none

/-- The characters of a label so far with those of a code inserted: `last` is the last character
that was inserted and `place` the place behind it. -/
def insertAll (last bias place : Nat) (label code : List Char) : Option (List Char) :=
  match code with
  | [] => some label
  | c :: others =>
    match _h : readDistance bias 36 1 place (c :: others) with
    | none => none
    | some (total, rest) =>
      let count := label.length + 1
      match character? (last + total / count) with
      | none => none
      | some inserted =>
        insertAll (last + total / count) (adapt (total - place) count (place == 0))
          (total % count + 1) (label.insertIdx (total % count) inserted) rest
termination_by code.length
decreasing_by exact length_of_readDistance _h

/-- The label that a code is for: what stands in front of the last hyphen, with the characters
that the rest tells. -/
def decode (code : List Char) : Option (List Char) :=
  match code.reverse.span (· != '-') with
  | (rest, _ :: c :: front) => insertAll 128 72 0 (c :: front).reverse rest.reverse
  | _ => insertAll 128 72 0 [] code

/-! ## Encoding -/

/-- The digits of a distance. -/
def writeDistance (bias place distance : Nat) : List Char :=
  let t := threshold place bias
  if distance < t then [digit distance]
  else
    digit (t + (distance - t) % (36 - t)) ::
      writeDistance bias (place + 36) ((distance - t) / (36 - t))
termination_by distance
decreasing_by
  have h := threshold_pos place bias
  exact Nat.lt_of_le_of_lt (Nat.div_le_self _ _) (by omega)

/-- The code so far, and what the rest of it depends on. -/
structure Encoder where
  /-- The code, in pieces, the last one first. -/
  pieces : List (List Char)
  /-- The number of pairs that have been passed over since the last one that was told. -/
  distance : Nat
  /-- The bias. -/
  bias : Nat
  /-- The number of characters that have been told. -/
  count : Nat
  /-- No distance has been told. -/
  isFirst : Bool

/-- Passing over the characters of a label, of which `code` is the one to tell. -/
def Encoder.tell (code : Nat) (e : Encoder) (c : Char) : Encoder :=
  if c.toNat < code then { e with distance := e.distance + 1 }
  else if c.toNat = code then
    { pieces := writeDistance e.bias 36 e.distance :: e.pieces
      distance := 0
      bias := adapt e.distance (e.count + 1) e.isFirst
      count := e.count + 1
      isFirst := false }
  else e

/-- Telling the characters with some code points, in rising order, from a code point on. -/
def Encoder.tellAll (label : List Char) (e : Encoder) : (last : Nat) → List Nat → Encoder
  | _, [] => e
  | last, code :: codes =>
    let e := { e with distance := e.distance + (code - last) * (e.count + 1) }
    let e := label.foldl (Encoder.tell code) e
    Encoder.tellAll label { e with distance := e.distance + 1 } (code + 1) codes

/-- The code of a label. -/
def encode (label : List Char) : List Char :=
  let plain := label.filter (·.toNat < 128)
  let codes := ((label.filter (128 ≤ ·.toNat)).map Char.toNat).eraseDups.mergeSort
  let e := Encoder.tellAll label ⟨[], 0, 72, plain.length, true⟩ 128 codes
  plain ++ (if plain.isEmpty then [] else ['-']) ++ e.pieces.reverse.flatten

end XmlQuery.Url.Punycode
