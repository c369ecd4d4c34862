/-!
# UTF-8

A byte sequence is read one byte at a time into pieces: a well-formed sequence is one
character, and an ill-formed part is cut as long as it could still have become a character
(the maximal subparts of the Unicode standard). Strict decoding asks that every piece is a
character; lenient decoding counts each ill-formed piece as one replacement character.

## Main definitions

* `pieces`: the pieces of a byte sequence
* `decode`: the text of a well-formed byte sequence, or the offset of the first ill-formed byte
* `encode`: the bytes of a text
-/

namespace XmlQuery.Utf8

/-- A character or an ill-formed part of a byte sequence, with its size in bytes. -/
structure Piece where
  /-- The character, if the piece is one. -/
  char? : Option Char
  /-- The number of bytes of the piece. -/
  size : Nat
  deriving DecidableEq

/-- What the first byte of a character announces. -/
inductive Lead
  /-- The byte is a character by itself. -/
  | single
  /-- No character starts with the byte. -/
  | invalid
  /-- So many bytes follow, the first of them from `low` to `high`; `high bits` are in `code`. -/
  | more (count : Nat) (low high : Nat) (code : Nat)
  deriving DecidableEq

/-- The announcement of a first byte. -/
def lead (b : Nat) : Lead :=
  if b < 0x80 then .single
  else if b < 0xC2 then .invalid
  else if b < 0xE0 then .more 1 0x80 0xBF (b - 0xC0)
  else if b = 0xE0 then .more 2 0xA0 0xBF 0
  else if b = 0xED then .more 2 0x80 0x9F 0xD
  else if b < 0xF0 then .more 2 0x80 0xBF (b - 0xE0)
  else if b = 0xF0 then .more 3 0x90 0xBF 0
  else if b < 0xF4 then .more 3 0x80 0xBF (b - 0xF0)
  else if b = 0xF4 then .more 3 0x80 0x8F 4
  else .invalid

/-- The bytes still owed to a character that has been started. -/
structure Pending where
  /-- How many bytes are owed, less one. -/
  owed : Nat
  /-- The least value of the next byte. -/
  low : Nat
  /-- The greatest value of the next byte. -/
  high : Nat
  /-- The code point read so far. -/
  code : Nat
  /-- The number of bytes read so far. -/
  size : Nat

/-- Reads a byte between two characters: the pieces that end with it, and what is pending. -/
def start (b : Nat) : List Piece × Option Pending :=
  match lead b with
  | .single => ([⟨some (Char.ofNat b), 1⟩], none)
  | .invalid => ([⟨none, 1⟩], none)
  | .more count low high code => ([], some ⟨count - 1, low, high, code, 1⟩)

/-- Reads a byte: the pieces that end at or with it, and what is pending after it. -/
def step (pending : Option Pending) (b : Nat) : List Piece × Option Pending :=
  match pending with
  | none => start b
  | some p =>
    if p.low ≤ b ∧ b ≤ p.high then
      let code := p.code * 64 + (b - 0x80)
      match p.owed with
      | 0 => ([⟨some (Char.ofNat code), p.size + 1⟩], none)
      | owed + 1 => ([], some ⟨owed, 0x80, 0xBF, code, p.size + 1⟩)
    else
      let (ended, next) := start b
      (⟨none, p.size⟩ :: ended, next)

/-- The pieces of a byte sequence, after those that are pending. -/
def piecesFrom (pending : Option Pending) : List UInt8 → List Piece
  | [] =>
    match pending with
    | none => []
    | some p => [⟨none, p.size⟩]
  | b :: rest =>
    let (ended, next) := step pending b.toNat
    ended ++ piecesFrom next rest

/-- The pieces of a byte sequence, in order. -/
def pieces (bytes : List UInt8) : List Piece :=
  piecesFrom none bytes

/-- The text of pieces that start at byte `offset`, or the offset of the first ill-formed one. -/
def Piece.text : Nat → List Piece → Except Nat (List Char)
  | _, [] => .ok []
  | offset, ⟨none, _⟩ :: _ => .error offset
  | offset, ⟨some c, size⟩ :: rest =>
    match Piece.text (offset + size) rest with
    | .ok text => .ok (c :: text)
    | .error e => .error e

/-- The text of a byte sequence, or the offset of its first ill-formed part. -/
def decode (bytes : List UInt8) : Except Nat (List Char) :=
  Piece.text 0 (pieces bytes)

/-- The bytes of a text. -/
def encode (text : List Char) : List UInt8 :=
  text.flatMap String.utf8EncodeChar

end XmlQuery.Utf8
