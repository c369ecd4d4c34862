import XmlQuery.Markup.Char
import XmlQuery.Markup.Error
import XmlQuery.Text.Blank
import XmlQuery.Text.Cursor

/-!
# Reading markup from a cursor

## Main definitions

* `Failure`: a fault, and the place where reading stopped
* `name?`: the name that comes next
* `expect`: a delimiter that has to come next
-/

namespace XmlQuery.Markup

open Text (Cursor)

/-- A fault, and the byte at which the reader had arrived when it found it. -/
structure Failure where
  /-- What is wrong, and where. -/
  fault : Fault
  /-- Where the reader stopped. -/
  stopped : Nat
  deriving DecidableEq

/-- A fault at a byte offset, found at a cursor. -/
def failAt (c : Cursor) (offset : Nat) (kind : ErrorKind) : Failure := ⟨⟨offset, kind⟩, c.offset⟩

/-- A fault at a cursor. -/
def fail (c : Cursor) (kind : ErrorKind) : Failure := failAt c c.offset kind

/-- Something else than what was looked for stands at a cursor, or the text has ended. -/
def missing (c : Cursor) (what : Expected) : Failure :=
  fail c (if c.rest.isEmpty then .unexpectedEof else .expected what)

/-- The place after white space. -/
def skipBlanks (c : Cursor) : Cursor := c.skipWhile Text.isBlank

/-- White space comes next. -/
def atBlank (c : Cursor) : Bool := c.rest.head?.any Text.isBlank

/-- The name that comes next, and the place after it. -/
def name? (c : Cursor) : Option (List Char × Cursor) :=
  match c.rest with
  | [] => none
  | first :: others =>
    if isNameStart first then
      let name := first :: others.takeWhile isNameChar
      some (name, c.past name (others.dropWhile isNameChar))
    else none

/-- The place after a delimiter, which has to come next. -/
def expect (c : Cursor) (delimiter : String) (what : Expected) : Except Failure Cursor :=
  if c.startsWith delimiter then .ok (c.advance delimiter.length) else .error (missing c what)

theorem takes_name? {c d : Cursor} {name : List Char} (h : name? c = some (name, d)) :
    c.Takes name d := by
  unfold name? at h
  split at h
  · cases h
  · next first others hr =>
    split at h
    · cases h
      exact ⟨by simp [hr, Cursor.past], rfl⟩
    · cases h

theorem name?_ne_nil {c d : Cursor} {name : List Char} (h : name? c = some (name, d)) :
    name ≠ [] := by
  unfold name? at h
  split at h
  · cases h
  · split at h
    · cases h
      simp
    · cases h

theorem reaches_expect {c d : Cursor} {delimiter : String} {what : Expected}
    (h : expect c delimiter what = .ok d) : c.Reaches d := by
  unfold expect at h
  split at h
  · cases h
    exact c.reaches_advance _
  · cases h

end XmlQuery.Markup
