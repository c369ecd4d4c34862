/-!
# The UTF-8 measure of a text

Positions in a text are counted in UTF-8 bytes. A text is a list of characters here, so a
position is the measure of the characters in front of it, and every position reached by
splitting a text lies on a character boundary.

## Main definitions

* `utf8Length`: the number of bytes of a text in UTF-8
-/

namespace XmlQuery.Text

/-- The number of bytes that UTF-8 uses for a text. -/
def utf8Length (text : List Char) : Nat :=
  text.foldl (fun n c => n + c.utf8Size) 0

theorem foldl_utf8Size (text : List Char) (n : Nat) :
    text.foldl (fun n c => n + c.utf8Size) n = n + utf8Length text := by
  induction text generalizing n with
  | nil => rfl
  | cons c rest ih =>
    simp only [utf8Length, List.foldl_cons, Nat.zero_add]
    rw [ih, ih]
    omega

@[simp] theorem utf8Length_nil : utf8Length [] = 0 := rfl

@[simp] theorem utf8Length_cons (c : Char) (rest : List Char) :
    utf8Length (c :: rest) = c.utf8Size + utf8Length rest := by
  simp only [utf8Length, List.foldl_cons, Nat.zero_add]
  rw [foldl_utf8Size]
  rfl

@[simp] theorem utf8Length_append (before after : List Char) :
    utf8Length (before ++ after) = utf8Length before + utf8Length after := by
  induction before with
  | nil => simp
  | cons c rest ih => simp [ih, Nat.add_assoc]

end XmlQuery.Text
