import Std.Data.String.ToNat
import XmlQuery.Proofs.Access
import XmlQuery.Proofs.XPath.ResultTypes
import XmlQuery.Proofs.XPath.Searching

/-!
# Arguments by their places

A call looks once at the number of its arguments. After that a function reads them by their places,
and two functions cut a part out of a text; nothing but the table of arities keeps the places in
range. Here the functions are written with these accesses, and the table is shown to fit all of
them. Which calls are refused, and why, is told by the number and the types of the arguments.

## Main definitions

* `Builtin.body`: a function that reads its arguments by their places
* `Builtin.call`: a call, which looks at the number of arguments first
* `Builtin.Verdict`: what calls come to

## Main results

* `Builtin.comesTo_call`: **no call goes out of range**, and its outcome is that of `Builtin.apply`
* `Builtin.verdict_apply`: calls are refused for three reasons, and all others give a value
* `Arity.text_injective`: the wording of an arity tells the arity
-/

namespace XmlQuery.XPath

/-! ## Arities in words -/

namespace Arity

/-- The wording of an arity has one of three forms. -/
theorem text_cases (a : Arity) :
    (∃ n, a = ⟨n, none⟩ ∧ a.text = "at least " ++ toString n) ∨
      (∃ n, a = .exactly n ∧ a.text = "exactly " ++ toString n) ∨
      ∃ n k, a = .between n k ∧ a.text = toString n ++ " to " ++ toString k := by
  obtain ⟨n, _ | k⟩ := a
  · exact .inl ⟨n, rfl, rfl⟩
  · rcases eq_or_ne k n with rfl | h
    · exact .inr (.inl ⟨k, rfl, if_pos rfl⟩)
    · exact .inr (.inr ⟨n, k, rfl, if_neg h⟩)

/-- The digits in front of the wording of two bounds are those of the least one. -/
theorem takeWhile_isDigit_between (n : Nat) (s : String) :
    (toString n ++ " to " ++ s).toList.takeWhile Char.isDigit = (toString n).toList := by
  have hdigits : ∀ c ∈ Nat.toDigits 10 n, c.isDigit = true :=
    fun c hc => Nat.isDigit_of_mem_toDigits (by decide) (by decide) hc
  simp only [String.toList_append, List.append_assoc, Nat.toString_eq_repr, Nat.toList_repr]
  rw [List.takeWhile_append_of_pos hdigits]
  simp

theorem between_ne {n : Nat} {s t : String} (ht : t.toList.takeWhile Char.isDigit = []) :
    toString n ++ " to " ++ s ≠ t := by
  rintro rfl
  rw [takeWhile_isDigit_between, Nat.toString_eq_repr, Nat.toList_repr] at ht
  exact Nat.toDigits_ne_nil ht

theorem atLeast_ne_exactly (s t : String) : "at least " ++ s ≠ "exactly " ++ t := by
  intro h
  have hhead := congrArg (·.toList.head?) h
  simp at hhead

/-- **The wording of an arity tells the arity**: its front tells the form, and then the numbers can
be read off. -/
theorem text_injective : Function.Injective text := by
  intro a b h
  rcases text_cases a with ⟨n, rfl, ha⟩ | ⟨n, rfl, ha⟩ | ⟨n, k, rfl, ha⟩ <;>
    rcases text_cases b with ⟨n', rfl, hb⟩ | ⟨n', rfl, hb⟩ | ⟨n', k', rfl, hb⟩ <;>
    rw [ha, hb] at h
  · rw [Nat.repr_injective ((String.append_right_inj _).1 h)]
  · exact absurd h (atLeast_ne_exactly _ _)
  · exact absurd h.symm (between_ne (by simp))
  · exact absurd h.symm (atLeast_ne_exactly _ _)
  · rw [Nat.repr_injective ((String.append_right_inj _).1 h)]
  · exact absurd h.symm (between_ne (by simp))
  · exact absurd h (between_ne (by simp))
  · exact absurd h (between_ne (by simp))
  · have hleast := congrArg (·.toList.takeWhile Char.isDigit) h
    simp only [takeWhile_isDigit_between, String.toList_inj] at hleast
    rw [hleast, String.append_right_inj] at h
    rw [Nat.repr_injective hleast, Nat.repr_injective h]

end Arity

namespace Builtin

open Checked (comesTo_iff comesTo_ofOutcome comesTo_part comesTo_pure comesTo_valueAt ofOutcome part
  valueAt)
open Utf8 (encode indexOf?)

/-! ## Functions that read their arguments -/

section

variable (d : Document) (c : Context)

/-- The node of the argument, or the context node if there is none. -/
def target (f : Builtin) (arguments : List Value) : Except EvalError (Option Nat) :=
  match arguments.head? with
  | some x => (f.nodesOf x).map (·.head?)
  | none => .ok (some c.node)

/-- The text of the argument, or the string-value of the context node if there is none. -/
def textArgument (arguments : List Value) : String :=
  match arguments.head? with
  | some x => x.toText d
  | none => d.stringValue c.node

/-- The texts of two arguments. -/
def twoTexts (arguments : List Value) : Checked EvalError (List Char × List Char) := do
  let x ← valueAt arguments 0
  let y ← valueAt arguments 1
  return ((x.toText d).toList, (y.toText d).toList)

/-- A part of a text, cut out between two byte offsets that are told by the one at which a pattern is
found, or nothing if it is not found. -/
def cutFound (text pattern : List Char) (start stop : Nat → Nat) : Checked EvalError (List Char) :=
  match indexOf? (encode pattern) (encode text) with
  | some offset => part text (start offset) (stop offset)
  | none => return []

/-- A function that reads its arguments by their places. One that may be left out is looked for, and
cannot be out of range. -/
def body (f : Builtin) (arguments : List Value) : Checked EvalError Value :=
  match f with
  | .last => return natural c.size
  | .position => return natural c.position
  | .count => do return natural (← f.nodesOf (← valueAt arguments 0)).length
  | .id => ofOutcome (.error .noIdentifiers)
  | .localName => do
    return .string (((← f.target c arguments).map (localNameOf d)).getD "")
  | .namespaceUri => do
    return .string (((← f.target c arguments).map (namespaceUriOf d)).getD "")
  | .name => do return .string (((← f.target c arguments).map (nameOf d)).getD "")
  | .string => return .string (textArgument d c arguments)
  | .concat => return .string (String.join (arguments.map (Value.toText d)))
  | .startsWith => do
    let (s, p) ← twoTexts d arguments
    return .boolean (p.isPrefixOf s)
  | .endsWith => do
    let (s, p) ← twoTexts d arguments
    return .boolean (p.isSuffixOf s)
  | .contains => do
    let (s, p) ← twoTexts d arguments
    return .boolean (Text.contains s p)
  | .substringBefore => do
    let (s, p) ← twoTexts d arguments
    return text (← cutFound s p (fun _ => 0) fun offset => offset)
  | .substringAfter => do
    let (s, p) ← twoTexts d arguments
    return text
      (← cutFound s p (· + Text.utf8Length p) fun _ => Text.utf8Length s)
  | .substring => do
    let s ← valueAt arguments 0
    let start ← valueAt arguments 1
    return text (substringOf (s.toText d).toList (start.toNumber d)
      (arguments[2]?.map (Value.toNumber d)))
  | .stringLength => return natural (textArgument d c arguments).length
  | .normalizeSpace => return text (Text.normalizeSpace (textArgument d c arguments).toList)
  | .translate => do
    let s ← valueAt arguments 0
    let sources ← valueAt arguments 1
    let targets ← valueAt arguments 2
    return text (Text.translate (sources.toText d).toList (targets.toText d).toList
      (s.toText d).toList)
  | .lowerCase => do return text (Text.lower ((← valueAt arguments 0).toText d).toList)
  | .upperCase => do return text (Text.upper ((← valueAt arguments 0).toText d).toList)
  | .boolean => do return .boolean (← valueAt arguments 0).toBoolean
  | .not => do return .boolean !(← valueAt arguments 0).toBoolean
  | .constTrue => return .boolean true
  | .constFalse => return .boolean false
  | .lang => do return .boolean (isInLanguage d c.node ((← valueAt arguments 0).toText d))
  | .number =>
    match arguments.head? with
    | some x => return .number (x.toNumber d)
    | none => return .number (Value.numberOf (d.stringValue c.node))
  | .sum => do
    let nodes ← f.nodesOf (← valueAt arguments 0)
    return .number (Number.sum (nodes.map fun n => Value.numberOf (d.stringValue n)))
  | .floor => do return .number ((← valueAt arguments 0).toNumber d).floor
  | .ceiling => do return .number ((← valueAt arguments 0).toNumber d).ceil
  | .round => do return .number (Number.round ((← valueAt arguments 0).toNumber d))

/-- A call of a function: the number of arguments is looked at before any of them is read. -/
def call (f : Builtin) (arguments : List Value) : Checked EvalError Value :=
  if f.arity.accepts arguments.length then body d c f arguments
  else ofOutcome (.error (.arity f arguments.length))

end

variable {d : Document} {c : Context} {f : Builtin} {arguments : List Value}

/-! ## Accesses in range -/

/-- The part is cut out if it can be wherever the pattern is found. -/
theorem comesTo_cutFound {s p v : List Char} {start stop : Nat → Nat}
    (h : (match indexOf? (encode p) (encode s) with
      | some offset => Text.slice? s (start offset) (stop offset)
      | none => some []) = some v) : (cutFound s p start stop).ComesTo (.ok v) := by
  rw [cutFound]
  cases hfound : indexOf? (encode p) (encode s) with
  | some offset =>
    rw [hfound] at h
    exact comesTo_part h
  | none =>
    rw [hfound] at h
    rw [← Option.some.inj h]
    exact comesTo_pure []

theorem comesTo_twoTexts (x y : Value) :
    (twoTexts d [x, y]).ComesTo (.ok ((x.toText d).toList, (y.toText d).toList)) :=
  (comesTo_valueAt rfl).bind_ok ((comesTo_valueAt rfl).bind_ok (comesTo_pure _))

/-- Whatever arguments are accepted, a function reads none that is not there. -/
theorem comesTo_body (harity : f.arity.accepts arguments.length = true) :
    (body d c f arguments).ComesTo (f.apply d c arguments) := by
  -- The functions with the same arity that read the same places are taken together.
  cases f with
  | last | position | constTrue | constFalse =>
    obtain rfl := Arity.eq_nil harity
    exact comesTo_pure _
  | localName | namespaceUri | name =>
    rcases Arity.eq_nil_or_singleton harity with rfl | ⟨x, rfl⟩
    · exact comesTo_pure _
    · cases x <;> exact comesTo_iff.2 rfl
  | string | stringLength | normalizeSpace | number =>
    rcases Arity.eq_nil_or_singleton harity with rfl | ⟨x, rfl⟩
    · exact comesTo_pure _
    · exact comesTo_pure _
  | id =>
    obtain ⟨x, rfl⟩ := Arity.eq_singleton harity
    exact comesTo_ofOutcome _
  | count | sum =>
    obtain ⟨x, rfl⟩ := Arity.eq_singleton harity
    exact (comesTo_valueAt rfl).bind_ok (comesTo_ofOutcome _).map
  | lowerCase | upperCase | boolean | not | lang | floor | ceiling | round =>
    obtain ⟨x, rfl⟩ := Arity.eq_singleton harity
    exact (comesTo_valueAt rfl).bind_ok (comesTo_pure _)
  | startsWith | endsWith | contains =>
    obtain ⟨x, y, rfl⟩ := Arity.eq_pair harity
    exact (comesTo_twoTexts x y).bind_ok (comesTo_pure _)
  | substringBefore =>
    obtain ⟨x, y, rfl⟩ := Arity.eq_pair harity
    exact (comesTo_twoTexts x y).bind_ok
      ((comesTo_cutFound (Text.cutBefore?_eq _ _)).bind_ok (comesTo_pure _))
  | substringAfter =>
    obtain ⟨x, y, rfl⟩ := Arity.eq_pair harity
    exact (comesTo_twoTexts x y).bind_ok
      ((comesTo_cutFound (Text.cutAfter?_eq _ _)).bind_ok (comesTo_pure _))
  | substring =>
    rcases Arity.eq_pair_or_triple harity with ⟨x, y, rfl⟩ | ⟨x, y, z, rfl⟩
    · exact (comesTo_valueAt rfl).bind_ok ((comesTo_valueAt rfl).bind_ok (comesTo_pure _))
    · exact (comesTo_valueAt rfl).bind_ok ((comesTo_valueAt rfl).bind_ok (comesTo_pure _))
  | translate =>
    obtain ⟨x, y, z, rfl⟩ := Arity.eq_triple harity
    exact (comesTo_valueAt rfl).bind_ok
      ((comesTo_valueAt rfl).bind_ok ((comesTo_valueAt rfl).bind_ok (comesTo_pure _)))
  | concat =>
    match arguments, harity with
    | x :: y :: rest, _ => exact comesTo_pure _

/-- A number of arguments that a function does not take is refused, whatever they are. -/
theorem apply_of_not_accepts (h : f.arity.accepts arguments.length = false) :
    f.apply d c arguments = .error (.arity f arguments.length) := by
  unfold apply
  split
  -- Where a function is written for some arguments, its arity accepts so many.
  all_goals try cases h
  rfl

/-- **No call goes out of range**, and its outcome is the one that is run. -/
theorem comesTo_call (d : Document) (c : Context) (f : Builtin) (arguments : List Value) :
    (call d c f arguments).ComesTo (f.apply d c arguments) := by
  rw [call]
  split
  · next harity => exact comesTo_body harity
  · next harity =>
    rw [apply_of_not_accepts (Bool.eq_false_iff.2 harity)]
    exact comesTo_ofOutcome _

/-- Without the look at their number, two arguments would be too few to replace characters. -/
example (d : Document) (c : Context) (x y : Value) :
    (body d c .translate [x, y]).accesses = [.value 0 2, .value 1 2, .value 2 2] ∧
      (body d c .translate [x, y]).outcome = none ∧ (call d c .translate [x, y]).accesses = [] :=
  ⟨rfl, rfl, rfl⟩

/-! ## Verdicts -/

/-- What a call comes to. A number of arguments that the function does not take is refused first;
then `id` refuses, and functions that take nothing but a node-set refuse everything else. All other
calls give a value of the type of the function. -/
inductive Verdict (f : Builtin) (arguments : List Value) : Except EvalError Value → Prop
  /-- There are too few arguments, or too many. -/
  | arity : f.arity.accepts arguments.length = false →
    Verdict f arguments (.error (.arity f arguments.length))
  /-- Identifiers are not known. -/
  | noIdentifiers : f.arity.accepts arguments.length = true → f = .id →
    Verdict f arguments (.error .noIdentifiers)
  /-- An argument is no node-set. -/
  | notNodeSet {x : Value} : f.arity.accepts arguments.length = true → f.takesNodeSet = true →
    x ∈ arguments → x.type ≠ .nodeSet →
    Verdict f arguments (.error (.argumentNotNodeSet f x.type))
  /-- Nothing is refused. -/
  | value {v : Value} : f.arity.accepts arguments.length = true → f ≠ .id →
    (f.takesNodeSet = true → ∀ x ∈ arguments, x.type = .nodeSet) → v.type = f.resultType →
    Verdict f arguments (.ok v)

theorem nodesOf_of_type_ne {x : Value} (h : x.type ≠ .nodeSet) :
    f.nodesOf x = .error (.argumentNotNodeSet f x.type) := by
  cases x with
  | nodeSet nodes => exact absurd rfl h
  | _ => rfl

/-- A function that takes nothing but a node-set takes one of them. -/
theorem eq_singleton_of_takesNodeSet {x : Value} (harity : f.arity.accepts arguments.length = true)
    (hf : f.takesNodeSet = true) (hx : x ∈ arguments) : arguments = [x] := by
  have hlength : arguments.length ≤ 1 := by
    cases f with
    | count | sum => exact (Arity.accepts_exactly_iff.1 harity).le
    | localName | namespaceUri | name => exact (Arity.accepts_between_iff.1 harity).2
    | _ => cases hf
  match arguments, hlength, hx with
  | [y], _, hx => rw [List.mem_singleton.1 hx]

/-- **What calls come to** is told by the number and the types of the arguments. -/
theorem verdict_apply (d : Document) (c : Context) (f : Builtin) (arguments : List Value) :
    f.Verdict arguments (f.apply d c arguments) := by
  cases harity : f.arity.accepts arguments.length with
  | false =>
    rw [apply_of_not_accepts harity]
    exact .arity harity
  | true =>
    by_cases hid : f = .id
    · subst hid
      obtain ⟨x, rfl⟩ := Arity.eq_singleton harity
      exact .noIdentifiers harity rfl
    by_cases hnodes : f.takesNodeSet = true → ∀ x ∈ arguments, x.type = .nodeSet
    · obtain ⟨v, hv⟩ := exists_apply_eq_ok (d := d) (c := c) harity hid hnodes
      rw [hv]
      exact .value harity hid hnodes (type_of_apply hv)
    · push Not at hnodes
      obtain ⟨htakes, x, hx, htype⟩ := hnodes
      obtain rfl := eq_singleton_of_takesNodeSet harity htakes hx
      have hrefused : f.apply d c [x] = .error (.argumentNotNodeSet f x.type) := by
        cases f with
        | count | sum | localName | namespaceUri | name =>
          exact map_eq_error_iff.2 (nodesOf_of_type_ne htype)
        | _ => cases htakes
      rw [hrefused]
      exact .notNodeSet harity htakes hx htype

end Builtin

end XmlQuery.XPath
