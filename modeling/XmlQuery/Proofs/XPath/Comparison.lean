import XmlQuery.XPath.Operator

/-!
# What comparisons mean

A comparison is defined by cases on the types of both operands, and a node-set on the left takes
another case than one on the right. What it means can be said once for both: against a boolean a
node-set counts as a boolean, otherwise it offers the string-values of its nodes, and the comparison
holds if it holds for some choice of what the operands offer. Two values that are no node-sets are
compared as booleans, as numbers or as strings. Said in this way, a comparison is symmetric if its
operator is mirrored.

## Main definitions

* `BinaryOp.mirror`: the operator that stands for another one when the operands change places
* `Equals`, `Holds`: comparisons of two values that are no node-sets
* `Offers`: what a value is compared as
* `Value.against`: a value in a comparison with another
* `ComparesExistentially`: the meaning of a comparison

## Main results

* `Number.beq_comm`: equality of doubles is symmetric
* `compareAtomic_eq_true_iff`: comparisons of atoms
* `compare_eq_true_iff`: a comparison holds for some choice
* `comparesExistentially`: **comparisons are existential, and symmetric under mirroring**
-/

namespace XmlQuery.Number

open Float.Model (UnpackedFloat)

/-- Two doubles change places, and so do less and greater. -/
theorem compare_swap (a b : UnpackedFloat) : b.compare a = (a.compare b).map Ordering.swap := by
  -- Finite doubles of one sign differ in exponent or mantissa, others in their kinds or signs.
  rcases a with ⟨_ | _⟩ | _ | _ | ⟨_ | _, m, e, _⟩ <;>
    rcases b with ⟨_ | _⟩ | _ | _ | ⟨_ | _, m', e', _⟩ <;>
    dsimp only [UnpackedFloat.compare] <;>
    simp [Ordering.swap_then, Int.compare_swap, Nat.compare_swap]
  -- What is left are two infinities.
  all_goals rfl

/-- Equality of doubles is symmetric. -/
theorem beq_comm (x y : Float) : (x == y) = (y == x) := by
  show (x.toModel.unpack.compare y.toModel.unpack == some .eq) =
    (y.toModel.unpack.compare x.toModel.unpack == some .eq)
  rw [compare_swap x.toModel.unpack]
  cases x.toModel.unpack.compare y.toModel.unpack with
  | none => rfl
  | some order => cases order <;> rfl

end XmlQuery.Number

namespace XmlQuery.XPath

/-- The comparison of the same operands in the other order. -/
def BinaryOp.mirror : BinaryOp → BinaryOp
  | .lt => .gt
  | .ltEq => .gtEq
  | .gt => .lt
  | .gtEq => .ltEq
  | op => op

variable {d : Document} {op : BinaryOp} {x y a b : Value}

/-! ## Atoms -/

/-- Two values that are no node-sets are equal. -/
inductive Equals (d : Document) : Value → Value → Prop
  /-- If one of them is a boolean, they are compared as booleans. -/
  | booleans {x y : Value} : x.type = .boolean ∨ y.type = .boolean → x.toBoolean = y.toBoolean →
    Equals d x y
  /-- If none is a boolean but one is a number, they are compared as numbers. -/
  | numbers {x y : Value} : x.type ≠ .boolean → y.type ≠ .boolean →
    x.type = .number ∨ y.type = .number → (x.toNumber d == y.toNumber d) = true → Equals d x y
  /-- Two strings are compared as they are. -/
  | strings {s : String} : Equals d (.string s) (.string s)

/-- A comparison of two values that are no node-sets holds. -/
inductive Holds (d : Document) : BinaryOp → Value → Value → Prop
  /-- They are equal. -/
  | eq {x y : Value} : Equals d x y → Holds d .eq x y
  /-- They are not equal. -/
  | notEq {x y : Value} : ¬ Equals d x y → Holds d .notEq x y
  /-- As numbers, the first one is less. -/
  | lt {x y : Value} : x.toNumber d < y.toNumber d → Holds d .lt x y
  /-- As numbers, the first one is less or equal. -/
  | ltEq {x y : Value} : x.toNumber d ≤ y.toNumber d → Holds d .ltEq x y
  /-- As numbers, the first one is greater. -/
  | gt {x y : Value} : x.toNumber d > y.toNumber d → Holds d .gt x y
  /-- As numbers, the first one is greater or equal. -/
  | gtEq {x y : Value} : x.toNumber d ≥ y.toNumber d → Holds d .gtEq x y

theorem atomicEq_eq_true_iff (hx : x.type ≠ .nodeSet) (hy : y.type ≠ .nodeSet) :
    atomicEq d x y = true ↔ Equals d x y := by
  rw [atomicEq]
  by_cases hboolean : x.type = .boolean ∨ y.type = .boolean
  · rw [if_pos hboolean, beq_iff_eq]
    constructor
    · exact .booleans hboolean
    · intro h
      cases h with
      | booleans _ heq => exact heq
      | numbers hnot hnot' => exact absurd hboolean (not_or.2 ⟨hnot, hnot'⟩)
      | strings => rfl
  rw [if_neg hboolean]
  by_cases hnumber : x.type = .number ∨ y.type = .number
  · rw [if_pos hnumber]
    obtain ⟨hnot, hnot'⟩ := not_or.1 hboolean
    constructor
    · exact .numbers hnot hnot' hnumber
    · intro h
      cases h with
      | booleans hone => exact absurd hone hboolean
      | numbers _ _ _ heq => exact heq
      | strings => rcases hnumber with ⟨⟨⟩⟩ | ⟨⟨⟩⟩
  · -- What is neither a node-set nor a boolean nor a number is a string.
    rw [if_neg hnumber, beq_iff_eq]
    rw [not_or] at hboolean hnumber
    cases x with
    | nodeSet => exact absurd rfl hx
    | boolean => exact absurd rfl hboolean.1
    | number => exact absurd rfl hnumber.1
    | string s =>
      cases y with
      | nodeSet => exact absurd rfl hy
      | boolean => exact absurd rfl hboolean.2
      | number => exact absurd rfl hnumber.2
      | string t =>
        show s = t ↔ _
        constructor
        · rintro rfl
          exact .strings
        · rintro (⟨⟨⟨⟩⟩ | ⟨⟨⟩⟩, -⟩ | ⟨-, -, ⟨⟨⟩⟩ | ⟨⟨⟩⟩, -⟩ | -)
          rfl

/-- **Comparisons of atoms**, operator by operator. -/
theorem compareAtomic_eq_true_iff (hx : x.type ≠ .nodeSet) (hy : y.type ≠ .nodeSet) :
    compareAtomic d op x y = true ↔ Holds d op x y := by
  have hequal := @atomicEq_eq_true_iff d x y hx hy
  cases op with
  | eq =>
    rw [compareAtomic, hequal]
    refine ⟨.eq, fun h => ?_⟩
    cases h
    assumption
  | notEq =>
    rw [compareAtomic, Bool.not_eq_true', ← Bool.not_eq_true, hequal]
    refine ⟨.notEq, fun h => ?_⟩
    cases h
    assumption
  | lt | ltEq | gt | gtEq =>
    rw [compareAtomic, decide_eq_true_iff]
    constructor
    · intro h
      constructor
      exact h
    · intro h
      cases h
      assumption
  | or | and | add | sub | mul | div | mod => exact ⟨nofun, nofun⟩

theorem Equals.symm (h : Equals d x y) : Equals d y x := by
  cases h with
  | booleans hone heq => exact .booleans hone.symm heq.symm
  | numbers hx hy hone heq => exact .numbers hy hx hone.symm ((Number.beq_comm _ _).trans heq)
  | strings => exact .strings

/-- Atoms change places together with mirroring the operator. -/
theorem Holds.mirror (h : Holds d op x y) : Holds d op.mirror y x := by
  cases h with
  | eq heq => exact .eq heq.symm
  | notEq hne => exact .notEq fun heq => hne heq.symm
  | lt hlt => exact .gt hlt
  | ltEq hle => exact .gtEq hle
  | gt hgt => exact .lt hgt
  | gtEq hge => exact .ltEq hge

theorem BinaryOp.mirror_mirror (op : BinaryOp) : op.mirror.mirror = op := by
  cases op <;> rfl

/-! ## Node-sets -/

theorem Value.type_boolean_ne (b : Bool) : (Value.boolean b).type ≠ .nodeSet := by
  simp [type]

theorem Value.type_nodeSet_ne (nodes : List Nat) : (Value.nodeSet nodes).type ≠ .boolean := by
  simp [type]

theorem Value.type_ne_nodeSet (h : ∀ nodes, x = .nodeSet nodes → False) : x.type ≠ .nodeSet := by
  cases x with
  | nodeSet nodes => exact (h nodes rfl).elim
  | boolean | number | string => simp [type]

theorem Value.type_ne_boolean (h : ∀ b, x = .boolean b → False) : x.type ≠ .boolean := by
  cases x with
  | boolean b => exact (h b rfl).elim
  | nodeSet | number | string => simp [type]

/-- What a value is compared as: a node-set as the string-value of one of its nodes, any other value
as itself. -/
inductive Offers (d : Document) : Value → Value → Prop
  /-- The string-value of a node. -/
  | node {nodes : List Nat} {id : Nat} : id ∈ nodes →
    Offers d (.nodeSet nodes) (.string (d.stringValue id))
  /-- The value. -/
  | atom {v : Value} : v.type ≠ .nodeSet → Offers d v v

theorem offers_nodeSet_iff {nodes : List Nat} :
    Offers d (.nodeSet nodes) a ↔ ∃ id ∈ nodes, nodeText d id = a := by
  constructor
  · intro h
    cases h with
    | node hid => exact ⟨_, hid, rfl⟩
    | atom hne => exact absurd rfl hne
  · rintro ⟨id, hid, rfl⟩
    exact .node hid

theorem offers_iff_eq (h : x.type ≠ .nodeSet) : Offers d x a ↔ a = x := by
  constructor
  · intro hoffers
    cases hoffers with
    | node => exact absurd rfl h
    | atom => rfl
  · rintro rfl
    exact .atom h

theorem Offers.type_ne (h : Offers d x a) : a.type ≠ .nodeSet := by
  cases h with
  | node => exact nofun
  | atom hne => exact hne

/-- A value in a comparison with another one: against a boolean a node-set counts as a boolean. -/
def Value.against (x y : Value) : Value :=
  if x.type = .nodeSet ∧ y.type = .boolean then .boolean x.toBoolean else x

theorem Value.against_of_ne_boolean (h : y.type ≠ .boolean) : x.against y = x :=
  if_neg fun hboth => h hboth.2

theorem Value.against_of_ne_nodeSet (h : x.type ≠ .nodeSet) : x.against y = x :=
  if_neg fun hboth => h hboth.1

theorem exists_offers_nodeSet_iff {nodes : List Nat} {P : Value → Prop} :
    (∃ a, Offers d (.nodeSet nodes) a ∧ P a) ↔ ∃ id ∈ nodes, P (nodeText d id) := by
  constructor
  · rintro ⟨a, hoffers, ha⟩
    obtain ⟨id, hid, rfl⟩ := offers_nodeSet_iff.1 hoffers
    exact ⟨id, hid, ha⟩
  · rintro ⟨id, hid, ha⟩
    exact ⟨_, .node hid, ha⟩

theorem exists_offers_iff {P : Value → Prop} (h : x.type ≠ .nodeSet) :
    (∃ a, Offers d x a ∧ P a) ↔ P x := by
  simp [offers_iff_eq h]

/-- Each case of a comparison looks for a choice: the atomic comparison is tried on what the
operands offer. -/
theorem compare_eq_true_iff_atomic :
    compare d op x y = true ↔
      ∃ a, Offers d (x.against y) a ∧ ∃ b, Offers d (y.against x) b ∧
        compareAtomic d op a b = true := by
  -- In the last three cases, that an operand is of another type is said by what it is not.
  fun_cases compare d op x y with
  | case1 l r right =>
    rw [Value.against_of_ne_boolean (Value.type_nodeSet_ne r),
      Value.against_of_ne_boolean (Value.type_nodeSet_ne l)]
    simp [right, exists_offers_nodeSet_iff]
  | case2 l b =>
    have hagainst : (Value.nodeSet l).against (.boolean b) = .boolean (!l.isEmpty) := rfl
    rw [hagainst, Value.against_of_ne_nodeSet (Value.type_boolean_ne b),
      exists_offers_iff (Value.type_boolean_ne _), exists_offers_iff (Value.type_boolean_ne _)]
  | case3 b r =>
    have hagainst : (Value.nodeSet r).against (.boolean b) = .boolean (!r.isEmpty) := rfl
    rw [hagainst, Value.against_of_ne_nodeSet (Value.type_boolean_ne b),
      exists_offers_iff (Value.type_boolean_ne _), exists_offers_iff (Value.type_boolean_ne _)]
  | case4 l y hset hboolean =>
    have hy := Value.type_ne_nodeSet hset
    rw [Value.against_of_ne_boolean (Value.type_ne_boolean hboolean),
      Value.against_of_ne_nodeSet hy, exists_offers_nodeSet_iff, List.any_eq_true]
    simp only [exists_offers_iff hy]
  | case5 x r hset hboolean =>
    have hx := Value.type_ne_nodeSet hset
    rw [Value.against_of_ne_boolean (Value.type_ne_boolean hboolean),
      Value.against_of_ne_nodeSet hx, exists_offers_iff hx, exists_offers_nodeSet_iff,
      List.any_eq_true]
  | case6 x y _ _ _ hx hy =>
    have hx := Value.type_ne_nodeSet hx
    have hy := Value.type_ne_nodeSet hy
    rw [Value.against_of_ne_nodeSet hx, Value.against_of_ne_nodeSet hy, exists_offers_iff hx,
      exists_offers_iff hy]

/-- **A comparison holds for some choice** of what its operands offer against each other. -/
theorem compare_eq_true_iff :
    compare d op x y = true ↔
      ∃ a b, Offers d (x.against y) a ∧ Offers d (y.against x) b ∧ Holds d op a b := by
  rw [compare_eq_true_iff_atomic]
  constructor
  · rintro ⟨a, ha, b, hb, hcompare⟩
    exact ⟨a, b, ha, hb, (compareAtomic_eq_true_iff ha.type_ne hb.type_ne).1 hcompare⟩
  · rintro ⟨a, b, ha, hb, hholds⟩
    exact ⟨a, ha, b, hb, (compareAtomic_eq_true_iff ha.type_ne hb.type_ne).2 hholds⟩

theorem compare_of_mirror (h : compare d op x y = true) : compare d op.mirror y x = true := by
  rw [compare_eq_true_iff] at h ⊢
  obtain ⟨a, b, ha, hb, hholds⟩ := h
  exact ⟨b, a, hb, ha, hholds.mirror⟩

/-- The meaning of a comparison of two values. -/
structure ComparesExistentially (d : Document) (op : BinaryOp) (x y : Value) : Prop where
  /-- The operands may change places, if the operator is mirrored. -/
  mirrored : compare d op x y = compare d op.mirror y x
  /-- Without booleans, some choice of a string-value for each node-set makes the comparison
  hold. -/
  existential : x.type ≠ .boolean → y.type ≠ .boolean →
    (compare d op x y = true ↔ ∃ a b, Offers d x a ∧ Offers d y b ∧ Holds d op a b)
  /-- There is no choice for an empty node-set. -/
  empty : x.type ≠ .boolean → y.type ≠ .boolean → x = .nodeSet [] ∨ y = .nodeSet [] →
    compare d op x y = false
  /-- Against a boolean, a node-set on the right is its boolean value. -/
  right : x.type = .boolean → y.type = .nodeSet →
    compare d op x y = compare d op x (.boolean y.toBoolean)
  /-- Against a boolean, a node-set on the left is its boolean value. -/
  left : x.type = .nodeSet → y.type = .boolean →
    compare d op x y = compare d op (.boolean x.toBoolean) y
  /-- Values that are no node-sets are compared as they are. -/
  atomic : x.type ≠ .nodeSet → y.type ≠ .nodeSet → (compare d op x y = true ↔ Holds d op x y)
  /-- Of such values, either equality or inequality holds. -/
  negated : x.type ≠ .nodeSet → y.type ≠ .nodeSet → compare d .notEq x y = !compare d .eq x y

theorem compare_atoms_iff (hx : x.type ≠ .nodeSet) (hy : y.type ≠ .nodeSet) :
    compare d op x y = true ↔ Holds d op x y := by
  rw [compare_eq_true_iff, Value.against_of_ne_nodeSet hx, Value.against_of_ne_nodeSet hy]
  simp only [offers_iff_eq hx, offers_iff_eq hy]
  simp

theorem compare_choice_iff (hx : x.type ≠ .boolean) (hy : y.type ≠ .boolean) :
    compare d op x y = true ↔ ∃ a b, Offers d x a ∧ Offers d y b ∧ Holds d op a b := by
  rw [compare_eq_true_iff, Value.against_of_ne_boolean hx, Value.against_of_ne_boolean hy]

theorem not_offers_nil : ¬ Offers d (.nodeSet []) a := by
  rw [offers_nodeSet_iff]
  rintro ⟨id, hid, -⟩
  cases hid

/-- **Comparisons are existential, and symmetric under mirroring**, whatever the document, the
operator and the types of the operands. -/
theorem comparesExistentially (d : Document) (op : BinaryOp) (x y : Value) :
    ComparesExistentially d op x y := by
  constructor
  case mirrored =>
    rw [Bool.eq_iff_iff]
    refine ⟨compare_of_mirror, fun h => ?_⟩
    rw [← op.mirror_mirror]
    exact compare_of_mirror h
  case existential => exact compare_choice_iff
  case empty =>
    intro hx hy hempty
    rw [Bool.eq_false_iff, ne_eq, compare_choice_iff hx hy]
    rintro ⟨a, b, ha, hb, -⟩
    rcases hempty with rfl | rfl
    · exact not_offers_nil ha
    · exact not_offers_nil hb
  case right =>
    intro hx hy
    rw [Bool.eq_iff_iff, compare_eq_true_iff, compare_eq_true_iff]
    have hboolean : x.type ≠ .nodeSet := hx ▸ nofun
    have hagainst : y.against x = (Value.boolean y.toBoolean).against x := by
      rw [Value.against, if_pos ⟨hy, hx⟩]
      exact (Value.against_of_ne_nodeSet (Value.type_boolean_ne _)).symm
    rw [Value.against_of_ne_nodeSet hboolean, Value.against_of_ne_nodeSet hboolean, hagainst]
  case left =>
    intro hx hy
    rw [Bool.eq_iff_iff, compare_eq_true_iff, compare_eq_true_iff]
    have hboolean : y.type ≠ .nodeSet := hy ▸ nofun
    have hagainst : x.against y = (Value.boolean x.toBoolean).against y := by
      rw [Value.against, if_pos ⟨hx, hy⟩]
      exact (Value.against_of_ne_nodeSet (Value.type_boolean_ne _)).symm
    rw [Value.against_of_ne_nodeSet hboolean, Value.against_of_ne_nodeSet hboolean, hagainst]
  case atomic => exact compare_atoms_iff
  case negated =>
    intro hx hy
    rw [Bool.eq_iff_iff, Bool.not_eq_true', ← Bool.not_eq_true, compare_atoms_iff hx hy,
      compare_atoms_iff hx hy]
    constructor
    · intro h heq
      cases h with
      | notEq hne =>
        cases heq with
        | eq h => exact hne h
    · exact fun h => .notEq fun heq => h (.eq heq)

end XmlQuery.XPath
