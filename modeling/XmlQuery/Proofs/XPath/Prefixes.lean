import Mathlib.Data.List.Forall2
import XmlQuery.Proofs.Outcome
import XmlQuery.XPath.Compile

/-!
# Prefixes are spelling

An expression is compiled to code without prefixes: a name test is compiled to the namespace and the
local part that it denotes. So expressions that differ in the spelling of their name tests alone
have the same code, if the tests denote the same under the tables with which they are compiled, or
none of them has any.

## Main definitions

* `Bindings.Means`: what a prefix stands for
* `NodeTest.Denotes`: the namespace and the local part that a name test asks for
* `Respelled`: two expressions differ in the spelling of name tests alone
* `Expr.tests`, `Expr.prefixes`: the node tests of an expression, and the prefixes that matter to it
* `Expr.prefixed`: an expression in which element tests without a prefix get one

## Main results

* `Respelled.sameResult`: one of two spellings is compiled to what the other is compiled to
* `code_of_respelled`: **prefixes are spelling**, default and unused bindings included
-/

namespace XmlQuery.XPath

/-! ## What name tests denote -/

/-- A prefix stands for the namespace that it is bound to, and `xml` for its own namespace if it is
not bound. -/
inductive Bindings.Means (b : Bindings) : String → String → Prop
  /-- A bound prefix. -/
  | bound {p uri : String} : b.get? p = some uri → Bindings.Means b p uri
  /-- The prefix `xml` is always bound. -/
  | xml : b.get? "xml" = none → Bindings.Means b "xml" Namespace.xmlUri

/-- Names without a prefix are in the default namespace on an axis: on all axes but those to
attributes and to namespaces. -/
def Axis.takesDefault (axis : Axis) : Bool := axis != .attribute && axis != .namespaces

/-- The namespace, empty for none, and the local part, if one is given, that a name test asks
for. -/
inductive NodeTest.Denotes (b : Bindings) (axis : Axis) : NodeTest → String → Option String → Prop
  /-- A name with a prefix. -/
  | qname {p uri l : String} : b.Means p uri → NodeTest.Denotes b axis (.qname p l) uri (some l)
  /-- All names of a namespace. -/
  | wildcard {p uri : String} : b.Means p uri → NodeTest.Denotes b axis (.wildcard p) uri none
  /-- A name without a prefix, in the default namespace. -/
  | default {uri l : String} : axis.takesDefault = true → b.get? "" = some uri →
    NodeTest.Denotes b axis (.name l) uri (some l)
  /-- A name without a prefix where no default namespace is bound. -/
  | noDefault {l : String} : axis.takesDefault = true → b.get? "" = none →
    NodeTest.Denotes b axis (.name l) "" (some l)
  /-- A name of an attribute without a prefix. -/
  | outside {l : String} : axis.takesDefault = false → NodeTest.Denotes b axis (.name l) "" (some l)

/-- The node test is a name test that prefixes have to do with. -/
def NodeTest.isNameTest : NodeTest → Prop
  | .name _ | .qname .. | .wildcard _ => True
  | _ => False

/-- Two node tests of an axis are the same, or name tests that denote the same, each under a table
of its own. -/
inductive SameTest (b₁ b₂ : Bindings) (axis : Axis) : NodeTest → NodeTest → Prop
  /-- No name test. -/
  | same {test : NodeTest} : ¬ test.isNameTest → SameTest b₁ b₂ axis test test
  /-- Name tests, which may have different spellings. -/
  | named {t₁ t₂ : NodeTest} : t₁.isNameTest → t₂.isNameTest →
    (∀ uri l, t₁.Denotes b₁ axis uri l ↔ t₂.Denotes b₂ axis uri l) → SameTest b₁ b₂ axis t₁ t₂

/-- Two expressions differ in the spelling of name tests alone, and tests that correspond to each
other denote the same. -/
inductive Respelled (b₁ b₂ : Bindings) : Expr → Expr → Prop
  /-- The document. -/
  | root : Respelled b₁ b₂ .root .root
  /-- A number. -/
  | number (value : Float) : Respelled b₁ b₂ (.number value) (.number value)
  /-- A string. -/
  | string (value : String) : Respelled b₁ b₂ (.string value) (.string value)
  /-- A variable. -/
  | variable (name : String) : Respelled b₁ b₂ (.variable name) (.variable name)
  /-- A negative. -/
  | negate {e₁ e₂ : Expr} : Respelled b₁ b₂ e₁ e₂ → Respelled b₁ b₂ (.negate e₁) (.negate e₂)
  /-- An operator. -/
  | binary (op : BinaryOp) {l₁ l₂ r₁ r₂ : Expr} : Respelled b₁ b₂ l₁ l₂ → Respelled b₁ b₂ r₁ r₂ →
    Respelled b₁ b₂ (.binary op l₁ r₁) (.binary op l₂ r₂)
  /-- A union. -/
  | union {l₁ l₂ r₁ r₂ : Expr} : Respelled b₁ b₂ l₁ l₂ → Respelled b₁ b₂ r₁ r₂ →
    Respelled b₁ b₂ (.union l₁ r₁) (.union l₂ r₂)
  /-- A step from a base. -/
  | path (axis : Axis) {e₁ e₂ : Expr} {t₁ t₂ : NodeTest} {ps₁ ps₂ : List Expr} :
    Respelled b₁ b₂ e₁ e₂ → SameTest b₁ b₂ axis t₁ t₂ → List.Forall₂ (Respelled b₁ b₂) ps₁ ps₂ →
    Respelled b₁ b₂ (.path e₁ axis t₁ ps₁) (.path e₂ axis t₂ ps₂)
  /-- A step from the context node. -/
  | step (axis : Axis) {t₁ t₂ : NodeTest} {ps₁ ps₂ : List Expr} :
    SameTest b₁ b₂ axis t₁ t₂ → List.Forall₂ (Respelled b₁ b₂) ps₁ ps₂ →
    Respelled b₁ b₂ (.step axis t₁ ps₁) (.step axis t₂ ps₂)
  /-- A filter. -/
  | filter {e₁ e₂ p₁ p₂ : Expr} : Respelled b₁ b₂ e₁ e₂ → Respelled b₁ b₂ p₁ p₂ →
    Respelled b₁ b₂ (.filter e₁ p₁) (.filter e₂ p₂)
  /-- A function call. -/
  | call (f : String) {as₁ as₂ : List Expr} : List.Forall₂ (Respelled b₁ b₂) as₁ as₂ →
    Respelled b₁ b₂ (.call f as₁) (.call f as₂)

variable {b b₁ b₂ : Bindings} {axis : Axis} {t₁ t₂ : NodeTest} {e₁ e₂ : Expr}

theorem Bindings.means_iff {p uri : String} : b.Means p uri ↔ b.resolve? p = some uri := by
  constructor
  · rintro (hget | hget)
    · rw [resolve?, hget]
    · rw [resolve?, hget]
      rfl
  · intro h
    rw [resolve?] at h
    split at h
    · next hget => exact .bound (hget.trans h)
    · next hget =>
      split at h
      · next hp =>
        cases h
        subst hp
        exact .xml hget
      · cases h

theorem Bindings.require_eq_ok_iff {p uri : String} : b.require p = .ok uri ↔ b.Means p uri := by
  rw [means_iff, require]
  cases b.resolve? p with
  | none => exact ⟨nofun, nofun⟩
  | some u => rw [Except.ok.injEq, Option.some.injEq]

theorem Bindings.unprefixed_eq :
    b.unprefixed axis = if axis.takesDefault then (b.get? "").getD "" else "" := by
  rw [unprefixed, Axis.takesDefault]
  cases axis <;> rfl

/-- What a name without a prefix denotes. -/
theorem NodeTest.denotes_name_iff {l uri : String} {l? : Option String} :
    (NodeTest.name l).Denotes b axis uri l? ↔ uri = b.unprefixed axis ∧ l? = some l := by
  rw [Bindings.unprefixed_eq]
  constructor
  · intro h
    cases h with
    | default haxis hget => rw [if_pos haxis, hget]; exact ⟨rfl, rfl⟩
    | noDefault haxis hget => rw [if_pos haxis, hget]; exact ⟨rfl, rfl⟩
    | outside haxis => rw [haxis, if_neg Bool.false_ne_true]; exact ⟨rfl, rfl⟩
  · rintro ⟨rfl, rfl⟩
    cases haxis : axis.takesDefault with
    | false => exact .outside haxis
    | true =>
      cases hget : b.get? "" with
      | none => exact .noDefault haxis hget
      | some uri => exact .default haxis hget

/-- What a name test is resolved to. -/
def ResolvedTest.ofName (uri : String) : Option String → ResolvedTest
  | some l => .name uri l
  | none => .inNamespace uri

/-- A name test is resolved to the namespace and the local part that it denotes. -/
theorem NodeTest.resolve_eq_ok_iff {t : NodeTest} (ht : t.isNameTest) {resolved : ResolvedTest} :
    t.resolve b axis = .ok resolved ↔
      ∃ uri l, t.Denotes b axis uri l ∧ resolved = .ofName uri l := by
  cases t with
  | qname p l =>
    rw [resolve, map_eq_ok_iff]
    constructor
    · rintro ⟨uri, huri, rfl⟩
      exact ⟨uri, some l, .qname (Bindings.require_eq_ok_iff.1 huri), rfl⟩
    · rintro ⟨uri, _, hdenotes, rfl⟩
      obtain ⟨hp⟩ := hdenotes
      exact ⟨uri, Bindings.require_eq_ok_iff.2 hp, rfl⟩
  | wildcard p =>
    rw [resolve, map_eq_ok_iff]
    constructor
    · rintro ⟨uri, huri, rfl⟩
      exact ⟨uri, none, .wildcard (Bindings.require_eq_ok_iff.1 huri), rfl⟩
    · rintro ⟨uri, _, hdenotes, rfl⟩
      obtain ⟨-⟩ | ⟨hp⟩ := hdenotes
      exact ⟨uri, Bindings.require_eq_ok_iff.2 hp, rfl⟩
  | name l =>
    rw [resolve, Except.ok.injEq]
    constructor
    · rintro rfl
      exact ⟨b.unprefixed axis, some l, denotes_name_iff.2 ⟨rfl, rfl⟩, rfl⟩
    · rintro ⟨uri, l?, hdenotes, rfl⟩
      obtain ⟨rfl, rfl⟩ := denotes_name_iff.1 hdenotes
      rfl
  | any | node | text | comment | instruction => exact absurd ht id

/-! ## One code for all spellings -/

/-- Two computations have the same results, and fail together. -/
def SameResult {ε α : Type} (x y : Except ε α) : Prop := ∀ a, x = .ok a ↔ y = .ok a

theorem SameResult.refl {ε α : Type} (x : Except ε α) : SameResult x x := fun _ => Iff.rfl

theorem SameResult.bind {ε α β : Type} {x y : Except ε α} {f g : α → Except ε β}
    (h : SameResult x y) (hrest : ∀ a, SameResult (f a) (g a)) :
    SameResult (x >>= f) (y >>= g) := by
  intro result
  rw [bind_eq_ok_iff, bind_eq_ok_iff]
  exact exists_congr fun a => and_congr (h a) (hrest a result)

theorem SameTest.sameResult (h : SameTest b₁ b₂ axis t₁ t₂) :
    SameResult (t₁.resolve b₁ axis) (t₂.resolve b₂ axis) := by
  cases h with
  | same htest =>
    cases t₁ with
    | any | node | text | comment | instruction => exact .refl _
    | name | qname | wildcard => exact absurd trivial htest
  | named h₁ h₂ hdenotes =>
    intro resolved
    rw [NodeTest.resolve_eq_ok_iff h₁, NodeTest.resolve_eq_ok_iff h₂]
    exact exists_congr fun uri => exists_congr fun l => and_congr_left' (hdenotes uri l)

mutual

/-- **One spelling of an expression is compiled to what another is compiled to**, by induction on
the expression. -/
theorem Respelled.sameResult {e₁ e₂ : Expr} (h : Respelled b₁ b₂ e₁ e₂) :
    SameResult (e₁.code b₁) (e₂.code b₂) := by
  match e₁, h with
  | .root, .root => exact .refl _
  | .number _, .number _ => exact .refl _
  | .string _, .string _ => exact .refl _
  | .variable _, .variable _ => exact .refl _
  | .negate _, .negate he => exact he.sameResult.bind fun _ => .refl _
  | .binary _ _ _, .binary _ hl hr =>
    exact hl.sameResult.bind fun _ => hr.sameResult.bind fun _ => .refl _
  | .union _ _, .union hl hr =>
    exact hl.sameResult.bind fun _ => hr.sameResult.bind fun _ => .refl _
  | .path _ _ _ _, .path _ he ht hps =>
    exact he.sameResult.bind fun _ => ht.sameResult.bind fun _ =>
      (sameResult_programs hps).bind fun _ => .refl _
  | .step _ _ _, .step _ ht hps =>
    exact ht.sameResult.bind fun _ => (sameResult_programs hps).bind fun _ => .refl _
  | .filter _ _, .filter he hp =>
    exact he.sameResult.bind fun _ => hp.sameResult.bind fun _ => .refl _
  | .call f as₁, @Respelled.call _ _ _ _ as₂ has =>
    rw [Expr.code, Expr.code, has.length_eq]
    cases Builtin.ofLabel? f with
    | none => exact .refl _
    | some _ => exact (sameResult_codes has).bind fun _ => .refl _

theorem sameResult_codes {es₁ es₂ : List Expr} (h : List.Forall₂ (Respelled b₁ b₂) es₁ es₂) :
    SameResult (codes b₁ es₁) (codes b₂ es₂) := by
  match es₁, h with
  | [], .nil => exact .refl _
  | _ :: _, .cons he hes =>
    exact he.sameResult.bind fun _ => (sameResult_codes hes).bind fun _ => .refl _

theorem sameResult_programs {es₁ es₂ : List Expr} (h : List.Forall₂ (Respelled b₁ b₂) es₁ es₂) :
    SameResult (programs b₁ es₁) (programs b₂ es₂) := by
  match es₁, h with
  | [], .nil => exact .refl _
  | _ :: _, .cons he hes =>
    exact he.sameResult.bind fun _ => (sameResult_programs hes).bind fun _ => .refl _

end

/-! ## The tests of an expression -/

mutual

/-- The node tests of an expression at any depth, each with its axis. -/
def Expr.tests : Expr → List (Axis × NodeTest)
  | .root | .number _ | .string _ | .variable _ => []
  | .negate operand => operand.tests
  | .binary _ left right | .union left right => left.tests ++ right.tests
  | .path base axis test predicates => base.tests ++ (axis, test) :: testsOfAll predicates
  | .step axis test predicates => (axis, test) :: testsOfAll predicates
  | .filter base predicate => base.tests ++ predicate.tests
  | .call _ arguments => testsOfAll arguments

/-- The node tests of expressions. -/
def testsOfAll : List Expr → List (Axis × NodeTest)
  | [] => []
  | e :: rest => e.tests ++ testsOfAll rest

end

mutual

/-- An expression with other node tests. -/
def Expr.mapTests (f : Axis → NodeTest → NodeTest) : Expr → Expr
  | .root => .root
  | .number value => .number value
  | .string value => .string value
  | .variable name => .variable name
  | .negate operand => .negate (operand.mapTests f)
  | .binary op left right => .binary op (left.mapTests f) (right.mapTests f)
  | .union left right => .union (left.mapTests f) (right.mapTests f)
  | .path base axis test predicates =>
    .path (base.mapTests f) axis (f axis test) (mapTestsOfAll f predicates)
  | .step axis test predicates => .step axis (f axis test) (mapTestsOfAll f predicates)
  | .filter base predicate => .filter (base.mapTests f) (predicate.mapTests f)
  | .call name arguments => .call name (mapTestsOfAll f arguments)

/-- Expressions with other node tests. -/
def mapTestsOfAll (f : Axis → NodeTest → NodeTest) : List Expr → List Expr
  | [] => []
  | e :: rest => e.mapTests f :: mapTestsOfAll f rest

end

variable {f : Axis → NodeTest → NodeTest}

mutual

/-- Tests may be replaced by others that denote the same. -/
theorem respelled_mapTests (e : Expr) (h : ∀ t ∈ e.tests, SameTest b₁ b₂ t.1 t.2 (f t.1 t.2)) :
    Respelled b₁ b₂ e (e.mapTests f) := by
  cases e with
  | root => exact .root
  | number value => exact .number value
  | string value => exact .string value
  | «variable» name => exact .variable name
  | negate operand => exact .negate (respelled_mapTests operand h)
  | binary op left right =>
    rw [Expr.tests, List.forall_mem_append] at h
    exact .binary op (respelled_mapTests left h.1) (respelled_mapTests right h.2)
  | union left right =>
    rw [Expr.tests, List.forall_mem_append] at h
    exact .union (respelled_mapTests left h.1) (respelled_mapTests right h.2)
  | path base axis test predicates =>
    rw [Expr.tests, List.forall_mem_append, List.forall_mem_cons] at h
    exact .path axis (respelled_mapTests base h.1) h.2.1 (forall₂_mapTests predicates h.2.2)
  | step axis test predicates =>
    rw [Expr.tests, List.forall_mem_cons] at h
    exact .step axis h.1 (forall₂_mapTests predicates h.2)
  | filter base predicate =>
    rw [Expr.tests, List.forall_mem_append] at h
    exact .filter (respelled_mapTests base h.1) (respelled_mapTests predicate h.2)
  | call name arguments => exact .call name (forall₂_mapTests arguments h)

theorem forall₂_mapTests (es : List Expr)
    (h : ∀ t ∈ testsOfAll es, SameTest b₁ b₂ t.1 t.2 (f t.1 t.2)) :
    List.Forall₂ (Respelled b₁ b₂) es (mapTestsOfAll f es) := by
  cases es with
  | nil => exact .nil
  | cons e rest =>
    rw [testsOfAll, List.forall_mem_append] at h
    exact .cons (respelled_mapTests e h.1) (forall₂_mapTests rest h.2)

end

mutual

/-- Tests that are replaced by themselves stay as they are. -/
theorem mapTests_self (e : Expr) : e.mapTests (fun _ t => t) = e := by
  cases e with
  | root | number | string | «variable» => rfl
  | negate operand => rw [Expr.mapTests, mapTests_self operand]
  | binary op left right => rw [Expr.mapTests, mapTests_self left, mapTests_self right]
  | union left right => rw [Expr.mapTests, mapTests_self left, mapTests_self right]
  | path base axis test predicates =>
    rw [Expr.mapTests, mapTests_self base, mapTestsOfAll_self predicates]
  | step axis test predicates => rw [Expr.mapTests, mapTestsOfAll_self predicates]
  | filter base predicate => rw [Expr.mapTests, mapTests_self base, mapTests_self predicate]
  | call name arguments => rw [Expr.mapTests, mapTestsOfAll_self arguments]

theorem mapTestsOfAll_self (es : List Expr) : mapTestsOfAll (fun _ t => t) es = es := by
  cases es with
  | nil => rfl
  | cons e rest => rw [mapTestsOfAll, mapTests_self e, mapTestsOfAll_self rest]

end

/-! ## The prefixes of an expression -/

/-- The prefix that is written in a node test. -/
def NodeTest.written? : NodeTest → Option String
  | .qname p _ | .wildcard p => some p
  | _ => none

/-- The node test is a name without a prefix. -/
def NodeTest.isUnprefixed : NodeTest → Bool
  | .name _ => true
  | _ => false

/-- The prefixes that are written in an expression. -/
def Expr.prefixes (e : Expr) : List String := e.tests.filterMap (·.2.written?)

/-- A name without a prefix in an expression takes the default namespace. -/
def Expr.usesDefault (e : Expr) : Bool :=
  e.tests.any fun t => t.1.takesDefault && t.2.isUnprefixed

/-- A name that takes the default namespace gets a prefix. -/
def NodeTest.prefixed (p : String) (axis : Axis) : NodeTest → NodeTest
  | .name l => if axis.takesDefault then .qname p l else .name l
  | t => t

/-- An expression in which all names that take the default namespace get a prefix. -/
def Expr.prefixed (p : String) (e : Expr) : Expr := e.mapTests (.prefixed p)

theorem Bindings.means_congr {p : String} (h : b₁.get? p = b₂.get? p) (uri : String) :
    b₁.Means p uri ↔ b₂.Means p uri := by
  rw [means_iff, means_iff, resolve?, resolve?, h]

/-- A test with a prefix denotes the same where the prefix is bound to the same. -/
theorem denotes_congr {t : NodeTest} {p : String} (ht : t.written? = some p)
    (h : b₁.get? p = b₂.get? p) (uri : String) (l : Option String) :
    t.Denotes b₁ axis uri l ↔ t.Denotes b₂ axis uri l := by
  cases t with
  | qname q =>
    cases ht
    constructor
    · rintro ⟨hq⟩
      exact .qname ((Bindings.means_congr h uri).1 hq)
    · rintro ⟨hq⟩
      exact .qname ((Bindings.means_congr h uri).2 hq)
  | wildcard q =>
    cases ht
    constructor
    · rintro (_ | hq)
      exact .wildcard ((Bindings.means_congr h uri).1 hq)
    · rintro (_ | hq)
      exact .wildcard ((Bindings.means_congr h uri).2 hq)
  | name | any | node | text | comment | instruction => cases ht

/-- A test denotes the same under tables that agree on what it depends on. -/
theorem sameTest_self {t : NodeTest} (hwritten : ∀ p ∈ t.written?, b₁.get? p = b₂.get? p)
    (hdefault : (axis.takesDefault && t.isUnprefixed) = true → b₁.get? "" = b₂.get? "") :
    SameTest b₁ b₂ axis t t := by
  cases t with
  | any | node | text | comment | instruction => exact .same id
  | qname p l => exact .named trivial trivial (denotes_congr rfl (hwritten p rfl))
  | wildcard p => exact .named trivial trivial (denotes_congr rfl (hwritten p rfl))
  | name l =>
    refine .named trivial trivial fun uri l? => ?_
    rw [NodeTest.denotes_name_iff, NodeTest.denotes_name_iff, Bindings.unprefixed_eq,
      Bindings.unprefixed_eq]
    cases haxis : axis.takesDefault with
    | true => rw [hdefault (by rw [haxis]; rfl)]
    | false => rfl

/-- The default namespace may be written with a prefix. -/
theorem sameTest_prefixed {t : NodeTest} {p uri : String} (hdefault : b₁.get? "" = some uri)
    (hp : b₂.Means p uri) (hwritten : ∀ q ∈ t.written?, b₁.get? q = b₂.get? q) :
    SameTest b₁ b₂ axis t (t.prefixed p axis) := by
  cases t with
  | any | node | text | comment | instruction => exact .same id
  | qname q l => exact .named trivial trivial (denotes_congr rfl (hwritten q rfl))
  | wildcard q => exact .named trivial trivial (denotes_congr rfl (hwritten q rfl))
  | name l =>
    cases haxis : axis.takesDefault with
    | true =>
      rw [NodeTest.prefixed, if_pos haxis]
      refine .named trivial trivial fun uri' l? => ?_
      rw [NodeTest.denotes_name_iff, Bindings.unprefixed_eq, if_pos haxis, hdefault]
      constructor
      · rintro ⟨rfl, rfl⟩
        exact .qname hp
      · rintro ⟨hp'⟩
        rw [Bindings.means_iff] at hp hp'
        exact ⟨Option.some.inj (hp'.symm.trans hp), rfl⟩
    | false =>
      rw [NodeTest.prefixed, haxis, if_neg Bool.false_ne_true]
      exact sameTest_self hwritten (by rw [haxis]; exact nofun)

/-- **Prefixes are spelling.** An expression whose name tests are spelled in another way, so that
each denotes the same under its table, is compiled to the same code, or neither has any. A default
namespace may be written with a prefix that stands for it; it does not matter to the names of
attributes; and bindings of prefixes that are not written do not matter. -/
theorem code_of_respelled :
    (∀ {b₁ b₂ : Bindings} {e₁ e₂ : Expr}, Respelled b₁ b₂ e₁ e₂ →
      ∀ program, e₁.code b₁ = .ok program ↔ e₂.code b₂ = .ok program) ∧
    (∀ {b₁ b₂ : Bindings} {e : Expr} {p uri : String}, b₁.default? = some uri → b₂.Means p uri →
      (∀ q ∈ e.prefixes, b₁.get? q = b₂.get? q) →
      ∀ program, e.code b₁ = .ok program ↔ (e.prefixed p).code b₂ = .ok program) ∧
    (∀ (b₁ b₂ : Bindings) (axis : Axis) (l : String), axis.takesDefault = false →
      (NodeTest.name l).resolve b₁ axis = (NodeTest.name l).resolve b₂ axis) ∧
    (∀ {b₁ b₂ : Bindings} {e : Expr}, (∀ q ∈ e.prefixes, b₁.get? q = b₂.get? q) →
      (e.usesDefault = true → b₁.get? "" = b₂.get? "") →
      ∀ program, e.code b₁ = .ok program ↔ e.code b₂ = .ok program) := by
  have hwritten : ∀ {b₁ b₂ : Bindings} {e : Expr}, (∀ q ∈ e.prefixes, b₁.get? q = b₂.get? q) →
      ∀ t ∈ e.tests, ∀ q ∈ t.2.written?, b₁.get? q = b₂.get? q :=
    fun hagree t ht q hq => hagree q (List.mem_filterMap.2 ⟨t, ht, hq⟩)
  refine ⟨fun h => h.sameResult, ?_, ?_, ?_⟩
  · intro b₁ b₂ e p uri hdefault hp hagree
    refine (respelled_mapTests e fun t ht => ?_).sameResult
    exact sameTest_prefixed hdefault hp (hwritten hagree t ht)
  · intro b₁ b₂ axis l haxis
    rw [NodeTest.resolve, NodeTest.resolve, Bindings.unprefixed_eq, Bindings.unprefixed_eq, haxis]
    rfl
  · intro b₁ b₂ e hagree hdefault
    have hself : Respelled b₁ b₂ e (e.mapTests fun _ t => t) := by
      refine respelled_mapTests e fun t ht => ?_
      refine sameTest_self (hwritten hagree t ht) fun htest => hdefault ?_
      exact List.any_eq_true.2 ⟨t, ht, htest⟩
    rw [mapTests_self] at hself
    exact hself.sameResult

/-- An element test without a prefix is compiled as one with a prefix for the default namespace; the
test of an attribute in its predicate stays in no namespace. -/
theorem code_of_respelled_default :
    Respelled ⟨[("", "u")]⟩ ⟨[("p", "u")]⟩
      (.step .child (.name "a") [.step .attribute (.name "b") []])
      (.step .child (.qname "p" "a") [.step .attribute (.name "b") []]) ∧
    (Expr.step .child (.qname "p" "a") [.step .attribute (.name "b") []]).code ⟨[("p", "u")]⟩ =
      .ok [.context, .step .child (.name "u" "a")
        [[.context, .step .attribute (.name "" "b") []]]] := by
  have helement : SameTest ⟨[("", "u")]⟩ ⟨[("p", "u")]⟩ .child (.name "a") (.qname "p" "a") :=
    sameTest_prefixed rfl (.bound rfl) nofun
  have hattribute : SameTest ⟨[("", "u")]⟩ ⟨[("p", "u")]⟩ .attribute (.name "b") (.name "b") :=
    sameTest_self nofun nofun
  have h := Respelled.step .child helement (.cons (.step .attribute hattribute .nil) .nil)
  exact ⟨h, (code_of_respelled.1 h _).1 rfl⟩

end XmlQuery.XPath
