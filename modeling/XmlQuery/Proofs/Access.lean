import XmlQuery.Proofs.Outcome
import XmlQuery.Proofs.Text.Bytes

/-!
# Accesses

A value that is read at a place of a list, values that are taken off a list and a part that is cut
out of a text may not be there. A computation that asks for them is kept together with the accesses
it makes. It breaks off at the first one that is out of range, so it comes to an outcome exactly if
all of them are in range.

## Main definitions

* `Access`: an access to a list or a text
* `Access.InRange`: what it asks for is there
* `Checked`: a computation that may fail, together with its accesses
* `Checked.valueAt`, `Checked.valuesOff`, `Checked.part`: the accesses themselves
* `Checked.ComesTo`: a computation stays in range and comes to an outcome

## Main results

* `Checked.comesTo_iff`: what comes to an outcome has stayed in range
* `Checked.ComesTo.bind`, `Checked.ComesTo.mapM`: a computation stays in range if its steps do
-/

namespace XmlQuery

open Text (IsBoundary slice? slice?_isSome_iff)

/-- An access that may be out of range. -/
inductive Access
  /-- The value at a place of a list of some length. -/
  | value (place length : Nat)
  /-- So many values off a list of some length. -/
  | values (count length : Nat)
  /-- What stands between two byte offsets of a text. -/
  | part (text : List Char) (start stop : Nat)

/-- What is asked for is there: the place is one of the list, the list has so many values, the
offsets are in order and lie between characters of the text. -/
def Access.InRange : Access → Prop
  | .value place length => place < length
  | .values count length => count ≤ length
  | .part text start stop => start ≤ stop ∧ IsBoundary text start ∧ IsBoundary text stop

/-- A computation that gives a value or an error, together with the accesses it makes. -/
@[ext] structure Checked (ε α : Type) where
  /-- The accesses up to the end, or up to the first one that is out of range. -/
  accesses : List Access
  /-- What the computation gives, unless it breaks off. -/
  outcome : Option (Except ε α)
  /-- It breaks off exactly at an access that is out of range. -/
  isSome_outcome_iff : outcome.isSome ↔ ∀ a ∈ accesses, a.InRange

namespace Checked

variable {ε α β : Type}

/-- A computation that makes no access. -/
def ofOutcome (r : Except ε α) : Checked ε α where
  accesses := []
  outcome := some r
  isSome_outcome_iff := by simp

/-- A computation that goes on with another one, if it gives a value. -/
protected def bind (x : Checked ε α) (f : α → Checked ε β) : Checked ε β where
  accesses := x.accesses ++
    match x.outcome with
    | some (.ok a) => (f a).accesses
    | _ => []
  outcome :=
    match x.outcome with
    | some (.ok a) => (f a).outcome
    | some (.error e) => some (.error e)
    | none => none
  isSome_outcome_iff := by
    have hx := x.isSome_outcome_iff
    rcases h : x.outcome with _ | e | a
    · simpa [h] using hx
    · simpa [h] using hx
    · have hall : ∀ b ∈ x.accesses, b.InRange := hx.1 (h ▸ rfl)
      rw [List.forall_mem_append, (f a).isSome_outcome_iff]
      exact ⟨fun hf => ⟨hall, hf⟩, And.right⟩

instance : Monad (Checked ε) where
  pure a := ofOutcome (.ok a)
  bind := Checked.bind

instance : MonadLift (Except ε) (Checked ε) where
  monadLift := ofOutcome

theorem bind_of_ok {x : Checked ε α} {a : α} (h : x.outcome = some (.ok a))
    (f : α → Checked ε β) : (x >>= f).outcome = (f a).outcome := by
  change (Checked.bind x f).outcome = _
  rw [Checked.bind]
  simp only [h]

theorem bind_of_error {x : Checked ε α} {e : ε} (h : x.outcome = some (.error e))
    (f : α → Checked ε β) : (x >>= f).outcome = some (.error e) := by
  change (Checked.bind x f).outcome = _
  rw [Checked.bind]
  simp only [h]

instance : LawfulMonad (Checked ε) := LawfulMonad.mk' (Checked ε)
  (fun x => by
    change Checked.bind x (fun a => ofOutcome (.ok a)) = x
    rcases h : x.outcome with _ | e | a <;> ext1 <;> simp [Checked.bind, ofOutcome, h])
  (fun a f => by
    change Checked.bind (ofOutcome (.ok a)) f = f a
    ext1 <;> simp [Checked.bind, ofOutcome])
  (fun x f g => by
    change Checked.bind (Checked.bind x f) g = Checked.bind x fun a => Checked.bind (f a) g
    rcases h : x.outcome with _ | e | a <;> ext1 <;> simp [Checked.bind, h])

/-! ## Accesses -/

/-- A single access, which gives something if it is in range. -/
def access (a : Access) (result : Option α) (h : result.isSome ↔ a.InRange) : Checked ε α where
  accesses := [a]
  outcome := result.map .ok
  isSome_outcome_iff := by rw [Option.isSome_map, List.forall_mem_singleton, h]

/-- The value at a place of a list. -/
def valueAt (values : List α) (place : Nat) : Checked ε α :=
  access (.value place values.length) values[place]? (by simp [Access.InRange])

/-- So many values off the front of a list, and the others. -/
def valuesOff (values : List α) (count : Nat) : Checked ε (List α × List α) :=
  access (.values count values.length)
    (if count ≤ values.length then some (values.take count, values.drop count) else none)
    (by simp [Access.InRange])

/-- What stands between two byte offsets of a text. -/
def part (text : List Char) (start stop : Nat) : Checked ε (List Char) :=
  access (.part text start stop) (slice? text start stop) slice?_isSome_iff

/-! ## Computations in range -/

/-- A computation stays in range and comes to an outcome. -/
structure ComesTo (x : Checked ε α) (r : Except ε α) : Prop where
  /-- All accesses are in range. -/
  inRange : ∀ a ∈ x.accesses, a.InRange
  /-- The computation does not break off, and this is its outcome. -/
  outcome : x.outcome = some r

variable {x : Checked ε α} {r : Except ε α}

/-- **What comes to an outcome has stayed in range.** -/
theorem comesTo_iff : x.ComesTo r ↔ x.outcome = some r :=
  ⟨ComesTo.outcome, fun h => ⟨x.isSome_outcome_iff.1 (h ▸ rfl), h⟩⟩

/-- What makes no access stays in range. -/
theorem comesTo_ofOutcome (r : Except ε α) : (ofOutcome r).ComesTo r := comesTo_iff.2 rfl

theorem comesTo_pure (a : α) : ComesTo (pure a : Checked ε α) (.ok a) := comesTo_ofOutcome (.ok a)

theorem comesTo_access {a : Access} {result : Option α} {v : α} (h : result.isSome ↔ a.InRange)
    (hv : result = some v) : ComesTo (access a result h : Checked ε α) (.ok v) := by
  subst hv
  exact comesTo_iff.2 rfl

theorem comesTo_valueAt {values : List α} {place : Nat} {v : α} (h : values[place]? = some v) :
    ComesTo (valueAt values place : Checked ε α) (.ok v) :=
  comesTo_access _ h

theorem comesTo_valuesOff {values : List α} {count : Nat} (h : count ≤ values.length) :
    ComesTo (valuesOff values count : Checked ε _)
      (.ok (values.take count, values.drop count)) :=
  comesTo_access _ (if_pos h)

theorem comesTo_part {text s : List Char} {start stop : Nat} (h : slice? text start stop = some s) :
    ComesTo (part text start stop : Checked ε _) (.ok s) :=
  comesTo_access _ h

/-- What goes on after a value stays in range if it does on this value. -/
theorem ComesTo.bind_ok {a : α} {f : α → Checked ε β} {s : Except ε β} (hx : x.ComesTo (.ok a))
    (hf : (f a).ComesTo s) : (x >>= f).ComesTo s := by
  rw [comesTo_iff, bind_of_ok hx.outcome f, hf.outcome]

/-- **A computation stays in range if its steps do**, as far as they are made. -/
theorem ComesTo.bind {f : α → Checked ε β} {g : α → Except ε β} (hx : x.ComesTo r)
    (hf : ∀ a, r = .ok a → (f a).ComesTo (g a)) : (x >>= f).ComesTo (r >>= g) := by
  cases r with
  | error e => exact comesTo_iff.2 (bind_of_error hx.outcome f)
  | ok a => exact hx.bind_ok (hf a rfl)

theorem ComesTo.map {f : α → β} (hx : x.ComesTo r) :
    (x >>= fun a => pure (f a)).ComesTo (r.map f) := by
  cases r with
  | error e => exact comesTo_iff.2 (bind_of_error hx.outcome _)
  | ok a => exact hx.bind_ok (comesTo_pure (f a))

theorem ComesTo.mapM {f : α → Checked ε β} {g : α → Except ε β} (h : ∀ a, (f a).ComesTo (g a))
    (as : List α) : (as.mapM f).ComesTo (as.mapM g) := by
  induction as with
  | nil => exact comesTo_pure []
  | cons a as ih =>
    rw [List.mapM_cons, List.mapM_cons]
    exact (h a).bind fun b _ => ih.bind fun bs _ => comesTo_pure (b :: bs)

end Checked

end XmlQuery
