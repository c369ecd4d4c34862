import XmlQuery.Proofs.Markup.ScannedEvents

/-!
# Events tile a text

Iteration calls a scanner until the text ends or a fault is found, and gives nothing from then on.
One call goes from the offset of a cursor to that of another, so by induction all calls do. The
events come one behind the other from the start of the text, each one takes at least one byte, and
no slice on the way is bad.

## Main definitions

* `Scanner.next`: one call of the iteration
* `Scanner.stateAfter`, `Scanner.call`: the state after some calls, and what the next one gives
* `Scanner.Tiles`: the calls go over the events of a reading

## Main results

* `Scanner.next_eq`: a call at the offset of a cursor
* `Scanner.tiles_readAll`: **the events of a text tile it**
-/

namespace XmlQuery.Markup.Scanner

open Text (Cursor IsBoundary utf8Length)

/-- How far an iteration over the events of a text has come. -/
structure Iteration where
  /-- The offset of the scanner. -/
  position : Nat
  /-- A fault has been found. -/
  failed : Bool
  deriving DecidableEq

/-- The iteration in front of the first event. -/
def Iteration.start : Iteration := ⟨0, false⟩

/-- What one call gives. -/
inductive Item
  /-- An event, with the offset at which it starts. -/
  | event (offset : Nat) (event : Event)
  /-- A fault. -/
  | fault (fault : Fault)
  /-- No result: a slice was bad. -/
  | badSlice
  deriving DecidableEq

/-- One call of an iteration: what it gives, if the iteration is not at its end, and how far the
iteration is after it. -/
def next (text : List Char) (s : Iteration) : Option Item × Iteration :=
  if s.failed then (none, s)
  else if utf8Length text ≤ s.position then (none, s)
  else
    match readEvent text s.position with
    | .ok (event, position) => (some (.event s.position event), ⟨position, false⟩)
    | .error (.failed failure) => (some (.fault failure.fault), ⟨failure.stopped, true⟩)
    | .error .badSlice => (some .badSlice, ⟨s.position, true⟩)

/-- How far an iteration is after `n` calls. -/
def stateAfter (text : List Char) (s : Iteration) : Nat → Iteration
  | 0 => s
  | n + 1 => stateAfter text (next text s).2 n

/-- What call `n` gives, counted from 0. -/
def call (text : List Char) (s : Iteration) (n : Nat) : Option Item :=
  (next text (stateAfter text s n)).1

/-- An iteration ends after `n` calls: at the end of the text, or with one fault and nothing behind
it. -/
inductive Ends (text : List Char) (s : Iteration) (n : Nat) : Except Failure Nat → Prop
  /-- The end of the text is reached, and nothing more is given. -/
  | reached : (∀ m, n ≤ m → call text s m = none ∧
      (stateAfter text s m).position = utf8Length text) →
    Ends text s n (.ok (utf8Length text))
  /-- A fault is given, and nothing more. -/
  | failed {failure : Failure} : call text s n = some (.fault failure.fault) →
    IsBoundary text failure.fault.offset → (∀ m, n < m → call text s m = none) →
    Ends text s n (.error failure)

/-- The calls of an iteration go over the events of a reading, which come one behind the other, and
stop as the reading does. No position is out of range or inside of a character, and no slice is. -/
structure Tiles (text : List Char) (s : Iteration) (reading : Reading) : Prop where
  /-- The first event starts where the iteration does. -/
  first : ∀ p ∈ reading.events.head?, p.offset = s.position
  /-- An event starts where the one in front of it ends. -/
  adjacent : reading.events.IsChain fun p p' => p'.offset = p.next
  /-- An event takes at least one byte. -/
  progress : ∀ p ∈ reading.events, p.offset < p.next
  /-- Each call gives the next event, and goes from its start to its end. -/
  calls : ∀ n p, reading.events[n]? = some p →
    call text s n = some (.event p.offset p.event) ∧
      (stateAfter text s n).position = p.offset ∧ (stateAfter text s (n + 1)).position = p.next
  /-- Behind the events the iteration ends as the reading does. -/
  ends : Ends text s reading.events.length reading.outcome
  /-- All positions are in range and between characters. -/
  bounded : ∀ n, IsBoundary text (stateAfter text s n).position
  /-- No slice is bad. -/
  safe : ∀ n, call text s n ≠ some .badSlice

variable {text : List Char} {s s' : Iteration} {c : Cursor}

/-! ## One call -/

/-- **One call at the offset of a cursor** goes to the place that the reader reaches. -/
theorem next_eq (hc : (Cursor.ofText text).Reaches c) :
    next text ⟨c.offset, false⟩ =
      if c.rest = [] then (none, ⟨c.offset, false⟩)
      else
        match Markup.readEvent c with
        | .ok (event, d) => (some (.event c.offset event), ⟨d.offset, false⟩)
        | .error failure => (some (.fault failure.fault), ⟨failure.stopped, true⟩) := by
  rw [next, if_neg Bool.false_ne_true]
  simp only [length_le_offset_iff hc]
  refine ite_congr rfl (fun _ => rfl) fun _ => ?_
  rcases (agree_readEvent hc).exists_eq with
    ⟨_, _, hleft, hright, event, d, -⟩ | ⟨failure, _, hleft, hright, hstops⟩
  · rw [hleft, hright]
  · rw [hleft, hright, hstops.halt_eq]

/-! ## All calls -/

/-- An iteration that a call leaves where it is, has ended. -/
theorem stateAfter_of_fixed (h : (next text s).2 = s) (n : Nat) : stateAfter text s n = s := by
  induction n with
  | zero => rfl
  | succ n ih => rw [stateAfter, h, ih]

/-- Behind the end of the text nothing is given. -/
theorem tiles_end (hnext : next text s = (none, s)) (hend : s.position = utf8Length text) :
    Tiles text s ⟨[], .ok (utf8Length text)⟩ := by
  have hfixed := @stateAfter_of_fixed text s (by rw [hnext])
  have hnone : ∀ n, call text s n = none := fun n => by rw [call, hfixed, hnext]
  refine ⟨nofun, .nil, nofun, nofun, .reached fun m _ => ⟨hnone m, by rw [hfixed, hend]⟩, ?_, ?_⟩
  · intro n
    rw [hfixed, hend]
    exact ⟨text, [], (List.append_nil text).symm, rfl⟩
  · intro n hbad
    rw [hnone] at hbad
    cases hbad

/-- Behind a fault nothing is given. -/
theorem tiles_fault {failure : Failure} (hs : IsBoundary text s.position)
    (hnext : next text s = (some (.fault failure.fault), ⟨failure.stopped, true⟩))
    (hstopped : IsBoundary text failure.stopped) (hfault : IsBoundary text failure.fault.offset) :
    Tiles text s ⟨[], .error failure⟩ := by
  have hfixed := @stateAfter_of_fixed text ⟨failure.stopped, true⟩ rfl
  have hstate : ∀ n, stateAfter text s (n + 1) = ⟨failure.stopped, true⟩ := fun n => by
    rw [stateAfter, hnext, hfixed]
  have hnone : ∀ n, call text s (n + 1) = none := fun n => by
    rw [call, hstate]
    rfl
  have hcall : call text s 0 = some (.fault failure.fault) := congrArg Prod.fst hnext
  refine ⟨nofun, .nil, nofun, nofun, .failed hcall hfault fun m hm => ?_, ?_, ?_⟩
  · obtain ⟨n, rfl⟩ := Nat.exists_eq_succ_of_ne_zero (Nat.ne_of_gt hm)
    exact hnone n
  · rintro (_ | n)
    · exact hs
    · rw [hstate]
      exact hstopped
  · rintro (_ | n) hbad
    · rw [hcall] at hbad
      cases hbad
    · rw [hnone] at hbad
      cases hbad

/-- A call that gives an event puts it in front of those that are given behind it. -/
theorem Tiles.cons {event : Event} {reading : Reading} (hs : IsBoundary text s.position)
    (hnext : next text s = (some (.event s.position event), s'))
    (hlt : s.position < s'.position) (h : Tiles text s' reading) :
    Tiles text s ⟨⟨s.position, event, s'.position⟩ :: reading.events, reading.outcome⟩ := by
  have hstate : ∀ n, stateAfter text s (n + 1) = stateAfter text s' n := fun n => by
    rw [stateAfter, hnext]
  have hcall : ∀ n, call text s (n + 1) = call text s' n := fun n => by rw [call, hstate, call]
  have hfirst : call text s 0 = some (.event s.position event) := congrArg Prod.fst hnext
  obtain ⟨events, outcome⟩ := reading
  constructor
  case first =>
    rintro _ ⟨⟩
    rfl
  case adjacent => exact List.isChain_cons.2 ⟨fun p hp => h.first p hp, h.adjacent⟩
  case progress => exact List.forall_mem_cons.2 ⟨hlt, h.progress⟩
  case calls =>
    rintro (_ | n) p hp
    · cases hp
      exact ⟨hfirst, rfl, congrArg Iteration.position (hstate 0)⟩
    · rw [hcall, hstate, hstate]
      exact h.calls n p hp
  case ends =>
    cases h.ends with
    | reached hend =>
      refine .reached fun m hm => ?_
      obtain ⟨n, rfl⟩ := Nat.exists_eq_succ_of_ne_zero (Nat.ne_of_gt (Nat.zero_lt_of_lt hm))
      rw [hcall, hstate]
      exact hend n (Nat.le_of_succ_le_succ hm)
    | failed hfault hoffset hend =>
      refine .failed ((hcall _).trans hfault) hoffset fun m hm => ?_
      obtain ⟨n, rfl⟩ := Nat.exists_eq_succ_of_ne_zero (Nat.ne_of_gt (Nat.zero_lt_of_lt hm))
      rw [hcall]
      exact hend n (Nat.lt_of_succ_lt_succ hm)
  case bounded =>
    rintro (_ | n)
    · exact hs
    · rw [hstate]
      exact h.bounded n
  case safe =>
    rintro (_ | n)
    · rw [hfirst]
      nofun
    · rw [hcall]
      exact h.safe n

/-- The calls from the offset of a cursor on go over the events that the reader reads from there on,
by induction on what is left. -/
theorem tiles_readFrom {c : Cursor} (hc : (Cursor.ofText text).Reaches c) :
    Tiles text ⟨c.offset, false⟩ (readFrom c) := by
  have hnext := next_eq hc
  rw [readFrom]
  by_cases hrest : c.rest = []
  · rw [if_pos hrest] at hnext
    have hend : c.offset = utf8Length text :=
      Nat.le_antisymm (offset_le hc) ((length_le_offset_iff hc).2 hrest)
    rw [dif_pos hrest, hend]
    exact tiles_end (hend ▸ hnext) rfl
  rw [dif_neg hrest]
  rw [if_neg hrest] at hnext
  rcases (agree_readEvent hc).exists_eq with
    ⟨_, _, hleft, -, event, d, hd⟩ | ⟨failure, _, hleft, -, hstops⟩
  · have hpasses := passes_readEvent hrest hleft
    have hlt := hpasses.length_lt
    rw [hleft] at hnext ⊢
    exact (tiles_readFrom hd).cons (isBoundary_offset hc) hnext hpasses.offset_lt
  · rw [hleft] at hnext ⊢
    exact tiles_fault (isBoundary_offset hc) hnext hstops.stopped hstops.fault
termination_by c.rest.length

/-- **The events of a text tile it.** Iteration over any text gives the events that are read from
it: the first one starts at byte 0, each one starts where the scanner stands after the one in front
of it and takes at least one byte. It ends at the end of the text, or with one fault, after which
nothing is given. All positions are in range and between characters, as are the bounds of all
slices. -/
theorem tiles_readAll (text : List Char) : Tiles text .start (readAll text) :=
  tiles_readFrom (.refl _)

end XmlQuery.Markup.Scanner
