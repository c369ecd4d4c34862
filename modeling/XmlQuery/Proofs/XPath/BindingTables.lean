import Mathlib.Data.List.Induction
import XmlQuery.Proofs.XPath.Bindings

/-!
# Tables of bindings after operations

A table of bindings is made and changed by operations: a binding is added, in place or to a copy, or
the table is made anew from pairs or from a map. An operation that brings an empty namespace is
refused and changes nothing. What the others bring is known without a table, as a list, and the
table is the map of this list in which the last binding of a prefix counts. It has one entry for a
prefix, so that neither its order nor the operations show in the sorted table.

## Main definitions

* `Operation`: an operation, and the bindings that it brings
* `perform`: what comes of an operation, and the table after it
* `performed`, `accepted`: the table after operations, and the bindings that they brought
* `Mirrors`: a table is the map of a list of bindings
* `LastWins`: what holds of a table after operations

## Main results

* `insertEach_cases`: insertions in order, or the first one that is refused
* `ofMap_eq_ofPairs`: a map becomes a table as the pairs do that it consists of
* `perform_cases`: an operation is refused, or it inserts what it brings
* `mirrors_performed`: a table is the map of what was accepted
* `lastWins_performed`: **a table of bindings is a validated map in which the last binding counts**
-/

namespace XmlQuery.XPath.Bindings

variable {b : Bindings} {entries pairs : List (String × String)} {p uri : String}

/-! ## Insertions in order -/

/-- A table with further bindings, which are inserted in order. -/
def insertEach (b : Bindings) (pairs : List (String × String)) : Except BindingError Bindings :=
  pairs.foldlM (fun b (p, uri) => b.insert p uri) b

/-- Entries with further ones, which are inserted in order. -/
def insertAll (entries pairs : List (String × String)) : List (String × String) :=
  pairs.foldl (fun entries (p, uri) => insertEntry p uri entries) entries

theorem insertEach_cons (b : Bindings) (p uri : String) (rest : List (String × String)) :
    b.insertEach ((p, uri) :: rest) = (b.insert p uri).bind (·.insertEach rest) := rfl

theorem insertAll_cons (entries : List (String × String)) (p uri : String)
    (rest : List (String × String)) :
    insertAll entries ((p, uri) :: rest) = insertAll (insertEntry p uri entries) rest := rfl

theorem insertAll_concat (entries pairs : List (String × String)) (pair : String × String) :
    insertAll entries (pairs ++ [pair]) = insertEntry pair.1 pair.2 (insertAll entries pairs) :=
  List.foldl_concat ..

/-- Bindings are inserted if no namespace is empty. Else the first empty one is refused. -/
theorem insertEach_cases (b : Bindings) (pairs : List (String × String)) :
    (∃ front p back, pairs = front ++ (p, "") :: back ∧ (∀ pair ∈ front, pair.2 ≠ "") ∧
      b.insertEach pairs = .error ⟨p⟩) ∨
    ((∀ pair ∈ pairs, pair.2 ≠ "") ∧ b.insertEach pairs = .ok ⟨insertAll b.entries pairs⟩) := by
  induction pairs generalizing b with
  | nil => exact .inr ⟨nofun, rfl⟩
  | cons pair rest ih =>
    obtain ⟨p, uri⟩ := pair
    by_cases huri : uri = ""
    · subst huri
      exact .inl ⟨[], p, rest, rfl, nofun, rfl⟩
    · rw [insertEach_cons, insertAll_cons, Bindings.insert, if_neg huri]
      rcases ih ⟨insertEntry p uri b.entries⟩ with ⟨front, q, back, rfl, hfront, herror⟩ |
        ⟨hrest, hok⟩
      · exact .inl ⟨(p, uri) :: front, q, back, rfl, List.forall_mem_cons.2 ⟨huri, hfront⟩, herror⟩
      · exact .inr ⟨List.forall_mem_cons.2 ⟨huri, hrest⟩, hok⟩

theorem insertEntry_of_not_mem (h : p ∉ entries.map (·.1)) :
    insertEntry p uri entries = entries ++ [(p, uri)] := by
  induction entries with
  | nil => rfl
  | cons entry rest ih =>
    rw [List.map_cons, List.mem_cons, not_or] at h
    rw [insertEntry, if_neg (Ne.symm h.1), ih h.2, List.cons_append]

/-- Entries of different prefixes are inserted one behind the other. -/
theorem insertAll_of_nodup (h : ((entries ++ pairs).map (·.1)).Nodup) :
    insertAll entries pairs = entries ++ pairs := by
  induction pairs generalizing entries with
  | nil => exact (List.append_nil entries).symm
  | cons pair rest ih =>
    obtain ⟨p, uri⟩ := pair
    have hmem : p ∉ entries.map (·.1) := by
      rw [List.map_append, List.map_cons] at h
      exact fun hmem => List.disjoint_of_nodup_append h hmem List.mem_cons_self
    rw [List.append_cons] at h ⊢
    rw [insertAll_cons, insertEntry_of_not_mem hmem, ih h]

/-- **A map becomes a table as the pairs do that it consists of.** -/
theorem ofMap_eq_ofPairs (m : PrefixMap) : ofMap m = ofPairs m.entries := by
  change ofMap m = empty.insertEach m.entries
  rcases insertEach_cases empty m.entries with ⟨front, p, back, hentries, hfront, herror⟩ |
    ⟨hall, hok⟩
  · have hfind : m.entries.find? (·.2 = "") = some (p, "") := by
      rw [List.find?_eq_some_iff_append]
      exact ⟨decide_eq_true rfl, front, back, hentries, by simpa using hfront⟩
    rw [ofMap, hfind, herror]
  · have hfind : m.entries.find? (·.2 = "") = none := by
      rw [List.find?_eq_none]
      simpa using hall
    have hinsert : insertAll empty.entries m.entries = m.entries := insertAll_of_nodup m.nodup
    rw [ofMap, hfind, hok, hinsert]

/-! ## Operations -/

/-- An operation on a table of bindings. -/
inductive Operation
  /-- A binding is put into the table in place. -/
  | put (nsPrefix uri : String)
  /-- A binding is added to a copy of the table. -/
  | insert (nsPrefix uri : String)
  /-- The table is made anew from pairs. -/
  | ofPairs (pairs : List (String × String))
  /-- The table is made anew from a map. -/
  | ofMap (m : PrefixMap)

namespace Operation

/-- The bindings that an operation brings. -/
def brings : Operation → List (String × String)
  | .put p uri | .insert p uri => [(p, uri)]
  | .ofPairs pairs => pairs
  | .ofMap m => m.entries

/-- The bindings that an operation keeps. -/
def keeps (entries : List (String × String)) : Operation → List (String × String)
  | .put _ _ | .insert _ _ => entries
  | .ofPairs _ | .ofMap _ => []

/-- The bindings that were accepted, after an operation. It is accepted if none of its namespaces
is empty. -/
def accept (accepted : List (String × String)) (op : Operation) : List (String × String) :=
  if ∀ pair ∈ op.brings, pair.2 ≠ "" then op.keeps accepted ++ op.brings else accepted

end Operation

/-- What comes of a new table, and the table after it: the old one stays if there is no new one. -/
def replacedBy (b : Bindings) : Except BindingError Bindings → Except BindingError Unit × Bindings
  | .ok c => (.ok (), c)
  | .error e => (.error e, b)

/-- What comes of an operation, and the table after it. -/
def perform (b : Bindings) : Operation → Except BindingError Unit × Bindings
  | .put p uri => (put p uri).run.run b
  | .insert p uri => b.replacedBy (b.insert p uri)
  | .ofPairs pairs => b.replacedBy (ofPairs pairs)
  | .ofMap m => b.replacedBy (ofMap m)

/-- The table that operations leave, the first of them on a table without bindings. -/
def performed (ops : List Operation) : Bindings := ops.foldl (fun b op => (b.perform op).2) empty

/-- The bindings that operations brought since the table was last made anew, in order. -/
def accepted (ops : List Operation) : List (String × String) := ops.foldl Operation.accept []

variable {op : Operation} {ops : List Operation} {log : List (String × String)}

/-- A binding is put into a table as it is added to a copy. -/
theorem run_put (b : Bindings) (p uri : String) :
    (put p uri).run.run b = b.replacedBy (b.insert p uri) := by
  rw [put, Bindings.insert]
  split <;> rfl

/-- All operations insert in order. -/
theorem perform_eq (b : Bindings) (op : Operation) :
    b.perform op = b.replacedBy (insertEach ⟨op.keeps b.entries⟩ op.brings) := by
  have hsingle : ∀ p uri, b.insertEach [(p, uri)] = b.insert p uri := fun p uri =>
    bind_pure (b.insert p uri)
  cases op with
  | put p uri => exact (run_put b p uri).trans (congrArg b.replacedBy (hsingle p uri).symm)
  | insert p uri => exact congrArg b.replacedBy (hsingle p uri).symm
  | ofPairs pairs => rfl
  | ofMap m => exact congrArg b.replacedBy (ofMap_eq_ofPairs m)

/-- **An operation is refused for the first empty namespace, or it inserts what it brings.** -/
theorem perform_cases (b : Bindings) (op : Operation) :
    (∃ front p back, op.brings = front ++ (p, "") :: back ∧ (∀ pair ∈ front, pair.2 ≠ "") ∧
      b.perform op = (.error ⟨p⟩, b)) ∨
    ((∀ pair ∈ op.brings, pair.2 ≠ "") ∧
      b.perform op = (.ok (), ⟨insertAll (op.keeps b.entries) op.brings⟩)) := by
  rw [perform_eq]
  rcases insertEach_cases ⟨op.keeps b.entries⟩ op.brings with
    ⟨front, p, back, hpairs, hfront, herror⟩ | ⟨hall, hok⟩
  · exact .inl ⟨front, p, back, hpairs, hfront, by rw [herror]; rfl⟩
  · exact .inr ⟨hall, by rw [hok]; rfl⟩

theorem not_forall_of_mem_empty {front back : List (String × String)} {p : String}
    (h : pairs = front ++ (p, "") :: back) : ¬ ∀ pair ∈ pairs, pair.2 ≠ "" := fun hall =>
  hall (p, "") (by simp [h]) rfl

/-! ## The map of what was accepted -/

/-- A table is the map of a list of bindings in which the last one of a prefix counts. -/
structure Mirrors (log : List (String × String)) (b : Bindings) : Prop where
  /-- A prefix has one entry. -/
  unique : (b.entries.map (·.1)).Nodup
  /-- No namespace is empty. -/
  nonempty : ∀ entry ∈ b.entries, entry.2 ≠ ""
  /-- The entry is the last one of the list. -/
  get?_eq : ∀ p, b.get? p = log.reverse.lookup p

theorem mirrors_empty : Mirrors [] empty := ⟨List.nodup_nil, nofun, fun _ => rfl⟩

theorem mem_insertEntry {p uri : String} {entry : String × String}
    (h : entry ∈ insertEntry p uri entries) : entry = (p, uri) ∨ entry ∈ entries := by
  induction entries with
  | nil => exact .inl (List.mem_singleton.1 h)
  | cons first rest ih =>
    rw [insertEntry] at h
    split at h
    · exact (List.mem_cons.1 h).imp_right (List.mem_cons_of_mem first)
    · rcases List.mem_cons.1 h with rfl | hrest
      · exact .inr List.mem_cons_self
      · exact (ih hrest).imp_right (List.mem_cons_of_mem first)

/-- One more binding is the last one of its prefix. -/
theorem Mirrors.insertEntry (h : Mirrors log b) {p uri : String} (huri : uri ≠ "") :
    Mirrors (log ++ [(p, uri)]) ⟨insertEntry p uri b.entries⟩ where
  unique := nodup_insertEntry h.unique
  nonempty entry hentry := by
    rcases mem_insertEntry hentry with rfl | hold
    · exact huri
    · exact h.nonempty entry hold
  get?_eq q := by
    rw [get?, lookup_insertEntry, ← get?, h.get?_eq, List.reverse_concat, List.lookup_cons]
    split
    · next hq => rw [hq, beq_self_eq_true]
    · next hq => rw [beq_eq_false_iff_ne.2 hq]

theorem Mirrors.insertAll (h : Mirrors log b) (hpairs : ∀ pair ∈ pairs, pair.2 ≠ "") :
    Mirrors (log ++ pairs) ⟨insertAll b.entries pairs⟩ := by
  induction pairs generalizing log b with
  | nil => rwa [List.append_nil]
  | cons pair rest ih =>
    obtain ⟨huri, hrest⟩ := List.forall_mem_cons.1 hpairs
    rw [List.append_cons]
    exact ih (h.insertEntry huri) hrest

theorem Mirrors.keeps (h : Mirrors log b) (op : Operation) :
    Mirrors (op.keeps log) ⟨op.keeps b.entries⟩ := by
  cases op with
  | put | insert => exact h
  | ofPairs | ofMap => exact mirrors_empty

/-- A table stays the map of what is accepted. -/
theorem Mirrors.perform (h : Mirrors log b) (op : Operation) :
    Mirrors (op.accept log) (b.perform op).2 := by
  rw [Operation.accept]
  rcases perform_cases b op with ⟨front, p, back, hpairs, -, herror⟩ | ⟨hall, hok⟩
  · rw [if_neg (not_forall_of_mem_empty hpairs), herror]
    exact h
  · rw [if_pos hall, hok]
    exact (h.keeps op).insertAll hall

/-- Sorted bindings have increasing prefixes if a prefix has one entry. -/
theorem sorted_increasing (h : (b.entries.map (·.1)).Nodup) :
    b.sorted.Pairwise fun x y => x.1 < y.1 := by
  have hnodup : (b.sorted.map (·.1)).Nodup := (b.sorted_perm.map (·.1)).nodup_iff.2 h
  have hne : b.sorted.Pairwise fun x y => x.1 ≠ y.1 := List.pairwise_map.1 hnodup
  exact (b.sorted_pairwise.and hne).imp fun ⟨hle, hne⟩ =>
    String.not_le.1 fun hge => hne (String.le_antisymm hle hge)

/-- The order of entries of different prefixes does not show in the look-up. -/
theorem get?_of_perm (h : (b.entries.map (·.1)).Nodup) (hperm : entries.Perm b.entries)
    (p : String) : get? ⟨entries⟩ p = b.get? p := by
  have hentries : (entries.map (·.1)).Nodup := (hperm.map (·.1)).nodup_iff.2 h
  refine Option.ext fun uri => ?_
  rw [get?, get?, lookup_eq_some_iff_mem hentries, lookup_eq_some_iff_mem h, hperm.mem_iff]

/-! ## Tables after operations -/

theorem performed_concat (ops : List Operation) (op : Operation) :
    performed (ops ++ [op]) = ((performed ops).perform op).2 := List.foldl_concat ..

theorem accepted_concat (ops : List Operation) (op : Operation) :
    accepted (ops ++ [op]) = op.accept (accepted ops) := List.foldl_concat ..

/-- **A table is the map of what was accepted.** -/
theorem mirrors_performed (ops : List Operation) : (performed ops).Mirrors (accepted ops) := by
  induction ops using List.reverseRecOn with
  | nil => exact mirrors_empty
  | append_singleton ops op ih =>
    rw [performed_concat, accepted_concat]
    exact ih.perform op

/-- Bindings that are put into a table one after the other are inserted in order. -/
theorem performed_put (h : ∀ pair ∈ pairs, pair.2 ≠ "") :
    performed (pairs.map fun (p, uri) => .put p uri) = ⟨insertAll [] pairs⟩ := by
  induction pairs using List.reverseRecOn with
  | nil => rfl
  | append_singleton pairs pair ih =>
    obtain ⟨hpairs, huri⟩ := List.forall_mem_append.1 h
    rw [List.map_append, List.map_singleton, performed_concat, ih hpairs, perform, run_put, insert,
      if_neg (huri pair List.mem_cons_self), insertAll_concat]
    rfl

theorem ofPairs_eq_ok_iff {c : Bindings} :
    ofPairs pairs = .ok c ↔ (∀ pair ∈ pairs, pair.2 ≠ "") ∧
      c = performed (pairs.map fun (p, uri) => .put p uri) := by
  change empty.insertEach pairs = .ok c ↔ _
  rcases insertEach_cases empty pairs with ⟨front, p, back, hpairs, -, herror⟩ | ⟨hall, hok⟩
  · rw [herror]
    exact iff_of_false nofun fun h => not_forall_of_mem_empty hpairs h.1
  · rw [hok, performed_put hall, Except.ok.injEq, eq_comm]
    exact (and_iff_right hall).symm

/-- What holds of the table that operations leave, and of the next operation on it. -/
structure LastWins (ops : List Operation) (b : Bindings) : Prop where
  /-- A prefix has one entry. -/
  unique : (b.entries.map (·.1)).Nodup
  /-- No namespace is empty. -/
  nonempty : ∀ entry ∈ b.entries, entry.2 ≠ ""
  /-- A prefix stands for the namespace of the last binding that was accepted for it, and `xml` is
  always bound. -/
  resolve?_eq : ∀ p, b.resolve? p =
    ((accepted ops).reverse.lookup p).or (if p = "xml" then some Namespace.xmlUri else none)
  /-- An operation is refused if it brings an empty namespace, and only then. -/
  refused_iff : ∀ op, (∃ e, (b.perform op).1 = .error e) ↔ ∃ pair ∈ op.brings, pair.2 = ""
  /-- The first one is reported, and the table stays as it is. -/
  refused : ∀ op e, (b.perform op).1 = .error e → (b.perform op).2 = b ∧
    ∃ front back, op.brings = front ++ (e.nsPrefix, "") :: back ∧ ∀ pair ∈ front, pair.2 ≠ ""
  /-- Pairs make the table that they leave if they are put into an empty one in order. -/
  ofPairs_iff : ∀ pairs c, ofPairs pairs = .ok c ↔ (∀ pair ∈ pairs, pair.2 ≠ "") ∧
    c = performed (pairs.map fun (p, uri) => .put p uri)
  /-- The prefixes of the sorted table increase. -/
  sorted_increasing : b.sorted.Pairwise fun x y => x.1 < y.1
  /-- It tells tables apart by what they bind, whatever they were made by. -/
  sorted_eq_iff : ∀ ops', b.sorted = (performed ops').sorted ↔
    ∀ p, b.get? p = (performed ops').get? p
  /-- The order in which the entries are gone through does not show in what prefixes stand for. -/
  resolve?_of_perm : ∀ entries, entries.Perm b.entries →
    ∀ p, resolve? ⟨entries⟩ p = b.resolve? p
  /-- Nor does it in the sorted table, which is the one list of the entries in the order of their
  prefixes. -/
  eq_sorted_iff : ∀ entries, entries = b.sorted ↔
    entries.Perm b.entries ∧ entries.Pairwise fun x y => x.1 ≤ y.1

/-- **A table of bindings is a validated map in which the last binding counts**, by whatever
operations it was made. -/
theorem lastWins_performed (ops : List Operation) : LastWins ops (performed ops) where
  unique := (mirrors_performed ops).unique
  nonempty := (mirrors_performed ops).nonempty
  resolve?_eq p := by
    rw [resolve?, (mirrors_performed ops).get?_eq]
    cases (accepted ops).reverse.lookup p <;> rfl
  refused_iff op := by
    rcases (performed ops).perform_cases op with ⟨front, p, back, hpairs, -, herror⟩ | ⟨hall, hok⟩
    · exact iff_of_true ⟨⟨p⟩, by rw [herror]⟩ ⟨(p, ""), by simp [hpairs], rfl⟩
    · rw [hok]
      refine iff_of_false ?_ ?_
      · rintro ⟨e, he⟩
        cases he
      · rintro ⟨pair, hmem, hempty⟩
        exact hall pair hmem hempty
  refused op e he := by
    rcases (performed ops).perform_cases op with ⟨front, p, back, hpairs, hfront, herror⟩ |
      ⟨-, hok⟩
    · rw [herror] at he ⊢
      cases he
      exact ⟨rfl, front, back, hpairs, hfront⟩
    · rw [hok] at he
      cases he
  ofPairs_iff _ _ := ofPairs_eq_ok_iff
  sorted_increasing := sorted_increasing (mirrors_performed ops).unique
  sorted_eq_iff ops' := by
    refine ⟨fun h p => ?_, sorted_eq_of_get? (mirrors_performed ops).unique
      (mirrors_performed ops').unique⟩
    rw [← lookup_sorted, h, lookup_sorted]
  resolve?_of_perm entries hperm p := by
    rw [resolve?, get?_of_perm (mirrors_performed ops).unique hperm, resolve?]
  eq_sorted_iff entries := by
    constructor
    · rintro rfl
      exact ⟨sorted_perm _, sorted_pairwise _⟩
    · rintro ⟨hperm, hle⟩
      exact eq_sorted (mirrors_performed ops).unique hperm hle

end XmlQuery.XPath.Bindings
