import XmlQuery.Namespace.Uri

/-!
# Bindings of prefixes

The prefixes of an expression stand for the namespaces that a table binds them to. The empty
prefix stands for the namespace of element names without a prefix. No prefix is bound to the
empty namespace.

## Main definitions

* `Bindings`: a table of prefixes and namespaces
* `Bindings.insert`: the table with a further binding, which replaces an earlier one
* `Bindings.put`: a further binding put into a table in place
* `PrefixMap`, `Bindings.ofMap`: a map that becomes a table if it may
* `Bindings.resolve?`: the namespace of a prefix; `xml` is always bound
* `Bindings.sorted`: the bindings in the order of their prefixes
-/

namespace XmlQuery.XPath

/-- A prefix is bound to the empty namespace. -/
structure BindingError where
  /-- The prefix. -/
  nsPrefix : String
  deriving DecidableEq

/-- The wording of the error. -/
def BindingError.message (e : BindingError) : String :=
  "binding for prefix '" ++ e.nsPrefix ++ "' must be a non-empty namespace URI"

/-- A table of prefixes and namespaces, in the order in which the prefixes came. -/
structure Bindings where
  /-- The prefixes and their namespaces. -/
  entries : List (String × String)
  deriving DecidableEq

namespace Bindings

/-- The table without bindings. -/
def empty : Bindings := ⟨[]⟩

/-- The namespace that the table has for a prefix. -/
def get? (b : Bindings) (nsPrefix : String) : Option String := b.entries.lookup nsPrefix

/-- Entries with a further one, in the place of one with the same prefix if there is one. -/
def insertEntry (nsPrefix uri : String) : List (String × String) → List (String × String)
  | [] => [(nsPrefix, uri)]
  | entry :: rest =>
    if entry.1 = nsPrefix then (nsPrefix, uri) :: rest
    else entry :: insertEntry nsPrefix uri rest

/-- The table with a further binding, which replaces an earlier one of the same prefix. -/
def insert (b : Bindings) (nsPrefix uri : String) : Except BindingError Bindings :=
  if uri = "" then .error ⟨nsPrefix⟩ else .ok ⟨insertEntry nsPrefix uri b.entries⟩

/-- A further binding is put into a table in place. It is looked at before anything is changed. -/
def put (nsPrefix uri : String) : ExceptT BindingError (StateM Bindings) Unit := do
  if uri = "" then throw ⟨nsPrefix⟩
  modify fun b => ⟨insertEntry nsPrefix uri b.entries⟩

/-- The table of pairs that are inserted in order. -/
def ofPairs (pairs : List (String × String)) : Except BindingError Bindings :=
  pairs.foldlM (fun b (p, uri) => b.insert p uri) empty

/-- The namespace that a prefix stands for; `xml` is always bound. -/
def resolve? (b : Bindings) (nsPrefix : String) : Option String :=
  match b.get? nsPrefix with
  | some uri => some uri
  | none => if nsPrefix = "xml" then some Namespace.xmlUri else none

/-- The namespace of element names without a prefix, if one is bound. -/
def default? (b : Bindings) : Option String := b.get? ""

/-- The number of bindings. -/
def size (b : Bindings) : Nat := b.entries.length

/-- There is no binding. -/
def isEmpty (b : Bindings) : Bool := b.entries.isEmpty

/-- The bindings in the order of their prefixes. -/
def sorted (b : Bindings) : List (String × String) :=
  b.entries.mergeSort fun x y => decide (x.1 ≤ y.1)

/-! ## Look-up -/

theorem lookup_insertEntry (p uri q : String) (entries : List (String × String)) :
    (insertEntry p uri entries).lookup q = if q = p then some uri else entries.lookup q := by
  induction entries with
  | nil =>
    by_cases h : q = p
    · simp [insertEntry, h]
    · simp [insertEntry, List.lookup_cons, beq_eq_false_iff_ne.2 h, h]
  | cons entry rest ih =>
    obtain ⟨r, u⟩ := entry
    by_cases hr : r = p
    · subst hr
      by_cases h : q = r
      · simp [insertEntry, h]
      · simp [insertEntry, List.lookup_cons, beq_eq_false_iff_ne.2 h, h]
    · by_cases h : q = r
      · subst h
        simp [insertEntry, hr]
      · simp [insertEntry, List.lookup_cons, hr, beq_eq_false_iff_ne.2 h, ih]

/-- An accepted binding is in force for its prefix, and no other prefix is touched. -/
theorem get?_insert {b c : Bindings} {p uri : String} (h : b.insert p uri = .ok c) (q : String) :
    c.get? q = if q = p then some uri else b.get? q := by
  unfold insert at h
  split at h
  · cases h
  · cases h
    exact lookup_insertEntry p uri q b.entries

/-! ## Maps -/

theorem mem_fst_insertEntry {p uri q : String} {entries : List (String × String)} :
    q ∈ (insertEntry p uri entries).map (·.1) ↔ q = p ∨ q ∈ entries.map (·.1) := by
  induction entries with
  | nil => simp [insertEntry]
  | cons entry rest ih =>
    rw [insertEntry]
    split
    · rename_i hp
      simp [hp]
    · rw [List.map_cons, List.mem_cons, ih, List.map_cons, List.mem_cons]
      exact or_left_comm

theorem nodup_insertEntry {p uri : String} {entries : List (String × String)}
    (h : (entries.map (·.1)).Nodup) : ((insertEntry p uri entries).map (·.1)).Nodup := by
  induction entries with
  | nil => simp [insertEntry]
  | cons entry rest ih =>
    rw [List.map_cons, List.nodup_cons] at h
    rw [insertEntry]
    split
    · rename_i hp
      rw [List.map_cons, List.nodup_cons, ← hp]
      exact h
    · rename_i hp
      rw [List.map_cons, List.nodup_cons, mem_fst_insertEntry]
      exact ⟨not_or.2 ⟨hp, h.1⟩, ih h.2⟩

end Bindings

/-- A map from prefixes to namespaces, in the order in which it is gone through. -/
structure PrefixMap where
  /-- The prefixes and their namespaces. -/
  entries : List (String × String)
  /-- A prefix has one namespace. -/
  nodup : (entries.map (·.1)).Nodup

/-- The map that pairs make, of which the last one of a prefix counts. -/
def PrefixMap.ofPairs (pairs : List (String × String)) : PrefixMap :=
  pairs.foldl (fun m (p, uri) => ⟨Bindings.insertEntry p uri m.entries,
    Bindings.nodup_insertEntry m.nodup⟩) ⟨[], List.nodup_nil⟩

/-- The table of a map, none of whose namespaces may be empty. -/
def Bindings.ofMap (m : PrefixMap) : Except BindingError Bindings :=
  match m.entries.find? (·.2 = "") with
  | some (p, _) => .error ⟨p⟩
  | none => .ok ⟨m.entries⟩

end XmlQuery.XPath
