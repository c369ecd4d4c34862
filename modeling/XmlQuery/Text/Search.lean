/-!
# Searching a text

The first occurrence of a pattern splits a text into what stands before it and what starts
with it.

## Main definitions

* `splitFirst?`: the split at the first occurrence of a pattern
* `dropExact?`: what follows a pattern at the front of a text
-/

namespace XmlQuery.Text

/-- What follows `pattern` at the front of a text. -/
def dropExact? : (pattern text : List Char) → Option (List Char)
  | [], text => some text
  | _ :: _, [] => none
  | p :: pattern, c :: text => if p = c then dropExact? pattern text else none

/-- The split of a text at the first occurrence of `pattern`: what stands before it, and the
rest, which starts with it. -/
def splitFirst? (pattern : List Char) : List Char → Option (List Char × List Char)
  | [] => if pattern.isEmpty then some ([], []) else none
  | c :: rest =>
    if pattern.isPrefixOf (c :: rest) then some ([], c :: rest)
    else (splitFirst? pattern rest).map fun (before, found) => (c :: before, found)

/-- The two parts of a split make up the text. -/
theorem append_of_splitFirst? {pattern text before found : List Char}
    (h : splitFirst? pattern text = some (before, found)) : before ++ found = text := by
  induction text generalizing before found with
  | nil =>
    simp only [splitFirst?] at h
    split at h <;> simp_all
  | cons c rest ih =>
    simp only [splitFirst?] at h
    split at h
    · simp_all
    · obtain ⟨⟨b, f⟩, hb, hc⟩ := Option.map_eq_some_iff.1 h
      obtain ⟨rfl, rfl⟩ := Prod.mk.inj hc
      simp [ih hb]

end XmlQuery.Text
