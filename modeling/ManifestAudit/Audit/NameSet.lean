/-!
# Sets of names

A finite set of names is kept as a list in ascending code-point order without
repeats, so equal sets are equal lists and listing a set needs no sorting.
Membership is exact: case and spelling count.
-/

namespace ManifestAudit

/-- A finite set of names. -/
structure NameSet where
  names : List String
  ascending : names.Pairwise (· < ·)
deriving DecidableEq, Repr

namespace NameSet

/-- Put a name into an ascending list, in front of the first greater name. A name
that is already there is not repeated. -/
def place (name : String) : List String → List String
  | [] => [name]
  | first :: rest =>
    if name < first then name :: first :: rest
    else if first < name then first :: place name rest
    else first :: rest

/-- The names of the longer list are the old ones and the new one. -/
theorem mem_place {name other : String} {names : List String} :
    other ∈ place name names ↔ other = name ∨ other ∈ names := by
  induction names with
  | nil => simp [place]
  | cons first rest inductionHypothesis =>
    unfold place
    split
    · simp
    · split
      · simp only [List.mem_cons, inductionHypothesis]
        exact or_left_comm
      · rename_i notBelow notAbove
        have same : name = first :=
          String.le_antisymm (String.not_lt.1 notAbove) (String.not_lt.1 notBelow)
        simp [same]

/-- Placing a name keeps the order strict. -/
theorem pairwise_place (name : String) {names : List String}
    (ascending : names.Pairwise (· < ·)) : (place name names).Pairwise (· < ·) := by
  induction names with
  | nil => simp [place]
  | cons first rest inductionHypothesis =>
    have below := List.pairwise_cons.1 ascending
    unfold place
    split
    · rename_i smaller
      refine List.pairwise_cons.2 ⟨fun other member => ?_, ascending⟩
      rcases List.mem_cons.1 member with rfl | later
      · exact smaller
      · exact String.lt_trans smaller (below.1 other later)
    · split
      · rename_i greater
        refine List.pairwise_cons.2 ⟨fun other member => ?_, inductionHypothesis below.2⟩
        rcases mem_place.1 member with rfl | old
        · exact greater
        · exact below.1 other old
      · exact ascending

/-- The set without members. -/
def empty : NameSet := ⟨[], .nil⟩

/-- The set with one name more. -/
def insert (set : NameSet) (name : String) : NameSet :=
  ⟨place name set.names, pairwise_place name set.ascending⟩

/-- The set without a name. -/
def erase (set : NameSet) (name : String) : NameSet :=
  ⟨set.names.filter fun other => decide (other ≠ name), set.ascending.filter _⟩

/-- The set of the names in a list. -/
def ofList (names : List String) : NameSet := names.foldl insert empty

/-- Whether a name is in the set. -/
def contains (set : NameSet) (name : String) : Bool := set.names.contains name

instance : Membership String NameSet := ⟨fun set name => name ∈ set.names⟩

instance (name : String) (set : NameSet) : Decidable (name ∈ set) :=
  inferInstanceAs (Decidable (name ∈ set.names))

instance : EmptyCollection NameSet := ⟨empty⟩

@[simp] theorem contains_eq_true {set : NameSet} {name : String} :
    set.contains name = true ↔ name ∈ set := List.contains_iff_mem

@[simp] theorem mem_insert {set : NameSet} {name other : String} :
    other ∈ set.insert name ↔ other = name ∨ other ∈ set := mem_place

@[simp] theorem mem_erase {set : NameSet} {name other : String} :
    other ∈ set.erase name ↔ other ∈ set ∧ other ≠ name :=
  List.mem_filter.trans (and_congr Iff.rfl decide_eq_true_iff)

@[simp] theorem mem_ofList {names : List String} {other : String} :
    other ∈ ofList names ↔ other ∈ names := by
  have grow : ∀ (names : List String) (set : NameSet),
      other ∈ names.foldl insert set ↔ other ∈ names ∨ other ∈ set := by
    intro names
    induction names with
    | nil => simp
    | cons first rest inductionHypothesis =>
      intro set
      rw [List.foldl_cons, inductionHypothesis, mem_insert, List.mem_cons]
      exact or_left_comm.trans or_assoc.symm
  refine (grow names empty).trans (or_iff_left ?_)
  exact List.not_mem_nil

end NameSet

end ManifestAudit
