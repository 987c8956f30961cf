/-!
# Sets of texts

A set lists its members in strictly increasing order of code points, so that two sets with the same
members are equal.
-/

namespace AccessGate

namespace TextSet

/-- Puts a text into an increasing list, unless it is there. -/
def insertInto (text : String) : List String → List String
  | [] => [text]
  | first :: rest =>
      if text < first then text :: first :: rest
      else if text = first then first :: rest
      else first :: insertInto text rest

theorem mem_insertInto {text other : String} {items : List String} :
    other ∈ insertInto text items ↔ other = text ∨ other ∈ items := by
  induction items with
  | nil => simp [insertInto]
  | cons first rest induction =>
      unfold insertInto
      split
      · simp
      · split
        · next same => subst same; simp
        · simp only [List.mem_cons, induction]
          constructor
          · rintro (found | found | found) <;> simp [found]
          · rintro (found | found | found) <;> simp [found]

theorem lt_of_not_lt_of_ne {first second : String}
    (above : ¬ second < first) (different : second ≠ first) : first < second := by
  rcases Decidable.em (first < second) with below | below
  · exact below
  · exact absurd (String.le_antisymm (String.not_lt.1 below) (String.not_lt.1 above)) different

theorem sorted_insertInto {text : String} {items : List String}
    (sorted : items.Pairwise (· < ·)) : (insertInto text items).Pairwise (· < ·) := by
  induction items with
  | nil => simp [insertInto]
  | cons first rest induction =>
      rw [List.pairwise_cons] at sorted
      unfold insertInto
      split
      · next before =>
        refine List.pairwise_cons.2 ⟨?_, List.pairwise_cons.2 sorted⟩
        intro other found
        rcases List.mem_cons.1 found with found | found
        · exact found ▸ before
        · exact String.lt_trans before (sorted.1 other found)
      · next behind =>
        split
        · exact List.pairwise_cons.2 sorted
        · next different =>
          refine List.pairwise_cons.2 ⟨?_, induction sorted.2⟩
          intro other found
          rcases mem_insertInto.1 found with found | found
          · exact found ▸ lt_of_not_lt_of_ne behind different
          · exact sorted.1 other found

end TextSet

/-- A finite set of texts. -/
structure TextSet where
  items : List String
  sorted : items.Pairwise (· < ·)
  deriving DecidableEq

namespace TextSet

def empty : TextSet := ⟨[], List.Pairwise.nil⟩

instance : Inhabited TextSet := ⟨empty⟩

instance : Membership String TextSet := ⟨fun set text => text ∈ set.items⟩

instance (text : String) (set : TextSet) : Decidable (text ∈ set) :=
  inferInstanceAs (Decidable (text ∈ set.items))

def isEmpty (set : TextSet) : Bool :=
  set.items.isEmpty

/-- A set with one more member. -/
def insert (set : TextSet) (text : String) : TextSet :=
  ⟨insertInto text set.items, sorted_insertInto set.sorted⟩

/-- A set with the members of a list added. -/
def insertAll (set : TextSet) (texts : List String) : TextSet :=
  texts.foldl insert set

def ofList (texts : List String) : TextSet :=
  empty.insertAll texts

/-- The members of either of two sets. -/
def union (first second : TextSet) : TextSet :=
  first.insertAll second.items

/-- The members that satisfy a condition. -/
def filter (condition : String → Bool) (set : TextSet) : TextSet :=
  ⟨set.items.filter condition, set.sorted.filter condition⟩

/-- A set without a text. -/
def erase (set : TextSet) (text : String) : TextSet :=
  set.filter fun item => item ≠ text

@[simp] theorem mem_empty (text : String) : ¬ text ∈ empty := by
  intro found
  cases found

@[simp] theorem mem_insert (set : TextSet) (text other : String) :
    other ∈ set.insert text ↔ other = text ∨ other ∈ set :=
  mem_insertInto

@[simp] theorem mem_insertAll (set : TextSet) (texts : List String) (other : String) :
    other ∈ set.insertAll texts ↔ other ∈ texts ∨ other ∈ set := by
  induction texts generalizing set with
  | nil => simp [insertAll]
  | cons text texts induction =>
      have step := induction (set.insert text)
      simp only [insertAll, List.foldl_cons] at step ⊢
      rw [step, mem_insert, List.mem_cons]
      constructor
      · rintro (found | found | found) <;> simp [found]
      · rintro ((found | found) | found) <;> simp [found]

@[simp] theorem mem_ofList (texts : List String) (other : String) :
    other ∈ ofList texts ↔ other ∈ texts := by
  simp [ofList]

@[simp] theorem mem_union (first second : TextSet) (other : String) :
    other ∈ first.union second ↔ other ∈ first ∨ other ∈ second := by
  unfold union
  rw [mem_insertAll]
  exact Or.comm

@[simp] theorem mem_filter (condition : String → Bool) (set : TextSet) (other : String) :
    other ∈ set.filter condition ↔ other ∈ set ∧ condition other = true :=
  List.mem_filter

@[simp] theorem mem_erase (set : TextSet) (text other : String) :
    other ∈ set.erase text ↔ other ∈ set ∧ other ≠ text := by
  simp [erase]

theorem nodup_items (set : TextSet) : set.items.Nodup := by
  apply set.sorted.imp
  rintro first second below rfl
  exact String.lt_irrefl first below

theorem eq_of_mem_iff {first second : TextSet} (same : ∀ text, text ∈ first ↔ text ∈ second) :
    first = second := by
  have permutation : first.items.Perm second.items :=
    (List.perm_ext_iff_of_nodup first.nodup_items second.nodup_items).mpr same
  have equality : first.items = second.items :=
    permutation.eq_of_pairwise
      (fun earlier later _ _ below above => absurd (String.lt_trans below above)
        (String.lt_irrefl earlier)) first.sorted second.sorted
  cases first
  cases second
  congr

theorem erase_of_not_mem {set : TextSet} {text : String} (absent : ¬ text ∈ set) :
    set.erase text = set := by
  apply eq_of_mem_iff
  intro other
  rw [mem_erase]
  constructor
  · exact And.left
  · intro member
    refine ⟨member, ?_⟩
    rintro rfl
    exact absent member

@[simp] theorem ofList_items (set : TextSet) : ofList set.items = set :=
  eq_of_mem_iff fun text => mem_ofList set.items text

end TextSet

end AccessGate
