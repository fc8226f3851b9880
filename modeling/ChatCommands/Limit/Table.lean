/-!
Tables of entries by key, with one entry for a key. `get?_set` and its
companions say what each operation does to what is found under a key. A table
that was built by these operations has no key twice (`Unique`), and only then
does dropping entries leave the others as they are found (`get?_filter`).
-/

namespace ChatCommands

/-- Entries by key. -/
abbrev Table (κ ν : Type) := List (κ × ν)

namespace Table

variable {κ ν : Type} [DecidableEq κ]

/-- The entry of a key. -/
def get? (t : Table κ ν) (k : κ) : Option ν :=
  match t with
  | [] => none
  | (other, v) :: rest => if other = k then some v else get? rest k

/-- Gives a key its entry. -/
def set (t : Table κ ν) (k : κ) (v : ν) : Table κ ν :=
  match t with
  | [] => [(k, v)]
  | (other, w) :: rest => if other = k then (k, v) :: rest else (other, w) :: set rest k v

/-- Removes the entry of a key. -/
def erase (t : Table κ ν) (k : κ) : Table κ ν := t.filter fun e => e.1 ≠ k

theorem get?_set (t : Table κ ν) (k l : κ) (v : ν) :
    (t.set k v).get? l = if k = l then some v else t.get? l := by
  induction t with
  | nil => simp [set, get?]
  | cons e rest ih =>
    obtain ⟨other, w⟩ := e
    unfold set
    by_cases same : other = k
    · subst same
      simp only [if_true, get?]
      split <;> rfl
    · simp only [same, if_false, get?, ih]
      by_cases here : other = l
      · have : k ≠ l := fun h => same (here.trans h.symm)
        simp [here, this]
      · simp [here]

theorem set_set (t : Table κ ν) (k : κ) (v w : ν) : (t.set k v).set k w = t.set k w := by
  induction t with
  | nil => simp [set]
  | cons e rest ih =>
    obtain ⟨other, x⟩ := e
    by_cases same : other = k
    · simp [set, same]
    · simp [set, same, ih]

theorem get?_erase (t : Table κ ν) (k l : κ) :
    (t.erase k).get? l = if k = l then none else t.get? l := by
  induction t with
  | nil => simp [erase, get?]
  | cons e rest ih =>
    obtain ⟨other, w⟩ := e
    unfold erase at *
    by_cases same : other = k
    · subst same
      simp only [ne_eq, not_true_eq_false, decide_false, Bool.false_eq_true, not_false_eq_true,
        List.filter_cons_of_neg, ih, get?]
      split <;> rfl
    · simp only [ne_eq, same, not_false_eq_true, decide_true, List.filter_cons_of_pos, get?, ih]
      by_cases here : other = l
      · have : k ≠ l := fun h => same (here.trans h.symm)
        simp [here, this]
      · simp [here]

/-- No two entries have the same key. -/
def Unique (t : Table κ ν) : Prop := (t.map (·.1)).Nodup

theorem get?_eq_none {t : Table κ ν} {k : κ} (absent : k ∉ t.map (·.1)) : t.get? k = none := by
  induction t with
  | nil => rfl
  | cons e rest ih =>
    obtain ⟨other, v⟩ := e
    rw [List.map_cons, List.mem_cons, not_or] at absent
    rw [get?, if_neg (Ne.symm absent.1), ih absent.2]

theorem mem_keys_set (t : Table κ ν) (k l : κ) (v : ν) :
    l ∈ (t.set k v).map (·.1) ↔ l = k ∨ l ∈ t.map (·.1) := by
  induction t with
  | nil => simp [set]
  | cons e rest ih =>
    obtain ⟨other, w⟩ := e
    unfold set
    split
    · rename_i same
      simp [same]
    · simp only [List.map_cons, List.mem_cons, ih]
      exact or_left_comm

theorem unique_set {t : Table κ ν} (unique : t.Unique) (k : κ) (v : ν) : (t.set k v).Unique := by
  unfold Unique at *
  induction t with
  | nil => simp [set]
  | cons e rest ih =>
    obtain ⟨other, w⟩ := e
    obtain ⟨fresh, restUnique⟩ := List.nodup_cons.1 unique
    unfold set
    split
    · rename_i same
      subst same
      exact unique
    · rename_i different
      refine List.nodup_cons.2 ⟨?_, ih restUnique⟩
      rw [mem_keys_set]
      rintro (same | member)
      · exact different same
      · exact fresh member

omit [DecidableEq κ] in
theorem unique_filter {t : Table κ ν} (unique : t.Unique) (keep : κ × ν → Bool) :
    Unique (t.filter keep) :=
  unique.sublist (List.filter_sublist.map _)

/-- Dropping entries leaves those that are kept as they are found. -/
theorem get?_filter {t : Table κ ν} (unique : t.Unique) (keep : κ × ν → Bool) (k : κ) :
    get? (t.filter keep) k = (t.get? k).filter fun v => keep (k, v) := by
  unfold Unique at unique
  induction t with
  | nil => rfl
  | cons e rest ih =>
    obtain ⟨other, v⟩ := e
    obtain ⟨fresh, restUnique⟩ := List.nodup_cons.1 unique
    by_cases same : other = k
    · subst same
      have noOther := get?_eq_none fresh
      cases kept : keep (other, v) with
      | true => simp [get?, kept, Option.filter]
      | false => simp [get?, kept, ih restUnique, noOther, Option.filter]
    · cases kept : keep (other, v) <;> simp [get?, kept, same, ih restUnique]

end Table

end ChatCommands
