import ChatCommands.Proofs.HardFailures
import ChatCommands.Proofs.ShapedValues
import Mathlib.Data.List.Forall2
import Mathlib.Data.List.Sort

/-! What a group of flags makes of the values given for each flag, as rules. A flag keeps its values
or the last of them, and the group has a value for every flag or the failure of the first flag that
has none. The rules leave no choice, and conversion follows them (`bind_eq_iff`,
`convertFlags_eq_iff`). -/
namespace ChatCommands.GatheredFlags
open Converters

variable {cs : Converters} {ctx : Context} {f : Flag Shape} {given kept : List String}
  {r : Except CommandError Value}

/-! ## The rules -/

/-- The values of a flag that count: all of them, or the last ones where later values win. -/
inductive Keeps (f : Flag Shape) : List String → List String → Prop where
  | all {given : List String} (few : ∀ max, f.limit? = some max → given.length ≤ max) :
      Keeps f given given
  | last {before kept : List String} (limit : f.limit? = some kept.length) (more : before ≠ [])
      (overriding : f.overrideLast = true) : Keeps f (before ++ kept) kept

/-- How a failure to convert a value of the flag is told; a panic is not told at all. -/
def blame (f : Flag Shape) : CommandError → CommandError
  | .panicked => .panicked
  | e => .userInput (.badFlagArgument f.name e)

/-- What becomes of a flag, by the values given for it. -/
inductive Takes (cs : Converters) (ctx : Context) (f : Flag Shape) :
    List String → Except CommandError Value → Prop where
  | absent {v : Value} (stands : f.absent? ctx = some v) : Takes cs ctx f [] (.ok v)
  | missing (required : f.absent? ctx = none) :
      Takes cs ctx f [] (.error (.userInput (.missingRequiredFlag f.name)))
  | tooMany {given : List String} {max : Nat} (limit : f.limit? = some max)
      (excess : max < given.length) (strict : f.overrideLast = false) :
      Takes cs ctx f given (.error (.userInput (.tooManyFlags f.name given)))
  | many {given kept : List String} {values : List Value} (present : given ≠ [])
      (keeps : Keeps f given kept) (repeatable : f.multiple = true)
      (converted : List.Forall₂ (fun text v => cs.convert ctx f.name f.shape text = .ok v)
        kept values) :
      Takes cs ctx f given (.ok (.list values))
  | one {given : List String} {text : String} {v : Value} (keeps : Keeps f given [text])
      (single : f.multiple = false) (converted : cs.convert ctx f.name f.shape text = .ok v) :
      Takes cs ctx f given (.ok v)
  | refused {given before after : List String} {text : String} {e : CommandError}
      (keeps : Keeps f given (before ++ text :: after))
      (converted : ∀ other ∈ before, ∃ v, cs.convert ctx f.name f.shape other = .ok v)
      (fails : cs.convert ctx f.name f.shape text = .error e) :
      Takes cs ctx f given (.error (blame f e))

/-- What becomes of a group, by the values given for each flag. -/
inductive Gathers (cs : Converters) (ctx : Context) (flags : List (Flag Shape))
    (given : Flag Shape → List String) : Except CommandError Value → Prop where
  | all {entries : List (String × Value)} (ascending : (entries.map Prod.fst).Pairwise (· < ·))
      (names : ∀ name, name ∈ entries.map Prod.fst ↔ ∃ f ∈ flags, f.name = name)
      (values : ∀ f ∈ flags, ∃ v, entries.lookup f.name = some v ∧
        Takes cs ctx f (given f) (.ok v)) :
      Gathers cs ctx flags given (.ok (.flags entries))
  | fails {earlier later : List (Flag Shape)} {f : Flag Shape} {e : CommandError}
      (order : flags = earlier ++ f :: later)
      (passed : ∀ g ∈ earlier, ∃ v, Takes cs ctx g (given g) (.ok v))
      (first : Takes cs ctx f (given f) (.error e)) :
      Gathers cs ctx flags given (.error e)

/-! ## Values that count -/

theorem counted_of_keeps (keeps : Keeps f given kept) :
    f.counted (given.map String.toList) = .ok (kept.map String.toList) := by
  unfold Flag.counted
  cases keeps with
  | all few =>
    split
    · rfl
    · rename_i max limit
      rw [if_pos (by simpa using few max limit)]
  | @last before _ limit more overriding =>
    have longer := List.length_pos_iff.2 more
    simp only [limit, overriding, if_true]
    rw [if_neg (by simp; omega)]
    simp

theorem counted_of_tooMany {max : Nat} (limit : f.limit? = some max) (excess : max < given.length)
    (strict : f.overrideLast = false) :
    f.counted (given.map String.toList) = .error (.tooManyFlags f.name given) := by
  unfold Flag.counted
  have full : ¬ (given.map String.toList).length ≤ max := by
    rw [List.length_map]
    omega
  simp only [limit]
  rw [if_neg full, strict, if_neg Bool.false_ne_true, List.map_map]
  simp

/-- The values that count are among those given, or there are too many. -/
theorem keeps_or_tooMany (f : Flag Shape) (given : List String) :
    (∃ kept, Keeps f given kept) ∨
      ∃ max, f.limit? = some max ∧ max < given.length ∧ f.overrideLast = false := by
  cases limit : f.limit? with
  | none => exact .inl ⟨given, .all (by simp [limit])⟩
  | some max =>
    by_cases few : given.length ≤ max
    · refine .inl ⟨given, .all ?_⟩
      intro other same
      rw [limit, Option.some.injEq] at same
      omega
    · cases overriding : f.overrideLast with
      | false => exact .inr ⟨max, rfl, by omega, rfl⟩
      | true =>
        have split := List.take_append_drop (given.length - max) given
        have size : (given.drop (given.length - max)).length = max := by
          rw [List.length_drop]
          omega
        have more : given.take (given.length - max) ≠ [] := by
          rw [← List.length_pos_iff, List.length_take]
          omega
        have last := Keeps.last (f := f) (limit.trans (congrArg some size.symm)) more overriding
        rw [split] at last
        exact .inl ⟨_, last⟩

theorem keeps_subset (keeps : Keeps f given kept) : ∀ text ∈ kept, text ∈ given := by
  cases keeps with
  | all => exact fun text member => member
  | last => exact fun text member => List.mem_append_right _ member

/-- A flag that is not repeatable has one value at last. -/
theorem single_of_keeps (single : f.multiple = false) (present : given ≠ [])
    (keeps : Keeps f given kept) : ∃ text, kept = [text] := by
  have limit : f.limit? = some 1 := if_neg (Bool.eq_false_iff.1 single)
  rw [← List.length_eq_one_iff]
  cases keeps with
  | all few =>
    have most := few 1 limit
    have some := List.length_pos_iff.2 present
    omega
  | last own => exact (Option.some.inj (limit.symm.trans own)).symm

/-! ## One flag -/

theorem mapM_of_forall₂ {α β ε : Type} {g : α → Except ε β} {as : List α} {bs : List β}
    (mapped : List.Forall₂ (fun a b => g a = .ok b) as bs) : as.mapM g = .ok bs := by
  induction mapped with
  | nil => rfl
  | cons first _ ih =>
    rw [List.mapM_cons, first, ih]
    rfl

/-- A list is mapped as a whole, or one element is the first that fails. -/
theorem mapM_ok_or_error {α β ε : Type} (g : α → Except ε β) (as : List α) :
    (∃ bs, List.Forall₂ (fun a b => g a = .ok b) as bs) ∨
      ∃ before a after e, as = before ++ a :: after ∧ (∀ other ∈ before, ∃ b, g other = .ok b) ∧
        g a = .error e := by
  induction as with
  | nil => exact .inl ⟨[], .nil⟩
  | cons a as ih =>
    cases first : g a with
    | error e => exact .inr ⟨[], a, as, e, rfl, by simp, first⟩
    | ok b =>
      rcases ih with ⟨bs, mapped⟩ | ⟨before, c, after, e, rfl, passed, fails⟩
      · exact .inl ⟨b :: bs, .cons first mapped⟩
      · exact .inr ⟨a :: before, c, after, e, rfl,
          List.forall_mem_cons.2 ⟨⟨b, first⟩, passed⟩, fails⟩

theorem convertValue_of_text {convert : String → Except CommandError Value} {text : String}
    (full : text ≠ "") : f.convertValue convert text.toList =
      match convert text with
      | .ok v => .ok v
      | .error e => .error (blame f e) := by
  have some : text.toList.isEmpty = false := by simpa using full
  rw [Flag.convertValue, some, String.ofList_toList]
  simp only [Bool.false_eq_true, if_false]
  cases convert text with
  | ok v => rfl
  | error e => cases e <;> rfl

theorem bind_nil (convert : String → Except CommandError Value) :
    f.bind ctx convert [] =
      match f.absent? ctx with
      | some v => .ok v
      | none => .error (.userInput (.missingRequiredFlag f.name)) := rfl

/-- A flag with values is bound to what those that count are converted to. -/
theorem bind_of_keeps {convert : String → Except CommandError Value} (present : given ≠ [])
    (keeps : Keeps f given kept) :
    f.bind ctx convert (given.map String.toList) =
      match (kept.map String.toList).mapM (f.convertValue convert) with
      | .error e => .error e
      | .ok values => .ok (if f.multiple then .list values else values.getLast?.getD .none) := by
  have some : (given.map String.toList).isEmpty = false := by simpa using present
  rw [Flag.bind, some, counted_of_keeps keeps]
  rfl

theorem present_of_keeps {text : String} (keeps : Keeps f given kept) (member : text ∈ kept) :
    given ≠ [] := List.ne_nil_of_mem (keeps_subset keeps text member)

/-- Values that are texts are converted as texts. -/
theorem mapM_of_converted {values : List Value} (full : ∀ text ∈ kept, text ≠ "")
    (converted : List.Forall₂ (fun text v => cs.convert ctx f.name f.shape text = .ok v)
      kept values) :
    (kept.map String.toList).mapM (f.convertValue (cs.convert ctx f.name f.shape)) =
      .ok values := by
  refine mapM_of_forall₂ (List.forall₂_map_left_iff.2 ?_)
  induction converted with
  | nil => exact .nil
  | cons first _ ih =>
    obtain ⟨some, others⟩ := List.forall_mem_cons.1 full
    refine .cons ?_ (ih others)
    rw [convertValue_of_text some, first]

theorem bind_of_takes (full : ∀ text ∈ given, text ≠ "") (takes : Takes cs ctx f given r) :
    f.bind ctx (cs.convert ctx f.name f.shape) (given.map String.toList) = r := by
  cases takes with
  | absent stands => rw [List.map_nil, bind_nil, stands]
  | missing required => rw [List.map_nil, bind_nil, required]
  | tooMany limit excess strict =>
    have present : given ≠ [] := List.ne_nil_of_length_pos (by omega)
    simp [Flag.bind, present, counted_of_tooMany limit excess strict]
  | many present keeps repeatable converted =>
    have texts : ∀ text ∈ _, text ≠ "" := fun text member => full text (keeps_subset keeps _ member)
    rw [bind_of_keeps present keeps, mapM_of_converted texts converted, repeatable]
    rfl
  | one keeps single converted =>
    have texts : ∀ text ∈ _, text ≠ "" := fun text member => full text (keeps_subset keeps _ member)
    have present := present_of_keeps keeps List.mem_cons_self
    rw [bind_of_keeps present keeps, mapM_of_converted texts (.cons converted .nil), single]
    rfl
  | @refused _ before after text e keeps converted fails =>
    have member : text ∈ before ++ text :: after := by simp
    have some : ∀ other ∈ before ++ text :: after, other ≠ "" :=
      fun other there => full other (keeps_subset keeps other there)
    have own : f.convertValue (cs.convert ctx f.name f.shape) text.toList =
        .error (blame f e) := by
      rw [convertValue_of_text (some text member), fails]
    have passed : ∀ other ∈ before.map String.toList,
        ∃ v, f.convertValue (cs.convert ctx f.name f.shape) other = .ok v := by
      intro chars there
      obtain ⟨other, earlier, rfl⟩ := List.mem_map.1 there
      obtain ⟨v, made⟩ := converted other earlier
      refine ⟨v, ?_⟩
      rw [convertValue_of_text (some other (List.mem_append_left _ earlier)), made]
    rw [bind_of_keeps (present_of_keeps keeps member) keeps, List.map_append, List.map_cons,
      HardFailures.mapM_of_error passed own]

theorem exists_takes (cs : Converters) (ctx : Context) (f : Flag Shape) (given : List String) :
    ∃ r, Takes cs ctx f given r := by
  by_cases present : given = []
  · subst present
    cases stands : f.absent? ctx with
    | some v => exact ⟨_, .absent stands⟩
    | none => exact ⟨_, .missing stands⟩
  · rcases keeps_or_tooMany f given with ⟨kept, keeps⟩ | ⟨max, limit, excess, strict⟩
    · rcases mapM_ok_or_error (cs.convert ctx f.name f.shape) kept with
        ⟨values, converted⟩ | ⟨before, text, after, e, rfl, passed, fails⟩
      · cases repeatable : f.multiple with
        | true => exact ⟨_, .many present keeps repeatable converted⟩
        | false =>
          obtain ⟨text, rfl⟩ := single_of_keeps repeatable present keeps
          cases converted with
          | cons converted _ => exact ⟨_, .one keeps repeatable converted⟩
      · exact ⟨_, .refused keeps passed fails⟩
    · exact ⟨_, .tooMany limit excess strict⟩

/-- Binding a flag follows the rules, which leave no choice. -/
theorem bind_eq_iff (full : ∀ text ∈ given, text ≠ "") :
    f.bind ctx (cs.convert ctx f.name f.shape) (given.map String.toList) = r ↔
      Takes cs ctx f given r := by
  refine ⟨?_, bind_of_takes full⟩
  intro bound
  obtain ⟨other, takes⟩ := exists_takes cs ctx f given
  rwa [← bound, bind_of_takes full takes]

/-! ## A group -/

/-- Entries in ascending order are told by their names and what is found under them. -/
theorem eq_of_lookups {entries others : List (String × Value)}
    (nodup : (entries.map Prod.fst).Nodup) (names : entries.map Prod.fst = others.map Prod.fst)
    (same : ∀ name ∈ entries.map Prod.fst, entries.lookup name = others.lookup name) :
    entries = others := by
  induction entries generalizing others with
  | nil => exact (List.map_eq_nil_iff.1 names.symm).symm
  | cons entry entries ih =>
    obtain ⟨name, v⟩ := entry
    cases others with
    | nil => contradiction
    | cons other others =>
      obtain ⟨otherName, w⟩ := other
      rw [List.map_cons, List.map_cons, List.cons.injEq] at names
      obtain ⟨rfl, names⟩ := names
      obtain ⟨fresh, nodup⟩ := List.nodup_cons.1 nodup
      have first := same name List.mem_cons_self
      rw [List.lookup_cons_self, List.lookup_cons_self, Option.some.injEq] at first
      have rest : entries = others := by
        apply ih nodup names
        intro later member
        have differ : (later == name) = false := beq_false_of_ne fun equal => fresh (equal ▸ member)
        have found := same later (List.mem_cons_of_mem name member)
        rwa [List.lookup_cons, List.lookup_cons, differ] at found
      rw [first, rest]

section Group
variable {flags : List (Flag Shape)} {text : FlagText} {position : Nat} {e : CommandError}
  {entries : List (String × Value)} {gives : Flag Shape → List String}

theorem first_of_convertFlags
    (failed : cs.convertFlags ctx flags text position entries = .error e) :
    ∃ earlier f later, flags = earlier ++ f :: later ∧
      (∀ index g, earlier[index]? = some g →
        ∃ v, cs.convertFlag ctx g (text.valuesOf (position + index)) = .ok v) ∧
      cs.convertFlag ctx f (text.valuesOf (position + earlier.length)) = .error e := by
  induction flags generalizing position entries with
  | nil => simp [convertFlags] at failed
  | cons flag flags ih =>
    simp only [convertFlags] at failed
    split at failed
    · rename_i own
      cases failed
      exact ⟨[], flag, flags, rfl, by simp, own⟩
    · rename_i v own
      obtain ⟨earlier, f, later, rfl, passed, fails⟩ := ih failed
      refine ⟨flag :: earlier, f, later, rfl, ?_, ?_⟩
      · intro index g there
        cases index with
        | zero =>
          cases there
          exact ⟨v, own⟩
        | succ index =>
          rw [← Nat.add_assoc, Nat.add_right_comm]
          exact passed index g there
      · rwa [List.length_cons, ← Nat.add_assoc, Nat.add_right_comm]

/-- Each flag of a group has the values that a text gives for it. -/
structure Given (flags : List (Flag Shape)) (text : FlagText) (gives : Flag Shape → List String) :
    Prop where
  distinct : flags.Pairwise fun f g => f.name ≠ g.name
  values : ∀ index f, flags[index]? = some f → text.valuesOf index = (gives f).map String.toList
  full : ∀ f ∈ flags, ∀ t ∈ gives f, t ≠ ""

theorem convertFlag_eq_iff (given : Given flags text gives) {index : Nat}
    (declared : flags[index]? = some f) :
    cs.convertFlag ctx f (text.valuesOf (0 + index)) = r ↔ Takes cs ctx f (gives f) r := by
  rw [Nat.zero_add, ShapedValues.convertFlag_eq, given.values index f declared]
  exact bind_eq_iff (given.full f (List.mem_of_getElem? declared))

theorem fails_of_convertFlags (given : Given flags text gives)
    (failed : cs.convertFlags ctx flags text 0 [] = .error e) :
    Gathers cs ctx flags gives (.error e) := by
  obtain ⟨earlier, f, later, rfl, passed, fails⟩ := first_of_convertFlags failed
  refine .fails rfl ?_ ?_
  · intro g member
    obtain ⟨index, inside, rfl⟩ := List.getElem_of_mem member
    obtain ⟨v, own⟩ := passed index _ (List.getElem?_eq_getElem inside)
    refine ⟨v, (convertFlag_eq_iff given ?_).1 own⟩
    rw [List.getElem?_append_left inside, List.getElem?_eq_getElem inside]
  · exact (convertFlag_eq_iff given (by simp)).1 fails

theorem all_of_convertFlags (given : Given flags text gives)
    (converted : cs.convertFlags ctx flags text 0 [] = .ok entries) :
    (entries.map Prod.fst).Pairwise (· < ·) ∧
      (∀ name, name ∈ entries.map Prod.fst ↔ ∃ f ∈ flags, f.name = name) ∧
      ∀ f ∈ flags, ∃ v, entries.lookup f.name = some v ∧ Takes cs ctx f (gives f) (.ok v) := by
  obtain ⟨ascending, names⟩ := ShapedValues.keys_of_convertFlags converted List.Pairwise.nil
  refine ⟨ascending, by simpa using names, ?_⟩
  intro f member
  obtain ⟨index, declared⟩ := List.mem_iff_getElem?.1 member
  obtain ⟨v, found, own⟩ := ShapedValues.lookup_of_flag given.distinct converted declared
  exact ⟨v, found, (convertFlag_eq_iff given declared).1 own⟩

/-- A flag has one outcome. -/
theorem takes_unique {other : Except CommandError Value} {values : List String}
    (full : ∀ text ∈ values, text ≠ "") (takes : Takes cs ctx f values r)
    (also : Takes cs ctx f values other) : r = other := by
  rw [← bind_of_takes full takes, bind_of_takes full also]

theorem convertFlags_of_gathers (given : Given flags text gives)
    (gathers : Gathers cs ctx flags gives r) :
    (cs.convertFlags ctx flags text 0 []).map Value.flags = r := by
  cases gathers with
  | @all others ascending names values =>
    cases converted : cs.convertFlags ctx flags text 0 [] with
    | error e =>
      cases fails_of_convertFlags given converted with
      | @fails earlier later f e order passed first =>
        have member : f ∈ flags := by simp [order]
        obtain ⟨v, -, takes⟩ := values f member
        cases takes_unique (given.full f member) takes first
    | ok entries =>
      obtain ⟨sorted, keys, found⟩ := all_of_convertFlags given converted
      have sameKeys : entries.map Prod.fst = others.map Prod.fst := by
        apply List.Pairwise.eq_of_mem_iff sorted ascending
        intro name
        rw [keys, names]
      have same : entries = others := by
        apply eq_of_lookups (sorted.imp ne_of_lt) sameKeys
        intro name member
        obtain ⟨f, declared, rfl⟩ := (keys name).1 member
        obtain ⟨v, here, takes⟩ := found f declared
        obtain ⟨w, there, also⟩ := values f declared
        cases takes_unique (given.full f declared) takes also
        rw [here, there]
      rw [same]
      rfl
  | @fails earlier later f e order passed first =>
    subst order
    have stops : cs.convertFlags ctx (earlier ++ f :: later) text 0 [] = .error e := by
      apply HardFailures.convertFlags_of_error
      · intro index g there
        obtain ⟨v, takes⟩ := passed g (List.mem_of_getElem? there)
        refine ⟨v, (convertFlag_eq_iff given ?_).2 takes⟩
        obtain ⟨inside, -⟩ := List.getElem?_eq_some_iff.1 there
        rwa [List.getElem?_append_left inside]
      · exact (convertFlag_eq_iff given (by simp)).2 first
    rw [stops]
    rfl

/-- Binding the flags of a group follows the rules. -/
theorem convertFlags_eq_iff (given : Given flags text gives) :
    (cs.convertFlags ctx flags text 0 []).map Value.flags = r ↔
      Gathers cs ctx flags gives r := by
  refine ⟨?_, convertFlags_of_gathers given⟩
  intro bound
  cases converted : cs.convertFlags ctx flags text 0 [] with
  | ok entries =>
    obtain ⟨ascending, names, values⟩ := all_of_convertFlags given converted
    rw [converted] at bound
    cases bound
    exact .all ascending names values
  | error e =>
    rw [converted] at bound
    cases bound
    exact fails_of_convertFlags given converted

end Group

end ChatCommands.GatheredFlags
