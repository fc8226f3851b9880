import ChatCommands.Convert.Shape
import Mathlib.Data.String.Basic
import Mathlib.Tactic.SplitIfs

/-! The values that shapes stand for. What conversion makes fits the shape it was asked for, however
shapes are nested, as long as the built-in kinds keep their converters. A group of flags makes one
entry for each flag it declares, by the values that the text gives for that flag. -/
namespace ChatCommands.ShapedValues
open Converters

variable {cs : Converters} {ctx : Context} {param argument : String} {kind : Kind} {v : Value}

/-! ## Shapes without flags -/

/-- The variant of a kind. A kind with a converter of its own may make anything. -/
inductive OfKind : Kind → Value → Prop where
  | str (s : String) : OfKind .str (.str s)
  | int (i : Int) : OfKind .int (.int i)
  | float (x : Decimal.Binary64) : OfKind .float (.float x)
  | bool (b : Bool) : OfKind .bool (.bool b)
  | user (u : User) : OfKind .user (.user u)
  | member (m : Member) : OfKind .member (.member m)
  | channel (c : Channel) : OfKind .channel (.channel c)
  | role (r : Role) : OfKind .role (.role r)
  | custom (name : String) (v : Value) : OfKind (.custom name) v

/-- What a shape without flags stands for. Where it is nested, a greedy shape is one value. -/
inductive Fits : Shape → Value → Prop where
  | of {kind : Kind} {v : Value} (ofKind : OfKind kind v) : Fits (.of kind) v
  | absent (inner : Shape) : Fits (.optional inner) .none
  | present {inner : Shape} {v : Value} (fits : Fits inner v) : Fits (.optional inner) v
  | alternative {alternatives : List Shape} {shape : Shape} {v : Value}
      (member : shape ∈ alternatives) (fits : Fits shape v) : Fits (.union alternatives) v
  | literal {values : List Value} {v : Value} (member : v ∈ values) : Fits (.literal values) v
  | nested {inner : Shape} {v : Value} (fits : Fits inner v) : Fits (.greedy inner) v

mutual

/-- Whether no group of flags occurs in a shape. -/
def flagless : Shape → Bool
  | .of _ => true
  | .optional inner => flagless inner
  | .union alternatives => allFlagless alternatives
  | .literal _ => true
  | .greedy inner => flagless inner
  | .flags _ => false

def allFlagless : List Shape → Bool
  | [] => true
  | shape :: rest => flagless shape && allFlagless rest

end

/-- All kinds but the custom ones have their built-in converters. -/
def KeepsBuiltins (cs : Converters) : Prop :=
  ∀ kind, (∀ name, kind ≠ .custom name) → cs.get? kind = builtin.get? kind

theorem made_of_convertKind (converted : cs.convertKind ctx param kind argument = .ok v) :
    ∃ converter, cs.get? kind = some converter ∧ converter ctx argument = .ok v := by
  unfold convertKind at converted
  split at converted
  · contradiction
  · rename_i converter known
    split at converted
    · rename_i made
      cases converted
      exact ⟨converter, known, made⟩
    · contradiction
    · contradiction

theorem exists_of_found {α : Type} {wrap : α → Value} {notFound : UserInputError} {o : Option α}
    (made : Convert.found wrap notFound o = .ok v) : ∃ x, v = wrap x := by
  cases o with
  | none => contradiction
  | some x =>
    cases made
    exact ⟨x, rfl⟩

theorem ofKind_of_builtin {converter : Converter} (known : builtin.get? kind = some converter)
    (made : converter ctx argument = .ok v) : OfKind kind v := by
  cases kind with
  | str =>
    cases known
    cases made
    exact .str argument
  | int =>
    cases known
    unfold Convert.int at made
    split at made <;> cases made
    exact .int _
  | float =>
    cases known
    unfold Convert.float at made
    simp only [] at made
    split at made
    · split_ifs at made
      cases made
      exact .float _
    · contradiction
  | bool =>
    cases known
    unfold Convert.bool at made
    split at made <;> cases made
    exact .bool _
  | user =>
    cases known
    obtain ⟨u, rfl⟩ := exists_of_found made
    exact .user u
  | member =>
    cases known
    obtain ⟨m, rfl⟩ := exists_of_found made
    exact .member m
  | channel =>
    cases known
    obtain ⟨c, rfl⟩ := exists_of_found made
    exact .channel c
  | role =>
    cases known
    obtain ⟨r, rfl⟩ := exists_of_found made
    exact .role r
  | custom name => exact .custom name v

theorem ofKind_of_convertKind (keeps : KeepsBuiltins cs)
    (converted : cs.convertKind ctx param kind argument = .ok v) : OfKind kind v := by
  obtain ⟨converter, known, made⟩ := made_of_convertKind converted
  by_cases own : ∃ name, kind = .custom name
  · obtain ⟨name, rfl⟩ := own
    exact .custom name v
  · rw [keeps kind (not_exists.1 own)] at known
    exact ofKind_of_builtin known made

theorem mem_of_literal {values : List Value}
    (converted : Convert.literal param values argument = .ok v) : v ∈ values := by
  unfold Convert.literal at converted
  split at converted
  · rename_i found
    cases converted
    exact List.mem_of_find?_eq_some found
  · contradiction

mutual

theorem fits_of_convert (keeps : KeepsBuiltins cs) : (shape : Shape) →
    {param argument : String} → {v : Value} → flagless shape = true →
    cs.convert ctx param shape argument = .ok v → Fits shape v
  | .of kind, param, argument, v, _, converted => by
    rw [convert] at converted
    exact .of (ofKind_of_convertKind keeps converted)
  | .optional inner, param, argument, v, plain, converted => by
    rw [flagless] at plain
    simp only [convert] at converted
    split at converted
    · rename_i made
      cases converted
      exact .present (fits_of_convert keeps inner plain made)
    · split_ifs at converted
      cases converted
      exact .absent inner
  | .union alternatives, param, argument, v, plain, converted => by
    rw [flagless] at plain
    simp only [convert] at converted
    split at converted
    · rename_i made
      cases converted
      obtain ⟨shape, member, fits⟩ := fits_among keeps alternatives plain made
      exact .alternative member fits
    · contradiction
    · contradiction
  | .literal values, param, argument, v, _, converted => by
    rw [convert] at converted
    exact .literal (mem_of_literal converted)
  | .greedy inner, param, argument, v, plain, converted => by
    rw [flagless] at plain
    rw [convert] at converted
    exact .nested (fits_of_convert keeps inner plain converted)
  | .flags group, _, _, _, plain, _ => by
    rw [flagless] at plain
    contradiction

theorem fits_among (keeps : KeepsBuiltins cs) : (shapes : List Shape) →
    {param argument : String} → {v : Value} → allFlagless shapes = true →
    cs.convertFirst ctx param shapes argument = .ok (.inl v) → ∃ shape ∈ shapes, Fits shape v
  | [], _, _, _, _, converted => by simp [convertFirst] at converted
  | first :: rest, param, argument, v, plain, converted => by
    rw [allFlagless, Bool.and_eq_true] at plain
    simp only [convertFirst] at converted
    split at converted
    · rename_i made
      cases converted
      exact ⟨first, List.mem_cons_self, fits_of_convert keeps first plain.1 made⟩
    · split_ifs at converted
      split at converted
      · rename_i others
        cases converted
        obtain ⟨shape, member, fits⟩ := fits_among keeps rest plain.2 others
        exact ⟨shape, List.mem_cons_of_mem first member, fits⟩
      · cases converted
      · contradiction

end

/-! ## Flags -/

variable {f : Flag Shape} {given kept : List (List Char)}

/-- What a flag stands for, by the values given for it. The values of a repeatable flag are at least
one and at most as many as it may have. Where it may have none, it is left with none if the last
ones count. -/
inductive FlagFits (ctx : Context) (f : Flag Shape) : List (List Char) → Value → Prop where
  | default {v : Value} (set : f.default.resolve ctx = some v) : FlagFits ctx f [] v
  | empty (unset : f.default.resolve ctx = none) (repeatable : f.multiple = true) :
      FlagFits ctx f [] (.list [])
  | absent (unset : f.default.resolve ctx = none) (single : f.multiple = false)
      (optional : f.shape.isOptional = true) : FlagFits ctx f [] .none
  | one {given : List (List Char)} {v : Value} (present : given ≠ []) (single : f.multiple = false)
      (fits : Fits f.shape v) : FlagFits ctx f given v
  | many {given : List (List Char)} {values : List Value} (present : given ≠ [])
      (repeatable : f.multiple = true) (full : values ≠ []) (fits : ∀ v ∈ values, Fits f.shape v)
      (limited : ∀ max, f.maxArgs = some max → values.length ≤ max) :
      FlagFits ctx f given (.list values)
  | emptied {given : List (List Char)} (present : given ≠ []) (repeatable : f.multiple = true)
      (none : f.maxArgs = some 0) (last : f.overrideLast = true) : FlagFits ctx f given (.list [])

theorem flagFits_of_absent (bound : f.absent? ctx = some v) : FlagFits ctx f [] v := by
  unfold Flag.absent? at bound
  cases set : f.default.resolve ctx with
  | some w =>
    rw [set] at bound
    cases bound
    exact .default set
  | none =>
    rw [set] at bound
    simp only [] at bound
    split_ifs at bound with repeatable optional
    · cases bound
      exact .empty set repeatable
    · cases bound
      exact .absent set (Bool.eq_false_iff.2 repeatable) optional

theorem length_counted_le {max : Nat} (limit : f.limit? = some max)
    (counted : f.counted given = .ok kept) : kept.length ≤ max := by
  unfold Flag.counted at counted
  simp only [limit] at counted
  split_ifs at counted
  · cases counted
    assumption
  · cases counted
    rw [List.length_drop]
    omega

/-- Values that are given count, unless a flag may have none and the last ones count. -/
theorem limit_of_counted_nil (present : given ≠ []) (counted : f.counted given = .ok []) :
    f.limit? = some 0 ∧ f.overrideLast = true := by
  unfold Flag.counted at counted
  split at counted
  · cases counted
    contradiction
  · rename_i max limit
    split_ifs at counted with enough last
    · cases counted
      contradiction
    · rw [Except.ok.injEq, List.drop_eq_nil_iff] at counted
      obtain rfl : max = 0 := by omega
      exact ⟨limit, last⟩

theorem fits_of_isSwitch (switch : f.isSwitch = true) : Fits f.shape (.bool true) := by
  unfold Flag.isSwitch at switch
  split at switch
  · rename_i shape
    exact shape ▸ .of (.bool true)
  · rename_i shape
    exact shape ▸ .present (.of (.bool true))
  · contradiction

theorem fits_of_convertValue (keeps : KeepsBuiltins cs) (plain : flagless f.shape = true)
    {value : List Char}
    (converted : f.convertValue (cs.convert ctx f.name f.shape) value = .ok v) :
    Fits f.shape v := by
  unfold Flag.convertValue at converted
  split_ifs at converted with empty switch
  · cases converted
    exact fits_of_isSwitch switch
  · split at converted
    · rename_i made
      cases converted
      exact fits_of_convert keeps f.shape plain made
    · contradiction
    · contradiction

theorem made_of_mapM {α β ε : Type} {g : α → Except ε β} {as : List α} {bs : List β}
    (mapped : as.mapM g = .ok bs) :
    bs.length = as.length ∧ ∀ b ∈ bs, ∃ a ∈ as, g a = .ok b := by
  induction as generalizing bs with
  | nil =>
    cases mapped
    exact ⟨rfl, by simp⟩
  | cons a as ih =>
    rw [List.mapM_cons] at mapped
    cases first : g a with
    | error e => simp [first, bind, Except.bind] at mapped
    | ok b =>
      cases later : as.mapM g with
      | error e => simp [first, later, bind, Except.bind] at mapped
      | ok rest =>
        simp only [first, later, bind, Except.bind, pure, Except.pure] at mapped
        cases mapped
        obtain ⟨length, others⟩ := ih later
        refine ⟨by simp [length], List.forall_mem_cons.2 ⟨⟨a, List.mem_cons_self, first⟩, ?_⟩⟩
        intro other member
        obtain ⟨source, there, made⟩ := others other member
        exact ⟨source, List.mem_cons_of_mem a there, made⟩

theorem flagFits_of_bind (keeps : KeepsBuiltins cs) (plain : flagless f.shape = true)
    (bound : f.bind ctx (cs.convert ctx f.name f.shape) given = .ok v) :
    FlagFits ctx f given v := by
  unfold Flag.bind at bound
  by_cases present : given = []
  · subst present
    simp only [List.isEmpty_nil, if_true] at bound
    split at bound
    · rename_i absent
      cases bound
      exact flagFits_of_absent absent
    · contradiction
  rw [if_neg (by simpa using present)] at bound
  split at bound
  · contradiction
  rename_i kept counted
  split at bound
  · contradiction
  rename_i values mapped
  obtain ⟨length, made⟩ := made_of_mapM mapped
  have fits : ∀ w ∈ values, Fits f.shape w := by
    intro w member
    obtain ⟨value, -, converted⟩ := made w member
    exact fits_of_convertValue keeps plain converted
  cases repeatable : f.multiple with
  | true =>
    rw [repeatable, if_pos rfl] at bound
    cases bound
    have limit : f.limit? = f.maxArgs := if_pos repeatable
    by_cases full : values = []
    · subst full
      obtain rfl : kept = [] := List.eq_nil_of_length_eq_zero length.symm
      obtain ⟨none, last⟩ := limit_of_counted_nil present counted
      exact .emptied present repeatable (limit.symm.trans none) last
    · refine .many present repeatable full fits fun max most => ?_
      rw [length]
      exact length_counted_le (limit.trans most) counted
  | false =>
    have single : f.limit? = some 1 := if_neg (Bool.eq_false_iff.1 repeatable)
    have full : values ≠ [] := by
      rintro rfl
      obtain rfl : kept = [] := List.eq_nil_of_length_eq_zero length.symm
      have none := (limit_of_counted_nil present counted).1
      rw [single] at none
      contradiction
    rw [repeatable, if_neg Bool.false_ne_true, List.getLast?_eq_some_getLast full] at bound
    cases bound
    exact .one present repeatable (fits _ (List.getLast_mem full))

/-! ## Groups -/

/-- The entries of a group on a text: one under the name of each flag and no other, in ascending
order of names. -/
structure GroupFits (ctx : Context) (group : FlagGroup Shape) (text : FlagText)
    (entries : List (String × Value)) : Prop where
  ascending : (entries.map Prod.fst).Pairwise (· < ·)
  keys : ∀ name, name ∈ entries.map Prod.fst ↔ ∃ f ∈ group.flags, f.name = name
  values : ∀ position f, group.flags[position]? = some f →
    ∃ v, entries.lookup f.name = some v ∧ FlagFits ctx f (text.valuesOf position) v

variable {name other : String} {entries result : List (String × Value)}

theorem lookup_insertEntry_self (name : String) (v : Value) (entries : List (String × Value)) :
    (insertEntry name v entries).lookup name = some v := by
  induction entries with
  | nil => exact List.lookup_cons_self
  | cons entry rest ih =>
    obtain ⟨first, w⟩ := entry
    unfold insertEntry
    split_ifs with before same
    · exact List.lookup_cons_self
    · exact List.lookup_cons_self
    · rw [List.lookup_cons, Bool.eq_false_iff.2 same, ih]

theorem lookup_insertEntry_ne (differ : other ≠ name) (v : Value)
    (entries : List (String × Value)) :
    (insertEntry name v entries).lookup other = entries.lookup other := by
  induction entries with
  | nil => simp [insertEntry, List.lookup_cons, beq_false_of_ne differ]
  | cons entry rest ih =>
    obtain ⟨first, w⟩ := entry
    unfold insertEntry
    split_ifs with before same
    · rw [List.lookup_cons, beq_false_of_ne differ]
    · rw [← beq_iff_eq.1 same, List.lookup_cons, List.lookup_cons, beq_false_of_ne differ]
    · rw [List.lookup_cons, List.lookup_cons, ih]

theorem mem_keys_insertEntry (v : Value) (entries : List (String × Value)) :
    other ∈ (insertEntry name v entries).map Prod.fst ↔
      other = name ∨ other ∈ entries.map Prod.fst := by
  induction entries with
  | nil => simp [insertEntry]
  | cons entry rest ih =>
    obtain ⟨first, w⟩ := entry
    unfold insertEntry
    split_ifs with before same
    · simp
    · simp [beq_iff_eq.1 same]
    · rw [List.map_cons, List.mem_cons, ih, List.map_cons, List.mem_cons]
      tauto

theorem ascending_insertEntry (name : String) (v : Value)
    (ascending : (entries.map Prod.fst).Pairwise (· < ·)) :
    ((insertEntry name v entries).map Prod.fst).Pairwise (· < ·) := by
  induction entries with
  | nil => simp [insertEntry]
  | cons entry rest ih =>
    obtain ⟨first, w⟩ := entry
    obtain ⟨below, later⟩ := List.pairwise_cons.1 ascending
    unfold insertEntry
    split_ifs with before same
    · refine List.pairwise_cons.2 ⟨fun key member => ?_, ascending⟩
      rcases List.mem_cons.1 member with rfl | further
      · exact before
      · exact before.trans (below key further)
    · rw [beq_iff_eq.1 same]
      exact ascending
    · refine List.pairwise_cons.2 ⟨fun key member => ?_, ih later⟩
      rcases (mem_keys_insertEntry v rest).1 member with rfl | further
      · exact lt_of_le_of_ne (not_lt.1 before) (Ne.symm fun equal => same (beq_iff_eq.2 equal))
      · exact below key further

theorem names_of_nameProblem {seen later names : List String}
    (accepted : FlagGroup.nameProblem? seen names = .ok later) :
    later = seen ++ names.map Text.lower ∧ ∀ name ∈ names, Text.lower name ∉ seen := by
  induction names generalizing seen with
  | nil =>
    cases accepted
    simp
  | cons name rest ih =>
    unfold FlagGroup.nameProblem? at accepted
    split_ifs at accepted with malformed known
    obtain ⟨rfl, fresh⟩ := ih accepted
    refine ⟨by simp, List.forall_mem_cons.2 ⟨by simpa using known, fun other member => ?_⟩⟩
    exact fun old => fresh other member (List.mem_append_left _ old)

/-- The flags of a group that can be used have names of their own, up to case. -/
theorem apart_of_flagsProblem {seen : List String} {flags : List (Flag Shape)}
    (accepted : FlagGroup.flagsProblem? seen flags = none) :
    (∀ f ∈ flags, ∀ a ∈ f.names, Text.lower a ∉ seen) ∧
      flags.Pairwise fun f g => ∀ a ∈ f.names, ∀ b ∈ g.names, Text.lower a ≠ Text.lower b := by
  induction flags generalizing seen with
  | nil => simp
  | cons flag rest ih =>
    unfold FlagGroup.flagsProblem? at accepted
    split at accepted
    · contradiction
    · rename_i later names
      obtain ⟨rfl, fresh⟩ := names_of_nameProblem names
      split_ifs at accepted
      obtain ⟨others, apart⟩ := ih accepted
      refine ⟨List.forall_mem_cons.2 ⟨fresh, fun g member b named old => ?_⟩,
        List.pairwise_cons.2 ⟨fun g member a own b named same => ?_, apart⟩⟩
      · exact others g member b named (List.mem_append_left _ old)
      · have folded : Text.lower a ∈ flag.names.map Text.lower := List.mem_map_of_mem own
        exact others g member b named (List.mem_append_right _ (same ▸ folded))

theorem distinct_of_flagsProblem {seen : List String} {flags : List (Flag Shape)}
    (accepted : FlagGroup.flagsProblem? seen flags = none) :
    flags.Pairwise fun f g => f.name ≠ g.name := by
  refine (apart_of_flagsProblem accepted).2.imp fun {f g} apart same => ?_
  exact apart f.name List.mem_cons_self g.name List.mem_cons_self (congrArg Text.lower same)

section Group
variable {flags : List (Flag Shape)} {text : FlagText} {position : Nat}

theorem convertFlag_eq (cs : Converters) (ctx : Context) (f : Flag Shape)
    (given : List (List Char)) :
    cs.convertFlag ctx f given = f.bind ctx (cs.convert ctx f.name f.shape) given := by
  rw [convertFlag]

theorem step_of_convertFlags
    (converted : cs.convertFlags ctx (f :: flags) text position entries = .ok result) :
    ∃ v, cs.convertFlag ctx f (text.valuesOf position) = .ok v ∧
      cs.convertFlags ctx flags text (position + 1) (insertEntry f.name v entries) =
        .ok result := by
  simp only [convertFlags] at converted
  split at converted
  · contradiction
  · rename_i v made
    exact ⟨v, made, converted⟩

theorem keys_of_convertFlags
    (converted : cs.convertFlags ctx flags text position entries = .ok result)
    (ascending : (entries.map Prod.fst).Pairwise (· < ·)) :
    (result.map Prod.fst).Pairwise (· < ·) ∧ ∀ name,
      name ∈ result.map Prod.fst ↔ name ∈ entries.map Prod.fst ∨ ∃ f ∈ flags, f.name = name := by
  induction flags generalizing position entries with
  | nil =>
    simp only [convertFlags, Except.ok.injEq] at converted
    subst converted
    exact ⟨ascending, by simp⟩
  | cons flag rest ih =>
    obtain ⟨v, -, later⟩ := step_of_convertFlags converted
    obtain ⟨sorted, keys⟩ := ih later (ascending_insertEntry flag.name v ascending)
    refine ⟨sorted, fun name => ?_⟩
    rw [keys, mem_keys_insertEntry, List.exists_mem_cons_iff, eq_comm]
    tauto

/-- What is kept under a name stays there while flags of other names are bound. -/
theorem lookup_of_other_flags
    (converted : cs.convertFlags ctx flags text position entries = .ok result)
    (apart : ∀ f ∈ flags, f.name ≠ name) : result.lookup name = entries.lookup name := by
  induction flags generalizing position entries with
  | nil =>
    simp only [convertFlags, Except.ok.injEq] at converted
    rw [converted]
  | cons flag rest ih =>
    obtain ⟨differ, others⟩ := List.forall_mem_cons.1 apart
    obtain ⟨v, -, later⟩ := step_of_convertFlags converted
    rw [ih later others, lookup_insertEntry_ne differ.symm]

theorem lookup_of_flag (distinct : flags.Pairwise fun f g => f.name ≠ g.name)
    (converted : cs.convertFlags ctx flags text position entries = .ok result) {index : Nat}
    (declared : flags[index]? = some f) :
    ∃ v, result.lookup f.name = some v ∧
      cs.convertFlag ctx f (text.valuesOf (position + index)) = .ok v := by
  induction flags generalizing position entries index with
  | nil => simp at declared
  | cons flag rest ih =>
    obtain ⟨apart, others⟩ := List.pairwise_cons.1 distinct
    obtain ⟨v, made, later⟩ := step_of_convertFlags converted
    cases index with
    | zero =>
      simp only [List.getElem?_cons_zero, Option.some.injEq] at declared
      subst declared
      refine ⟨v, ?_, made⟩
      rw [lookup_of_other_flags later fun g member => (apart g member).symm,
        lookup_insertEntry_self]
    | succ index =>
      rw [List.getElem?_cons_succ] at declared
      obtain ⟨w, found, own⟩ := ih others later declared
      refine ⟨w, found, ?_⟩
      rwa [Nat.add_right_comm, Nat.add_assoc] at own

end Group

/-- A group that can be used, without groups in its flags, makes the entries that its text gives
for them. -/
theorem groupFits_of_convert {group : FlagGroup Shape} (keeps : KeepsBuiltins cs)
    (usable : group.problem? = none) (plain : ∀ f ∈ group.flags, flagless f.shape = true)
    (converted : cs.convert ctx param (.flags group) argument = .ok v) :
    ∃ text entries, FlagText.read group (group.style.getD cs.flagStyle) argument.toList = .ok text ∧
      v = .flags entries ∧ GroupFits ctx group text entries := by
  obtain ⟨flags, style⟩ := group
  simp only [convert, convertGroup] at converted
  split at converted
  · contradiction
  · rename_i text read
    cases bound : cs.convertFlags ctx flags text 0 [] with
    | error e => simp [bound, Except.map] at converted
    | ok entries =>
      rw [bound] at converted
      cases converted
      obtain ⟨ascending, keys⟩ := keys_of_convertFlags bound List.Pairwise.nil
      refine ⟨text, entries, read, rfl, ascending, fun name => ?_, fun position f declared => ?_⟩
      · simpa using keys name
      · obtain ⟨v, found, own⟩ :=
          lookup_of_flag (distinct_of_flagsProblem usable) bound declared
        rw [Nat.zero_add, convertFlag_eq] at own
        exact ⟨v, found, flagFits_of_bind keeps (plain f (List.mem_of_getElem? declared)) own⟩

end ChatCommands.ShapedValues
