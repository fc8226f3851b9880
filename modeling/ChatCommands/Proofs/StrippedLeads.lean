import ChatCommands.Proofs.DeliveredArguments

/-! What addresses the agent. The configured texts may overlap, hold blanks and stand in any order,
and the search takes the first that fits; since it goes from long to short, that is the longest of
those that a message begins with. The rule for the blanks behind it is asked of this one text only,
so a message may be refused although it would fit a shorter one and the rule. None of this depends
on the order in which the texts were configured. -/
namespace ChatCommands.StrippedLeads
open DeliveredArguments

variable {σ : Type} {d : Dispatcher σ} {leads : List String} {lead content line : String}
  {cs rest : List Char}

/-- The dispatcher with other texts that address the agent. -/
def led (d : Dispatcher σ) (leads : List String) : Dispatcher σ :=
  { d with settings := { d.settings with dispatch := { d.settings.dispatch with leads := leads } } }

/-- What a dispatcher takes off a message, and the command line behind it. -/
def split? (d : Dispatcher σ) (content : String) : Option (String × String) :=
  splitLead? d.leads d.settings.dispatch.stripAfterLead content

/-- The texts that address the agent. Where there are none, the empty one stands in for them. -/
def called (leads : List String) : List String := if leads.isEmpty then [""] else leads

/-- A message is its longest lead, blanks if they are allowed, and a line that starts with none. -/
structure Splits (leads : List String) (mayStrip : Bool) (lead line content : String) : Prop where
  longest : LongestLead leads lead content
  shape : ∃ gap : List Char, (∀ ch ∈ gap, Text.isBlank ch = true) ∧ (mayStrip = false → gap = []) ∧
    content.toList = lead.toList ++ (gap ++ line.toList)
  solid : ∀ ch ∈ line.toList.head?, Text.isBlank ch = false

/-- A message begins with none of the texts, or goes on with a blank behind the longest of them where
that is not allowed. -/
def Unaddressed (leads : List String) (mayStrip : Bool) (content : String) : Prop :=
  (∀ lead ∈ leads, ¬ lead.toList <+: content.toList) ∨
    mayStrip = false ∧ ∃ lead blank rest, LongestLead leads lead content ∧
      content.toList = lead.toList ++ blank :: rest ∧ Text.isBlank blank = true

/-! ## The first that fits -/

theorem firstLead?_eq_none_iff :
    firstLead? cs leads = none ↔ ∀ lead ∈ leads, ¬ lead.toList <+: cs := by
  induction leads with
  | nil => simp [firstLead?]
  | cons other leads ih =>
    rw [firstLead?, List.forall_mem_cons]
    cases strip : Text.stripStart other.toList cs with
    | some after =>
      have begins : other.toList <+: cs := ⟨after, (Text.stripStart_eq_some_iff.1 strip).symm⟩
      simp [begins]
    | none =>
      have apart : ¬ other.toList <+: cs := by
        rintro ⟨after, shape⟩
        rw [Text.stripStart_eq_some_iff.2 shape.symm] at strip
        cases strip
      simpa [apart] using ih

theorem length_le_of_bytes {a b : String} (ofA : a.toList <+: cs) (ofB : b.toList <+: cs)
    (size : b.utf8ByteSize ≤ a.utf8ByteSize) : b.length ≤ a.length := by
  rw [← String.length_toList, ← String.length_toList]
  rcases List.prefix_or_prefix_of_prefix ofA ofB with shorter | shorter
  · rw [eq_of_prefix_of_bytes shorter size]
  · exact shorter.length_le

theorem longest_of_firstLead? (sorted : leads.Pairwise fun a b => b.utf8ByteSize ≤ a.utf8ByteSize)
    (found : firstLead? content.toList leads = some (lead, rest)) :
    LongestLead leads lead content ∧ content.toList = lead.toList ++ rest := by
  induction leads with
  | nil => cases found
  | cons other leads ih =>
    obtain ⟨first, sorted⟩ := List.pairwise_cons.1 sorted
    rw [firstLead?] at found
    cases strip : Text.stripStart other.toList content.toList with
    | some after =>
      simp only [strip, Option.some.injEq, Prod.mk.injEq] at found
      obtain ⟨rfl, rfl⟩ := found
      have shape := Text.stripStart_eq_some_iff.1 strip
      have begins : other.toList <+: content.toList := ⟨after, shape.symm⟩
      refine ⟨⟨List.mem_cons_self, begins, List.forall_mem_cons.2 ⟨fun _ => le_rfl, ?_⟩⟩, shape⟩
      exact fun shorter later fits => length_le_of_bytes begins fits (first shorter later)
    | none =>
      simp only [strip] at found
      obtain ⟨⟨member, begins, longest⟩, shape⟩ := ih sorted found
      have apart : ¬ other.toList <+: content.toList := by
        rintro ⟨after, whole⟩
        rw [Text.stripStart_eq_some_iff.2 whole.symm] at strip
        cases strip
      refine ⟨⟨List.mem_cons_of_mem _ member, begins, ?_⟩, shape⟩
      exact List.forall_mem_cons.2 ⟨fun fits => absurd fits apart, longest⟩

/-- There is one longest lead at most. -/
theorem eq_of_longest {other : String} (one : LongestLead leads lead content)
    (two : LongestLead leads other content) : lead = other := by
  have same : lead.toList.length = other.toList.length := by
    rw [String.length_toList, String.length_toList]
    exact le_antisymm (two.longest lead one.member one.begins)
      (one.longest other two.member two.begins)
  refine String.toList_inj.1 (List.IsPrefix.eq_of_length ?_ same)
  exact List.prefix_of_prefix_length_le one.begins two.begins same.le

/-! ## Splitting -/

theorem leads_perm (d : Dispatcher σ) : d.leads.Perm d.settings.dispatch.leads :=
  List.mergeSort_perm _ _

/-- No texts are as good as the empty one. -/
theorem split?_eq (d : Dispatcher σ) (content : String) :
    split? d content =
      match firstLead? content.toList (called d.leads) with
      | none => none
      | some (lead, rest) =>
        if !d.settings.dispatch.stripAfterLead && rest.head?.any Text.isBlank then none
        else some (lead, String.ofList (Text.trimStart rest)) := by
  unfold split? splitLead? called
  cases d.leads.isEmpty <;> rfl

theorem called_sorted (d : Dispatcher σ) :
    (called d.leads).Pairwise fun a b => b.utf8ByteSize ≤ a.utf8ByteSize := by
  unfold called
  split
  · exact List.pairwise_singleton _ _
  · exact leads_sorted d

theorem mem_called_iff : lead ∈ called d.leads ↔ lead ∈ called d.settings.dispatch.leads := by
  unfold called
  rw [(leads_perm d).isEmpty_eq]
  split
  · rfl
  · exact (leads_perm d).mem_iff

theorem longestLead_congr {others : List String} (same : ∀ text, text ∈ leads ↔ text ∈ others) :
    LongestLead leads lead content ↔ LongestLead others lead content := by
  constructor
  · rintro ⟨member, begins, longest⟩
    exact ⟨(same _).1 member, begins, fun other there => longest other ((same _).2 there)⟩
  · rintro ⟨member, begins, longest⟩
    exact ⟨(same _).2 member, begins, fun other there => longest other ((same _).1 there)⟩

/-- What is split off depends on which texts are configured only. -/
theorem splits_congr {others : List String} (same : ∀ text, text ∈ leads ↔ text ∈ others)
    {mayStrip : Bool} : Splits leads mayStrip lead line content ↔
      Splits others mayStrip lead line content := by
  constructor
  · rintro ⟨longest, shape, solid⟩
    exact ⟨(longestLead_congr same).1 longest, shape, solid⟩
  · rintro ⟨longest, shape, solid⟩
    exact ⟨(longestLead_congr same).2 longest, shape, solid⟩

/-- The first that fits is the longest. -/
theorem firstLead?_eq_some_iff (d : Dispatcher σ) :
    firstLead? content.toList (called d.leads) = some (lead, rest) ↔
      LongestLead (called d.settings.dispatch.leads) lead content ∧
        content.toList = lead.toList ++ rest := by
  have configured (text : String) : LongestLead (called d.leads) text content ↔
      LongestLead (called d.settings.dispatch.leads) text content :=
    longestLead_congr fun _ => mem_called_iff
  rw [← configured]
  refine ⟨longest_of_firstLead? (called_sorted d), fun ⟨longest, shape⟩ => ?_⟩
  cases found : firstLead? content.toList (called d.leads) with
  | none => exact absurd longest.begins (firstLead?_eq_none_iff.1 found lead longest.member)
  | some first =>
    obtain ⟨other, after⟩ := first
    obtain ⟨alsoLongest, whole⟩ := longest_of_firstLead? (called_sorted d) found
    obtain rfl := eq_of_longest longest alsoLongest
    rw [List.append_cancel_left (whole.symm.trans shape)]

theorem split?_eq_some_iff (d : Dispatcher σ) :
    split? d content = some (lead, line) ↔
      Splits (called d.settings.dispatch.leads) d.settings.dispatch.stripAfterLead lead line
        content := by
  rw [split?_eq]
  constructor
  · intro taken
    split at taken
    · cases taken
    · rename_i first rest found
      split at taken
      · cases taken
      · rename_i fits
        cases taken
        obtain ⟨longest, shape⟩ := (firstLead?_eq_some_iff d).1 found
        obtain ⟨gap, blank, whole, solid⟩ := Text.trimStart_spec rest
        refine ⟨longest, ⟨gap, blank, fun strict => ?_, ?_⟩, ?_⟩
        · cases gap with
          | nil => rfl
          | cons ch gap =>
            have ahead : rest.head? = some ch := by rw [whole]; rfl
            simp [strict, ahead, blank ch List.mem_cons_self] at fits
        · rw [shape, String.toList_ofList, ← whole]
        · rwa [String.toList_ofList]
  · rintro ⟨longest, ⟨gap, blank, strict, shape⟩, solid⟩
    rw [(firstLead?_eq_some_iff d).2 ⟨longest, shape⟩]
    have line_eq : Text.trimStart (gap ++ line.toList) = line.toList := Text.trimStart_gap blank solid
    have fits : (!d.settings.dispatch.stripAfterLead &&
        (gap ++ line.toList).head?.any Text.isBlank) = false := by
      cases mayStrip : d.settings.dispatch.stripAfterLead with
      | true => rfl
      | false =>
        rw [strict mayStrip, List.nil_append]
        cases first : line.toList.head? with
        | none => rfl
        | some ch => simp [solid ch first]
    simp only [fits, line_eq, String.ofList_toList, Bool.false_eq_true, if_false]

theorem split?_eq_none_iff (d : Dispatcher σ) :
    split? d content = none ↔
      Unaddressed (called d.settings.dispatch.leads) d.settings.dispatch.stripAfterLead content := by
  rw [split?_eq]
  constructor
  · intro refused
    split at refused
    · rename_i none
      refine .inl fun lead member => firstLead?_eq_none_iff.1 none lead ?_
      exact mem_called_iff.2 member
    · rename_i lead rest found
      split at refused
      · rename_i blocked
        obtain ⟨longest, shape⟩ := (firstLead?_eq_some_iff d).1 found
        simp only [Bool.and_eq_true, Bool.not_eq_true', Option.any_eq_true] at blocked
        obtain ⟨strict, ch, first, blank⟩ := blocked
        obtain ⟨rest, rfl⟩ := List.head?_eq_some_iff.1 first
        exact .inr ⟨strict, lead, ch, rest, longest, shape, blank⟩
      · cases refused
  · rintro (nobody | ⟨strict, lead, ch, rest, longest, shape, blank⟩)
    · rw [firstLead?_eq_none_iff.2 fun lead member => nobody lead (mem_called_iff.1 member)]
    · rw [(firstLead?_eq_some_iff d).2 ⟨longest, shape⟩]
      simp [strict, blank]

/-- What is taken off a message is the longest of the texts that address the agent and that it begins
with, along with blanks behind it if they are allowed, and the message addresses nobody if there is
no such text or a blank stands behind it that is not allowed. Having no texts is having the empty one,
and having the same in another order makes no difference. -/
theorem longest_lead_split_off (d : Dispatcher σ) (content : String) :
    let leads := called d.settings.dispatch.leads
    let mayStrip := d.settings.dispatch.stripAfterLead
    split? (led d []) content = split? (led d [""]) content ∧
      (∀ lead line, split? d content = some (lead, line) ↔
        Splits leads mayStrip lead line content) ∧
      (split? d content = none ↔ Unaddressed leads mayStrip content) ∧
      ∀ others, others.Perm d.settings.dispatch.leads →
        split? (led d others) content = split? d content := by
  intro leads mayStrip
  refine ⟨?_, fun lead line => split?_eq_some_iff d, split?_eq_none_iff d, fun others perm => ?_⟩
  · rw [split?_eq, split?_eq]
    simp [led, called, Dispatcher.leads]
  have same (text : String) : text ∈ called others ↔ text ∈ leads := by
    unfold leads called
    rw [perm.isEmpty_eq]
    split
    · rfl
    · exact perm.mem_iff
  refine Option.ext fun found => ?_
  obtain ⟨lead, line⟩ := found
  rw [split?_eq_some_iff, split?_eq_some_iff]
  exact splits_congr same

/-- Addressed by a mark, by the same mark twice, and by a word with a blank behind it. -/
def barked : Dispatcher Unit where
  settings := { dispatch := { leads := ["!", "bot ", "!!", "!"] } }
  directory := .ofLists [] [] [] []

/-- The two marks are taken off together, and where a blank follows them the message addresses nobody
although the first mark alone has none behind it. -/
theorem both_marks_taken_off :
    ["!!", "!", "!", "bot "].Perm barked.settings.dispatch.leads ∧
      split? (led barked ["!!", "!", "!", "bot "]) "!!go now" = split? barked "!!go now" ∧
      split? barked "!!go now" = some ("!!", "go now") ∧ split? barked "!! go" = none := by
  have perm : ["!!", "!", "!", "bot "].Perm barked.settings.dispatch.leads := by decide
  obtain ⟨-, splits, -, same⟩ := longest_lead_split_off barked "!!go now"
  obtain ⟨-, -, unaddressed, -⟩ := longest_lead_split_off barked "!! go"
  have closer : LongestLead barked.settings.dispatch.leads "!!" "!!go now" :=
    ⟨by decide, ⟨"go now".toList, rfl⟩, by decide⟩
  have apart : LongestLead barked.settings.dispatch.leads "!!" "!! go" :=
    ⟨by decide, ⟨" go".toList, rfl⟩, by decide⟩
  have wordBehind : Splits barked.settings.dispatch.leads false "!!" "go now" "!!go now" :=
    ⟨closer, ⟨[], List.forall_mem_nil _, fun _ => rfl, rfl⟩, by rintro _ ⟨rfl⟩; decide⟩
  have blankBehind : Unaddressed barked.settings.dispatch.leads false "!! go" :=
    .inr ⟨rfl, "!!", ' ', "go".toList, apart, rfl, by decide⟩
  exact ⟨perm, same _ perm, (splits "!!" "go now").2 wordBehind, unaddressed.2 blankBehind⟩

end ChatCommands.StrippedLeads
