import ChatCommands.Proofs.ConsoleRuns
import ChatCommands.Proofs.ListBinder

/-! Tags at the console with its standard settings. What a line stores, or asks for, is told by the
line alone: the mark, two words, a token for the name, and for a line that stores all that is behind
the token (`Stores`, `Looks`). Every line that the commands' arguments bind to is of this form, and
no other line changes a tag; so a look-up answers with what was stored last under the name, however
many lines of whatever kind were typed in between (`last_stored_is_recalled`). -/
namespace ChatCommands.RecalledTags
open Console ConsoleCommands ConsoleEvents ConsoleRuns LongestDescent NamedSiblings RegistryGrowth
open LegalCourses CollectedReplies Dispatcher Registry

variable {a : Agent Tags} {s : Service Tags} {tags : Tags} {held : Option Admission}
  {said : List String} {line name content : String} {args : Args} {ctx : Context} {q : QuoteSet}
  {c : Command Tags} {target : Resolved Tags}

/-- A line stores a content under a name: the name is one token, and the content all that is behind
it but for the blanks around. -/
def Stores (line name content : String) : Prop :=
  ∃ rest left, Names line ["tag", "set"] rest ∧
    Line.nextToken .standard rest = some ⟨.ok name.toList, left⟩ ∧
    content.toList = Text.trim left ∧ content ≠ ""

/-- A line asks for what is stored under a name: the name is one token, and nothing is behind it. -/
def Looks (line name : String) : Prop :=
  ∃ rest left, Names line ["tag", "get"] rest ∧
    Line.nextToken .standard rest = some ⟨.ok name.toList, left⟩ ∧
    ∀ ch ∈ left, Text.isBlank ch = true

/-- An agent resolves a line to a command, and binds its arguments. -/
def Binds (a : Agent Tags) (line command : String) (args : Args) : Prop :=
  ∃ lead text target,
    splitLead? a.dispatcher.leads a.dispatcher.settings.dispatch.stripAfterLead line =
      some (lead, text) ∧
    a.service.registry.resolve text = .ok target ∧ target.command.qualified = command ∧
    Binding.bind a.dispatcher.converters a.dispatcher.quotes
      (begunBy a.dispatcher a.service (event line) lead target).ctx command
      target.command.parts.params target.command.parts.ignoreExtra = .ok args

/-- Of the lines so far, the last that stored anything under a name stored a content. -/
def LastStored (inputs : List (Decimal.Duration × String)) (name content : String) : Prop :=
  ∃ earlier input later, inputs = earlier ++ input :: later ∧ Stores input.2 name content ∧
    ∀ other ∈ later, ∀ content, ¬ Stores other.2 name content

/-! ## The words -/

/-- What a line that names a command of the group is resolved to. -/
def targetOf (c : Command Tags) (rest : String) : Resolved Tags :=
  ⟨c, [tagGroup], c.name, ["tag"], rest⟩

theorem mem_runnable_of_child (child : c = tagSet ∨ c = tagGet) : ([tagGroup], c) ∈ runnable := by
  rcases child with rfl | rfl <;> simp [runnable]

/-- The group and its commands have no aliases. -/
theorem named_child_iff (child : c = tagSet ∨ c = tagGet) {words : List String} :
    List.Forall₂ (Named false) words [tagGroup, c] ↔ words = ["tag", c.name] := by
  have single : c.names = [c.name] := by rcases child with rfl | rfl <;> rfl
  have groupSingle : tagGroup.names = ["tag"] := rfl
  simp only [List.forall₂_cons_right_iff, List.forall₂_nil_right_iff,
    named_iff_of_single groupSingle, named_iff_of_single single]
  constructor
  · rintro ⟨_, _, rfl, ⟨_, _, rfl, rfl, rfl⟩, rfl⟩
    rfl
  · rintro rfl
    exact ⟨_, _, rfl, ⟨_, _, rfl, rfl, rfl⟩, rfl⟩

theorem found_of_child (stands : Stands false held tags said s) (child : c = tagSet ∨ c = tagGet)
    {rest : List Char} (names : Names line ["tag", c.name] rest) :
    ∃ text, splitLead? (dispatcherOf {}).leads
        (dispatcherOf {}).settings.dispatch.stripAfterLead line = some ("!", text) ∧
      s.registry.resolve text = .ok (targetOf c (String.ofList rest)) := by
  have named : List.Forall₂ (Named false) (["tag"] ++ [c.name]) ([tagGroup] ++ [c]) :=
    (named_child_iff child).2 rfl
  exact found_of_names stands (mem_runnable_of_child child) named names

/-- A command of the group is named by two words, and by no others. -/
theorem names_of_found (stands : Stands false held tags said s) (child : c = tagSet ∨ c = tagGet)
    {lead text : String}
    (addressed : splitLead? (dispatcherOf {}).leads
      (dispatcherOf {}).settings.dispatch.stripAfterLead line = some (lead, text))
    (resolved : s.registry.resolve text = .ok target) (same : target.command = c) :
    ∃ rest, target = targetOf c rest ∧ Names line ["tag", c.name] rest.toList := by
  obtain ⟨-, shape, solid⟩ := addressed_iff.1 addressed
  obtain ⟨follows, -⟩ := (resolve_eq_ok_iff stands.orderly text target).1 resolved
  have among := mem_runnable_of_resolve stands.orderly stands.roots resolved
  obtain ⟨command, parents, word, words, rest⟩ := target
  cases same
  obtain rfl : parents = [tagGroup] :=
    congrArg Prod.fst (eq_of_qualified among (mem_runnable_of_child child) rfl)
  have said : words ++ [word] = ["tag"] ++ [command.name] := (named_child_iff child).1 follows.named
  obtain ⟨rfl, last⟩ := List.append_inj' said rfl
  cases List.singleton_inj.1 last
  exact ⟨rest, rfl, text.toList, shape, solid, follows.begins⟩

/-! ## The arguments -/

/-- A parameter that takes any token. -/
def nameParameter : Parameter := { name := "name", shape := .of .str }

/-- A parameter that takes any text but an empty one. -/
def contentParameter : Parameter := { name := "content", shape := .of .str, takesRest := true }

theorem serveAll_name (settings : Settings) {text : List Char} {left : LazyTokens.Tokens} :
    ListBinder.serveAll (dispatcherOf settings).converters ctx [nameParameter]
        (LazyTokens.ahead q text) = .ok (args, left) ↔
      ∃ name rest, Line.nextToken q text = some ⟨.ok name, rest⟩ ∧
        args = [("name", .str (String.ofList name))] ∧ left = LazyTokens.ahead q rest := by
  cases read : Line.nextToken q text with
  | none =>
    rw [LazyTokens.ahead_of_none read]
    simp only [reduceCtorEq, false_and, exists_false, iff_false]
    nofun
  | some r =>
    obtain ⟨result, rest⟩ := r
    cases result with
    | error e =>
      rw [LazyTokens.ahead_of_error read]
      simp [ListBinder.serveAll, ListBinder.serve, ListBinder.serveOne, nameParameter]
    | ok name =>
      have served : ListBinder.serveAll (dispatcherOf settings).converters ctx [nameParameter]
          (LazyTokens.ahead q text) =
            .ok ([("name", .str (String.ofList name))], LazyTokens.ahead q rest) := by
        rw [LazyTokens.ahead_of_ok read]
        rfl
      rw [served]
      constructor
      · rintro ⟨rfl, rfl⟩
        exact ⟨name, rest, rfl, rfl, rfl⟩
      · rintro ⟨_, _, ⟨rfl, rfl⟩, rfl, rfl⟩
        rfl

theorem serveText_content (settings : Settings) {text : List Char} {v : Value} :
    ListBinder.serveText (dispatcherOf settings).converters ctx contentParameter text = .ok v ↔
      Text.trim text ≠ [] ∧ v = .str (String.ofList (Text.trim text)) := by
  have served : ListBinder.serveText (dispatcherOf settings).converters ctx contentParameter text =
      if Text.trim text = [] then .error (.userInput (.missingRequiredArgument "content"))
      else .ok (.str (String.ofList (Text.trim text))) := by
    unfold ListBinder.serveText
    cases Text.trim text <;> rfl
  rw [served]
  split
  · rename_i blank
    exact iff_of_false nofun fun given => given.1 blank
  · rename_i full
    rw [Except.ok.injEq, eq_comm, and_iff_right full]

/-- The arguments of a line that stores are a token and the text behind it. -/
theorem bind_tagSet_iff (settings : Settings) :
    Binding.bind (dispatcherOf settings).converters q ctx "tag set" tagSet.parts.params
        tagSet.parts.ignoreExtra = .ok args ↔
      ∃ name left, Line.nextToken q ctx.remaining.toList = some ⟨.ok name, left⟩ ∧
        Text.trim left ≠ [] ∧
        args = [("name", .str (String.ofList name)),
          ("content", .str (String.ofList (Text.trim left)))] := by
  have lists : Binding.bind (dispatcherOf settings).converters q ctx "tag set"
      tagSet.parts.params tagSet.parts.ignoreExtra =
        ListBinder.bindTokensThenText (dispatcherOf settings).converters ctx q [nameParameter]
          contentParameter ctx.remaining.toList :=
    ListBinder.bind_eq_bindTokensThenText _ _ q "tag set" [nameParameter] contentParameter
      (by decide) rfl
  have behind {name left : List Char}
      (read : Line.nextToken q ctx.remaining.toList = some ⟨.ok name, left⟩) :
      LazyTokens.behind q ((LazyTokens.ahead q ctx.remaining.toList).found.length -
        (LazyTokens.ahead q left).found.length) ctx.remaining.toList = left := by
    rw [LazyTokens.ahead_of_ok read, List.length_cons, Nat.add_sub_cancel_left]
    simp only [LazyTokens.behind, read]
  rw [lists, ListBinder.bindTokensThenText_served_iff]
  constructor
  · rintro ⟨_, _, v, served, taken, rfl⟩
    obtain ⟨name, left, read, rfl, rfl⟩ := (serveAll_name settings).1 served
    rw [behind read] at taken
    obtain ⟨full, rfl⟩ := (serveText_content settings).1 taken
    exact ⟨name, left, read, full, rfl⟩
  · rintro ⟨name, left, read, full, rfl⟩
    refine ⟨_, _, _, (serveAll_name settings).2 ⟨name, left, read, rfl, rfl⟩, ?_, rfl⟩
    rw [behind read]
    exact (serveText_content settings).2 ⟨full, rfl⟩

/-- The argument of a line that looks is one token, and there is no other. -/
theorem bind_tagGet_iff (settings : Settings) :
    Binding.bind (dispatcherOf settings).converters q ctx "tag get" tagGet.parts.params
        tagGet.parts.ignoreExtra = .ok args ↔
      ∃ name left, Line.nextToken q ctx.remaining.toList = some ⟨.ok name, left⟩ ∧
        (∀ ch ∈ left, Text.isBlank ch = true) ∧ args = [("name", .str (String.ofList name))] := by
  have lists : Binding.bind (dispatcherOf settings).converters q ctx "tag get"
      tagGet.parts.params tagGet.parts.ignoreExtra =
        ListBinder.bindTokens (dispatcherOf settings).converters ctx "tag get" [nameParameter]
          (LazyTokens.ahead q ctx.remaining.toList) :=
    ListBinder.bind_eq_bindTokens _ _ q "tag get" [nameParameter] (by decide)
  have nothing (left : List Char) : (LazyTokens.ahead q left).atEnd = true ↔
      ∀ ch ∈ left, Text.isBlank ch = true := by
    rw [LazyTokens.atEnd_ahead, List.isEmpty_iff, Text.trimStart, List.dropWhile_eq_nil_iff]
  rw [lists, ListBinder.bindTokens_served_iff]
  constructor
  · rintro ⟨_, served, ended⟩
    obtain ⟨name, left, read, rfl, rfl⟩ := (serveAll_name settings).1 served
    exact ⟨name, left, read, (nothing left).1 ended, rfl⟩
  · rintro ⟨name, left, read, blank, rfl⟩
    exact ⟨_, (serveAll_name settings).2 ⟨name, left, read, rfl, rfl⟩, (nothing left).2 blank⟩

/-! ## Lines that store and lines that look -/

/-- A line that stores binds the name and the content. -/
theorem bound_of_stores (stores : Stores line name content) :
    ∃ rest, Names line ["tag", "set"] rest ∧ ∀ ctx : Context, ctx.remaining = String.ofList rest →
      Binding.bind (dispatcherOf {}).converters (dispatcherOf {}).quotes ctx "tag set"
        tagSet.parts.params tagSet.parts.ignoreExtra =
          .ok [("name", .str name), ("content", .str content)] := by
  obtain ⟨rest, left, names, read, trimmed, full⟩ := stores
  refine ⟨rest, names, fun ctx remaining => ?_⟩
  refine (bind_tagSet_iff {}).2 ⟨name.toList, left, ?_, ?_, ?_⟩
  · rw [remaining, String.toList_ofList]
    exact read
  · rw [← trimmed]
    simpa using full
  · rw [← trimmed, String.ofList_toList, String.ofList_toList]

theorem bound_of_looks (looks : Looks line name) :
    ∃ rest, Names line ["tag", "get"] rest ∧ ∀ ctx : Context, ctx.remaining = String.ofList rest →
      Binding.bind (dispatcherOf {}).converters (dispatcherOf {}).quotes ctx "tag get"
        tagGet.parts.params tagGet.parts.ignoreExtra = .ok [("name", .str name)] := by
  obtain ⟨rest, left, names, read, blank⟩ := looks
  refine ⟨rest, names, fun ctx remaining => ?_⟩
  refine (bind_tagGet_iff {}).2 ⟨name.toList, left, ?_, blank, ?_⟩
  · rw [remaining, String.toList_ofList]
    exact read
  · rw [String.ofList_toList]

/-- The arguments that a line binds for storing are told by the line. -/
theorem stores_of_bound {rest : String} (names : Names line ["tag", "set"] rest.toList)
    (remaining : ctx.remaining = rest)
    (bound : Binding.bind (dispatcherOf {}).converters (dispatcherOf {}).quotes ctx "tag set"
      tagSet.parts.params tagSet.parts.ignoreExtra = .ok args) :
    ∃ name content, Stores line name content ∧
      args = [("name", .str name), ("content", .str content)] := by
  obtain ⟨name, left, read, full, rfl⟩ := (bind_tagSet_iff {}).1 bound
  refine ⟨_, _, ⟨rest.toList, left, names, ?_, String.toList_ofList, ?_⟩, rfl⟩
  · rw [String.toList_ofList, ← remaining]
    exact read
  · simpa using full

theorem looks_of_bound {rest : String} (names : Names line ["tag", "get"] rest.toList)
    (remaining : ctx.remaining = rest)
    (bound : Binding.bind (dispatcherOf {}).converters (dispatcherOf {}).quotes ctx "tag get"
      tagGet.parts.params tagGet.parts.ignoreExtra = .ok args) :
    ∃ name, Looks line name ∧ args = [("name", .str name)] := by
  obtain ⟨name, left, read, blank, rfl⟩ := (bind_tagGet_iff {}).1 bound
  refine ⟨_, ⟨rest.toList, left, names, ?_, blank⟩, rfl⟩
  rw [String.toList_ofList, ← remaining]
  exact read

/-- What a line binds for storing, and what it stores, is the same. -/
theorem binds_set_iff (attends : Attends {} tags a) :
    Binds a line "tag set" args ↔ ∃ name content, Stores line name content ∧
      args = [("name", .str name), ("content", .str content)] := by
  have stands : Stands false none tags [] a.service := attends.stands
  rw [Binds, attends.rest.dispatcher]
  constructor
  · rintro ⟨lead, text, target, addressed, resolved, qualified, bound⟩
    have own := mem_runnable_of_child (.inl rfl)
    have same := eq_of_qualified (mem_runnable_of_resolve stands.orderly stands.roots resolved)
      own qualified
    obtain ⟨rest, rfl, names⟩ := names_of_found stands (.inl rfl) addressed resolved
      (congrArg Prod.snd same)
    exact stores_of_bound names rfl bound
  · rintro ⟨name, content, stores, rfl⟩
    obtain ⟨rest, names, bound⟩ := bound_of_stores stores
    obtain ⟨text, addressed, resolved⟩ := found_of_child stands (.inl rfl) names
    exact ⟨"!", text, _, addressed, resolved, rfl, bound _ rfl⟩

/-- What a line binds for looking, and what it asks for, is the same. -/
theorem binds_get_iff (attends : Attends {} tags a) :
    Binds a line "tag get" args ↔ ∃ name, Looks line name ∧ args = [("name", .str name)] := by
  have stands : Stands false none tags [] a.service := attends.stands
  rw [Binds, attends.rest.dispatcher]
  constructor
  · rintro ⟨lead, text, target, addressed, resolved, qualified, bound⟩
    have own := mem_runnable_of_child (.inr rfl)
    have same := eq_of_qualified (mem_runnable_of_resolve stands.orderly stands.roots resolved)
      own qualified
    obtain ⟨rest, rfl, names⟩ := names_of_found stands (.inr rfl) addressed resolved
      (congrArg Prod.snd same)
    exact looks_of_bound names rfl bound
  · rintro ⟨name, looks, rfl⟩
    obtain ⟨rest, names, bound⟩ := bound_of_looks looks
    obtain ⟨text, addressed, resolved⟩ := found_of_child stands (.inr rfl) names
    exact ⟨"!", text, _, addressed, resolved, rfl, bound _ rfl⟩

/-! ## What lines come to -/

/-- A line that stores leads to the tags with its content, and to a reply that says so. -/
theorem comesTo_of_stores (stands : Stands false held tags said s)
    (stores : Stores line name content) :
    comesTo (dispatcherOf {}) s line =
      (Table.set s.app name content, ["tag " ++ name ++ " saved"]) := by
  obtain ⟨rest, names, bound⟩ := bound_of_stores stores
  obtain ⟨text, addressed, resolved⟩ := found_of_child stands (.inl rfl) names
  rw [comesTo_of_resolved rfl stands addressed resolved rfl rfl]
  exact congrArg _ (bound _ rfl)

/-- A line that looks changes nothing, and is answered with what there is. -/
theorem comesTo_of_looks (stands : Stands false held tags said s) (looks : Looks line name) :
    comesTo (dispatcherOf {}) s line =
      (s.app, [(Table.get? s.app name).getD ("no tag named " ++ name)]) := by
  obtain ⟨rest, names, bound⟩ := bound_of_looks looks
  obtain ⟨text, addressed, resolved⟩ := found_of_child stands (.inr rfl) names
  rw [comesTo_of_resolved rfl stands addressed resolved rfl rfl]
  exact congrArg _ (bound _ rfl)

/-- Only the body of one command changes tags. -/
theorem keeps_of_runnable {e : List (Command Tags) × Command Tags} (member : e ∈ runnable)
    (other : e.2 ≠ tagSet) {body : Body Tags} (has : e.2.parts.body = some body) (usage : Usage)
    (ctx : Context) (args : Args) (tags : Tags) :
    (play usage (body ctx args) tags).2.1 = tags := by
  simp only [runnable, List.mem_cons, List.not_mem_nil, or_false] at member
  rcases member with rfl | rfl | rfl | rfl | rfl | rfl | rfl | rfl
  case inr.inr.inr.inr.inr.inl => exact absurd rfl other
  all_goals cases has
  · rfl
  · rfl
  · show (play usage (answerSum _) tags).2.1 = tags
    unfold answerSum
    split <;> rfl
  · dsimp only
    split <;> rfl
  · rfl
  · rfl
  · dsimp only
    split <;> rfl

/-- A line that does not store leaves all tags as they are. -/
theorem comesTo_of_others (stands : Stands false held tags said s)
    (others : ∀ name content, ¬ Stores line name content) :
    (comesTo (dispatcherOf {}) s line).1 = s.app := by
  cases addressed : splitLead? (dispatcherOf {}).leads
      (dispatcherOf {}).settings.dispatch.stripAfterLead line with
  | none => simp only [comesTo, addressed]
  | some found =>
    obtain ⟨lead, text⟩ := found
    cases resolved : s.registry.resolve text with
    | error error => simp only [comesTo, addressed, resolved]
    | ok target =>
      have member := mem_runnable_of_resolve stands.orderly stands.roots resolved
      by_cases storing : target.command = tagSet
      · obtain ⟨rest, rfl, names⟩ := names_of_found stands (.inl rfl) addressed resolved storing
        rw [comesTo_of_resolved rfl stands addressed resolved rfl rfl]
        cases bound : Binding.bind _ _ _ _ _ _ with
        | error error => rfl
        | ok args =>
          obtain ⟨name, content, stores, -⟩ := stores_of_bound names rfl bound
          exact absurd stores (others name content)
      · simp only [comesTo, addressed, resolved]
        cases ConsoleEvents.bound _ _ _ with
        | error error => rfl
        | ok args =>
          unfold carriedOut
          dsimp only
          split
          · rename_i body has
            exact keeps_of_runnable member storing has _ _ _ _
          · rfl

/-! ## Reading lines -/

/-- What is behind words that a text begins with. -/
def behindWords? : List String → List Char → Option (List Char)
  | [], text => some (Text.trimStart text)
  | word :: words, text =>
    if (nextWord text).1 = word.toList then behindWords? words (nextWord text).2 else none

/-- What is behind words that a line names a command by. -/
def behindNames? (words : List String) (line : String) : Option (List Char) :=
  match line.toList with
  | '!' :: text => if text.head?.any Text.isBlank then none else behindWords? words text
  | _ => none

/-- What a line stores, and under which name. -/
def stored? (line : String) : Option (String × String) :=
  match (behindNames? ["tag", "set"] line).bind (Line.nextToken .standard) with
  | some ⟨.ok name, left⟩ =>
    if Text.trim left = [] then none
    else some (String.ofList name, String.ofList (Text.trim left))
  | _ => none

/-- What a line asks for. -/
def wanted? (line : String) : Option String :=
  match (behindNames? ["tag", "get"] line).bind (Line.nextToken .standard) with
  | some ⟨.ok name, left⟩ => if left.all Text.isBlank then some (String.ofList name) else none
  | _ => none

theorem begins_iff {words : List String} (each : ∀ word ∈ words, IsWord word)
    {text rest : List Char} : Begins text words rest ↔ behindWords? words text = some rest := by
  induction words generalizing text with
  | nil => rw [begins_nil_iff, behindWords?, Option.some.injEq]
  | cons word words ih =>
    obtain ⟨isWord, others⟩ := List.forall_mem_cons.1 each
    rw [begins_cons_iff, behindWords?, ih others]
    split
    · rename_i same
      exact ⟨fun ⟨_, _, later⟩ => later, fun later => ⟨isWord, same, later⟩⟩
    · rename_i other
      exact iff_of_false (fun ⟨_, same, _⟩ => other same) nofun

theorem names_iff {words : List String} (each : ∀ word ∈ words, IsWord word) {rest : List Char} :
    Names line words rest ↔ behindNames? words line = some rest := by
  unfold Names behindNames?
  split
  · rename_i text shape
    simp only [shape, List.cons.injEq, true_and, exists_eq_left', begins_iff each]
    split
    · rename_i blank
      refine iff_of_false (fun ⟨solid, _⟩ => ?_) nofun
      obtain ⟨ch, first, isBlank⟩ := (Option.any_eq_true _ _).1 blank
      rw [solid ch first] at isBlank
      cases isBlank
    · rename_i solid
      simp only [Bool.not_eq_true, Option.any_eq_false] at solid
      have visible : ∀ ch ∈ text.head?, Text.isBlank ch = false := by simpa using solid
      exact ⟨fun ⟨_, later⟩ => later, fun later => ⟨visible, later⟩⟩
  · rename_i other
    exact iff_of_false (fun ⟨text, shape, _⟩ => other text shape) nofun

/-- What a line stores can be read off it. -/
theorem stores_iff : Stores line name content ↔ stored? line = some (name, content) := by
  have each : ∀ word ∈ ["tag", "set"], IsWord word := by decide
  simp only [Stores, names_iff each, stored?]
  cases behindNames? ["tag", "set"] line with
  | none => simp
  | some rest =>
    cases read : Line.nextToken .standard rest with
    | none => simp [read]
    | some reading =>
      obtain ⟨result, left⟩ := reading
      cases result with
      | error e => simp [read]
      | ok token =>
        simp only [Option.some.injEq, Option.bind_some, read]
        constructor
        · rintro ⟨_, _, rfl, again, trimmed, full⟩
          cases read.symm.trans again
          have some : Text.trim left ≠ [] := trimmed ▸ mt String.toList_eq_nil_iff.1 full
          rw [if_neg some, ← trimmed, String.ofList_toList, String.ofList_toList]
        · intro stores
          split at stores
          · cases stores
          · rename_i full
            obtain ⟨rfl, rfl⟩ := Prod.mk.inj (Option.some.inj stores)
            refine ⟨rest, left, rfl, by rw [String.toList_ofList, read], String.toList_ofList, ?_⟩
            simpa using full

/-- A line stores one content at most, under one name. -/
theorem stores_unique {otherName otherContent : String} (one : Stores line name content)
    (two : Stores line otherName otherContent) : name = otherName ∧ content = otherContent :=
  Prod.mk.inj (Option.some.inj ((stores_iff.1 one).symm.trans (stores_iff.1 two)))

/-- What a line asks for can be read off it, too. -/
theorem looks_iff : Looks line name ↔ wanted? line = some name := by
  have each : ∀ word ∈ ["tag", "get"], IsWord word := by decide
  simp only [Looks, names_iff each, wanted?]
  cases behindNames? ["tag", "get"] line with
  | none => simp
  | some rest =>
    cases read : Line.nextToken .standard rest with
    | none => simp [read]
    | some reading =>
      obtain ⟨result, left⟩ := reading
      cases result with
      | error e => simp [read]
      | ok token =>
        simp only [Option.some.injEq, Option.bind_some, read]
        constructor
        · rintro ⟨_, _, rfl, again, blank⟩
          cases read.symm.trans again
          rw [if_pos (List.all_eq_true.2 blank), String.ofList_toList]
        · intro looks
          split at looks
          · rename_i blank
            cases looks
            exact ⟨rest, left, rfl, by rw [String.toList_ofList, read], List.all_eq_true.1 blank⟩
          · cases looks

/-- Under each name the tags hold what was stored last, if anything was. -/
structure Holds (inputs : List (Decimal.Duration × String)) (tags : Tags) : Prop where
  stored : ∀ name content, LastStored inputs name content → Table.get? tags name = some content
  nothing : ∀ name, (∀ input ∈ inputs, ∀ content, ¬ Stores input.2 name content) →
    Table.get? tags name = none

variable {inputs : List (Decimal.Duration × String)} {input : Decimal.Duration × String}

theorem holds_nil : Holds [] [] where
  stored := by
    rintro name content ⟨earlier, input, later, shape, -⟩
    simp at shape
  nothing _ _ := rfl

/-- What was stored last was stored by the last line, or before it if that stores nothing there. -/
theorem lastStored_concat (last : LastStored (inputs ++ [input]) name content) :
    Stores input.2 name content ∨
      LastStored inputs name content ∧ ∀ content, ¬ Stores input.2 name content := by
  obtain ⟨earlier, found, later, shape, stores, after⟩ := last
  rcases List.eq_nil_or_concat' later with rfl | ⟨between, final, rfl⟩
  · obtain ⟨-, same⟩ := List.append_inj' shape rfl
    cases List.singleton_inj.1 same
    exact .inl stores
  · rw [← List.cons_append, ← List.append_assoc] at shape
    obtain ⟨rfl, same⟩ := List.append_inj' shape rfl
    cases List.singleton_inj.1 same
    obtain ⟨others, own⟩ := List.forall_mem_append.1 after
    exact .inr ⟨⟨earlier, found, between, rfl, stores, others⟩, own _ List.mem_cons_self⟩

theorem holds_stores (holds : Holds inputs tags) (stores : Stores input.2 name content) :
    Holds (inputs ++ [input]) (Table.set tags name content) where
  stored asked wanted last := by
    rw [Table.get?_set]
    rcases lastStored_concat last with now | ⟨before, other⟩
    · obtain ⟨rfl, rfl⟩ := stores_unique stores now
      rw [if_pos rfl]
    · rw [if_neg, holds.stored asked wanted before]
      rintro rfl
      exact other content stores
  nothing asked never := by
    obtain ⟨before, own⟩ := List.forall_mem_append.1 never
    rw [Table.get?_set, if_neg, holds.nothing asked before]
    rintro rfl
    exact own input List.mem_cons_self content stores

theorem holds_others (holds : Holds inputs tags)
    (others : ∀ name content, ¬ Stores input.2 name content) : Holds (inputs ++ [input]) tags where
  stored asked wanted last := by
    rcases lastStored_concat last with now | ⟨before, -⟩
    · exact absurd now (others asked wanted)
    · exact holds.stored asked wanted before
  nothing asked never := holds.nothing asked (List.forall_mem_append.1 never).1

/-- Whatever lines there were, the tags are those that the lines stored last. -/
theorem holds_after (attends : Attends {} [] a) (inputs : List (Decimal.Duration × String)) :
    ∃ tags, Attends {} tags (after a inputs) ∧ Holds inputs tags := by
  induction inputs using List.reverseRecOn with
  | nil => exact ⟨[], attends, holds_nil⟩
  | append_singleton inputs input ih =>
    obtain ⟨tags, before, holds⟩ := ih
    have waits := attends_advance before input.1
    have stands : Stands false none tags [] ((after a inputs).advance input.1).service :=
      waits.stands
    have goesOn := (attends_respond waits input.2).2
    rw [after_concat]
    refine ⟨_, goesOn, ?_⟩
    -- A line that stores settles its own name; all else leaves every name to the lines before it.
    by_cases storing : ∃ name content, Stores input.2 name content
    · obtain ⟨name, content, stores⟩ := storing
      rw [comesTo_of_stores stands stores, stands.tags]
      exact holds_stores holds stores
    · have others : ∀ name content, ¬ Stores input.2 name content :=
        fun name content stores => storing ⟨name, content, stores⟩
      rw [comesTo_of_others stands others, stands.tags]
      exact holds_others holds others

theorem inFlight_of_idle {slots : Slots} (idle : Idle slots) (key : SlotKey) :
    slots.inFlight key = 0 := by
  unfold Slots.inFlight
  cases found : slots.buckets.get? key with
  | none => rfl
  | some bucket => exact (idle _ (AgentTurns.mem_of_get? found)).inFlight

/-- A look-up at the console with its standard settings is answered with what the last line that
stored anything under the name stored there, or with the news that there is nothing, whatever lines
of whatever kind there were. A line stores if and only if its arguments bind, and then it says so; no
other line changes a tag. No line keeps a slot, so none ever waits for one. -/
theorem last_stored_is_recalled (inputs : List (Decimal.Duration × String))
    (span : Decimal.Duration) (line : String) :
    ∃ first, Console.start none = .ok first ∧
      let before := (after first inputs).advance span
      let replies := (respond before line).1
      let later := (respond before line).2
      (∀ args, Binds before line "tag set" args ↔ ∃ name content, Stores line name content ∧
        args = [("name", .str name), ("content", .str content)]) ∧
      (∀ args, Binds before line "tag get" args ↔ ∃ name, Looks line name ∧
        args = [("name", .str name)]) ∧
      (∀ name, Looks line name →
        (∀ content, LastStored inputs name content → replies = [content]) ∧
        ((∀ input ∈ inputs, ∀ content, ¬ Stores input.2 name content) →
          replies = ["no tag named " ++ name])) ∧
      (∀ name content, Stores line name content → replies = ["tag " ++ name ++ " saved"] ∧
        later.service.app = Table.set before.service.app name content) ∧
      ((∀ name content, ¬ Stores line name content) → later.service.app = before.service.app) ∧
      (∀ key, before.service.slots.inFlight key = 0 ∧ later.service.slots.inFlight key = 0) ∧
      ∀ rule ∈ tagSet.parts.concurrency, ∀ ctx, ∃ admission left,
        later.service.slots.enter (Slots.keyFor "tag set" rule ctx) rule =
          (.admitted admission, left) := by
  have valid : ({} : Settings).problems = [] := rfl
  obtain ⟨first, started, fresh⟩ := attends_start valid
  obtain ⟨tags, reached, holds⟩ := holds_after fresh inputs
  have waits := attends_advance reached span
  have stands : Stands false none tags [] ((after first inputs).advance span).service :=
    waits.stands
  obtain ⟨answered, goesOn⟩ := attends_respond waits line
  refine ⟨first, started, fun args => binds_set_iff waits, fun args => binds_get_iff waits,
    fun name looks => ?_, fun name content stores => ?_, fun others => ?_,
    fun key => ⟨inFlight_of_idle stands.slots key, inFlight_of_idle goesOn.stands.slots key⟩,
    fun rule given ctx => ?_⟩
  · rw [comesTo_of_looks stands looks, stands.tags] at answered
    refine ⟨fun content last => ?_, fun never => ?_⟩
    · rw [answered, holds.stored name content last]
      rfl
    · rw [answered, holds.nothing name never]
      rfl
  · have left := goesOn.stands.tags
    rw [comesTo_of_stores stands stores] at answered left
    exact ⟨answered, left⟩
  · exact goesOn.stands.tags.trans (comesTo_of_others stands others)
  · have own := mem_runnable_of_child (.inl rfl)
    obtain ⟨admission, left, enters, -⟩ := enter_of_idle goesOn.stands.slots
      (Slots.keyFor "tag set" rule ctx) ((simple_of_runnable own).slots rule given)
    exact ⟨admission, left, enters⟩

/-- Neither a line without a content nor one with a mark that is left open touches what was stored
under a name of two words. -/
theorem haiku_recalled_after_broken_lines :
    ∃ first, Console.start none = .ok first ∧
      (respond ((after first [(0, "!tag set \"a haiku\"  old  pond "), (0, "!tag set \"a haiku\""),
        (0, "!tag set \"a haiku frog leaps")]).advance Decimal.Duration.second)
          "!tag get \"a haiku\"").1 = ["old  pond"] := by
  let broken : List (Decimal.Duration × String) :=
    [(0, "!tag set \"a haiku\""), (0, "!tag set \"a haiku frog leaps")]
  have stores : Stores "!tag set \"a haiku\"  old  pond " "a haiku" "old  pond" :=
    stores_iff.2 (by decide)
  have looks : Looks "!tag get \"a haiku\"" "a haiku" := looks_iff.2 (by decide)
  have nothing : ∀ input ∈ broken, stored? input.2 = none := by decide
  have last : LastStored ((0, "!tag set \"a haiku\"  old  pond ") :: broken) "a haiku" "old  pond" :=
    ⟨[], _, broken, rfl, stores, fun input member content other =>
      nomatch (nothing input member).symm.trans (stores_iff.1 other)⟩
  obtain ⟨first, started, -, -, answers, -⟩ := last_stored_is_recalled _ Decimal.Duration.second
    "!tag get \"a haiku\""
  exact ⟨first, started, (answers "a haiku" looks).1 "old  pond" last⟩

end ChatCommands.RecalledTags
