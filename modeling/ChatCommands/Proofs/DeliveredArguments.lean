import ChatCommands.Proofs.BodyCalls
import ChatCommands.Proofs.ConfiguredQuotes
import ChatCommands.Proofs.LegalCourses
import ChatCommands.Proofs.ListBinder

/-! Delivering any list of texts to a body. A line is cut four times before a body sees any of it:
what addresses the agent is taken off, words are split off as long as they name commands, the rest
is read as tokens, and the tokens are bound to parameters. A line that is put together from the same
four parts, with each text in the form that writing gives it, is cut between them. -/
namespace ChatCommands.DeliveredArguments
open InvocationCourse LegalCourses BodyCalls LongestDescent NamedSiblings RegistryGrowth
open QuoteRoundTrip LazyTokens ListBinder Line Dispatcher

variable {σ : Type} {ci : Bool} {d : Dispatcher σ} {s : Service σ} {e : Event} {r : Registry σ}
  {parents : List (Command σ)} {leaf : Command σ} {words strings : List String} {lead : String}

/-- Texts in their written form, one space between them. -/
def written (q : QuoteSet) (strings : List String) : String :=
  " ".intercalate (strings.map (quote q))

/-- A line that names a command by words and gives it texts. -/
def writtenLine (q : QuoteSet) (words strings : List String) : String :=
  " ".intercalate words ++ " " ++ written q strings

/-! ## What addresses the agent -/

/-- Of the texts that address the agent and that a message begins with, the longest. -/
structure LongestLead (leads : List String) (lead content : String) : Prop where
  member : lead ∈ leads
  begins : lead.toList <+: content.toList
  longest : ∀ other ∈ leads, other.toList <+: content.toList → other.length ≤ lead.length

theorem eq_of_prefix_of_bytes {a b : String} (start : a.toList <+: b.toList)
    (size : b.utf8ByteSize ≤ a.utf8ByteSize) : a = b := by
  obtain ⟨more, shape⟩ := start
  have whole : a ++ String.ofList more = b := String.toList_inj.1 (by simpa using shape)
  have none : (String.ofList more).utf8ByteSize = 0 := by
    rw [← whole, String.utf8ByteSize_append] at size
    omega
  rw [String.utf8ByteSize_eq_zero_iff.1 none, String.append_empty] at whole
  exact whole

/-- Where longer leads come first, the first that fits is the longest. -/
theorem firstLead?_of_longest {leads : List String} {rest : List Char}
    (sorted : leads.Pairwise fun a b => b.utf8ByteSize ≤ a.utf8ByteSize) (member : lead ∈ leads)
    (longest : ∀ other ∈ leads, other.toList <+: lead.toList ++ rest →
      other.length ≤ lead.length) :
    firstLead? (lead.toList ++ rest) leads = some (lead, rest) := by
  induction leads with
  | nil => cases member
  | cons other leads ih =>
    obtain ⟨first, sorted⟩ := List.pairwise_cons.1 sorted
    obtain ⟨here, further⟩ := List.forall_mem_cons.1 longest
    rw [firstLead?]
    cases strip : Text.stripStart other.toList (lead.toList ++ rest) with
    | none =>
      have later : lead ∈ leads := by
        rcases List.mem_cons.1 member with rfl | later
        · rw [Text.stripStart_eq_some_iff.2 rfl] at strip
          cases strip
        · exact later
      exact ih sorted later further
    | some after =>
      -- Two texts that one text begins with: the shorter begins the longer, and the earlier of the
      -- two is not the one with fewer bytes.
      have shape := Text.stripStart_eq_some_iff.1 strip
      have start : other.toList <+: lead.toList := by
        refine List.prefix_of_prefix_length_le ⟨after, shape.symm⟩ (List.prefix_append _ _) ?_
        simpa only [String.length_toList] using here ⟨after, shape.symm⟩
      have same : other = lead := by
        rcases List.mem_cons.1 member with rfl | later
        · rfl
        · exact eq_of_prefix_of_bytes start (first lead later)
      subst same
      rw [List.append_cancel_left shape]

theorem leads_sorted (d : Dispatcher σ) :
    d.leads.Pairwise fun a b => b.utf8ByteSize ≤ a.utf8ByteSize := by
  have sorted : d.leads.Pairwise fun a b => decide (b.utf8ByteSize ≤ a.utf8ByteSize) = true := by
    refine List.pairwise_mergeSort (fun a b c first second => ?_) (fun a b => ?_) _
    · simp only [decide_eq_true_eq] at first second ⊢
      omega
    · simp only [Bool.or_eq_true, decide_eq_true_eq]
      omega
  exact sorted.imp of_decide_eq_true

/-- Whether or not blanks are allowed there, a line without blanks in front is split off behind the
longest lead. -/
theorem splitLead?_of_longest {line : String}
    (longest : LongestLead d.settings.dispatch.leads lead (lead ++ line))
    (solid : ∀ ch ∈ line.toList.head?, Text.isBlank ch = false) (mayStrip : Bool) :
    splitLead? d.leads mayStrip (lead ++ line) = some (lead, line) := by
  have member : lead ∈ d.leads := List.mem_mergeSort.2 longest.member
  have full : d.leads.isEmpty = false := List.isEmpty_eq_false_iff.2 (List.ne_nil_of_mem member)
  have found := firstLead?_of_longest (leads_sorted d) member fun other configured begins =>
    longest.longest other (List.mem_mergeSort.1 configured) (by rwa [String.toList_append])
  have unblank : line.toList.head?.any Text.isBlank = false := by
    cases first : line.toList.head? with
    | none => rfl
    | some ch => simp [solid ch first]
  have trimmed : Text.trimStart ([] ++ line.toList) = line.toList :=
    Text.trimStart_gap (by simp) solid
  rw [List.nil_append] at trimmed
  rw [splitLead?, full, String.toList_append]
  simp [found, unblank, trimmed]

/-! ## What names the command -/

/-- Commands one below the other, from a root on. -/
structure Rooted (r : Registry σ) (path : List (Command σ)) : Prop where
  start : ∀ c ∈ path.head?, c ∈ r.root.ordered
  chain : path.IsChain fun g c => c ∈ g.childList

/-- Words with a space behind each. -/
def spelled (words : List String) : List Char := words.flatMap fun word => word.toList ++ [' ']

theorem toList_intercalate_space (word : String) (words : List String) :
    (" ".intercalate (word :: words) ++ " ").toList = spelled (word :: words) := by
  induction words generalizing word with
  | nil => simp [spelled]
  | cons next words ih =>
    have tail := ih next
    simp only [String.toList_append, String.toList_intercalate, List.map_cons,
      List.intercalate_cons_cons, List.append_assoc] at tail ⊢
    rw [tail]
    simp [spelled]

theorem begins_spelled (areWords : ∀ word ∈ words, IsWord word) (rest : List Char) :
    Begins (spelled words ++ rest) words (Text.trimStart rest) := by
  induction words with
  | nil => exact begins_nil_iff.2 rfl
  | cons word words ih =>
    obtain ⟨isWord, others⟩ := List.forall_mem_cons.1 areWords
    have gap : Text.trimStart (' ' :: (spelled words ++ rest)) =
        Text.trimStart (spelled words ++ rest) := List.dropWhile_cons_of_pos (by decide)
    have later := begins_trimStart.2 (ih others)
    rw [← gap] at later
    have shape : spelled (word :: words) ++ rest =
        [] ++ (word.toList ++ ' ' :: (spelled words ++ rest)) := by simp [spelled]
    refine .word shape (by simp) isWord (fun ch first => ?_) (begins_trimStart.1 later)
    cases first
    decide

theorem areWords_of_named {path : List (Command σ)}
    (names : ∀ c ∈ path, ∀ name ∈ c.names, IsWord name)
    (named : List.Forall₂ (fun word c => word ∈ c.names) words path) :
    ∀ word ∈ words, IsWord word := by
  induction named with
  | nil => simp
  | cons own _ ih =>
    obtain ⟨first, others⟩ := List.forall_mem_cons.1 names
    exact List.forall_mem_cons.2 ⟨first _ own, ih others⟩

theorem isWord_of_rooted {path : List (Command σ)} (orderly : Orderly ci r)
    (rooted : Rooted r path) : ∀ c ∈ path, ∀ name ∈ c.names, IsWord name := by
  intro c member
  obtain ⟨_, made⟩ := proper_of_chain orderly.made rooted.start rooted.chain c member
  exact made.words

theorem toList_writtenLine (full : words ≠ []) (q : QuoteSet) (strings : List String) :
    (writtenLine q words strings).toList = spelled words ++ (written q strings).toList := by
  obtain ⟨first, others, rfl⟩ := List.exists_cons_of_ne_nil full
  rw [writtenLine, String.toList_append, toList_intercalate_space]

theorem solid_writtenLine {path : List (Command σ)} (orderly : Orderly ci r)
    (rooted : Rooted r path) (named : List.Forall₂ (fun word c => word ∈ c.names) words path)
    (full : words ≠ []) (q : QuoteSet) (strings : List String) :
    ∀ ch ∈ (writtenLine q words strings).toList.head?, Text.isBlank ch = false := by
  have areWords := areWords_of_named (isWord_of_rooted orderly rooted) named
  rw [toList_writtenLine full]
  obtain ⟨first, others, rfl⟩ := List.exists_cons_of_ne_nil full
  have solid := solid_of_isWord (List.forall_mem_cons.1 areWords).1
    (' ' :: (spelled others ++ (written q strings).toList))
  simpa [spelled] using solid

/-- A line of words and texts resolves to the command that the words name, if that has no children,
and the texts remain. -/
theorem resolve_writtenLine (orderly : Orderly ci r) (rooted : Rooted r (parents ++ [leaf]))
    (childless : leaf.childList = []) (runs : leaf.parts.body.isSome)
    (named : List.Forall₂ (fun word c => word ∈ c.names) words (parents ++ [leaf]))
    (q : QuoteSet) (strings : List String) :
    ∃ target, r.resolve (writtenLine q words strings) = .ok target ∧ target.command = leaf ∧
      target.parents = parents ∧ target.invokedParents ++ [target.invokedWith] = words ∧
      target.remaining.toList = Text.trimStart (written q strings).toList := by
  have areWords := areWords_of_named (isWord_of_rooted orderly rooted) named
  rcases List.eq_nil_or_concat' words with rfl | ⟨said, word, rfl⟩
  · simp at named
  have begins := begins_spelled areWords (written q strings).toList
  rw [← toList_writtenLine (by simp)] at begins
  refine ⟨⟨leaf, parents, word, said,
    String.ofList (Text.trimStart (written q strings).toList)⟩, ?_, rfl, rfl, rfl,
    String.toList_ofList⟩
  refine (resolve_eq_ok_iff orderly _ _).2 ⟨⟨rooted.start, rooted.chain, ?_, ?_⟩, .inr ⟨runs, ?_⟩⟩
  · exact named.imp fun word c own => ⟨word, own, .refl ci word⟩
  · rwa [String.toList_ofList]
  · simp [childless]

/-! ## What is read and bound -/

theorem ahead_written {q : QuoteSet} (writable : Writable q) (marked : q.pairs ≠ [])
    (strings : List String) : ahead q (written q strings).toList = ⟨strings, none⟩ := by
  have read := tokens_spaced writable (strings.map String.toList) fun none => absurd none marked
  rw [written, ahead, toList_written, tokens_intercalate, read]
  simp [Function.comp_def]

/-- A parameter for one text, as it is. -/
def IsPlain (p : Parameter) : Prop := p.shape = .of .str ∧ p.takesRest = false

section Binding

variable {cs : Converters} {ctx : Context} {params : List Parameter}

theorem serve_plain (builtin : cs.get? .str = some Convert.str) {p : Parameter} (plain : IsPlain p)
    (text : String) (rest : List String) (ending : Option TokenError) :
    serve cs ctx p ⟨text :: rest, ending⟩ = .ok (.str text, ⟨rest, ending⟩) := by
  have converted : cs.convert ctx p.name (.of .str) text = .ok (.str text) := by
    rw [Converters.convert, Converters.convertKind, builtin]
    rfl
  simp [serve, plain.1, serveOne, converted, Value.isNone]

theorem serveAll_plain (builtin : cs.get? .str = some Convert.str)
    (plain : ∀ p ∈ params, IsPlain p) (enough : strings.length = params.length) :
    serveAll cs ctx params ⟨strings, none⟩ =
      .ok ((params.map (·.name)).zip (strings.map Value.str), ⟨[], none⟩) := by
  induction params generalizing strings with
  | nil =>
    cases List.length_eq_zero_iff.1 enough
    rfl
  | cons p params ih =>
    cases strings with
    | nil => cases enough
    | cons text rest =>
      obtain ⟨first, others⟩ := List.forall_mem_cons.1 plain
      have served := ih others (Nat.succ_inj.1 enough)
      simp [serveAll, serve_plain builtin first, served]

/-- Where the parameters take all the texts that are written, it does not matter what is said of
more. -/
theorem bind_of_serveAll {q : QuoteSet} {args : Args} (writable : Writable q)
    (marked : q.pairs ≠ []) (takes : ∀ p ∈ params, p.takesText = false)
    (served : serveAll cs ctx params ⟨strings, none⟩ = .ok (args, ⟨[], none⟩))
    (remains : ctx.remaining.toList = Text.trimStart (written q strings).toList)
    (command : String) (ignoreExtra : Bool) :
    Binding.bind cs q ctx command params ignoreExtra = .ok args := by
  have start := start_stands q ctx.remaining
  rw [remains, ahead_congr q (trimStart_trimStart _), ahead_written writable marked] at start
  rcases (bindParameters_alike cs ctx params takes start).cases with
    ⟨e, -, failed⟩ | ⟨_, last, left, bound, same, stands⟩
  · cases served.symm.trans failed
  · cases served.symm.trans same
    simp [Binding.bind, bound, stands.atEnd_skipBlanks, Tokens.atEnd]

/-- Written texts are bound to as many plain parameters. -/
theorem bind_written {q : QuoteSet} (builtin : cs.get? .str = some Convert.str)
    (writable : Writable q) (marked : q.pairs ≠ []) (plain : ∀ p ∈ params, IsPlain p)
    (enough : strings.length = params.length)
    (remains : ctx.remaining.toList = Text.trimStart (written q strings).toList)
    (command : String) (ignoreExtra : Bool) :
    Binding.bind cs q ctx command params ignoreExtra =
      .ok ((params.map (·.name)).zip (strings.map Value.str)) := by
  have takes : ∀ p ∈ params, p.takesText = false := fun p member => by
    obtain ⟨shape, alone⟩ := plain p member
    simp [Parameter.takesText, shape, alone, Shape.isFlags]
  exact bind_of_serveAll writable marked takes (serveAll_plain builtin plain enough) remains _ _

end Binding

/-! ## From a line to its body -/

/-- A command that nothing keeps anybody from invoking, with one text for each of its parameters. -/
structure Receptive (d : Dispatcher σ) (s : Service σ) (parents : List (Command σ))
    (leaf : Command σ) : Prop where
  rooted : Rooted s.registry (parents ++ [leaf])
  childless : leaf.childList = []
  runs : leaf.parts.body.isSome
  plain : ∀ p ∈ leaf.parts.params, IsPlain p
  enabled : ∀ c ∈ parents ++ [leaf],
    (s.registry.standing (parents.headD leaf).serial c).enabled
  dispatcherChecks : d.checks = []
  moduleCheck : (s.moduleOf? (parents.headD leaf)).bind (·.check) = none
  commandChecks : ∀ c ∈ parents ++ [leaf],
    s.registry.checksOf (parents.headD leaf).serial c = []
  cooldowns : leaf.parts.cooldowns = []
  concurrency : leaf.parts.concurrency = none

/-- A message by a human that names a command, each command of its path by some name, and gives it
texts in writing. -/
structure Delivers (d : Dispatcher σ) (parents : List (Command σ)) (leaf : Command σ)
    (lead : String) (words strings : List String) (e : Event) : Prop where
  human : e.author.bot = false
  content : e.content = lead ++ writtenLine d.quotes words strings
  longest : LongestLead d.settings.dispatch.leads lead e.content
  named : List.Forall₂ (fun word c => word ∈ c.names) words (parents ++ [leaf])
  enough : strings.length = leaf.parts.params.length

theorem passChecks_of_receptive {inv : Invocation σ} (receptive : Receptive d s parents leaf)
    (command : inv.target.command = leaf) (above : inv.target.parents = parents) :
    d.passChecks inv (met s) = .ok () := by
  have root : inv.target.root = parents.headD leaf := by rw [Resolved.root, command, above]
  have unchecked : d.checksFor (met s) inv.target = [] := by
    have module : ((met s).moduleOf? inv.target.root).bind (·.check) = none := by
      rw [root]
      exact receptive.moduleCheck
    rw [checksFor, receptive.dispatcherChecks, module, root, command, above, Option.toList_none,
      List.nil_append, List.nil_append]
    exact List.flatMap_eq_nil_iff.2 receptive.commandChecks
  rw [passChecks_eq_ok_iff, Allowed, unchecked, root, command, above]
  exact ⟨receptive.enabled, by simp⟩

theorem marked_quotes (d : Dispatcher σ) : d.quotes.pairs ≠ [] := by
  obtain ⟨closing, first, -⟩ : ∃ closing, d.quotes.pairs.head? = some ('"', closing) ∧ _ :=
    ConfiguredQuotes.first_quoteSet d.settings.tokenizer
  intro none
  rw [none] at first
  cases first

theorem dispatch_of_delivers (orderly : Orderly ci s.registry)
    (receptive : Receptive d s parents leaf)
    (delivers : Delivers d parents leaf lead words strings e) :
    ∃ target, d.dispatch e s = d.invoke (begunBy d s e lead target) (met s) ∧
      s.registry.resolve (writtenLine d.quotes words strings) = .ok target ∧
      target.command = leaf ∧ target.parents = parents ∧
      target.invokedParents ++ [target.invokedWith] = words ∧
      target.remaining.toList = Text.trimStart (written d.quotes strings).toList := by
  obtain ⟨human, content, longest, named, -⟩ := delivers
  obtain ⟨target, resolved, aim⟩ := resolve_writtenLine orderly receptive.rooted
    receptive.childless receptive.runs named d.quotes strings
  rw [content] at longest
  have full : words ≠ [] := by
    rintro rfl
    simp at named
  have solid := solid_writtenLine orderly receptive.rooted named full d.quotes strings
  have addressed := splitLead?_of_longest longest solid d.settings.dispatch.stripAfterLead
  rw [← content] at addressed
  exact ⟨target, dispatch_of_resolved (by simp [human]) addressed resolved, resolved, aim⟩

/-- Any texts reach the body of a receptive command, each as it is and bound to the parameter in its
place, when they are written in a message behind the longest lead and any names of the command and
its ancestors. However long the hooks before the body wait and whatever others do to the service
meanwhile: if they succeed, the body is called once, and with nothing else; and if they never wait,
that is done as soon as the message is handed over. -/
theorem written_arguments_reach_body {changes : List (Change σ)} (d : Dispatcher σ) (s : Service σ)
    (e : Event) (built : s.registry = grown ci changes) (writable : Writable d.quotes)
    (builtin : d.converters.get? .str = some Convert.str)
    (receptive : Receptive d s parents leaf)
    (delivers : Delivers d parents leaf lead words strings e) (times : List (Service σ)) :
    let args : Args := (leaf.parts.params.map (·.name)).zip (strings.map Value.str)
    ∃ target, s.registry.resolve (writtenLine d.quotes words strings) = .ok target ∧
      target.command = leaf ∧ target.parents = parents ∧
      target.invokedParents ++ [target.invokedWith] = words ∧
      (∃ legs calls m, Calling d (begunBy d s e lead target) legs calls m ∧
        legs.map Leg.before = met s :: times) ∧
      ∀ legs calls m, Calling d (begunBy d s e lead target) legs calls m →
        legs.map Leg.before = met s :: times →
        times.foldl (fun r later => d.resume r.1 later) (d.dispatch e s) = m.perform d ∧
        (HooksLetPass (trace legs) →
          (calls = [args] ∨ calls = [] ∧ WaitsEarly m.point) ∧
          ((m.perform d).1 = .finished → calls = [args]) ∧
          ((∀ script ∈ hooksBefore d (begunBy d s e lead target), Prompt script) →
            calls = [args])) := by
  intro args
  have orderly : Orderly ci s.registry := built ▸ grown_orderly ci changes
  obtain ⟨target, begins, resolved, rfl, rfl, spoken, remains⟩ :=
    dispatch_of_delivers orderly receptive delivers
  refine ⟨target, resolved, rfl, rfl, spoken, ?_, fun legs calls m calling served => ?_⟩
  · obtain ⟨legs, m, course, served⟩ :=
      exists_course d (begunBy d s e lead target) receptive.runs (met s) times
    obtain ⟨calls, calling⟩ := exists_calling course
    exact ⟨legs, calls, m, calling, served⟩
  have course := course_of_calling calling
  have rests := rests_of_course course
  refine ⟨?_, fun pass => ?_⟩
  · obtain ⟨began, later, same, comes⟩ := perform_of_course course
    cases served.symm.trans same
    rw [begins, comes]
  have cleared : Cleared d (begunBy d s e lead target) args :=
    ⟨receptive.cooldowns, receptive.concurrency,
      bind_written builtin writable (marked_quotes d) receptive.plain delivers.enough remains _ _⟩
  have passes : ∀ leg ∈ legs.head?,
      d.passChecks (begunBy d s e lead target) leg.before = .ok () := fun leg first => by
    have before : leg.before = met s := by
      simpa [Option.mem_def.1 first] using congrArg List.head? served
    rw [before]
    exact passChecks_of_receptive receptive rfl rfl
  have atOnce (prompt : ∀ script ∈ hooksBefore d (begunBy d s e lead target), Prompt script) :
      calls = [args] := (called_of_calling cleared prompt calling passes pass).1
  rcases calls_of_calling cleared calling passes pass with ⟨none, ahead⟩ | ⟨called, -⟩
  · have waits := waits_of_ahead ahead rests
    refine ⟨.inr ⟨none, waits⟩, fun finished => ?_, atOnce⟩
    rw [ended_of_finished rests finished] at waits
    cases waits
  · exact ⟨.inl called, fun _ => called, atOnce⟩

/-- A command that is given a title and a text. -/
def note : CommandParts Unit where
  name := "note"
  aliases := ["n"]
  params := [{ name := "title", shape := .of .str }, { name := "text", shape := .of .str }]
  body := some fun _ _ => .done

def eager : Dispatcher Unit where
  settings := { dispatch := { leads := ["!", "!!"] } }
  directory := .ofLists [] [] [] []

def shelf : Service Unit where
  app := ()
  registry := grown false [.register (.declare { name := "book", aliases := ["b"] } true
    [.declare note false []])]

def noted : Command Unit := { qualified := "book note", parts := note }

def book : Command Unit where
  qualified := "book"
  parts := { name := "book", aliases := ["b"] }
  children := some ⟨[noted], [("note", "note"), ("n", "note")]⟩

def texts : List String := ["", " \"a\" \\"]

def parcel : Event where
  author := { id := 1, name := "" }
  origin := ⟨.direct, none, { id := 9, name := "" }⟩
  content := "!!" ++ writtenLine eager.quotes ["b", "note"] texts
  responder := .discard

def addressee : Resolved Unit :=
  ⟨noted, [book], "note", ["b"], "\"\" \" \\\"a\\\" \\\\\""⟩

/-- An empty text, and one with blanks, marks and an escape, reach a command by an alias of its
group and behind the longer of two leads. -/
theorem awkward_texts_delivered :
    Writable eager.quotes ∧ eager.converters.get? .str = some Convert.str ∧
      Receptive eager shelf [book] noted ∧
      Delivers eager [book] noted "!!" ["b", "note"] texts parcel ∧
      (∀ script ∈ hooksBefore eager (begunBy eager shelf parcel "!!" addressee), Prompt script) ∧
      ∃ legs m, HooksLetPass (trace legs) ∧
        Calling eager (begunBy eager shelf parcel "!!" addressee) legs
          [[("title", .str ""), ("text", .str " \"a\" \\")]] m ∧
        eager.dispatch parcel shelf = m.perform eager ∧ (m.perform eager).1 = .finished := by
  have writable : Writable eager.quotes :=
    ConfiguredQuotes.writable_of_isValid (by decide) (by decide)
  have receptive : Receptive eager shelf [book] noted := {
    rooted := ⟨fun _ first => List.mem_singleton.2 (Option.some.inj first).symm, by
      simp [book, Command.childList]⟩
    childless := rfl
    runs := rfl
    plain := by simp [noted, note, IsPlain]
    enabled := by decide
    dispatcherChecks := rfl
    moduleCheck := rfl
    commandChecks := List.forall_mem_cons.2 ⟨rfl, List.forall_mem_singleton.2 rfl⟩
    cooldowns := rfl
    concurrency := rfl }
  have delivers : Delivers eager [book] noted "!!" ["b", "note"] texts parcel := {
    human := rfl
    content := rfl
    longest := ⟨by decide, by simp [parcel, String.toList_append], by decide⟩
    named := by simp [book, noted, note, Command.names]
    enough := rfl }
  obtain ⟨target, resolved, -, -, -, -, delivered⟩ :=
    written_arguments_reach_body eager shelf parcel rfl writable rfl receptive delivers []
  cases resolved.symm.trans (rfl : _ = Except.ok addressee)
  have cleared : Cleared eager (begunBy eager shelf parcel "!!" addressee)
      [("title", .str ""), ("text", .str " \"a\" \\")] :=
    ⟨rfl, rfl, bind_written rfl writable (marked_quotes eager) receptive.plain delivers.enough
      rfl _ _⟩
  obtain ⟨marks, m, goes, pass, finished⟩ := exists_swift_goes cleared ⟨rfl, rfl, rfl, rfl⟩
    (passChecks_of_receptive receptive rfl rfl)
  have whole : trace [⟨met shelf, marks, m⟩] = marks := List.flatMap_singleton ..
  have prompt : Prompt (.done : Script Unit) := fun _ s => ⟨.done, s, rfl⟩
  have comes := (delivered _ _ m (.begun goes) rfl).1
  refine ⟨writable, rfl, receptive, delivers, List.forall_mem_cons.2
    ⟨prompt, List.forall_mem_singleton.2 prompt⟩, _, m, ?_, .begun goes, comes, finished⟩
  rwa [whole]

/-- Writes texts in capital letters. -/
def capitals : Converter := fun _ text =>
  if text.isEmpty then .error (.other ⟨"empty", []⟩) else .ok (.str (Text.upper text))

def loud : Dispatcher Unit where
  converters := Converters.builtin.register .str capitals
  directory := .ofLists [] [] [] []

def say : CommandParts Unit where
  name := "say"
  params := [{ name := "text", shape := .of .str }]
  body := some fun _ _ => .done

def hall : Service Unit where
  app := ()
  registry := grown false [.register (.declare say false [])]

def spoken : Command Unit := { qualified := "say", parts := say }

def greeting : Event where
  author := { id := 1, name := "" }
  origin := ⟨.direct, none, { id := 9, name := "" }⟩
  content := "!" ++ writtenLine loud.quotes ["say"] ["hi"]
  responder := .discard

def heard : Resolved Unit := ⟨spoken, [], "say", [], "hi"⟩

/-- With a converter of its own for texts a dispatcher delivers what that makes of them. -/
theorem replaced_converter_changes_texts :
    Writable loud.quotes ∧ Receptive loud hall [] spoken ∧
      Delivers loud [] spoken "!" ["say"] ["hi"] greeting ∧
      hall.registry.resolve (writtenLine loud.quotes ["say"] ["hi"]) = .ok heard ∧
      ∃ legs calls m, Calling loud (begunBy loud hall greeting "!" heard) legs calls m ∧
        legs.map Leg.before = [met hall] ∧ HooksLetPass (trace legs) ∧
        loud.dispatch greeting hall = m.perform loud ∧ (m.perform loud).1 = .finished ∧
        calls = [[("text", .str "HI")]] ∧ calls ≠ [[("text", .str "hi")]] := by
  have writable : Writable loud.quotes :=
    ConfiguredQuotes.writable_of_isValid (by decide) (by decide)
  have receptive : Receptive loud hall [] spoken := {
    rooted := ⟨fun _ first => List.mem_singleton.2 (Option.some.inj first).symm, by simp⟩
    childless := rfl
    runs := rfl
    plain := by simp [spoken, say, IsPlain]
    enabled := by decide
    dispatcherChecks := rfl
    moduleCheck := rfl
    commandChecks := List.forall_mem_singleton.2 rfl
    cooldowns := rfl
    concurrency := rfl }
  have delivers : Delivers loud [] spoken "!" ["say"] ["hi"] greeting := {
    human := rfl
    content := rfl
    longest := ⟨by decide, by simp [greeting, String.toList_append], by decide⟩
    named := by simp [spoken, say, Command.names]
    enough := rfl }
  have orderly : Orderly false hall.registry := grown_orderly _ _
  obtain ⟨target, begins, resolved, -⟩ := dispatch_of_delivers orderly receptive delivers
  cases resolved.symm.trans (rfl : _ = Except.ok heard)
  have served : serveAll loud.converters (begunBy loud hall greeting "!" heard).ctx say.params
      ⟨["hi"], none⟩ = .ok ([("text", .str "HI")], ⟨[], none⟩) := rfl
  have cleared : Cleared loud (begunBy loud hall greeting "!" heard) [("text", .str "HI")] :=
    ⟨rfl, rfl, bind_of_serveAll writable (marked_quotes loud) (by decide) served rfl _ _⟩
  obtain ⟨marks, m, goes, pass, finished⟩ := exists_swift_goes cleared ⟨rfl, rfl, rfl, rfl⟩
    (passChecks_of_receptive receptive rfl rfl)
  have whole : trace [⟨met hall, marks, m⟩] = marks := List.flatMap_singleton ..
  refine ⟨writable, receptive, delivers, resolved, _, _, m, .begun goes, rfl, ?_, ?_, finished, rfl,
    by simp⟩
  · rwa [whole]
  · rw [begins]
    exact perform_of_goes (goes_of_goesCalling goes)

end ChatCommands.DeliveredArguments
