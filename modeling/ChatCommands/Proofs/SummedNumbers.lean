import ChatCommands.Proofs.ConsoleRuns
import ChatCommands.Proofs.ListBinder
import ChatCommands.Proofs.QuoteRoundTrip
import Mathlib.Algebra.Ring.Int.Defs

/-! Numbers added up at the console. Every integer of 64 bits is read back from its decimal form, so
what is added up are the numbers that were given, and the reply is their sum; but they are added from
the left, and the body panics where the sum so far leaves the 64 bits, also if later numbers would
bring it back. Then there is no reply (`sum_replied_unless_partial_overflow`). The panic is that of
builds with overflow checks, which are the ones modelled. Without the checks a sum wraps around and
there is a reply, the exact sum where that has 64 bits and another number elsewhere. -/
namespace ChatCommands.SummedNumbers
open Console ConsoleCommands ConsoleEvents ConsoleRuns CollectedReplies Dispatcher Line
open LegalCourses LongestDescent NamedSiblings QuoteRoundTrip RegistryGrowth

variable {settings : Settings} {q : QuoteSet} {tags : Tags} {held : Option Admission}
  {said : List String} {s : Service Tags} {numbers : List Int} {line : String}

/-- The sums from the left do not leave the 64 bits. -/
def Fits (numbers : List Int) : Prop :=
  ∀ front, front <+: numbers → Decimal.inInt64 front.sum = true

instance (numbers : List Int) : Decidable (Fits numbers) :=
  decidable_of_iff (∀ front ∈ numbers.inits, Decimal.inInt64 front.sum = true) (by
    simp only [Fits, List.mem_inits])

/-- An agent resolves a line to the adding command, and finds decimal forms behind it. -/
def Adds (a : Agent Tags) (line : String) (numbers : List Int) : Prop :=
  ∃ lead text target,
    splitLead? a.dispatcher.leads a.dispatcher.settings.dispatch.stripAfterLead line =
      some (lead, text) ∧
    a.service.registry.resolve text = .ok target ∧ target.command.qualified = "add" ∧
    tokenize a.dispatcher.quotes target.remaining = .ok (numbers.map toString)

/-- Numbers behind the command and its mark, each behind one space. -/
def typed (numbers : List Int) : String :=
  "!add" ++ String.join (numbers.map fun i => " " ++ toString i)

/-! ## Decimal forms -/

theorem toList_toString (i : Int) :
    (toString i).toList =
      if 0 ≤ i then Nat.toDigits 10 i.toNat else '-' :: Nat.toDigits 10 (-i).toNat := by
  show i.repr.toList = _
  rw [Int.repr_eq_if]
  split
  · exact Nat.toList_repr
  · rw [String.toList_append, Nat.toList_repr]
    rfl

theorem readDigits?_toDigits (n : Nat) : Decimal.readDigits? (Nat.toDigits 10 n) = some n := by
  have value : Decimal.digitsValue (Nat.toDigits 10 n) = n :=
    Nat.ofDigitChars_eq_foldl.symm.trans Nat.ofDigitChars_ten_toDigits
  rw [Decimal.readDigits?, if_pos, value]
  simpa using fun c => Nat.isDigit_of_mem_toDigits (by decide) (by decide)

/-- Digits have no sign in front. -/
theorem takeSign_toDigits (n : Nat) :
    Decimal.takeSign (Nat.toDigits 10 n) = (false, Nat.toDigits 10 n) := by
  unfold Decimal.takeSign
  split
  · rename_i rest shape
    have minus := Nat.isDigit_of_mem_toDigits (b := 10) (n := n) (c := '-') (by decide) (by decide)
    exact absurd (minus (shape ▸ List.mem_cons_self)) (by decide)
  · rename_i rest shape
    have plus := Nat.isDigit_of_mem_toDigits (b := 10) (n := n) (c := '+') (by decide) (by decide)
    exact absurd (plus (shape ▸ List.mem_cons_self)) (by decide)
  · rfl

/-- Every integer of 64 bits is read back from its decimal form. -/
theorem readInt64?_toString {i : Int} (inside : Decimal.inInt64 i = true) :
    Decimal.readInt64? (toString i).toList = some i := by
  rw [toList_toString]
  by_cases natural : 0 ≤ i
  · have same : ((i.toNat : Nat) : Int) = i := Int.toNat_of_nonneg natural
    simp only [Decimal.readInt64?, if_pos natural, takeSign_toDigits, readDigits?_toDigits, same,
      inside, if_true, Bool.false_eq_true, if_false]
  · have same : -(((-i).toNat : Nat) : Int) = i := by omega
    simp only [Decimal.readInt64?, if_neg natural, Decimal.takeSign, readDigits?_toDigits, same,
      inside, if_true]

/-! ## Sums from the left -/

/-- Adding numbers up goes on from a sum to all of them exactly if no sum on the way leaves the 64
bits. -/
theorem foldlM_eq_some_iff (numbers : List Int) {total found : Int}
    (inside : Decimal.inInt64 total = true) :
    numbers.foldlM (fun total i =>
        if Decimal.inInt64 (total + i) then some (total + i) else none) total = some found ↔
      found = total + numbers.sum ∧
        ∀ front, front <+: numbers → Decimal.inInt64 (total + front.sum) = true := by
  induction numbers generalizing total with
  | nil =>
    rw [List.foldlM_nil, List.sum_nil, Int.add_zero]
    constructor
    · rintro ⟨rfl⟩
      refine ⟨rfl, fun front before => ?_⟩
      rw [List.prefix_nil.1 before, List.sum_nil, Int.add_zero]
      exact inside
    · rintro ⟨rfl, -⟩
      rfl
  | cons i numbers ih =>
    -- The sums from the left behind the first number are those of the others, from the next total.
    have onward : (∀ front, front <+: i :: numbers → Decimal.inInt64 (total + front.sum) = true) ↔
        ∀ front, front <+: numbers → Decimal.inInt64 (total + i + front.sum) = true := by
      constructor
      · intro all front before
        rw [Int.add_assoc]
        exact all (i :: front) (List.cons_prefix_cons.2 ⟨rfl, before⟩)
      · intro all front before
        rcases List.prefix_cons_iff.1 before with rfl | ⟨front, rfl, later⟩
        · rw [List.sum_nil, Int.add_zero]
          exact inside
        · rw [List.sum_cons, ← Int.add_assoc]
          exact all front later
    rw [List.foldlM_cons, onward, List.sum_cons, ← Int.add_assoc]
    by_cases next : Decimal.inInt64 (total + i) = true
    · rw [if_pos next]
      exact ih next
    · rw [if_neg next]
      refine iff_of_false nofun ?_
      rintro ⟨-, all⟩
      exact next (by simpa using all [] List.nil_prefix)

theorem sum?_eq_some_iff (numbers : List Int) (found : Int) :
    sum? (numbers.map .int) = some found ↔ found = numbers.sum ∧ Fits numbers := by
  have integers : (numbers.map Value.int).filterMap Value.int? = numbers := by
    simp [List.filterMap_map, Function.comp_def, Value.int?]
  have zero : Decimal.inInt64 0 = true := by decide
  rw [sum?, integers, foldlM_eq_some_iff numbers zero]
  simp only [Int.zero_add, Fits]

/-! ## Arguments -/

/-- The parameter of the adding command. -/
def summands : Parameter := { name := "numbers", shape := .greedy (.of .int) }

theorem convert_toString (settings : Settings) (ctx : Context) {i : Int}
    (inside : Decimal.inInt64 i = true) :
    (dispatcherOf settings).converters.convert ctx "numbers" (.of .int) (toString i) =
      .ok (.int i) := by
  have known : (dispatcherOf settings).converters.get? .int = some Convert.int := rfl
  simp only [Converters.convert, Converters.convertKind, known, Convert.int,
    readInt64?_toString inside]

/-- Where all tokens convert, the run is all of them. -/
theorem longestRun_of_all {convert : String → Except CommandError Value} {value : Int → Value}
    (made : ∀ i ∈ numbers, convert (toString i) = .ok (value i)) :
    ListBinder.longestRun convert ⟨numbers.map toString, none⟩ =
      .ok (numbers.map value, ⟨[], none⟩) := by
  have each : ∀ token ∈ numbers.map toString, ListBinder.converts convert token = true := by
    intro token member
    obtain ⟨i, given, rfl⟩ := List.mem_map.1 member
    rw [ListBinder.converts, made i given]
    rfl
  have values : (numbers.map toString).filterMap (fun token => (convert token).toOption) =
      numbers.map value := by
    rw [List.filterMap_map, ← List.filterMap_eq_map]
    refine List.filterMap_congr fun i given => ?_
    rw [Function.comp_apply, made i given]
    rfl
  simp only [ListBinder.longestRun, List.takeWhile_eq_self_iff.2 each,
    List.dropWhile_eq_nil_iff.2 each, values, ListBinder.hardStop?, Option.map_none]

/-- The arguments are the numbers. -/
theorem bind_add (settings : Settings) (ctx : Context) (some : numbers ≠ [])
    (inside : ∀ i ∈ numbers, Decimal.inInt64 i = true)
    (all : tokenize q ctx.remaining = .ok (numbers.map toString)) :
    Binding.bind (dispatcherOf settings).converters q ctx "add" [summands] false =
      .ok [("numbers", .list (numbers.map .int))] := by
  have lists : Binding.bind (dispatcherOf settings).converters q ctx "add" [summands] false =
      ListBinder.bindTokens (dispatcherOf settings).converters ctx "add" [summands]
        (LazyTokens.ahead q ctx.remaining.toList) :=
    ListBinder.bind_eq_bindTokens _ _ q "add" [summands] (by decide)
  have converted : ListBinder.longestRun
      ((dispatcherOf settings).converters.convert ctx summands.name (.of .int))
      ⟨numbers.map toString, none⟩ = .ok (numbers.map .int, ⟨[], none⟩) :=
    longestRun_of_all fun i given => convert_toString settings ctx (inside i given)
  obtain ⟨i, others, rfl⟩ := List.exists_cons_of_ne_nil some
  have served : ListBinder.serve (dispatcherOf settings).converters ctx summands
      ⟨(i :: others).map toString, none⟩ = .ok (.list ((i :: others).map .int), ⟨[], none⟩) := by
    show ListBinder.serveGreedy (dispatcherOf settings).converters ctx summands (.of .int) _ = _
    rw [ListBinder.serveGreedy, converted]
    rfl
  rw [lists, (LazyTokens.tokenize_eq_ok_iff q _ _).1 all, ListBinder.bindTokens,
    ListBinder.serveAll, served]
  rfl

/-! ## Lines -/

/-- The body replies with the sum, or panics. -/
theorem play_answerSum (usage : Usage) (numbers : List Int) (tags : Tags) :
    (Fits numbers →
      (play usage (answerSum (numbers.map .int)) tags).2 = (tags, [toString numbers.sum])) ∧
    (¬ Fits numbers → (play usage (answerSum (numbers.map .int)) tags).2 = (tags, [])) := by
  constructor
  · intro fits
    rw [answerSum, (sum?_eq_some_iff numbers _).2 ⟨rfl, fits⟩]
    rfl
  · intro leaves
    have nothing : sum? (numbers.map .int) = none := by
      refine Option.eq_none_iff_forall_ne_some.2 fun found summed => ?_
      exact leaves ((sum?_eq_some_iff numbers found).1 summed).2
    rw [answerSum, nothing]
    rfl

/-- A line that adds numbers up comes to what the body comes to with them. -/
theorem comesTo_of_adds {lead text : String} {target : Resolved Tags}
    (stands : Stands settings.dispatch.caseInsensitive held tags said s)
    (addressed : splitLead? (dispatcherOf settings).leads
      (dispatcherOf settings).settings.dispatch.stripAfterLead line = some (lead, text))
    (resolved : s.registry.resolve text = .ok target) (adding : target.command.qualified = "add")
    (all : tokenize (dispatcherOf settings).quotes target.remaining = .ok (numbers.map toString))
    (some : numbers ≠ []) (inside : ∀ i ∈ numbers, Decimal.inInt64 i = true) :
    ∃ usage, comesTo (dispatcherOf settings) s line =
      (play usage (answerSum (numbers.map .int)) s.app).2 := by
  have own : ([], single add 2) ∈ runnable := by simp [runnable]
  have same := eq_of_qualified (mem_runnable_of_resolve stands.orderly stands.roots resolved) own
    adding
  obtain ⟨command, parents, word, words, rest⟩ := target
  obtain ⟨rfl, rfl⟩ := Prod.mk.inj same
  rw [comesTo_of_resolved rfl stands addressed resolved rfl rfl]
  have bound := bind_add settings (begunBy (dispatcherOf settings) s (event line) lead
    ⟨single add 2, [], word, words, rest⟩).ctx some inside all
  exact ⟨_, congrArg (carriedOut _ s) bound⟩

/-! ## Typed numbers -/

/-- A digit stands bare in a token. -/
theorem bare_of_isDigit {ch : Char} (digit : ch.isDigit = true) : isSpecial .standard ch = false := by
  have bare : ∀ n < 10, isSpecial .standard (Nat.digitChar n) = false := by decide
  obtain ⟨low, high⟩ : 48 ≤ ch.toNat ∧ ch.toNat ≤ 57 := Char.isDigit_iff_toNat.1 digit
  have value : ch.toNat - 48 < 10 := by omega
  have same : Nat.digitChar (ch.toNat - 48) = ch := by
    apply Char.toNat_inj.1
    rw [Nat.toNat_digitChar_of_lt_ten value]
    omega
  exact same ▸ bare _ value

/-- A decimal form needs no marks around it. -/
theorem quoteChars_toString (i : Int) :
    quoteChars .standard (toString i).toList = (toString i).toList := by
  have digits (n : Nat) : ∀ ch ∈ Nat.toDigits 10 n, isSpecial .standard ch = false :=
    fun ch member => bare_of_isDigit (Nat.isDigit_of_mem_toDigits (by decide) (by decide) member)
  have minus : isSpecial .standard '-' = false := by decide
  refine if_pos ?_
  rw [toList_toString]
  split
  · simpa [Nat.toDigits_ne_nil] using digits i.toNat
  · simpa [minus] using digits (-i).toNat

theorem writable_standard : Writable .standard := by
  refine ⟨by decide, fun o c first => ?_, fun o c first => ?_⟩ <;> cases first <;> decide

/-- The numbers behind the command are written as tokens are. -/
theorem flatMap_eq_spaced (numbers : List Int) :
    (numbers.flatMap fun i => ' ' :: (toString i).toList) =
      spaced .standard (numbers.map fun i => (toString i).toList) := by
  simp only [spaced, List.flatMap_map, quoteChars_toString]

theorem toList_typed (numbers : List Int) :
    (typed numbers).toList =
      '!' :: ("add".toList ++ spaced .standard (numbers.map fun i => (toString i).toList)) := by
  rw [← flatMap_eq_spaced]
  simp [typed, String.toList_join, List.flatMap_map]

/-- With the standard settings, numbers that are typed behind the command are added up. -/
theorem adds_typed {a : Agent Tags} (attends : Attends {} tags a) (numbers : List Int) :
    Adds a (typed numbers) numbers := by
  let tokens := numbers.map fun i => (toString i).toList
  have stands : Stands false none tags [] a.service := attends.stands
  have own : ([], single add 2) ∈ runnable := by simp [runnable]
  have isWord : IsWord "add" := by decide
  have alone : (single add 2).names = ["add"] := rfl
  have named : List.Forall₂ (Named false) ([] ++ ["add"]) ([] ++ [single add 2]) :=
    .cons ((named_iff_of_single alone).2 rfl) .nil
  have names : Names (typed numbers) ([] ++ ["add"]) (Text.trimStart (spaced .standard tokens)) := by
    refine ⟨_, toList_typed numbers, ?_, ?_⟩
    · rintro _ ⟨rfl⟩
      decide
    · exact .word (List.nil_append _).symm (List.forall_mem_nil _) isWord
        (separated_spaced .standard tokens) (begins_nil_iff.2 rfl)
  obtain ⟨text, addressed, resolved⟩ := found_of_names stands own named names
  have marks : QuoteSet.standard.pairs ≠ [] := by decide
  have read : tokenize .standard (String.ofList (Text.trimStart (spaced .standard tokens))) =
      .ok (numbers.map toString) := by
    rw [LazyTokens.tokenize_eq_ok_iff, String.toList_ofList,
      LazyTokens.ahead_congr _ (LazyTokens.trimStart_trimStart _), LazyTokens.ahead,
      tokens_spaced writable_standard tokens fun none => absurd none marks]
    simp [tokens, Function.comp_def]
  rw [Adds, attends.rest.dispatcher]
  exact ⟨"!", text, _, addressed, resolved, rfl, read⟩

/-! ## Runs -/

/-- While the console waits, the reply to a line that adds numbers up is what the body replies. -/
theorem respond_of_adds {a : Agent Tags} (attends : Attends settings tags a)
    (adds : Adds a line numbers) (some : numbers ≠ [])
    (inside : ∀ i ∈ numbers, Decimal.inInt64 i = true) :
    (Fits numbers → (respond a line).1 = [toString numbers.sum]) ∧
      (¬ Fits numbers → (respond a line).1 = []) ∧
      (respond a line).2.service.app = a.service.app := by
  obtain ⟨lead, text, target, addressed, resolved, adding, all⟩ := adds
  rw [attends.rest.dispatcher] at addressed all
  obtain ⟨usage, came⟩ :=
    comesTo_of_adds attends.stands addressed resolved adding all some inside
  obtain ⟨answered, goesOn⟩ := attends_respond attends line
  have left := goesOn.stands.tags
  rw [came] at answered left
  obtain ⟨whole, broken⟩ := play_answerSum usage numbers a.service.app
  refine ⟨fun fits => ?_, fun leaves => ?_, ?_⟩
  · rw [answered, whole fits]
  · rw [answered, broken leaves]
  · by_cases fits : Fits numbers
    · rw [left, whole fits]
    · rw [left, broken fits]

/-- Whatever lines there were, and with any settings that do not contradict themselves: if decimal
forms of integers of 64 bits are given to the adding command, the reply is their exact sum where no
sum from the left leaves the 64 bits, and there is no reply where one does. No tag is changed. With
the standard settings any numbers can be given by typing them. -/
theorem sum_replied_unless_partial_overflow (settings : Settings) (valid : settings.problems = [])
    (inputs : List (Decimal.Duration × String)) (span : Decimal.Duration) (numbers : List Int)
    (some : numbers ≠ []) (inside : ∀ i ∈ numbers, Decimal.inInt64 i = true) :
    ∃ first, agent settings = .ok first ∧
      let before := (after first inputs).advance span
      (∀ line, Adds before line numbers →
        (Fits numbers → (respond before line).1 = [toString numbers.sum]) ∧
        (¬ Fits numbers → (respond before line).1 = []) ∧
        (respond before line).2.service.app = before.service.app) ∧
      (settings = {} → Adds before (typed numbers) numbers) := by
  obtain ⟨first, started, fresh⟩ := attends_start valid
  obtain ⟨tags, reached⟩ := attends_after fresh inputs
  have waits := attends_advance reached span
  refine ⟨first, started, fun line adds => respond_of_adds waits adds some inside, ?_⟩
  rintro rfl
  exact adds_typed waits numbers

/-- A sum without an answer does no harm to the same sum in another order, a second later. -/
theorem greatest_integer_added_last :
    ({} : Settings).problems = [] ∧ [1, -1, 9223372036854775807] ≠ ([] : List Int) ∧
      (∀ i ∈ [1, -1, 9223372036854775807], Decimal.inInt64 i = true) ∧
      ∃ first, agent {} = .ok first ∧
        (respond ((after first [(0, "!add 9223372036854775807 1 -1")]).advance
          Decimal.Duration.second) "!add 1 -1 9223372036854775807").1 =
            ["9223372036854775807"] := by
  have some : [1, -1, 9223372036854775807] ≠ ([] : List Int) := by decide
  have inside : ∀ i ∈ [1, -1, 9223372036854775807], Decimal.inInt64 i = true := by decide
  obtain ⟨first, started, adding, standard⟩ := sum_replied_unless_partial_overflow {} rfl
    [(0, "!add 9223372036854775807 1 -1")] Decimal.Duration.second
    [1, -1, 9223372036854775807] some inside
  exact ⟨rfl, some, inside, first, started, (adding _ (standard rfl)).1 (by decide)⟩

/-- The greatest integer, one more and one less: the sum is an integer of 64 bits, and yet there is
no answer. -/
theorem greatest_integer_added_first :
    (∀ i ∈ [9223372036854775807, 1, -1], Decimal.inInt64 i = true) ∧
      [9223372036854775807, 1, -1].sum = (9223372036854775807 : Int) ∧
      ∃ first, Console.start none = .ok first ∧
        (respond first "!add 9223372036854775807 1 -1").1 = [] := by
  have inside : ∀ i ∈ [9223372036854775807, 1, -1], Decimal.inInt64 i = true := by decide
  have valid : ({} : Settings).problems = [] := rfl
  obtain ⟨first, started, fresh⟩ := attends_start valid
  have adds := adds_typed fresh [9223372036854775807, 1, -1]
  exact ⟨inside, by decide, first, started,
    (respond_of_adds fresh adds (by decide) inside).2.1 (by decide)⟩

end ChatCommands.SummedNumbers
