import ChatCommands.Proofs.ListBinder
import ChatCommands.Proofs.NestedGroups

/-! Lists from greedy parameters. A parameter that takes as many tokens as convert is bound to the
list of their values, one for each, or to what stands in for none (`Gathers`). The exception is a
greedy parameter that also takes the rest of the line: the whole rest is converted as one token, and
no list is made of it. -/
namespace ChatCommands.GreedyLists
open Line LazyTokens Binding ListBinder NestedGroups QualifiedNames

variable {σ : Type} {cs : Converters} {ctx : Context} {p : Parameter} {inner : Shape}
  {c next : Cursor} {v : Value} {values : List Value} {param : String}

/-- What a greedy parameter is bound to for the tokens it takes. -/
inductive Gathers (convert : String → Except CommandError Value) (default : Option Value) :
    List String → Value → Prop where
  | default {v : Value} (set : default = some v) : Gathers convert default [] v
  | list {tokens : List String} {values : List Value} (full : tokens ≠ [])
      (each : List.Forall₂ (fun token v => convert token = .ok v) tokens values) :
      Gathers convert default tokens (.list values)

/-- The tokens that a cursor passes from one place to a later one. -/
def Passes (c next : Cursor) (tokens : List String) : Prop :=
  ahead c.quotes c.left =
    ⟨tokens ++ (ahead next.quotes next.left).found, (ahead next.quotes next.left).failure⟩

theorem passes_nothing (quotes : next.quotes = c.quotes)
    (same : Text.trimStart next.left = Text.trimStart c.left) : Passes c next [] := by
  unfold Passes
  rw [quotes, ahead_congr c.quotes same, List.nil_append]

theorem passes_token {chars : List Char} (token : c.token = (.ok (some chars), next)) :
    next.quotes = c.quotes ∧ ∀ {last tokens}, Passes next last tokens →
      Passes c last (String.ofList chars :: tokens) := by
  cases read : nextToken c.quotes c.left with
  | none =>
    rw [Cursor.token_of_none read] at token
    cases token
  | some r =>
    obtain ⟨result, rest⟩ := r
    obtain ⟨after, same, quotes, left⟩ := Cursor.token_of_some read
    rw [same] at token
    cases result with
    | error e => cases token
    | ok found =>
      cases token
      refine ⟨quotes, fun {last tokens} passes => ?_⟩
      unfold Passes at passes ⊢
      rw [quotes, left] at passes
      rw [ahead_of_ok read, passes, List.cons_append]

theorem passes_end (token : c.token = (.ok none, next)) : Passes c next [] := by
  cases read : nextToken c.quotes c.left with
  | none =>
    rw [Cursor.token_of_none read] at token
    cases token
    exact passes_nothing rfl (by rw [Cursor.left_mark, trimStart_trimStart])
  | some r =>
    obtain ⟨after, same, -, -⟩ := Cursor.token_of_some read
    rw [same] at token
    obtain ⟨result, rest⟩ := r
    cases result <;> cases token

/-! ## One parameter -/

theorem gathered_of_takeGreedy (taken : takeGreedy cs ctx param inner c = .ok (values, next)) :
    ∃ tokens, Passes c next tokens ∧
      List.Forall₂ (fun token v => cs.convert ctx param inner token = .ok v) tokens values := by
  fun_induction takeGreedy cs ctx param inner c generalizing values next with
  | case1 | case3 | case5 => contradiction
  | case2 _ _ token =>
    cases taken
    exact ⟨[], passes_end token, .nil⟩
  | case4 _ _ _ token =>
    cases taken
    exact ⟨[], passes_nothing (passes_token token).1 rfl, .nil⟩
  | case6 _ chars _ token _ converted _ _ _ later ih =>
    cases taken
    obtain ⟨tokens, passes, each⟩ := ih later
    exact ⟨String.ofList chars :: tokens, (passes_token token).2 passes, .cons converted each⟩

theorem default_of_missing (shape : p.shape = .greedy inner) (bound : missing ctx p = .ok v) :
    p.default.resolve ctx = some v := by
  unfold missing Parameter.fallback at bound
  cases set : p.default.resolve ctx with
  | none => simp [set, shape, Shape.isOptional] at bound
  | some w =>
    rw [set] at bound
    cases bound
    rfl

theorem default_of_missingAt (shape : p.shape = .greedy inner)
    (bound : missingAt ctx p c = .ok (v, next)) : p.default.resolve ctx = some v ∧ next = c := by
  unfold missingAt at bound
  cases fallback : missing ctx p with
  | error e => simp [fallback, Except.map] at bound
  | ok w =>
    rw [fallback] at bound
    cases bound
    exact ⟨default_of_missing shape fallback, rfl⟩

/-- A greedy parameter that takes tokens is bound to the list of their values. -/
theorem gathers_of_bindGreedy (shape : p.shape = .greedy inner)
    (bound : bindGreedy cs ctx p inner c = .ok (v, next)) :
    ∃ tokens, Passes c next tokens ∧
      Gathers (cs.convert ctx p.name inner) (p.default.resolve ctx) tokens v := by
  unfold bindGreedy at bound
  split at bound
  · contradiction
  · rename_i after taken
    obtain ⟨set, rfl⟩ := default_of_missingAt shape bound
    obtain ⟨tokens, passes, each⟩ := gathered_of_takeGreedy taken
    cases each
    exact ⟨[], passes, .default set⟩
  · rename_i first others after taken
    cases bound
    obtain ⟨tokens, passes, each⟩ := gathered_of_takeGreedy taken
    refine ⟨tokens, passes, .list ?_ each⟩
    rintro rfl
    cases each

/-- A greedy parameter that takes the rest of the line is bound to one value for all of it. -/
theorem single_of_bindRest (shape : p.shape = .greedy inner)
    (bound : bindRest cs ctx p c = .ok (v, next)) :
    if Text.trim c.left = [] then p.default.resolve ctx = some v
    else cs.convert ctx p.name inner (String.ofList (Text.trim c.left)) = .ok v := by
  unfold bindRest Cursor.takeRest at bound
  simp only [shape, Shape.isFlags, Shape.isOptional, Bool.not_false, Bool.and_true,
    Bool.and_false, List.isEmpty_iff, Bool.false_eq_true, if_false, Converters.convert] at bound
  split_ifs at bound ⊢ with nothing
  · exact (default_of_missingAt shape bound).1
  · split at bound
    · contradiction
    · rename_i made converted
      cases bound
      exact converted

/-! ## Among other parameters -/

theorem length_of_bindParameters {params : List Parameter} {args : Args}
    (bound : bindParameters cs ctx params c = .ok (args, next)) : args.length = params.length := by
  induction params generalizing c args with
  | nil =>
    cases bound
    rfl
  | cons p rest ih =>
    unfold bindParameters at bound
    split at bound
    · contradiction
    · split at bound
      · contradiction
      · rename_i more last later
        cases bound
        rw [List.length_cons, List.length_cons, ih later]

/-- A parameter is bound from where those in front of it leave the cursor. -/
theorem place_of_bindParameters {before after : List Parameter} {args : Args}
    (bound : bindParameters cs ctx (before ++ p :: after) c = .ok (args, next)) :
    ∃ v own behind, args[before.length]? = some (p.name, v) ∧
      bindParameters cs ctx before c = .ok (args.take before.length, own) ∧
      bindParameter cs ctx p own = .ok (v, behind) := by
  rw [bindParameters_append] at bound
  split at bound
  · contradiction
  rename_i first own leading
  have count := length_of_bindParameters leading
  unfold bindParameters at bound
  split at bound
  · cases bound
  rename_i v behind served
  split at bound
  · cases bound
  rename_i more last later
  cases bound
  exact ⟨v, own, behind, by simp [← count], by simpa [← count] using leading, served⟩

theorem last_of_takesRest {command : String} {seen : List String} {before after : List Parameter}
    (bindable : Declaration.paramsProblem? command seen (before ++ p :: after) = none)
    (takes : p.takesRest = true) : after = [] := by
  induction before generalizing seen with
  | nil =>
    obtain ⟨-, fits, -⟩ := Declaration.paramsProblem?_cons_eq_none_iff.1 bindable
    exact List.isEmpty_iff.1 ((shapeProblem?_eq_none_iff.1 fits).1 takes)
  | cons first before ih =>
    exact ih (Declaration.paramsProblem?_cons_eq_none_iff.1 bindable).2.2

/-- Binding any command of a tree that was built gives a greedy parameter the list of the values of
the tokens it takes, or what stands in for none. One that takes the rest of the line, which is the
last, gets the one value of the rest, or what stands in for it where nothing is left. -/
theorem greedy_lists_unless_rest {d : Declaration σ} {root command : Command σ}
    (built : d.build = .ok root) (walked : command ∈ root.walk) (cs : Converters) (q : QuoteSet)
    (ctx : Context) {args : Args}
    (bound : Binding.bind cs q ctx command.qualified command.parts.params
      command.parts.ignoreExtra = .ok args) :
    ∀ before p after inner, command.parts.params = before ++ p :: after →
      p.shape = .greedy inner → ∃ v c next, args[before.length]? = some (p.name, v) ∧
        bindParameters cs ctx before (.start q ctx.remaining) =
          .ok (args.take before.length, c) ∧
        bindParameter cs ctx p c = .ok (v, next) ∧
        (p.takesRest = false → ∃ tokens, Passes c next tokens ∧
          Gathers (cs.convert ctx p.name inner) (p.default.resolve ctx) tokens v) ∧
        (p.takesRest = true → after = [] ∧
          if Text.trim c.left = [] then p.default.resolve ctx = some v
          else cs.convert ctx p.name inner (String.ofList (Text.trim c.left)) = .ok v) := by
  intro before p after inner params shape
  obtain ⟨_, own, made⟩ := built_of_mem_walk d built command walked
  have bindable := Declaration.paramsProblem?_of_buildUnder made
  rw [params] at bindable bound
  unfold Binding.bind at bound
  split at bound
  · contradiction
  rename_i all last served
  split_ifs at bound
  cases bound
  obtain ⟨v, c, next, given, leading, here⟩ := place_of_bindParameters served
  refine ⟨v, c, next, given, leading, here, fun tokenwise => ?_, fun takes => ?_⟩
  · simp only [bindParameter, tokenwise, shape, Shape.isFlags, Bool.or_false, Bool.false_eq_true,
      if_false] at here
    exact gathers_of_bindGreedy shape here
  · simp only [bindParameter, takes, Bool.true_or, if_true] at here
    exact ⟨last_of_takesRest bindable takes, single_of_bindRest shape here⟩

/-- Numbers to add up, as long as there are any. -/
def numbers : Parameter where
  name := "numbers"
  shape := .greedy (.of .int)

/-- The same, but as the rest of the line. -/
def allNumbers : Parameter := { numbers with takesRest := true }

def unit : Parameter where
  name := "unit"
  shape := .of .str
  takesRest := true

/-- A line of the command. -/
def lineOf (remaining : String) : Context where
  author := { id := 1, name := "" }
  origin := ⟨.direct, none, { id := 9, name := "" }⟩
  content := ""
  responder := .discard
  directory := .ofLists [] [] [] []
  remaining := remaining

def summing (params : List Parameter) : CommandParts Unit where
  name := "sum"
  params := params
  body := some fun _ _ => .done

/-- The start of a line with two numbers. -/
def miles : Cursor := .start .standard "4 \"-1\" sea miles"

def behindNumbers : Cursor := miles.token.2.token.2

/-- Both numbers are listed, and what is no number is given back. -/
theorem miles_listed :
    bindParameter .builtin (lineOf "4 \"-1\" sea miles") numbers miles =
      .ok (.list [.int 4, .int (-1)], behindNumbers.token.2.goTo behindNumbers.position) := by
  have first : miles.token = (.ok (some "4".toList), miles.token.2) := rfl
  have second : miles.token.2.token = (.ok (some "-1".toList), behindNumbers) := rfl
  have word : behindNumbers.token = (.ok (some "sea".toList), behindNumbers.token.2) := rfl
  change bindGreedy _ _ numbers (.of .int) miles = _
  rw [bindGreedy, takeGreedy_of_token first, takeGreedy_of_token second,
    takeGreedy_of_token word]
  rfl

/-- The numbers in front of what is no number are listed. -/
theorem leading_numbers_listed :
    let sum : Command Unit := { qualified := "sum", parts := summing [numbers, unit] }
    let args : Args := [("numbers", .list [.int 4, .int (-1)]), ("unit", .str "sea miles")]
    (Declaration.declare (summing [numbers, unit]) false []).build = .ok sum ∧
      sum ∈ sum.walk ∧
      Binding.bind .builtin .standard (lineOf "4 \"-1\" sea miles") sum.qualified sum.parts.params
        sum.parts.ignoreExtra = .ok args ∧
      ∃ v c next tokens, args[0]? = some ("numbers", v) ∧ Passes c next tokens ∧
        Gathers (Converters.builtin.convert (lineOf "4 \"-1\" sea miles") "numbers" (.of .int)) none
          tokens v := by
  intro sum args
  have built : (Declaration.declare (summing [numbers, unit]) false []).build = .ok sum := rfl
  have walked : sum ∈ sum.walk := mem_walk_iff.2 (.inl rfl)
  have bound : Binding.bind .builtin .standard (lineOf "4 \"-1\" sea miles") sum.qualified
      sum.parts.params sum.parts.ignoreExtra = .ok args := by
    have served : bindParameters .builtin (lineOf "4 \"-1\" sea miles") sum.parts.params
        (.start .standard (lineOf "4 \"-1\" sea miles").remaining) =
        .ok (args, (behindNumbers.token.2.goTo behindNumbers.position).takeRest.2) := by
      change bindParameters _ _ [numbers, unit] miles = _
      rw [bindParameters, miles_listed]
      rfl
    rw [Binding.bind, served]
    rfl
  obtain ⟨v, c, next, given, -, -, listed, -⟩ :=
    greedy_lists_unless_rest built walked .builtin .standard _ bound [] numbers [unit] _ rfl rfl
  obtain ⟨tokens, passes, gathers⟩ := listed rfl
  exact ⟨built, walked, bound, v, c, next, tokens, given, passes, gathers⟩

/-- A greedy parameter that takes the rest of the line is bound to a number and not to the list of
it. -/
theorem last_number_not_listed :
    let sum : Command Unit := { qualified := "sum", parts := summing [allNumbers] }
    (Declaration.declare (summing [allNumbers]) false []).build = .ok sum ∧
      Binding.bind .builtin .standard (lineOf "5") sum.qualified sum.parts.params
        sum.parts.ignoreExtra = .ok [("numbers", .int 5)] ∧
      ¬ ∃ tokens, Gathers (Converters.builtin.convert (lineOf "5") "numbers" (.of .int))
        (allNumbers.default.resolve (lineOf "5")) tokens (.int 5) := by
  intro sum
  refine ⟨rfl, rfl, ?_⟩
  rintro ⟨tokens, gathers⟩
  cases gathers with
  | default set => cases set

end ChatCommands.GreedyLists
