import ChatCommands.Binding
import ChatCommands.Command.Declaration
import ChatCommands.Proofs.LazyTokens

/-! Binding agrees with a binder of lists. The binder of lists sees all tokens of
the line at once and takes parts of the list where the other moves a cursor, so
what one parameter gives back is plainly what the next one finds. -/
namespace ChatCommands.ListBinder
open Line LazyTokens Binding

section Reference
variable (cs : Converters) (ctx : Context)

def serveOne (p : Parameter) (s : Tokens) : Except CommandError (Value × Tokens) :=
  match s with
  | ⟨[], none⟩ => (missing ctx p).map (·, s)
  | ⟨[], some e⟩ => .error (.userInput (.argumentParsing e))
  | ⟨token :: rest, ending⟩ =>
    match cs.convert ctx p.name p.shape token with
    | .error e => .error e
    | .ok v =>
      if v.isNone && p.shape.isOptional then (missing ctx p).map (·, s) else .ok (v, ⟨rest, ending⟩)

/-- The failure that what comes after a greedy run is for the whole line. A token that
just does not convert is none. -/
def hardStop? (convert : String → Except CommandError Value) : Tokens → Option CommandError
  | ⟨[], ending⟩ => ending.map fun e => .userInput (.argumentParsing e)
  | ⟨token :: _, _⟩ =>
    match convert token with
    | .error e => if e.isFinal then some e else none
    | .ok _ => none

def converts (convert : String → Except CommandError Value) (token : String) : Bool :=
  (convert token).isOk

/-- The values of the longest run of tokens that convert, and what comes after it. -/
def longestRun (convert : String → Except CommandError Value) (s : Tokens) :
    Except CommandError (List Value × Tokens) :=
  let run := s.found.takeWhile (converts convert)
  let left : Tokens := ⟨s.found.dropWhile (converts convert), s.failure⟩
  match hardStop? convert left with
  | some e => .error e
  | none => .ok (run.filterMap fun token => (convert token).toOption, left)

def serveGreedy (p : Parameter) (inner : Shape) (s : Tokens) :
    Except CommandError (Value × Tokens) :=
  match longestRun (cs.convert ctx p.name inner) s with
  | .error e => .error e
  | .ok ([], left) => (missing ctx p).map (·, left)
  | .ok (v :: vs, left) => .ok (.list (v :: vs), left)

/-- Serves a parameter that takes tokens. -/
def serve (p : Parameter) (s : Tokens) : Except CommandError (Value × Tokens) :=
  match p.shape with
  | .greedy inner => serveGreedy cs ctx p inner s
  | _ => serveOne cs ctx p s

def serveAll : List Parameter → Tokens → Except CommandError (Args × Tokens)
  | [], s => .ok ([], s)
  | p :: rest, s =>
    match serve cs ctx p s with
    | .error e => .error e
    | .ok (v, left) =>
      match serveAll rest left with
      | .error e => .error e
      | .ok (args, last) => .ok ((p.name, v) :: args, last)

/-- Binds parameters that take tokens to a whole sequence of them. -/
def bindTokens (command : String) (params : List Parameter) (s : Tokens) :
    Except CommandError Args :=
  match serveAll cs ctx params s with
  | .error e => .error e
  | .ok (args, left) =>
    if left.atEnd then .ok args else .error (.userInput (.tooManyArguments command))

/-- Serves a parameter that takes a text as it stands, except for the blanks at its ends. -/
def serveText (p : Parameter) (text : List Char) : Except CommandError Value :=
  if (Text.trim text).isEmpty && !p.shape.isFlags then missing ctx p
  else
    match cs.convert ctx p.name p.shape (String.ofList (Text.trim text)) with
    | .error e => .error e
    | .ok v => if v.isNone && p.shape.isOptional then missing ctx p else .ok v

/-- Binds the parameters `leading` to tokens and `last` to the text behind those they take.
A failure in the sequence of tokens counts only where one of them runs into it. -/
def bindTokensThenText (q : QuoteSet) (leading : List Parameter) (last : Parameter)
    (text : List Char) : Except CommandError Args :=
  let all := ahead q text
  match serveAll cs ctx leading all with
  | .error e => .error e
  | .ok (args, left) =>
    (serveText cs ctx last (behind q (all.found.length - left.found.length) text)).map
      fun v => args ++ [(last.name, v)]

end Reference

/-- Parameters that take tokens are bound if each is served and nothing is left. -/
theorem bindTokens_served_iff {cs : Converters} {ctx : Context} {command : String}
    {params : List Parameter} {s : Tokens} {args : Args} :
    bindTokens cs ctx command params s = .ok args ↔
      ∃ left, serveAll cs ctx params s = .ok (args, left) ∧ left.atEnd = true := by
  unfold bindTokens
  cases serveAll cs ctx params s with
  | error e => simp
  | ok served => cases ended : served.2.atEnd <;> simp [ended, Prod.ext_iff]

/-- With a last one that takes text, they are bound if each is served and the last is with what
is behind their tokens. -/
theorem bindTokensThenText_served_iff {cs : Converters} {ctx : Context} {q : QuoteSet}
    {leading : List Parameter} {last : Parameter} {text : List Char} {args : Args} :
    bindTokensThenText cs ctx q leading last text = .ok args ↔
      ∃ own left v, serveAll cs ctx leading (ahead q text) = .ok (own, left) ∧
        serveText cs ctx last
          (behind q ((ahead q text).found.length - left.found.length) text) = .ok v ∧
        args = own ++ [(last.name, v)] := by
  unfold bindTokensThenText
  dsimp only
  cases serveAll cs ctx leading (ahead q text) with
  | error e => simp
  | ok served =>
    obtain ⟨own, left⟩ := served
    cases taken : serveText cs ctx last
      (behind q ((ahead q text).found.length - left.found.length) text) with
    | error e => simp [taken, Except.map]
    | ok v => simp [taken, Except.map, eq_comm]

/-- Two outcomes that are the same failure, or the same value in related states. -/
inductive Alike (related : σ → τ → Prop) : Except ε (α × σ) → Except ε (α × τ) → Prop where
  | failed (e : ε) : Alike related (.error e) (.error e)
  | ended (v : α) (follows : related s t) : Alike related (.ok (v, s)) (.ok (v, t))

theorem Alike.cases {left : Except ε (α × σ)} {right : Except ε (α × τ)}
    (alike : Alike related left right) :
    (∃ e, left = .error e ∧ right = .error e) ∨
      ∃ v s t, left = .ok (v, s) ∧ right = .ok (v, t) ∧ related s t := by
  cases alike with
  | failed e => exact .inl ⟨e, rfl, rfl⟩
  | ended v follows => exact .inr ⟨v, _, _, rfl, rfl, follows⟩

section Simulation
variable (cs : Converters) (ctx : Context) {q : QuoteSet} {text : List Char} {c : Cursor}

theorem missing_alike (p : Parameter) (follows : Stands q text c s) :
    Alike (Stands q text) (missingAt ctx p c) ((missing ctx p).map (·, s)) := by
  unfold missingAt
  cases missing ctx p with
  | error e => exact .failed e
  | ok v => exact .ended v follows

theorem bindOne_alike (p : Parameter) (follows : Stands q text c s) :
    Alike (Stands q text) (bindOne cs ctx p c) (serveOne cs ctx p s) := by
  unfold bindOne serveOne
  obtain ⟨found, ending⟩ := s
  cases found with
  | nil =>
    cases ending with
    | none =>
      obtain ⟨next, read, later⟩ := follows.at_end
      rw [read]
      exact missing_alike ctx p later
    | some e =>
      obtain ⟨next, read⟩ := follows.at_failure
      rw [read]
      exact .failed _
  | cons token rest =>
    obtain ⟨chars, next, read, rfl, later⟩ := follows.at_token
    rw [read]
    cases converted : cs.convert ctx p.name p.shape (String.ofList chars) with
    | error e => simpa only [converted] using .failed e
    | ok v =>
      simp only [converted]
      split
      · exact missing_alike ctx p (follows.give_back later)
      · exact .ended v later

theorem longestRun_error {convert : String → Except CommandError Value}
    (refused : convert token = .error e) :
    longestRun convert ⟨token :: rest, ending⟩ =
      if e.isFinal then .error e else .ok ([], ⟨token :: rest, ending⟩) := by
  have stops : ¬ converts convert token = true := by
    simp [converts, refused, Except.isOk, Except.toBool]
  simp only [longestRun]
  rw [List.dropWhile_cons_of_neg stops, List.takeWhile_cons_of_neg stops]
  simp only [hardStop?, refused]
  cases e.isFinal <;> rfl

theorem longestRun_ok {convert : String → Except CommandError Value}
    (converted : convert token = .ok v) :
    longestRun convert ⟨token :: rest, ending⟩ =
      (longestRun convert ⟨rest, ending⟩).map fun (vs, left) => (v :: vs, left) := by
  have goes : converts convert token = true := by
    simp [converts, converted, Except.isOk, Except.toBool]
  simp only [longestRun]
  rw [List.dropWhile_cons_of_pos goes, List.takeWhile_cons_of_pos goes]
  cases hardStop? convert ⟨rest.dropWhile (converts convert), ending⟩ with
  | some e => rfl
  | none => simp [Except.map, converted, Except.toOption]

theorem takeGreedy_alike (param : String) (inner : Shape) (follows : Stands q text c s) :
    Alike (Stands q text) (takeGreedy cs ctx param inner c)
      (longestRun (cs.convert ctx param inner) s) := by
  obtain ⟨found, ending⟩ := s
  -- The tokens that are ahead carry the induction. Where the cursor is does not matter beyond them.
  induction found generalizing c with
  | nil =>
    cases ending with
    | none =>
      obtain ⟨next, read, later⟩ := follows.at_end
      rw [takeGreedy_of_end read]
      exact .ended [] later
    | some e =>
      obtain ⟨next, read⟩ := follows.at_failure
      rw [takeGreedy_of_failed read]
      exact .failed _
  | cons token rest ih =>
    obtain ⟨chars, next, read, rfl, later⟩ := follows.at_token
    rw [takeGreedy_of_token read]
    cases converted : cs.convert ctx param inner (String.ofList chars) with
    | error e =>
      rw [longestRun_error converted]
      simp only []
      split
      · exact .failed e
      · exact .ended [] (follows.give_back later)
    | ok v =>
      rw [longestRun_ok converted]
      rcases (ih later).cases with ⟨e, taken, run⟩ | ⟨vs, last, left, taken, run, further⟩
      · simp only [taken, run, Except.map]
        exact .failed e
      · simp only [taken, run, Except.map]
        exact .ended (v :: vs) further

theorem bindGreedy_alike (p : Parameter) (inner : Shape) (follows : Stands q text c s) :
    Alike (Stands q text) (bindGreedy cs ctx p inner c) (serveGreedy cs ctx p inner s) := by
  unfold bindGreedy serveGreedy
  rcases (takeGreedy_alike cs ctx p.name inner follows).cases with
    ⟨e, taken, run⟩ | ⟨vs, next, left, taken, run, later⟩
  · rw [taken, run]
    exact .failed e
  · rw [taken, run]
    cases vs with
    | nil => exact missing_alike ctx p later
    | cons v vs => exact .ended (Value.list (v :: vs)) later

theorem bindParameter_alike (p : Parameter) (takes : p.takesText = false)
    (follows : Stands q text c s) :
    Alike (Stands q text) (bindParameter cs ctx p c) (serve cs ctx p s) := by
  unfold Parameter.takesText at takes
  unfold bindParameter serve
  rw [takes]
  cases shape : p.shape with
  | greedy inner => exact bindGreedy_alike cs ctx p inner follows
  | _ => exact bindOne_alike cs ctx p follows

theorem bindParameters_alike (params : List Parameter)
    (takes : ∀ p ∈ params, p.takesText = false) (follows : Stands q text c s) :
    Alike (Stands q text) (bindParameters cs ctx params c) (serveAll cs ctx params s) := by
  induction params generalizing c s with
  | nil => exact .ended [] follows
  | cons p rest ih =>
    obtain ⟨first, others⟩ := List.forall_mem_cons.1 takes
    unfold bindParameters serveAll
    rcases (bindParameter_alike cs ctx p first follows).cases with
      ⟨e, bound, served⟩ | ⟨v, next, left, bound, served, later⟩
    · rw [bound, served]
      exact .failed e
    · simp only [bound, served]
      rcases (ih others later).cases with
        ⟨e, bound, served⟩ | ⟨args, last, left, bound, served, further⟩
      · rw [bound, served]
        exact .failed e
      · rw [bound, served]
        exact .ended ((p.name, v) :: args) further

theorem bind_eq_bindTokens (q : QuoteSet) (command : String) (params : List Parameter)
    (takes : ∀ p ∈ params, p.takesText = false) :
    Binding.bind cs q ctx command params false =
      bindTokens cs ctx command params (ahead q ctx.remaining.toList) := by
  unfold Binding.bind bindTokens
  rcases (bindParameters_alike cs ctx params takes (start_stands q ctx.remaining)).cases with
    ⟨e, bound, served⟩ | ⟨args, last, left, bound, served, stands⟩
  · rw [bound, served]
  · simp only [bound, served, stands.atEnd_skipBlanks]
    cases left.atEnd <;> rfl

theorem bindParameters_append (leading others : List Parameter) (c : Cursor) :
    bindParameters cs ctx (leading ++ others) c =
      match bindParameters cs ctx leading c with
      | .error e => .error e
      | .ok (args, next) =>
        (bindParameters cs ctx others next).map fun (more, last) => (args ++ more, last) := by
  induction leading generalizing c with
  | nil =>
    simp only [List.nil_append, bindParameters]
    cases bindParameters cs ctx others c <;> rfl
  | cons p rest ih =>
    simp only [List.cons_append, bindParameters]
    cases bindParameter cs ctx p c with
    | error e => rfl
    | ok bound =>
      simp only [ih bound.2]
      cases bindParameters cs ctx rest bound.2 with
      | error e => rfl
      | ok leading =>
        simp only []
        cases bindParameters cs ctx others leading.2 <;> rfl

theorem bindParameter_of_takesText {p : Parameter} (takes : p.takesText = true) (c : Cursor) :
    bindParameter cs ctx p c = (serveText cs ctx p c.left).map (·, c.takeRest.2) := by
  unfold Parameter.takesText at takes
  unfold bindParameter bindRest serveText missingAt Cursor.takeRest
  rw [takes]
  by_cases nothing : ((Text.trim c.left).isEmpty && !p.shape.isFlags) = true
  · simp only [nothing, if_true]
  · simp only [nothing, if_true, Bool.false_eq_true, if_false]
    cases cs.convert ctx p.name p.shape (String.ofList (Text.trim c.left)) with
    | error e => rfl
    | ok v => cases absent : (v.isNone && p.shape.isOptional) <;> simp [absent, Except.map]

theorem serveText_congr (p : Parameter) (same : Text.trim text = Text.trim other) :
    serveText cs ctx p text = serveText cs ctx p other := by
  unfold serveText
  rw [same]

theorem atEnd_takeRest (c : Cursor) : c.takeRest.2.skipBlanks.atEnd = true := by
  have nothing : c.takeRest.2.left = [] :=
    Position.left_advanceTo (List.append_nil c.left).symm
  rw [show c.takeRest.2.skipBlanks.atEnd = (Text.trimStart c.takeRest.2.left).isEmpty from
    congrArg List.isEmpty (Cursor.left_mark c.takeRest.2), nothing]
  rfl

theorem bind_eq_bindTokensThenText (q : QuoteSet) (command : String) (leading : List Parameter)
    (last : Parameter) (takes : ∀ p ∈ leading, p.takesText = false)
    (takesText : last.takesText = true) :
    Binding.bind cs q ctx command (leading ++ [last]) false =
      bindTokensThenText cs ctx q leading last ctx.remaining.toList := by
  unfold Binding.bind bindTokensThenText
  rw [bindParameters_append]
  rcases (bindParameters_alike cs ctx leading takes (start_stands q ctx.remaining)).cases with
    ⟨e, bound, served⟩ | ⟨args, next, left, bound, served, stands⟩
  · simp only [bound, served]
  · simp only [bound, served, bindParameters, bindParameter_of_takesText cs ctx takesText]
    rw [serveText_congr cs ctx last stands.trim_left]
    cases serveText cs ctx last _ with
    | error e => rfl
    | ok v => simp [Except.map, atEnd_takeRest]

theorem left_of_missing {p : Parameter} {s left : Tokens}
    (bound : (missing ctx p).map (·, s) = .ok (v, left)) : left = s := by
  cases fallback : missing ctx p with
  | error e => simp [fallback, Except.map] at bound
  | ok w =>
    simp only [fallback, Except.map, Except.ok.injEq, Prod.mk.injEq] at bound
    exact bound.2.symm

theorem serveOne_failure (p : Parameter) {s left : Tokens}
    (served : serveOne cs ctx p s = .ok (v, left)) : left.failure = s.failure := by
  unfold serveOne at served
  split at served
  · exact congrArg Tokens.failure (left_of_missing ctx served)
  · contradiction
  · split at served
    · contradiction
    · split at served
      · exact congrArg Tokens.failure (left_of_missing ctx served)
      · cases served
        rfl

theorem left_of_longestRun {convert : String → Except CommandError Value} {s left : Tokens}
    (ran : longestRun convert s = .ok (vs, left)) : left.failure = s.failure := by
  unfold longestRun at ran
  simp only [] at ran
  split at ran
  · contradiction
  · cases ran
    rfl

theorem serveGreedy_failure (p : Parameter) (inner : Shape) {s left : Tokens}
    (served : serveGreedy cs ctx p inner s = .ok (v, left)) : left.failure = s.failure := by
  unfold serveGreedy at served
  split at served
  · contradiction
  · next ran =>
    rw [left_of_missing ctx served]
    exact left_of_longestRun ran
  · next ran =>
    cases served
    exact left_of_longestRun ran

/-- Serving takes tokens from the front, so a failure behind them stays. -/
theorem serve_failure (p : Parameter) {s left : Tokens}
    (served : serve cs ctx p s = .ok (v, left)) : left.failure = s.failure := by
  unfold serve at served
  split at served
  · exact serveGreedy_failure cs ctx p _ served
  · exact serveOne_failure cs ctx p served

theorem serveAll_failure (params : List Parameter)
    (served : serveAll cs ctx params s = .ok (args, left)) : left.failure = s.failure := by
  induction params generalizing s args with
  | nil =>
    cases served
    rfl
  | cons p rest ih =>
    unfold serveAll at served
    split at served
    · contradiction
    · next v next first =>
      split at served
      · contradiction
      · next more last others =>
        cases served
        exact (ih others).trans (serve_failure cs ctx p first)

theorem bindTokens_eq_ok_iff (q : QuoteSet) (text command : String) (params : List Parameter)
    (args : Args) :
    bindTokens cs ctx command params (ahead q text.toList) = .ok args ↔
      ∃ found, tokenize q text = .ok found ∧
        bindTokens cs ctx command params ⟨found, none⟩ = .ok args := by
  simp only [tokenize_eq_ok_iff]
  constructor
  · intro bound
    have complete : (ahead q text.toList).failure = none := by
      unfold bindTokens at bound
      split at bound
      · contradiction
      · next args left served =>
        split at bound
        · next ended =>
          rw [← serveAll_failure cs ctx params served]
          simp only [Tokens.atEnd, Bool.and_eq_true, Option.isNone_iff_eq_none] at ended
          exact ended.2
        · contradiction
    refine ⟨(ahead q text.toList).found, ?_, ?_⟩ <;> rw [← complete]
    exact bound
  · rintro ⟨found, all, bound⟩
    rw [all]
    exact bound

end Simulation

/-- A command that was built and takes no extra text binds as the lists say. Where no parameter
takes all that is left, that is to all tokens of the line; otherwise the last one does, and the
others are bound to the tokens in front of the text it gets. -/
theorem bound_as_lists_say {d : Declaration σ} {command : Command σ}
    (built : d.buildUnder parent = .ok command) (strict : command.parts.ignoreExtra = false)
    (cs : Converters) (q : QuoteSet) (ctx : Context) :
    ((∀ p ∈ command.parts.params, p.takesText = false) → ∀ args,
      (Binding.bind cs q ctx command.qualified command.parts.params command.parts.ignoreExtra =
          .ok args ↔
        ∃ found, tokenize q ctx.remaining = .ok found ∧
          bindTokens cs ctx command.qualified command.parts.params ⟨found, none⟩ = .ok args)) ∧
    ((∃ p ∈ command.parts.params, p.takesText = true) →
      ∃ leading last, command.parts.params = leading ++ [last] ∧
        (∀ p ∈ leading, p.takesText = false) ∧ last.takesText = true ∧
        Binding.bind cs q ctx command.qualified command.parts.params command.parts.ignoreExtra =
          bindTokensThenText cs ctx q leading last ctx.remaining.toList) := by
  have bindable := Declaration.paramsProblem?_of_buildUnder built
  rw [strict]
  refine ⟨fun takes args => ?_, fun ⟨p, member, takesText⟩ => ?_⟩
  · rw [bind_eq_bindTokens cs ctx q _ _ takes]
    exact bindTokens_eq_ok_iff cs ctx q _ _ _ args
  · rcases List.eq_nil_or_concat' command.parts.params with none | ⟨leading, last, params⟩
    · rw [none] at member
      contradiction
    · rw [params] at bindable member ⊢
      have takes := Declaration.takesText_before_last bindable
      have isLast : p = last := by
        rcases List.mem_append.1 member with early | final
        · rw [takes p early] at takesText
          contradiction
        · exact List.mem_singleton.1 final
      subst isLast
      exact ⟨leading, p, rfl, takes, takesText,
        bind_eq_bindTokensThenText cs ctx q _ leading p takes takesText⟩

/-- Takes a number that may be left out, a word, and the rest of the line. -/
def repeatCommand : Command Unit where
  qualified := "repeat"
  parts :=
    { name := "repeat"
      params := [
        { name := "times", shape := .optional (.of .int), default := .value (.int 10) },
        { name := "word", shape := .of .str },
        { name := "rest", shape := .of .str, takesRest := true }] }
  children := some {}

/-- A line whose second token is never closed. -/
def unclosedLine : Context where
  author := { id := 1, name := "" }
  origin := ⟨.direct, none, { id := 9, name := "" }⟩
  content := ""
  responder := .discard
  directory := .ofLists [] [] [] []
  remaining := "one \"two"

/-- What does not convert to the number is the word, and only the rest meets the open mark. -/
theorem unclosed_line_binds :
    (Declaration.declare repeatCommand.parts true []).buildUnder none = .ok repeatCommand ∧
      repeatCommand.parts.ignoreExtra = false ∧
      Binding.bind .builtin .standard unclosedLine repeatCommand.qualified
        repeatCommand.parts.params repeatCommand.parts.ignoreExtra =
          .ok [("times", .int 10), ("word", .str "one"), ("rest", .str "\"two")] := by
  have built : (Declaration.declare repeatCommand.parts true []).buildUnder none =
      .ok repeatCommand := by
    rw [Declaration.buildUnder]
    rfl
  refine ⟨built, rfl, ?_⟩
  obtain ⟨leading, last, split, -, -, bound⟩ :=
    (bound_as_lists_say built rfl .builtin .standard unclosedLine).2
      ⟨repeatCommand.parts.params[2], List.mem_of_getElem rfl, rfl⟩
  obtain ⟨rfl, same⟩ := List.append_inj' (show repeatCommand.parts.params.take 2 ++
    [repeatCommand.parts.params[2]] = leading ++ [last] from split) rfl
  cases same
  have word : nextToken QuoteSet.standard "one \"two".toList =
      some ⟨.ok "one".toList, " \"two".toList⟩ := rfl
  have unclosed : nextToken QuoteSet.standard " \"two".toList =
      some ⟨.error (.unclosed '"'), []⟩ := rfl
  have all : ahead QuoteSet.standard unclosedLine.remaining.toList =
      ⟨["one"], some (.unclosed '"')⟩ := by
    rw [show unclosedLine.remaining.toList = "one \"two".toList from rfl,
      ahead_of_ok word, ahead_of_error unclosed]
    rfl
  rw [bound, bindTokensThenText, all]
  rfl

end ChatCommands.ListBinder
