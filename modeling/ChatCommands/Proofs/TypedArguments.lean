import ChatCommands.Binding
import ChatCommands.Command.Declaration
import ChatCommands.Proofs.ShapedValues

/-! The types of bound arguments. A body finds its arguments by name and takes them for what their
shapes say, so binding must give every parameter a value of its shape or its stand-in. The ways to
bind a parameter each make one form of value, and all keep to the text of the line. -/
namespace ChatCommands.TypedArguments
open Line (Cursor)
open Binding ShapedValues

variable {cs : Converters} {ctx : Context} {p : Parameter} {params : List Parameter}
  {c next : Cursor} {v : Value} {args : Args} {line : List Char}

/-- A group of flags is a whole shape and stands in no other. -/
def FlagsWhole : Shape → Prop
  | .flags group => ∀ f ∈ group.flags, flagless f.shape = true
  | shape => flagless shape = true

/-- What a parameter may be bound to. The flags of a group are those in an end of the line. -/
inductive Conforms (cs : Converters) (ctx : Context) (p : Parameter) : Value → Prop where
  | default {v : Value} (set : p.default.resolve ctx = some v) : Conforms cs ctx p v
  | absent (unset : p.default.resolve ctx = none) (optional : p.shape.isOptional = true) :
      Conforms cs ctx p .none
  | single {v : Value} (plain : p.shape.isGreedy = false) (fits : Fits p.shape v) :
      Conforms cs ctx p v
  | several {inner : Shape} {values : List Value} (shape : p.shape = .greedy inner)
      (full : values ≠ []) (fits : ∀ v ∈ values, Fits inner v) : Conforms cs ctx p (.list values)
  | flags {group : FlagGroup Shape} {rest : List Char} {text : FlagText}
      {entries : List (String × Value)} (shape : p.shape = .flags group)
      (final : rest <:+ ctx.remaining.toList)
      (read : FlagText.read group (group.style.getD cs.flagStyle) (Text.trim rest) = .ok text)
      (fits : GroupFits ctx group text entries) : Conforms cs ctx p (.flags entries)

theorem flagless_of_whole (whole : FlagsWhole p.shape) (notFlags : p.shape.isFlags = false) :
    flagless p.shape = true := by
  cases shape : p.shape with
  | flags group => simp [shape, Shape.isFlags] at notFlags
  | _ =>
    rw [shape] at whole
    exact whole

theorem conforms_of_missing (bound : missing ctx p = .ok v) : Conforms cs ctx p v := by
  unfold missing Parameter.fallback at bound
  cases set : p.default.resolve ctx with
  | some w =>
    rw [set] at bound
    cases bound
    exact .default set
  | none =>
    rw [set] at bound
    by_cases optional : p.shape.isOptional = true
    · simp only [optional, if_true] at bound
      cases bound
      exact .absent set optional
    · simp [optional] at bound

theorem missingAt_eq_ok (cs : Converters) (bound : missingAt ctx p c = .ok (v, next)) :
    Conforms cs ctx p v ∧ next = c := by
  unfold missingAt at bound
  cases fallback : missing ctx p with
  | error e => simp [fallback, Except.map] at bound
  | ok w =>
    rw [fallback] at bound
    cases bound
    exact ⟨conforms_of_missing fallback, rfl⟩

/-! ## Cursors keep to their text -/

theorem text_skipBlanks (c : Cursor) : c.skipBlanks.position.text = c.position.text :=
  Line.Position.text_advance _ _

theorem text_token {read : Except TokenError (Option (List Char))}
    (token : c.token = (read, next)) : next.position.text = c.position.text := by
  have marked : c.mark.position.text = c.position.text := text_skipBlanks c
  unfold Cursor.token at token
  simp only [] at token
  split at token
  · cases token
    exact marked
  · cases token
    exact (Line.Position.text_advance _ _).trans marked

theorem text_takeRest (c : Cursor) : c.takeRest.2.position.text = c.position.text :=
  Line.Position.text_advance _ _

theorem left_suffix (c : Cursor) : c.left <:+ c.position.text := List.suffix_append _ _

/-! ## One parameter -/

theorem conforms_of_bindOne (keeps : KeepsBuiltins cs) (plain : flagless p.shape = true)
    (notGreedy : p.shape.isGreedy = false) (bound : bindOne cs ctx p c = .ok (v, next)) :
    Conforms cs ctx p v ∧ next.position.text = c.position.text := by
  unfold bindOne at bound
  split at bound
  · contradiction
  · rename_i last token
    obtain ⟨conforms, rfl⟩ := missingAt_eq_ok cs bound
    exact ⟨conforms, text_token token⟩
  · rename_i chars after token
    split at bound
    · contradiction
    · rename_i made converted
      split_ifs at bound
      · obtain ⟨conforms, rfl⟩ := missingAt_eq_ok cs bound
        exact ⟨conforms, rfl⟩
      · cases bound
        exact ⟨.single notGreedy (fits_of_convert keeps p.shape plain converted), text_token token⟩

theorem conforms_of_bindRest (keeps : KeepsBuiltins cs) (whole : FlagsWhole p.shape)
    (notGreedy : p.shape.isGreedy = false)
    (usable : ∀ group, p.shape = .flags group → group.problem? = none)
    (within : c.position.text = ctx.remaining.toList)
    (bound : bindRest cs ctx p c = .ok (v, next)) :
    Conforms cs ctx p v ∧ next.position.text = c.position.text := by
  unfold bindRest at bound
  simp only [] at bound
  split_ifs at bound with nothing
  · obtain ⟨conforms, rfl⟩ := missingAt_eq_ok cs bound
    exact ⟨conforms, text_takeRest c⟩
  split at bound
  · contradiction
  rename_i made converted
  split_ifs at bound
  · obtain ⟨conforms, rfl⟩ := missingAt_eq_ok cs bound
    exact ⟨conforms, text_takeRest c⟩
  cases bound
  refine ⟨?_, text_takeRest c⟩
  cases notFlags : p.shape.isFlags with
  | false =>
    have plain := flagless_of_whole whole notFlags
    exact .single notGreedy (fits_of_convert keeps p.shape plain converted)
  | true =>
    obtain ⟨group, shape⟩ : ∃ group, p.shape = .flags group := by
      cases shape : p.shape with
      | flags group => exact ⟨group, rfl⟩
      | _ => simp [shape, Shape.isFlags] at notFlags
    rw [shape] at whole converted
    obtain ⟨text, entries, read, rfl, fits⟩ :=
      groupFits_of_convert keeps (usable group shape) whole converted
    rw [String.toList_ofList] at read
    exact .flags shape (within ▸ left_suffix c) read fits

theorem fits_of_takeGreedy {param : String} {inner : Shape} {values : List Value}
    (keeps : KeepsBuiltins cs) (plain : flagless inner = true)
    (taken : takeGreedy cs ctx param inner c = .ok (values, next)) :
    (∀ v ∈ values, Fits inner v) ∧ next.position.text = c.position.text := by
  fun_induction takeGreedy cs ctx param inner c generalizing values next with
  | case1 | case3 | case5 => contradiction
  | case2 _ _ token =>
    cases taken
    exact ⟨by simp, text_token token⟩
  | case4 =>
    cases taken
    exact ⟨by simp, rfl⟩
  | case6 _ _ _ token _ converted _ _ _ later ih =>
    cases taken
    obtain ⟨fits, text⟩ := ih later
    exact ⟨List.forall_mem_cons.2 ⟨fits_of_convert keeps inner plain converted, fits⟩,
      text.trans (text_token token)⟩

theorem conforms_of_bindGreedy {inner : Shape} (keeps : KeepsBuiltins cs)
    (plain : flagless inner = true) (shape : p.shape = .greedy inner)
    (bound : bindGreedy cs ctx p inner c = .ok (v, next)) :
    Conforms cs ctx p v ∧ next.position.text = c.position.text := by
  unfold bindGreedy at bound
  split at bound
  · contradiction
  · rename_i after taken
    obtain ⟨conforms, rfl⟩ := missingAt_eq_ok cs bound
    exact ⟨conforms, (fits_of_takeGreedy keeps plain taken).2⟩
  · rename_i first others after taken
    cases bound
    obtain ⟨fits, text⟩ := fits_of_takeGreedy keeps plain taken
    exact ⟨.several shape (List.cons_ne_nil first others) fits, text⟩

/-- A parameter for which binding makes something of its shape. -/
structure Typable (p : Parameter) : Prop where
  apart : p.shape.isGreedy = true → p.takesRest = false
  whole : FlagsWhole p.shape
  usable : ∀ group, p.shape = .flags group → group.problem? = none

theorem conforms_of_bindParameter (keeps : KeepsBuiltins cs) (typable : Typable p)
    (within : c.position.text = ctx.remaining.toList)
    (bound : bindParameter cs ctx p c = .ok (v, next)) :
    Conforms cs ctx p v ∧ next.position.text = c.position.text := by
  unfold bindParameter at bound
  split_ifs at bound with takesText
  · have notGreedy : p.shape.isGreedy = false := by
      rcases (Bool.or_eq_true _ _).mp takesText with takesRest | isFlags
      · refine Bool.eq_false_iff.2 fun greedy => ?_
        rw [typable.apart greedy] at takesRest
        contradiction
      · cases shape : p.shape <;> simp_all [Shape.isFlags, Shape.isGreedy]
    exact conforms_of_bindRest keeps typable.whole notGreedy typable.usable within bound
  · have notFlags : p.shape.isFlags = false :=
      Bool.eq_false_iff.2 fun isFlags => takesText (by simp [isFlags])
    have plain := flagless_of_whole typable.whole notFlags
    split at bound
    · rename_i inner shape
      rw [shape, flagless] at plain
      exact conforms_of_bindGreedy keeps plain shape bound
    · rename_i notGreedy
      refine conforms_of_bindOne keeps plain ?_ bound
      cases shape : p.shape with
      | greedy inner => exact absurd shape (notGreedy inner)
      | _ => rfl

/-! ## All parameters -/

/-- An argument under the name of its parameter. -/
def Answers (cs : Converters) (ctx : Context) (p : Parameter) (arg : String × Value) : Prop :=
  arg.1 = p.name ∧ Conforms cs ctx p arg.2

theorem answers_of_bindParameters (keeps : KeepsBuiltins cs) (typable : ∀ p ∈ params, Typable p)
    (within : c.position.text = ctx.remaining.toList)
    (bound : bindParameters cs ctx params c = .ok (args, next)) :
    List.Forall₂ (Answers cs ctx) params args := by
  induction params generalizing c args with
  | nil =>
    cases bound
    exact .nil
  | cons p rest ih =>
    obtain ⟨first, others⟩ := List.forall_mem_cons.1 typable
    unfold bindParameters at bound
    split at bound
    · contradiction
    · rename_i v after served
      split at bound
      · contradiction
      · rename_i more last later
        cases bound
        obtain ⟨conforms, text⟩ := conforms_of_bindParameter keeps first within served
        exact .cons ⟨rfl, conforms⟩ (ih others (text.trans within) later)

theorem names_of_answers (answers : List.Forall₂ (Answers cs ctx) params args) :
    args.map Prod.fst = params.map Parameter.name := by
  induction answers with
  | nil => rfl
  | cons first _ ih => rw [List.map_cons, List.map_cons, first.1, ih]

theorem nodup_of_paramsProblem {command : String} {seen : List String}
    (accepted : Declaration.paramsProblem? command seen params = none) :
    (∀ p ∈ params, p.name ∉ seen) ∧ (params.map Parameter.name).Nodup := by
  induction params generalizing seen with
  | nil => simp
  | cons p rest ih =>
    obtain ⟨unknown, -, others⟩ := Declaration.paramsProblem?_cons_eq_none_iff.1 accepted
    obtain ⟨fresh, distinct⟩ := ih others
    refine ⟨List.forall_mem_cons.2 ⟨by simpa using unknown, fun q member old => ?_⟩,
      List.nodup_cons.2 ⟨fun again => ?_, distinct⟩⟩
    · exact fresh q member (List.mem_cons_of_mem _ old)
    · obtain ⟨q, member, same⟩ := List.mem_map.1 again
      exact fresh q member (same ▸ List.mem_cons_self)

theorem usable_of_shapeProblem {isLast : Bool} {group : FlagGroup Shape}
    (accepted : Declaration.shapeProblem? isLast p = none) (shape : p.shape = .flags group) :
    group.problem? = none := by
  unfold Declaration.shapeProblem? at accepted
  rw [shape] at accepted
  split_ifs at accepted
  exact accepted

theorem usable_of_paramsProblem {command : String} {seen : List String}
    (accepted : Declaration.paramsProblem? command seen params = none) :
    ∀ p ∈ params, ∀ group, p.shape = .flags group → group.problem? = none := by
  induction params generalizing seen with
  | nil => simp
  | cons p rest ih =>
    obtain ⟨-, fits, others⟩ := Declaration.paramsProblem?_cons_eq_none_iff.1 accepted
    exact List.forall_mem_cons.2 ⟨fun group => usable_of_shapeProblem fits, ih others⟩

/-- Binding a command that was built gives its parameters in order, each once, and each a value of
its shape or what stands in for it. -/
theorem bound_arguments_conform {σ : Type} {parent : Option String} {d : Declaration σ}
    {command : Command σ} (built : d.buildUnder parent = .ok command)
    (apart : ∀ p ∈ command.parts.params, p.shape.isGreedy = true → p.takesRest = false)
    (whole : ∀ p ∈ command.parts.params, FlagsWhole p.shape) (keeps : KeepsBuiltins cs)
    (q : QuoteSet) (ctx : Context)
    (bound : Binding.bind cs q ctx command.qualified command.parts.params
      command.parts.ignoreExtra = .ok args) :
    args.map Prod.fst = command.parts.params.map Parameter.name ∧ (args.map Prod.fst).Nodup ∧
      List.Forall₂ (Answers cs ctx) command.parts.params args := by
  have bindable := Declaration.paramsProblem?_of_buildUnder built
  have typable : ∀ p ∈ command.parts.params, Typable p := fun p member =>
    ⟨apart p member, whole p member, usable_of_paramsProblem bindable p member⟩
  unfold Binding.bind at bound
  split at bound
  · contradiction
  rename_i served last all
  split_ifs at bound
  cases bound
  have answers := answers_of_bindParameters keeps typable rfl all
  have names := names_of_answers answers
  exact ⟨names, names ▸ (nodup_of_paramsProblem bindable).2, answers⟩

/-- A number that may be left out. -/
def times : Parameter :=
  { name := "times", shape := .optional (.of .int), default := .value (.int 10) }

/-- A flag that may be given twice. -/
def options : Parameter where
  name := "options"
  shape := .flags
    { flags := [Flag.limitedTo { name := "word", shape := .of .str, multiple := true } 2] }

def tagCommand : Command Unit where
  qualified := "tag"
  parts := { name := "tag", params := [times, options] }
  children := some {}

/-- A line without the number. -/
def flagLine : Context where
  author := { id := 1, name := "" }
  origin := ⟨.direct, none, { id := 9, name := "" }⟩
  content := ""
  responder := .discard
  directory := .ofLists [] [] [] []
  remaining := "word: a b word: c"

theorem flagLine_converts :
    Converters.builtin.convert flagLine "options" options.shape flagLine.remaining =
      .ok (.flags [("word", .list [.str "a b", .str "c"])]) := by
  have read : FlagText.read
      ⟨[Flag.limitedTo { name := "word", shape := .of .str, multiple := true } 2], none⟩
      Converters.builtin.flagStyle "word: a b word: c".toList =
      .ok ⟨[], [(0, "a b".toList), (0, "c".toList)]⟩ := rfl
  simp only [options, Converters.convert, Converters.convertGroup, Option.getD_none, flagLine, read]
  rfl

/-- The number is left out, and what was tried for it is a flag. -/
theorem flags_behind_missing_number_conform :
    let args : Args := [("times", .int 10),
      ("options", .flags [("word", .list [.str "a b", .str "c"])])]
    Binding.bind .builtin .standard flagLine tagCommand.qualified tagCommand.parts.params
        tagCommand.parts.ignoreExtra = .ok args ∧
      args.map Prod.fst = tagCommand.parts.params.map Parameter.name ∧
      (args.map Prod.fst).Nodup ∧
      List.Forall₂ (Answers .builtin flagLine) tagCommand.parts.params args := by
  intro args
  have built : (Declaration.declare tagCommand.parts true []).buildUnder none = .ok tagCommand := by
    rw [Declaration.buildUnder]
    rfl
  have bound : Binding.bind .builtin .standard flagLine tagCommand.qualified
      tagCommand.parts.params tagCommand.parts.ignoreExtra = .ok args := by
    let again := (Cursor.start .standard flagLine.remaining).token.2.goTo
      (.start flagLine.remaining.toList)
    have number : bindParameter .builtin flagLine times (.start .standard flagLine.remaining) =
        .ok (.int 10, again) := rfl
    have line : String.ofList (Text.trim again.left) = flagLine.remaining := rfl
    have flags : bindParameter .builtin flagLine options again =
        .ok (.flags [("word", .list [.str "a b", .str "c"])], again.takeRest.2) := by
      have isFlags : options.shape.isFlags = true := rfl
      simp only [bindParameter, isFlags, Bool.or_true, if_true, bindRest, Cursor.takeRest, line]
      rw [show options.name = "options" from rfl, flagLine_converts]
      rfl
    have ended : again.takeRest.2.skipBlanks.atEnd = true := rfl
    simp only [Binding.bind, tagCommand, bindParameters, number, flags, ended]
    rfl
  have whole : ∀ p ∈ tagCommand.parts.params, FlagsWhole p.shape := by
    simp [tagCommand, times, options, FlagsWhole, flagless, Flag.limitedTo]
  exact ⟨bound, bound_arguments_conform built (by simp [tagCommand, times, options, Shape.isGreedy])
    whole (fun kind _ => rfl) .standard flagLine bound⟩

/-- Flags of which the last none count. -/
def noOptions : FlagGroup Shape where
  flags :=
    [{ name := "word", shape := .of .str, multiple := true, maxArgs := some 0
       overrideLast := true }]

def silentCommand : Command Unit where
  qualified := "tag"
  parts := { name := "tag", params := [{ name := "options", shape := .flags noOptions }] }
  children := some {}

/-- A flag that is given twice is bound to an empty list, though the command was built. -/
theorem given_flag_bound_to_empty_list :
    (Declaration.declare silentCommand.parts true []).buildUnder none = .ok silentCommand ∧
      (∀ p ∈ silentCommand.parts.params, p.shape.isGreedy = false ∧ FlagsWhole p.shape) ∧
      KeepsBuiltins .builtin ∧
      FlagText.read noOptions Converters.builtin.flagStyle flagLine.remaining.toList =
        .ok ⟨[], [(0, "a b".toList), (0, "c".toList)]⟩ ∧
      Binding.bind .builtin .standard flagLine silentCommand.qualified silentCommand.parts.params
        silentCommand.parts.ignoreExtra = .ok [("options", .flags [("word", .list [])])] := by
  have read : FlagText.read noOptions Converters.builtin.flagStyle flagLine.remaining.toList =
      .ok ⟨[], [(0, "a b".toList), (0, "c".toList)]⟩ := rfl
  refine ⟨by rw [Declaration.buildUnder]; rfl, ?_, fun kind _ => rfl, read, ?_⟩
  · simp [silentCommand, noOptions, Shape.isGreedy, FlagsWhole, flagless]
  · let start := Cursor.start .standard flagLine.remaining
    have converted : Converters.builtin.convert flagLine "options" (.flags noOptions)
        flagLine.remaining = .ok (.flags [("word", .list [])]) := by
      simp only [noOptions, Converters.convert, Converters.convertGroup, Option.getD_none] at read ⊢
      rw [read]
      rfl
    have line : String.ofList (Text.trim start.left) = flagLine.remaining := rfl
    have flags : bindParameter .builtin flagLine
        { name := "options", shape := .flags noOptions } start =
        .ok (.flags [("word", .list [])], start.takeRest.2) := by
      have isFlags : (Shape.flags noOptions).isFlags = true := rfl
      simp only [bindParameter, isFlags, Bool.or_true, if_true, bindRest, Cursor.takeRest, line,
        converted]
      rfl
    have ended : start.takeRest.2.skipBlanks.atEnd = true := rfl
    simp only [Binding.bind, silentCommand, bindParameters, flags, ended, start]
    rfl

end ChatCommands.TypedArguments
