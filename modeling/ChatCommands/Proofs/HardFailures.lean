import ChatCommands.Convert.Shape
import Mathlib.Tactic.SplitIfs

/-! Failures to read the line. A converter may meet text that is no sequence of
tokens, and however shapes are nested around it, that failure is what conversion
ends in (`convert_eq_hard_iff`), unless the converter was asked for the value of a
flag. A flag tells every failure of its value as its own, which no longer counts
as a failure to read the line, so a shape around the group may pass it over. -/
namespace ChatCommands.HardFailures
open Converters

variable {cs : Converters} {ctx : Context} {e : TokenError} {param argument : String}
  {shape : Shape} {failure : CommandError}

/-- The failure to read the line. -/
abbrev hard (e : TokenError) : CommandError := .userInput (.argumentParsing e)

/-- An alternative fails, but not by a failure to read the line, nor by a panic. -/
def PassedOver (cs : Converters) (ctx : Context) (param argument : String) (shape : Shape) : Prop :=
  ∃ failure, cs.convert ctx param shape argument = .error failure ∧ failure.isFinal = false

/-- Conversion comes to a converter that fails to read the line. The names are those of the flags
whose values are converted on the way, outermost first. -/
inductive Meets (cs : Converters) (ctx : Context) (e : TokenError) :
    List String → String → Shape → String → Prop where
  | of {param argument : String} {kind : Kind} {converter : Converter}
      (known : cs.get? kind = some converter)
      (fails : converter ctx argument = .error (.input (.argumentParsing e))) :
      Meets cs ctx e [] param (.of kind) argument
  | optional {way : List String} {param argument : String} {inner : Shape}
      (inside : Meets cs ctx e way param inner argument) :
      Meets cs ctx e way param (.optional inner) argument
  | greedy {way : List String} {param argument : String} {inner : Shape}
      (inside : Meets cs ctx e way param inner argument) :
      Meets cs ctx e way param (.greedy inner) argument
  | union {way : List String} {param argument : String} {earlier later : List Shape} {shape : Shape}
      (passed : ∀ other ∈ earlier, PassedOver cs ctx param argument other)
      (inside : Meets cs ctx e way param shape argument) :
      Meets cs ctx e way param (.union (earlier ++ shape :: later)) argument
  | flags {way : List String} {param argument : String} {earlier later : List (Flag Shape)}
      {flag : Flag Shape} {style : Option FlagStyle} {text : FlagText}
      {before after : List (List Char)} {value : List Char}
      (read : FlagText.read ⟨earlier ++ flag :: later, style⟩ (style.getD cs.flagStyle)
        argument.toList = .ok text)
      (bound : ∀ position other, earlier[position]? = some other →
        ∃ v, cs.convertFlag ctx other (text.valuesOf position) = .ok v)
      (counted : flag.counted (text.valuesOf earlier.length) = .ok (before ++ value :: after))
      (converted : ∀ other ∈ before,
        ∃ v, flag.convertValue (cs.convert ctx flag.name flag.shape) other = .ok v)
      (full : value ≠ [])
      (inside : Meets cs ctx e way flag.name flag.shape (String.ofList value)) :
      Meets cs ctx e (flag.name :: way) param (.flags ⟨earlier ++ flag :: later, style⟩) argument

/-! ## Flags hide it -/

theorem soft_of_declared {group : FlagGroup Shape} {style : FlagStyle} {chars : List Char}
    {places : List Occurrence} {error : UserInputError}
    (failed : FlagText.declared group style chars places = .error error) :
    (CommandError.userInput error).isHardParseError = false := by
  induction places with
  | nil => contradiction
  | cons place rest ih =>
    rw [FlagText.declared] at failed
    split at failed
    · cases later : FlagText.declared group style chars rest with
      | ok found => simp [later, Except.map] at failed
      | error earlier =>
        rw [later] at failed
        cases failed
        exact ih later
    · split at failed
      · cases failed
        rfl
      · exact ih failed

theorem soft_of_read {group : FlagGroup Shape} {style : FlagStyle} {chars : List Char}
    (failed : FlagText.read group style chars = .error failure) :
    failure.isHardParseError = false := by
  simp only [FlagText.read] at failed
  split at failed
  · cases failed
    exact soft_of_declared ‹_›
  · split at failed
    · cases failed
      rfl
    · split at failed <;> cases failed
      rfl

theorem soft_of_counted {flag : Flag Shape} {given : List (List Char)} {error : UserInputError}
    (failed : flag.counted given = .error error) :
    (CommandError.userInput error).isHardParseError = false := by
  unfold Flag.counted at failed
  split at failed
  · contradiction
  · split_ifs at failed
    cases failed
    rfl

theorem soft_of_convertValue {flag : Flag Shape} {convert : String → Except CommandError Value}
    {value : List Char} (failed : flag.convertValue convert value = .error failure) :
    failure.isHardParseError = false := by
  unfold Flag.convertValue at failed
  split at failed
  · split_ifs at failed
    cases failed
    rfl
  · split at failed
    · contradiction
    · cases failed
      rfl
    · cases failed
      rfl

theorem error_of_mapM {α β ε : Type} {f : α → Except ε β} {l : List α} {why : ε}
    (failed : l.mapM f = .error why) : ∃ a ∈ l, f a = .error why := by
  induction l with
  | nil => contradiction
  | cons a rest ih =>
    rw [List.mapM_cons] at failed
    cases first : f a with
    | error reason =>
      rw [first] at failed
      cases failed
      exact ⟨a, List.mem_cons_self, first⟩
    | ok b =>
      cases later : rest.mapM f with
      | error reason =>
        rw [first, later] at failed
        cases failed
        obtain ⟨c, member, fails⟩ := ih later
        exact ⟨c, List.mem_cons_of_mem a member, fails⟩
      | ok bs =>
        rw [first, later] at failed
        contradiction

theorem soft_of_bind {flag : Flag Shape} {convert : String → Except CommandError Value}
    {given : List (List Char)} (failed : flag.bind ctx convert given = .error failure) :
    failure.isHardParseError = false := by
  unfold Flag.bind at failed
  split at failed
  · split at failed
    · contradiction
    · cases failed
      rfl
  · split at failed
    · cases failed
      exact soft_of_counted ‹_›
    · split at failed
      · cases failed
        obtain ⟨value, -, fails⟩ := error_of_mapM ‹_›
        exact soft_of_convertValue fails
      · contradiction

theorem soft_of_convertFlags {flags : List (Flag Shape)} {text : FlagText} {position : Nat}
    {entries : List (String × Value)}
    (failed : cs.convertFlags ctx flags text position entries = .error failure) :
    failure.isHardParseError = false := by
  induction flags generalizing position entries with
  | nil => simp [convertFlags] at failed
  | cons flag rest ih =>
    simp only [convertFlags] at failed
    split at failed
    · rename_i reason fails
      cases failed
      rw [convertFlag] at fails
      exact soft_of_bind fails
    · exact ih failed

/-- A group of flags never fails by a failure to read the line. -/
theorem soft_of_convertGroup {group : FlagGroup Shape}
    (failed : cs.convertGroup ctx group argument = .error failure) :
    failure.isHardParseError = false := by
  obtain ⟨flags, style⟩ := group
  simp only [convertGroup] at failed
  split at failed
  · cases failed
    exact soft_of_read ‹_›
  · rename_i text read
    cases bound : cs.convertFlags ctx flags text 0 [] with
    | ok entries => simp [bound, Except.map] at failed
    | error reason =>
      rw [bound] at failed
      cases failed
      exact soft_of_convertFlags bound

/-! ## Nothing else does -/

theorem convertKind_eq_hard_iff {kind : Kind} :
    cs.convertKind ctx param kind argument = .error (hard e) ↔
      ∃ converter, cs.get? kind = some converter ∧
        converter ctx argument = .error (.input (.argumentParsing e)) := by
  unfold convertKind
  cases cs.get? kind with
  | none => simp
  | some converter =>
    simp only [Option.some.injEq, exists_eq_left']
    cases converter ctx argument with
    | ok v => simp
    | error why => cases why <;> simp

theorem convertFirst_of_passed {earlier later : List Shape}
    (passed : ∀ other ∈ earlier, PassedOver cs ctx param argument other)
    (fails : cs.convert ctx param shape argument = .error failure)
    (isFinal : failure.isFinal = true) :
    cs.convertFirst ctx param (earlier ++ shape :: later) argument = .error failure := by
  induction earlier with
  | nil => simp [convertFirst, fails, isFinal]
  | cons first rest ih =>
    obtain ⟨reason, firstFails, soft⟩ := passed first List.mem_cons_self
    have others := ih fun other member => passed other (List.mem_cons_of_mem first member)
    simp [convertFirst, firstFails, soft, others]

mutual

theorem meets_of_hard : (shape : Shape) → {param argument : String} →
    cs.convert ctx param shape argument = .error (hard e) → Meets cs ctx e [] param shape argument
  | .of kind, param, argument, failed => by
    rw [convert] at failed
    obtain ⟨converter, known, fails⟩ := convertKind_eq_hard_iff.1 failed
    exact .of known fails
  | .optional inner, param, argument, failed => by
    simp only [convert] at failed
    split at failed
    · contradiction
    · rename_i reason fails
      split_ifs at failed
      cases failed
      exact .optional (meets_of_hard inner fails)
  | .union alternatives, param, argument, failed => by
    simp only [convert] at failed
    split at failed
    · contradiction
    · cases failed
    · rename_i reason fails
      cases failed
      obtain ⟨earlier, shape, later, rfl, passed, inside⟩ := meets_among alternatives fails
      exact .union passed inside
  | .literal values, param, argument, failed => by
    rw [convert, Convert.literal] at failed
    split at failed <;> cases failed
  | .greedy inner, param, argument, failed => by
    rw [convert] at failed
    exact .greedy (meets_of_hard inner failed)
  | .flags group, param, argument, failed => by
    rw [convert] at failed
    have soft := soft_of_convertGroup failed
    contradiction

theorem meets_among : (shapes : List Shape) → {param argument : String} →
    cs.convertFirst ctx param shapes argument = .error (hard e) →
    ∃ earlier shape later, shapes = earlier ++ shape :: later ∧
      (∀ other ∈ earlier, PassedOver cs ctx param argument other) ∧
      Meets cs ctx e [] param shape argument
  | [], param, argument, failed => by simp [convertFirst] at failed
  | first :: rest, param, argument, failed => by
    simp only [convertFirst] at failed
    split at failed
    · contradiction
    · rename_i reason fails
      split at failed
      · cases failed
        exact ⟨[], first, rest, rfl, by simp, meets_of_hard first fails⟩
      · rename_i soft
        split at failed
        · contradiction
        · contradiction
        · rename_i later others
          cases failed
          obtain ⟨earlier, shape, later, rfl, passed, inside⟩ := meets_among rest others
          exact ⟨first :: earlier, shape, later, rfl,
            List.forall_mem_cons.2 ⟨⟨reason, fails, by simpa using soft⟩, passed⟩, inside⟩

end

theorem hard_of_meets {way : List String} (meets : Meets cs ctx e way param shape argument) :
    way = [] → cs.convert ctx param shape argument = .error (hard e) := by
  induction meets with
  | of known fails =>
    intro
    rw [convert]
    exact convertKind_eq_hard_iff.2 ⟨_, known, fails⟩
  | optional _ ih =>
    intro plain
    simp [convert, ih plain, CommandError.isFinal, CommandError.isHardParseError]
  | greedy _ ih =>
    intro plain
    rw [convert, ih plain]
  | union passed _ ih =>
    intro plain
    simp only [convert, convertFirst_of_passed passed (ih plain) rfl]
  | flags => simp

/-- Conversion fails to read the line exactly where it comes, outside the values of flags, to a
converter that does. -/
theorem convert_eq_hard_iff :
    cs.convert ctx param shape argument = .error (hard e) ↔
      Meets cs ctx e [] param shape argument :=
  ⟨meets_of_hard shape, fun meets => hard_of_meets meets rfl⟩

/-! ## What becomes of it in a flag -/

theorem mapM_of_error {α β ε : Type} {f : α → Except ε β} {before after : List α} {a : α} {why : ε}
    (converted : ∀ other ∈ before, ∃ b, f other = .ok b) (fails : f a = .error why) :
    (before ++ a :: after).mapM f = .error why := by
  induction before with
  | nil =>
    rw [List.nil_append, List.mapM_cons, fails]
    rfl
  | cons first rest ih =>
    obtain ⟨b, first⟩ := converted first List.mem_cons_self
    rw [List.cons_append, List.mapM_cons, first,
      ih fun other member => converted other (List.mem_cons_of_mem _ member)]
    rfl

theorem counted_nil (flag : Flag Shape) : flag.counted [] = .ok [] := by
  unfold Flag.counted
  split <;> simp

theorem bind_of_value {flag : Flag Shape} {convert : String → Except CommandError Value}
    {given before after : List (List Char)} {value : List Char}
    (counted : flag.counted given = .ok (before ++ value :: after))
    (converted : ∀ other ∈ before, ∃ v, flag.convertValue convert other = .ok v)
    (full : value ≠ []) (handled : failure.isPanic = false)
    (fails : convert (String.ofList value) = .error failure) :
    flag.bind ctx convert given = .error (.userInput (.badFlagArgument flag.name failure)) := by
  have some : given ≠ [] := by
    rintro rfl
    simp [counted_nil] at counted
  have own : flag.convertValue convert value =
      .error (.userInput (.badFlagArgument flag.name failure)) := by
    simp only [Flag.convertValue, List.isEmpty_iff, full, if_false, fails]
    cases failure with
    | panicked => contradiction
    | _ => rfl
  simp only [Flag.bind, List.isEmpty_iff, some, if_false, counted, mapM_of_error converted own]

theorem convertFlags_of_error {earlier later : List (Flag Shape)} {flag : Flag Shape}
    {text : FlagText} {position : Nat} {entries : List (String × Value)}
    (bound : ∀ index other, earlier[index]? = some other →
      ∃ v, cs.convertFlag ctx other (text.valuesOf (position + index)) = .ok v)
    (fails : cs.convertFlag ctx flag (text.valuesOf (position + earlier.length)) = .error failure) :
    cs.convertFlags ctx (earlier ++ flag :: later) text position entries = .error failure := by
  induction earlier generalizing position entries with
  | nil =>
    rw [List.length_nil, Nat.add_zero] at fails
    simp only [List.nil_append, convertFlags, fails]
  | cons first rest ih =>
    obtain ⟨v, own⟩ := bound 0 first rfl
    rw [Nat.add_zero] at own
    simp only [List.cons_append, convertFlags, own]
    refine ih (fun index other there => ?_) ?_
    · rw [Nat.add_right_comm, Nat.add_assoc]
      exact bound (index + 1) other there
    · rwa [List.length_cons, Nat.add_comm rest.length, ← Nat.add_assoc] at fails

/-- A group tells a failure of the value of a flag as the flag's. -/
theorem convert_flag_of_meets {flag : String} {group : FlagGroup Shape}
    (meets : Meets cs ctx e [flag] param (.flags group) argument) :
    cs.convert ctx param (.flags group) argument =
      .error (.userInput (.badFlagArgument flag (hard e))) := by
  cases meets with
  | @flags _ _ _ earlier later flag style text before after value read bound counted converted full
      inside =>
    have fails : cs.convertFlag ctx flag (text.valuesOf (0 + earlier.length)) =
        .error (.userInput (.badFlagArgument flag.name (hard e))) := by
      rw [Nat.zero_add, convertFlag]
      exact bind_of_value counted converted full rfl (hard_of_meets inside rfl)
    have stops : cs.convertFlags ctx (earlier ++ flag :: later) text 0 [] =
        .error (.userInput (.badFlagArgument flag.name (hard e))) :=
      convertFlags_of_error (fun index other there => by simpa using bound index other there) fails
    simp only [convert, convertGroup, read, stops]
    rfl

theorem convert_optional_of_passedOver (passed : PassedOver cs ctx param argument shape) :
    cs.convert ctx param (.optional shape) argument = .ok .none := by
  obtain ⟨failure, fails, soft⟩ := passed
  simp [convert, fails, soft]

/-- A failure to read the line is kept by every nesting of shapes as long as no flag is on the way.
Out of a flag it comes as a failure of the flag, which an optional shape turns into no value and a
union passes over. -/
theorem hard_failure_kept_outside_flags (cs : Converters) (ctx : Context) (e : TokenError)
    (param argument : String) :
    (∀ shape, cs.convert ctx param shape argument = .error (hard e) ↔
      Meets cs ctx e [] param shape argument) ∧
    ∀ flag group, Meets cs ctx e [flag] param (.flags group) argument →
      cs.convert ctx param (.flags group) argument =
          .error (.userInput (.badFlagArgument flag (hard e))) ∧
        cs.convert ctx param (.optional (.flags group)) argument = .ok .none ∧
        PassedOver cs ctx param argument (.flags group) := by
  refine ⟨fun shape => convert_eq_hard_iff, fun flag group meets => ?_⟩
  have fails := convert_flag_of_meets meets
  have passed : PassedOver cs ctx param argument (.flags group) := ⟨_, fails, rfl⟩
  exact ⟨fails, convert_optional_of_passedOver passed, passed⟩

/-- Takes one token. -/
def oneToken : Converter := fun _ argument =>
  match (Line.nextToken .standard argument.toList).map Line.Reading.result with
  | some (.ok token) => .ok (.str (String.ofList token))
  | some (.error e) => .error (.input (.argumentParsing e))
  | none => .ok .none

/-- The built-in converters and one that takes a token. -/
def withTokens : Converters := Converters.builtin.register (.custom "words") oneToken

/-- A flag whose value is a token. -/
def tokenFlag : Flag Shape where
  name := "x"
  shape := .of (.custom "words")

/-- An invocation in a conversion of two. -/
def guest : Context where
  author := { id := 1, name := "" }
  origin := ⟨.direct, none, { id := 9, name := "" }⟩
  content := ""
  responder := .discard
  directory := .ofLists [] [] [] []

/-- An open mark in the value of a flag is passed over with the group. -/
theorem open_mark_in_flag_passed_over :
    Meets withTokens guest (.unclosed '"') ["x"] "p" (.optional (.flags ⟨[tokenFlag], none⟩))
        "x: \"open" ∧
      withTokens.convert guest "p" (.optional (.flags ⟨[tokenFlag], none⟩)) "x: \"open" =
        .ok .none := by
  have known : withTokens.get? (.custom "words") = some oneToken := rfl
  have fails : oneToken guest "\"open" = .error (.input (.argumentParsing (.unclosed '"'))) := rfl
  have read : FlagText.read ⟨[] ++ [tokenFlag], none⟩ withTokens.flagStyle "x: \"open".toList =
      .ok ⟨[], [(0, "\"open".toList)]⟩ := rfl
  have counted : tokenFlag.counted ["\"open".toList] = .ok ([] ++ "\"open".toList :: []) := rfl
  have meets : Meets withTokens guest (.unclosed '"') ["x"] "p" (.flags ⟨[tokenFlag], none⟩)
      "x: \"open" :=
    .flags read (by simp) counted (by simp) (by decide) (.of known fails)
  exact ⟨.optional meets, convert_optional_of_passedOver ⟨_, convert_flag_of_meets meets, rfl⟩⟩

end ChatCommands.HardFailures
