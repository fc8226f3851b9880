import ChatCommands.Proofs.HardFailures
import ChatCommands.Proofs.InvocationCourse

/-! What failures are counted as. An invocation that is refused by a check, or whose arguments
cannot be bound, is counted under a kind of its own: never as one that a limit refused, that failed
in its body, or whose command was not found. Converters have no say in this, whatever they do. -/
namespace ChatCommands.FailureKinds
open Converters HardFailures Binding Dispatcher

variable {σ : Type} {cs : Converters} {ctx : Context} {failure : CommandError}
  {param argument : String}

/-- Failures to bind arguments. -/
inductive OfArguments : CommandError → Prop where
  | userInput (error : UserInputError) : OfArguments (.userInput error)
  | conversion (param converter : String) (source : Fault) :
      OfArguments (.conversion param converter source)
  | panicked : OfArguments .panicked

/-! ## Conversion -/

theorem ofArguments_of_convertKind {kind : Kind}
    (failed : cs.convertKind ctx param kind argument = .error failure) : OfArguments failure := by
  unfold convertKind at failed
  split at failed
  · cases failed
    exact .conversion _ _ _
  · split at failed <;> cases failed
    · exact .userInput _
    · exact .conversion _ _ _

theorem ofArguments_of_read {group : FlagGroup Shape} {style : FlagStyle} {chars : List Char}
    (failed : FlagText.read group style chars = .error failure) : OfArguments failure := by
  simp only [FlagText.read] at failed
  split at failed
  · cases failed
    exact .userInput _
  · split at failed
    · cases failed
      exact .userInput _
    · split at failed <;> cases failed
      exact .panicked

theorem ofArguments_of_convertValue {flag : Flag Shape}
    {convert : String → Except CommandError Value} {value : List Char}
    (failed : flag.convertValue convert value = .error failure) : OfArguments failure := by
  unfold Flag.convertValue at failed
  split at failed
  · split_ifs at failed
    cases failed
    exact .userInput _
  · split at failed <;> cases failed
    · exact .panicked
    · exact .userInput _

theorem ofArguments_of_bindFlag {flag : Flag Shape} {convert : String → Except CommandError Value}
    {given : List (List Char)} (failed : flag.bind ctx convert given = .error failure) :
    OfArguments failure := by
  unfold Flag.bind at failed
  split at failed
  · split at failed <;> cases failed
    exact .userInput _
  · split at failed
    · cases failed
      exact .userInput _
    · split at failed
      · cases failed
        obtain ⟨value, -, fails⟩ := error_of_mapM ‹_›
        exact ofArguments_of_convertValue fails
      · contradiction

theorem ofArguments_of_convertFlags {flags : List (Flag Shape)} {text : FlagText} {position : Nat}
    {entries : List (String × Value)}
    (failed : cs.convertFlags ctx flags text position entries = .error failure) :
    OfArguments failure := by
  induction flags generalizing position entries with
  | nil => simp [convertFlags] at failed
  | cons flag rest ih =>
    simp only [convertFlags] at failed
    split at failed
    · rename_i reason fails
      cases failed
      rw [convertFlag] at fails
      exact ofArguments_of_bindFlag fails
    · exact ih failed

theorem ofArguments_of_convertGroup {group : FlagGroup Shape}
    (failed : cs.convertGroup ctx group argument = .error failure) : OfArguments failure := by
  obtain ⟨flags, style⟩ := group
  simp only [convertGroup] at failed
  split at failed
  · cases failed
    exact ofArguments_of_read ‹_›
  · rename_i text read
    cases bound : cs.convertFlags ctx flags text 0 [] with
    | ok entries => simp [bound, Except.map] at failed
    | error reason =>
      rw [bound] at failed
      cases failed
      exact ofArguments_of_convertFlags bound

mutual

theorem ofArguments_of_convert : (shape : Shape) → {param argument : String} →
    cs.convert ctx param shape argument = .error failure → OfArguments failure
  | .of kind, param, argument, failed => by
    rw [convert] at failed
    exact ofArguments_of_convertKind failed
  | .optional inner, param, argument, failed => by
    simp only [convert] at failed
    split at failed
    · contradiction
    · rename_i reason fails
      split_ifs at failed
      cases failed
      exact ofArguments_of_convert inner fails
  | .union alternatives, param, argument, failed => by
    simp only [convert] at failed
    split at failed
    · contradiction
    · cases failed
      exact .userInput _
    · rename_i reason fails
      cases failed
      exact ofArguments_among alternatives fails
  | .literal values, param, argument, failed => by
    rw [convert, Convert.literal] at failed
    split at failed <;> cases failed
    exact .userInput _
  | .greedy inner, param, argument, failed => by
    rw [convert] at failed
    exact ofArguments_of_convert inner failed
  | .flags group, param, argument, failed => by
    rw [convert] at failed
    exact ofArguments_of_convertGroup failed

theorem ofArguments_among : (shapes : List Shape) → {param argument : String} →
    cs.convertFirst ctx param shapes argument = .error failure → OfArguments failure
  | [], param, argument, failed => by simp [convertFirst] at failed
  | first :: rest, param, argument, failed => by
    simp only [convertFirst] at failed
    split at failed
    · contradiction
    · rename_i reason fails
      split at failed
      · cases failed
        exact ofArguments_of_convert first fails
      · split at failed
        · contradiction
        · contradiction
        · rename_i later others
          cases failed
          exact ofArguments_among rest others

end

/-! ## Binding -/

section binding

variable {p : Parameter} {c : Line.Cursor}

theorem ofArguments_of_missingAt (failed : missingAt ctx p c = .error failure) :
    OfArguments failure := by
  unfold missingAt missing at failed
  split at failed <;> cases failed
  exact .userInput _

theorem ofArguments_of_bindOne (failed : bindOne cs ctx p c = .error failure) :
    OfArguments failure := by
  unfold bindOne at failed
  split at failed
  · cases failed
    exact .userInput _
  · exact ofArguments_of_missingAt failed
  · split at failed
    · cases failed
      exact ofArguments_of_convert _ ‹_›
    · split_ifs at failed
      exact ofArguments_of_missingAt failed

theorem ofArguments_of_bindRest (failed : bindRest cs ctx p c = .error failure) :
    OfArguments failure := by
  simp only [bindRest] at failed
  split at failed
  · exact ofArguments_of_missingAt failed
  · split at failed
    · cases failed
      exact ofArguments_of_convert _ ‹_›
    · split_ifs at failed
      exact ofArguments_of_missingAt failed

theorem ofArguments_of_takeGreedy {inner : Shape}
    (failed : takeGreedy cs ctx param inner c = .error failure) : OfArguments failure := by
  fun_induction takeGreedy cs ctx param inner c with
  | case1 c e _ read =>
    cases failed
    exact .userInput _
  | case2 => contradiction
  | case3 c token next read e fails hard =>
    cases failed
    exact ofArguments_of_convert _ fails
  | case4 => contradiction
  | case5 c token next read v converted shorter e fails ih =>
    cases failed
    exact ih fails
  | case6 => contradiction

theorem ofArguments_of_bindParameter (failed : bindParameter cs ctx p c = .error failure) :
    OfArguments failure := by
  unfold bindParameter at failed
  split at failed
  · exact ofArguments_of_bindRest failed
  · split at failed
    · unfold bindGreedy at failed
      split at failed
      · cases failed
        exact ofArguments_of_takeGreedy ‹_›
      · exact ofArguments_of_missingAt failed
      · contradiction
    · exact ofArguments_of_bindOne failed

theorem ofArguments_of_bindParameters {params : List Parameter}
    (failed : bindParameters cs ctx params c = .error failure) : OfArguments failure := by
  induction params generalizing c with
  | nil => contradiction
  | cons p rest ih =>
    unfold bindParameters at failed
    split at failed
    · cases failed
      exact ofArguments_of_bindParameter ‹_›
    · split at failed
      · cases failed
        exact ih ‹_›
      · contradiction

/-- Whatever the converters do, arguments fail to be bound for a reason of their own. -/
theorem ofArguments_of_bind {quotes : QuoteSet} {command : String} {params : List Parameter}
    {ignoreExtra : Bool} (failed : bind cs quotes ctx command params ignoreExtra = .error failure) :
    OfArguments failure := by
  unfold Binding.bind at failed
  split at failed
  · cases failed
    exact ofArguments_of_bindParameters ‹_›
  · split_ifs at failed
    cases failed
    exact .userInput _

end binding

/-! ## Kinds -/

/-- The kinds of failures that come neither from a check nor from the arguments. -/
def ownKinds : List String :=
  ["command_on_cooldown", "max_concurrency_reached", "command_invoke_error", "command_not_found"]

theorem code_of_ofArguments (own : OfArguments failure) : failure.code ∉ ownKinds := by
  cases own with
  | userInput error => cases error <;> simp [CommandError.code, UserInputError.code, ownKinds]
  | conversion | panicked => simp [CommandError.code, ownKinds]

theorem code_of_bind {quotes : QuoteSet} {command : String} {params : List Parameter}
    {ignoreExtra : Bool} (failed : bind cs quotes ctx command params ignoreExtra = .error failure) :
    failure.code ∉ ownKinds :=
  code_of_ofArguments (ofArguments_of_bind failed)

theorem code_of_passChecks {d : Dispatcher σ} {inv : Invocation σ} {s : Service σ}
    (refused : d.passChecks inv s = .error failure) : failure.code ∉ ownKinds := by
  unfold passChecks at refused
  split at refused
  · cases refused
    simp [CommandError.code, ownKinds]
  · split at refused
    · contradiction
    · rename_i reason fails
      cases refused
      cases reason <;> simp [CommandError.code, CheckFailure.code, ownKinds]

end ChatCommands.FailureKinds
