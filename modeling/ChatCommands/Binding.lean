import ChatCommands.Convert.Shape
import ChatCommands.Line.Cursor
import ChatCommands.Value.Args

/-!
Binding: the arguments of a command from the text after its name. Parameters
are served in order of declaration from one cursor. A plain parameter takes one
token, a greedy one as many as convert, and one that takes the rest, like a
group of flags, takes everything that is left as it stands. An optional
parameter whose token does not convert leaves the token to the next parameter.
-/

namespace ChatCommands

namespace Binding

open Line (Cursor)

/-- What a parameter is bound to when no argument is given. -/
def missing (ctx : Context) (p : Parameter) : Except CommandError Value :=
  match p.fallback ctx with
  | some v => .ok v
  | none => .error (.userInput (.missingRequiredArgument p.name))

/-- The fallback, leaving the cursor at `c`. -/
def missingAt (ctx : Context) (p : Parameter) (c : Cursor) : Except CommandError (Value × Cursor) :=
  (missing ctx p).map (·, c)

/-- Binds one token. -/
def bindOne (cs : Converters) (ctx : Context) (p : Parameter) (c : Cursor) :
    Except CommandError (Value × Cursor) :=
  match c.token with
  | (.error e, _) => .error (.userInput (.argumentParsing e))
  | (.ok none, next) => missingAt ctx p next
  | (.ok (some token), next) =>
    match cs.convert ctx p.name p.shape (String.ofList token) with
    | .error e => .error e
    | .ok v =>
      if v.isNone && p.shape.isOptional then missingAt ctx p (next.goTo c.position)
      else .ok (v, next)

/-- Binds everything that is left. -/
def bindRest (cs : Converters) (ctx : Context) (p : Parameter) (c : Cursor) :
    Except CommandError (Value × Cursor) :=
  let (all, next) := c.takeRest
  let rest := Text.trim all
  if rest.isEmpty && !p.shape.isFlags then missingAt ctx p next
  else
    match cs.convert ctx p.name p.shape (String.ofList rest) with
    | .error e => .error e
    | .ok v =>
      if v.isNone && p.shape.isOptional then missingAt ctx p next else .ok (v, next)

/-- Takes tokens as long as they convert to `inner`. The first that does not is left to the next
parameter. -/
def takeGreedy (cs : Converters) (ctx : Context) (param : String) (inner : Shape) (c : Cursor) :
    Except CommandError (List Value × Cursor) :=
  match h : c.token with
  | (.error e, _) => .error (.userInput (.argumentParsing e))
  | (.ok none, next) => .ok ([], next)
  | (.ok (some token), next) =>
    match cs.convert ctx param inner (String.ofList token) with
    | .error e => if e.isFinal then .error e else .ok ([], next.goTo c.position)
    | .ok v =>
      have := Line.Cursor.length_token h
      match takeGreedy cs ctx param inner next with
      | .error e => .error e
      | .ok (vs, last) => .ok (v :: vs, last)
termination_by c.left.length

section

variable {cs : Converters} {ctx : Context} {param : String} {inner : Shape} {c next : Cursor}

theorem takeGreedy_of_failed {e : TokenError} (read : c.token = (.error e, next)) :
    takeGreedy cs ctx param inner c = .error (.userInput (.argumentParsing e)) := by
  rw [takeGreedy]
  split <;> simp_all

theorem takeGreedy_of_end (read : c.token = (.ok none, next)) :
    takeGreedy cs ctx param inner c = .ok ([], next) := by
  rw [takeGreedy]
  split <;> simp_all

theorem takeGreedy_of_token {token : List Char} (read : c.token = (.ok (some token), next)) :
    takeGreedy cs ctx param inner c =
      match cs.convert ctx param inner (String.ofList token) with
      | .error e => if e.isFinal then .error e else .ok ([], next.goTo c.position)
      | .ok v =>
        match takeGreedy cs ctx param inner next with
        | .error e => .error e
        | .ok (vs, last) => .ok (v :: vs, last) := by
  rw [takeGreedy]
  split <;> simp_all

end

/-- Binds as many tokens as convert, at least one. -/
def bindGreedy (cs : Converters) (ctx : Context) (p : Parameter) (inner : Shape) (c : Cursor) :
    Except CommandError (Value × Cursor) :=
  match takeGreedy cs ctx p.name inner c with
  | .error e => .error e
  | .ok ([], next) => missingAt ctx p next
  | .ok (v :: vs, next) => .ok (.list (v :: vs), next)

/-- Binds one parameter. -/
def bindParameter (cs : Converters) (ctx : Context) (p : Parameter) (c : Cursor) :
    Except CommandError (Value × Cursor) :=
  if p.takesRest || p.shape.isFlags then bindRest cs ctx p c
  else
    match p.shape with
    | .greedy inner => bindGreedy cs ctx p inner c
    | _ => bindOne cs ctx p c

/-- Binds parameters in order. -/
def bindParameters (cs : Converters) (ctx : Context) :
    List Parameter → Cursor → Except CommandError (Args × Cursor)
  | [], c => .ok ([], c)
  | p :: rest, c =>
    match bindParameter cs ctx p c with
    | .error e => .error e
    | .ok (v, next) =>
      match bindParameters cs ctx rest next with
      | .error e => .error e
      | .ok (args, last) => .ok ((p.name, v) :: args, last)

/-- Binds the parameters of the command `command` to the text after its name. Text left after the
last parameter is refused unless `ignoreExtra`. -/
def bind (cs : Converters) (quotes : QuoteSet) (ctx : Context) (command : String)
    (params : List Parameter) (ignoreExtra : Bool) : Except CommandError Args :=
  match bindParameters cs ctx params (Cursor.start quotes ctx.remaining) with
  | .error e => .error e
  | .ok (args, last) =>
    if !ignoreExtra && !last.skipBlanks.atEnd then
      .error (.userInput (.tooManyArguments command))
    else .ok args

end Binding

end ChatCommands
