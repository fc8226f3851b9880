import ChatCommands.Decimal.Binary64
import ChatCommands.Directory.Object

/-!
Argument values: what a converter makes of the text a user typed. `same` is the
equality of values: numbers compare as numbers, and a value made by a custom
converter equals only itself, which its token tells.
-/

namespace ChatCommands

/-- A converted argument. -/
inductive Value where
  /-- No value: an optional parameter that was not supplied. -/
  | none
  /-- A truth value. -/
  | bool (b : Bool)
  /-- A signed integer of 64 bits. -/
  | int (i : Int)
  /-- A double-precision number. -/
  | float (x : Decimal.Binary64)
  /-- A text. -/
  | str (s : String)
  /-- A user. -/
  | user (u : User)
  /-- A member. -/
  | member (m : Member)
  /-- A channel. -/
  | channel (c : Channel)
  /-- A role. -/
  | role (r : Role)
  /-- The values of a greedy parameter or of a repeatable flag. -/
  | list (values : List Value)
  /-- The values of a flag group by flag name, in ascending order of names. -/
  | flags (entries : List (String × Value))
  /-- What a custom converter made, told apart by `token`. -/
  | custom (token : Nat) (content : String)

namespace Value

/-- No value. -/
def isNone : Value → Bool
  | .none => true
  | _ => false

/-- The truth value. -/
def bool? : Value → Option Bool
  | .bool b => some b
  | _ => Option.none

/-- The integer. -/
def int? : Value → Option Int
  | .int i => some i
  | _ => Option.none

/-- The number; integers are widened. -/
def float? : Value → Option Decimal.Binary64
  | .float x => some x
  | .int i => some (Decimal.Binary64.ofInt i)
  | _ => Option.none

/-- The text. -/
def str? : Value → Option String
  | .str s => some s
  | _ => Option.none

/-- The user, or the user behind a member. -/
def user? : Value → Option User
  | .user u => some u
  | .member m => some m.user
  | _ => Option.none

/-- The member. -/
def member? : Value → Option Member
  | .member m => some m
  | _ => Option.none

/-- The channel. -/
def channel? : Value → Option Channel
  | .channel c => some c
  | _ => Option.none

/-- The role. -/
def role? : Value → Option Role
  | .role r => some r
  | _ => Option.none

/-- The values of a list. -/
def list? : Value → Option (List Value)
  | .list values => some values
  | _ => Option.none

/-- The values of a flag group. -/
def flags? : Value → Option (List (String × Value))
  | .flags entries => some entries
  | _ => Option.none

/-- What a custom converter made. -/
def custom? : Value → Option String
  | .custom _ content => some content
  | _ => Option.none

mutual

/-- Equality of values. -/
def same : Value → Value → Bool
  | .none, .none => true
  | .bool a, .bool b => a == b
  | .int a, .int b => a == b
  | .float a, .float b => a.same b
  | .str a, .str b => a == b
  | .user a, .user b => a == b
  | .member a, .member b => a == b
  | .channel a, .channel b => a == b
  | .role a, .role b => a == b
  | .list as, .list bs => sameList as bs
  | .flags as, .flags bs => sameEntries as bs
  | .custom a _, .custom b _ => a == b
  | _, _ => false

/-- Equality of lists of values. -/
def sameList : List Value → List Value → Bool
  | [], [] => true
  | a :: as, b :: bs => same a b && sameList as bs
  | _, _ => false

/-- Equality of flag values. -/
def sameEntries : List (String × Value) → List (String × Value) → Bool
  | [], [] => true
  | (n, a) :: as, (m, b) :: bs => n == m && same a b && sameEntries as bs
  | _, _ => false

end

end Value

end ChatCommands
