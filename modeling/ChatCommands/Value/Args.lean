import ChatCommands.Value.Printing

/-!
The bound arguments of an invocation: values by parameter name, in the order in
which the parameters were declared.
-/

namespace ChatCommands

/-- Values by parameter name, in declaration order. -/
abbrev Args := List (String × Value)

namespace Args

/-- The value of a parameter. -/
def get? (args : Args) (name : String) : Option Value := args.lookup name

end Args

end ChatCommands
