import ChatCommands.Text.Words

/-!
Telling whether a text addresses the agent. Of the texts that address it, the
longest that the message begins with counts; what follows is the command line.
-/

namespace ChatCommands

/-- The first of several texts that `cs` begins with, and what follows it. -/
def firstLead? (cs : List Char) : List String → Option (String × List Char)
  | [] => none
  | lead :: rest =>
    match Text.stripStart lead.toList cs with
    | some after => some (lead, after)
    | none => firstLead? cs rest

/-- The text that addresses the agent and the command line after it. The texts come longest first;
with none of them everything is a command line. Blanks before the line are refused unless
`mayStrip`. -/
def splitLead? (leads : List String) (mayStrip : Bool) (content : String) :
    Option (String × String) :=
  let found := if leads.isEmpty then some ("", content.toList) else firstLead? content.toList leads
  match found with
  | none => none
  | some (lead, rest) =>
    if !mayStrip && (rest.head?.any Text.isBlank) then none
    else some (lead, String.ofList (Text.trimStart rest))

end ChatCommands
