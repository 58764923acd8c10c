import SupplicantWatch.Dialogue
import SupplicantWatch.Text.Scan

/-!
# Scripted daemons

A daemon that replies from a script: a command is answered by the first rule whose start it has,
with the next of that rule's replies.
-/

namespace SupplicantWatch

/-- A rule of a script: which commands it answers, and the replies that are left. -/
structure ScriptRule (ρ : Type) where
  start : String
  replies : List ρ

/-- The rules of a scripted daemon, in the order in which they are tried. -/
abbrev Script (ρ : Type) : Type :=
  List (ScriptRule ρ)

/-- The reply to a command, if the rule that answers it has one left, and the script afterwards. -/
def Script.reply {ρ : Type} (command : String) : Script ρ → Option ρ × Script ρ
  | [] => (none, [])
  | rule :: rules =>
    if rule.start.toList.isPrefixOf command.toList then
      (rule.replies.head?, { rule with replies := rule.replies.tail } :: rules)
    else
      let (reply, rules) := Script.reply command rules
      (reply, rule :: rules)

/-- The daemon that replies to queries from a script, in which a reply may be missing. -/
def Script.daemon : Daemon (Script (Option String)) :=
  fun script command =>
    let (reply, script) := script.reply command
    (reply.join, script)

end SupplicantWatch
