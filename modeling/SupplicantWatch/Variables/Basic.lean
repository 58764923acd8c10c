import SupplicantWatch.Setting.Basic
import SupplicantWatch.Table
import SupplicantWatch.Text.Scan

/-!
# Environment variables

The variables of an environment in the order in which they were set, and the settings that some of
them override. Main statement: `get?_add_of_isSome`, a variable that has been set keeps its value.
-/

namespace SupplicantWatch

/-- The names and values of environment variables, in the order in which they were set. -/
structure Variables where
  toList : List (String × String)
deriving DecidableEq, Repr

namespace Variables

def get? (v : Variables) (name : String) : Option String :=
  v.toList.lookup name

/-- Sets a variable unless it has been set. -/
def add (name value : String) (v : Variables) : Variables :=
  if (v.get? name).isSome then v else ⟨v.toList ++ [(name, value)]⟩

/-- How the names of the variables that override settings begin, in any case. -/
def settingMark : String :=
  "wpa_monitor__"

/-- The small letter of a capital letter of ASCII, and of the sign of the kelvin, the one capital
letter besides them whose small letter is in ASCII. -/
def smallLetter (c : Char) : Char :=
  if c = '\u212a' then 'k' else c.toLower

/-- The text with a point for each two lines. -/
def joinLines : List Char → List Char
  | '_' :: '_' :: s => '.' :: joinLines s
  | c :: s => c :: joinLines s
  | [] => []

def settingKey? (name : String) : Option String :=
  (List.isPrefixOf? settingMark.toList (name.toList.map smallLetter)).map fun key =>
    String.ofList (joinLines key)

/-- The setting in the value of a variable: a truth value in any case, a whole number, a
floating-point number, or else the text as it is. -/
def settingOf (value : String) : Setting :=
  let lower := value.map Char.toLower
  if lower = "true" then .bool true
  else if lower = "false" then .bool false
  else match Text.int? 64 value.toList, Binary64.ofText? value.toList with
    | some n, _ => .int n
    | none, some x => .float x
    | none, none => .string value

/-- The settings that the variables override. Of several variables for one key the last counts. -/
def overrides (v : Variables) : Table Setting :=
  .ofList (v.toList.filterMap fun (name, value) =>
    -- Names that differ in case alone make the same key.
    (settingKey? name).map fun key => (key, settingOf value))

theorem get?_add_of_isSome {v : Variables} {name : String} (h : (v.get? name).isSome)
    (name' value : String) : (v.add name' value).get? name = v.get? name := by
  unfold add
  split
  · rfl
  · exact List.lookup_append.trans (Option.or_of_isSome h)

end Variables

end SupplicantWatch
