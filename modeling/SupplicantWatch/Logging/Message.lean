import SupplicantWatch.Text.Numeral

/-!
# Log messages

What is logged, and the text that shows it. Characters that could steer a terminal are written in
digits. Main statement: `shownChars_of_isPrintable`, a printable text is shown as it is.
-/

namespace SupplicantWatch.Logging

/-- How much a message matters, the weightiest first. -/
inductive Level where
  | error
  | warn
  | info
  | debug
  | trace
deriving DecidableEq, Repr

/-- The number of a level, from one for errors to five. -/
def Level.rank : Level → Nat
  | error => 1
  | warn => 2
  | info => 3
  | debug => 4
  | trace => 5

def Level.name : Level → String
  | error => "ERROR"
  | warn => "WARN"
  | info => "INFO"
  | debug => "DEBUG"
  | trace => "TRACE"

structure Message where
  level : Level
  target : String
  text : String
deriving DecidableEq, Repr

/-- The controls of ASCII that could steer a terminal. -/
def steeringControls : List Char :=
  ['\x07', '\x08', '\x0c', '\x1b', '\x7f']

/-- What shows a character: its code in digits if it could steer a terminal, else itself. -/
def shownChar (c : Char) : List Char :=
  if c ∈ steeringControls then ['\\', 'x'] ++ Text.hexByte (UInt8.ofNat c.toNat)
  else if 0x80 ≤ c.toNat ∧ c.toNat ≤ 0x9f then
    ['\\', 'u', '\x7b'] ++ Nat.toDigits 16 c.toNat ++ ['\x7d']
  else [c]

def Message.shown (m : Message) : String :=
  m.level.name ++ " " ++ String.ofList (m.text.toList.flatMap shownChar)

def isPrintable (c : Char) : Bool :=
  0x20 ≤ c.toNat && c.toNat ≤ 0x7e

/-- A printable text is shown as it is. -/
theorem shownChars_of_isPrintable {s : List Char} (h : s.all isPrintable = true) :
    s.flatMap shownChar = s := by
  induction s with
  | nil => rfl
  | cons c s ih =>
    simp only [List.all_cons, Bool.and_eq_true] at h
    have hc := h.1
    simp only [isPrintable, Bool.and_eq_true, decide_eq_true_eq] at hc
    have hs : c ∉ steeringControls := by
      intro hm
      simp only [steeringControls, List.mem_cons, List.not_mem_nil, or_false] at hm
      rcases hm with rfl | rfl | rfl | rfl | rfl <;> simp at hc
    rw [List.flatMap_cons, ih h.2, shownChar, if_neg hs, if_neg (by omega)]
    rfl

end SupplicantWatch.Logging
