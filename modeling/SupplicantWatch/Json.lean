import SupplicantWatch.Text.Numeral

/-!
# JSON values

Values as they are written out: objects keep the order of their fields, numbers are whole, and the
text holds no white space. Main statement: the text of a value holds no control character, so a
value is written on one line.
-/

namespace SupplicantWatch

/-- A JSON value whose numbers are whole. -/
inductive Json where
  | null
  | bool (b : Bool)
  | int (n : Int)
  | string (s : String)
  | array (items : List Json)
  | object (fields : List (String × Json))

namespace Json

def intChars (n : Int) : List Char :=
  if n < 0 then '-' :: Nat.toDigits 10 n.natAbs else Nat.toDigits 10 n.natAbs

/-- The characters that have an escape of their own, each with the letter of that escape. -/
def shortEscapes : List (Char × Char) :=
  [('\x22', '\x22'), ('\\', '\\'), ('\x08', 'b'), ('\x09', 't'), ('\x0a', 'n'), ('\x0c', 'f'),
   ('\x0d', 'r')]

/-- The form of one character between double quotes: the quote, the backslash and the ASCII
controls are escaped, everything else stands for itself. -/
def escapeChar (c : Char) : List Char :=
  match shortEscapes.find? (·.1 = c) with
  | some (_, letter) => ['\\', letter]
  | none =>
    if c.toNat < 32 then
      ['\\', 'u', '0', '0', Nat.digitChar (c.toNat / 16), Nat.digitChar (c.toNat % 16)]
    else [c]

def stringChars (s : String) : List Char :=
  '\x22' :: s.toList.flatMap escapeChar ++ ['\x22']

mutual

def toChars : Json → List Char
  | null => "null".toList
  | bool true => "true".toList
  | bool false => "false".toList
  | int n => intChars n
  | string s => stringChars s
  | array items => '[' :: itemChars items ++ [']']
  | object fields => '\x7b' :: fieldChars fields ++ ['\x7d']

/-- The texts of the items of an array, with commas between them. -/
def itemChars : List Json → List Char
  | [] => []
  | [item] => toChars item
  | item :: items => toChars item ++ ',' :: itemChars items

/-- The texts of the fields of an object, with commas between them. -/
def fieldChars : List (String × Json) → List Char
  | [] => []
  | [(name, value)] => stringChars name ++ ':' :: toChars value
  | (name, value) :: fields => stringChars name ++ ':' :: toChars value ++ ',' :: fieldChars fields

end

def render (value : Json) : String :=
  String.ofList value.toChars

private theorem le_digitChar {n : Nat} (h : n < 16) : 32 ≤ n.digitChar.toNat := by
  have all : ∀ k < 16, 32 ≤ (Nat.digitChar k).toNat := by decide
  exact all n h

private theorem le_of_isDigit {c : Char} (h : c.isDigit = true) : 32 ≤ c.toNat := by
  rw [Char.isDigit, Bool.and_eq_true, decide_eq_true_iff] at h
  have hlo : 48 ≤ c.toNat := h.1
  omega

private theorem le_escapeChar (x : Char) : ∀ c ∈ escapeChar x, 32 ≤ c.toNat := by
  intro c hc
  unfold escapeChar at hc
  split at hc
  · next code letter h =>
    have all : ∀ p ∈ shortEscapes, 32 ≤ p.2.toNat := by decide
    have hl := all _ (List.mem_of_find?_eq_some h)
    simp only [List.mem_cons, List.not_mem_nil, or_false] at hc
    rcases hc with rfl | rfl
    · decide
    · exact hl
  · split at hc
    · next h =>
      simp only [List.mem_cons, List.not_mem_nil, or_false] at hc
      rcases hc with rfl | rfl | rfl | rfl | rfl | rfl
      · decide
      · decide
      · decide
      · decide
      · exact le_digitChar (by omega)
      · exact le_digitChar (by omega)
    · rw [List.mem_singleton.1 hc]
      omega

private theorem le_stringChars (s : String) : ∀ c ∈ stringChars s, 32 ≤ c.toNat := by
  intro c hc
  unfold stringChars at hc
  rcases List.mem_append.1 hc with hc | hc
  · rcases List.mem_cons.1 hc with rfl | hc
    · decide
    · obtain ⟨x, _, hx⟩ := List.mem_flatMap.1 hc
      exact le_escapeChar x c hx
  · rw [List.mem_singleton.1 hc]
    decide

private theorem le_of_mem {s : List Char} {c : Char} (hc : c ∈ s)
    (h : s.all (32 ≤ ·.toNat) = true) : 32 ≤ c.toNat := by
  simpa using List.all_eq_true.1 h c hc

mutual

/-- The text of a value holds no control character below the space. -/
theorem le_toChars (value : Json) : ∀ c ∈ value.toChars, 32 ≤ c.toNat := by
  intro c hc
  match value with
  | null =>
    rw [toChars] at hc
    exact le_of_mem hc (by decide)
  | bool true =>
    rw [toChars] at hc
    exact le_of_mem hc (by decide)
  | bool false =>
    rw [toChars] at hc
    exact le_of_mem hc (by decide)
  | int n =>
    unfold toChars intChars at hc
    split at hc
    · rcases List.mem_cons.1 hc with rfl | hc
      · decide
      · exact le_of_isDigit (Nat.isDigit_of_mem_toDigits (by omega) (by omega) hc)
    · exact le_of_isDigit (Nat.isDigit_of_mem_toDigits (by omega) (by omega) hc)
  | string s => exact le_stringChars s c (by simpa [toChars] using hc)
  | array items =>
    unfold toChars at hc
    rcases List.mem_append.1 hc with hc | hc
    · rcases List.mem_cons.1 hc with rfl | hc
      · decide
      · exact le_itemChars items c hc
    · rw [List.mem_singleton.1 hc]
      decide
  | object fields =>
    unfold toChars at hc
    rcases List.mem_append.1 hc with hc | hc
    · rcases List.mem_cons.1 hc with rfl | hc
      · decide
      · exact le_fieldChars fields c hc
    · rw [List.mem_singleton.1 hc]
      decide

theorem le_itemChars (items : List Json) : ∀ c ∈ itemChars items, 32 ≤ c.toNat := by
  intro c hc
  match items with
  | [] => simp [itemChars] at hc
  | [item] => exact le_toChars item c (by simpa [itemChars] using hc)
  | item :: item' :: items =>
    unfold itemChars at hc
    rcases List.mem_append.1 hc with hc | hc
    · exact le_toChars item c hc
    · rcases List.mem_cons.1 hc with rfl | hc
      · decide
      · exact le_itemChars (item' :: items) c hc

theorem le_fieldChars (fields : List (String × Json)) : ∀ c ∈ fieldChars fields, 32 ≤ c.toNat := by
  intro c hc
  match fields with
  | [] => simp [fieldChars] at hc
  | [(name, value)] =>
    unfold fieldChars at hc
    rcases List.mem_append.1 hc with hc | hc
    · exact le_stringChars name c hc
    · rcases List.mem_cons.1 hc with rfl | hc
      · decide
      · exact le_toChars value c hc
  | (name, value) :: field :: fields =>
    unfold fieldChars at hc
    rcases List.mem_append.1 hc with hc | hc
    · rcases List.mem_append.1 hc with hc | hc
      · exact le_stringChars name c hc
      · rcases List.mem_cons.1 hc with rfl | hc
        · decide
        · exact le_toChars value c hc
    · rcases List.mem_cons.1 hc with rfl | hc
      · decide
      · exact le_fieldChars (field :: fields) c hc

end

def ofOption {α : Type} (f : α → Json) : Option α → Json
  | none => null
  | some a => f a

def nat (n : Nat) : Json :=
  int n

end Json

end SupplicantWatch
