import Mathlib.Data.List.TakeWhile
import Mathlib.Tactic.Common
import SupplicantWatch.Json.Document
import SupplicantWatch.Proofs.Text.Decimal

/-!
# Values and their texts

No two values have the same text. A text is read from the front: the first character tells what
shape of value it is, strings, arrays and objects show where they end, and a number ends where the
digits end. Main statements: `string?_stringChars`, a string that is written reads back, and
`render_injective`.
-/

namespace SupplicantWatch.Json

variable {α : Type} {s t : List Char}

/-! ### Strings -/

/-- The three ways in which a character is written between quotes. -/
lemma escapeChar_cases (c : Char) :
    (∃ letter, escapeChar c = ['\\', letter] ∧ letter ≠ 'u' ∧ letter? letter = some c)
      ∨ (c.toNat < 32
        ∧ escapeChar c
          = ['\\', 'u', '0', '0', Nat.digitChar (c.toNat / 16), Nat.digitChar (c.toNat % 16)])
      ∨ (escapeChar c = [c] ∧ c ≠ '\x22' ∧ c ≠ '\\' ∧ ¬c.toNat < 32) := by
  have hletter : ∀ row ∈ shortEscapes, row.2 ≠ 'u' := by decide
  have hquote : '\x22' ∈ shortEscapes.map (·.1) := by decide
  have hbackslash : '\\' ∈ shortEscapes.map (·.1) := by decide
  cases hfind : shortEscapes.find? (·.1 = c) with
  | some row =>
    have hescape : escapeChar c = ['\\', row.2] := by
      rw [escapeChar, hfind]
    exact .inl ⟨row.2, hescape, hletter row (List.mem_of_find?_eq_some hfind),
      letter?_escapeChar hescape⟩
  | none =>
    have hne {x : Char} (hx : x ∈ shortEscapes.map (·.1)) : c ≠ x := by
      rintro rfl
      obtain ⟨row, hmem, hrow⟩ := List.mem_map.1 hx
      exact List.find?_eq_none.1 hfind row hmem (decide_eq_true hrow)
    rw [escapeChar, hfind]
    dsimp only
    split_ifs with h
    · exact .inr (.inl ⟨h, rfl⟩)
    · exact .inr (.inr ⟨rfl, hne hquote, hne hbackslash, h⟩)

private lemma digits?_control : ∀ k < 32,
    Text.digits? 16 ['0', '0', Nat.digitChar (k / 16), Nat.digitChar (k % 16)] = some k := by
  decide +kernel

/-- A character that is written between quotes reads back. -/
lemma string?_escapeChar (c : Char) (bound : Nat) (rest : List Char) :
    string? (bound + 1) (escapeChar c ++ rest)
      = (string? bound rest).map fun (front, rest) => (c :: front, rest) := by
  have hmap : (do let (front, rest) ← string? bound rest; return (c :: front, rest))
      = (string? bound rest).map fun (front, rest) => (c :: front, rest) := by
    cases string? bound rest <;> rfl
  rcases escapeChar_cases c with ⟨letter, he, hu, hl⟩ | ⟨hc, he⟩ | ⟨he, hquote, hbackslash, hc⟩
  · rw [he, List.cons_append, string?, if_neg (by decide), if_neg (by decide),
      if_neg (by decide)]
    dsimp only [List.cons_append, List.nil_append]
    split
    · next heq =>
      cases heq
      exact absurd rfl hu
    · next heq =>
      cases heq
      rw [hl]
      exact hmap
    · next heq => cases heq
  · have hunits : units? ('0' :: '0' :: Nat.digitChar (c.toNat / 16)
        :: Nat.digitChar (c.toNat % 16) :: rest) = some (c, rest) := by
      have hunit : unit? ('0' :: '0' :: Nat.digitChar (c.toNat / 16)
          :: Nat.digitChar (c.toNat % 16) :: rest) = some (c.toNat, rest) :=
        congrArg (Option.map fun n => (n, rest)) (digits?_control c.toNat hc)
      have hvalid : c.toNat.isValidChar := c.valid
      rw [units?, hunit]
      simp [hvalid]
    rw [he, List.cons_append, string?, if_neg (by decide), if_neg (by decide),
      if_neg (by decide)]
    dsimp only [List.cons_append, List.nil_append]
    split
    · next heq =>
      cases heq
      rw [hunits]
      exact hmap
    · next hne heq =>
      cases heq
      exact (hne rfl).elim
    · next heq => cases heq
  · rw [he, List.singleton_append, string?, if_neg hquote, if_neg hc, if_pos hbackslash]
    exact hmap

/-- A string that is written reads back. -/
theorem string?_stringChars (chars : List Char) {bound : Nat} (h : chars.length < bound)
    (rest : List Char) :
    string? bound (chars.flatMap escapeChar ++ '\x22' :: rest) = some (chars, rest) := by
  induction chars generalizing bound with
  | nil =>
    cases bound with
    | zero => cases h
    | succ bound => rfl
  | cons c chars ih =>
    cases bound with
    | zero => cases h
    | succ bound =>
      rw [List.flatMap_cons, List.append_assoc, string?_escapeChar, ih (Nat.lt_of_succ_lt_succ h)]
      rfl

lemma eq_of_stringChars_append {a b : String} (h : stringChars a ++ s = stringChars b ++ t) :
    a = b ∧ s = t := by
  have hread (a : String) (s : List Char) (bound : Nat) (ha : a.toList.length < bound) :
      string? bound (stringChars a ++ s).tail = some (a.toList, s) := by
    rw [stringChars, List.cons_append, List.cons_append, List.tail_cons, List.append_assoc]
    exact string?_stringChars a.toList ha s
  have ha := hread a s (a.toList.length + b.toList.length + 1) (by omega)
  rw [h, hread b t _ (by omega), Option.some.injEq, Prod.mk.injEq, String.toList_inj] at ha
  exact ⟨ha.1.symm, ha.2.symm⟩

/-! ### Numbers -/

/-- A number in front of the text ends there. -/
def EndsNumber (s : List Char) : Prop :=
  ∀ c, s.head? = some c → Char.isDigit c = false

lemma endsNumber_cons {c : Char} (h : Char.isDigit c = false) : EndsNumber (c :: s) := by
  rintro _ ⟨⟩
  exact h

lemma endsNumber_nil : EndsNumber [] :=
  nofun

private lemma takeWhile_toDigits_append (n : Nat) (hs : EndsNumber s) :
    (Nat.toDigits 10 n ++ s).takeWhile Char.isDigit = Nat.toDigits 10 n := by
  rw [List.takeWhile_append_of_pos fun _ =>
    Nat.isDigit_of_mem_toDigits (by omega) (by omega)]
  cases s with
  | nil => rw [List.takeWhile_nil, List.append_nil]
  | cons c s =>
    rw [List.takeWhile_cons_of_neg (by rw [hs c rfl]; exact Bool.false_ne_true), List.append_nil]

lemma eq_of_toDigits_append {m n : Nat} (hs : EndsNumber s) (ht : EndsNumber t)
    (h : Nat.toDigits 10 m ++ s = Nat.toDigits 10 n ++ t) : m = n ∧ s = t := by
  have hdigits := congrArg (List.takeWhile Char.isDigit) h
  rw [takeWhile_toDigits_append m hs, takeWhile_toDigits_append n ht] at hdigits
  have hvalue := congrArg (Text.digits? 10) hdigits
  rw [Text.digits?_toDigits (by omega) (by omega), Text.digits?_toDigits (by omega) (by omega)]
    at hvalue
  rw [hdigits] at h
  exact ⟨Option.some.inj hvalue, List.append_cancel_left h⟩

/-- The digits of a number begin with a digit. -/
private lemma exists_toDigits_eq_cons (n : Nat) :
    ∃ c rest, Nat.toDigits 10 n = c :: rest ∧ Char.isDigit c = true := by
  cases hdigits : Nat.toDigits 10 n with
  | nil =>
    have hvalue := Text.digits?_toDigits (by omega : 2 ≤ 10) (by omega) n
    rw [hdigits] at hvalue
    cases hvalue
  | cons c rest =>
    have hmem : c ∈ Nat.toDigits 10 n := hdigits ▸ List.mem_cons_self
    exact ⟨c, rest, rfl, Nat.isDigit_of_mem_toDigits (by omega) (by omega) hmem⟩

private lemma toDigits_append_ne (n : Nat) : Nat.toDigits 10 n ++ s ≠ '-' :: t := by
  obtain ⟨c, rest, hdigits, hc⟩ := exists_toDigits_eq_cons n
  rw [hdigits]
  rintro ⟨⟩
  cases hc

lemma eq_of_intChars_append {m n : Int} (hs : EndsNumber s) (ht : EndsNumber t)
    (h : intChars m ++ s = intChars n ++ t) : m = n ∧ s = t := by
  unfold intChars at h
  split_ifs at h with hm hn hn
  · obtain ⟨habs, rfl⟩ := eq_of_toDigits_append hs ht (List.cons.inj h).2
    exact ⟨by omega, rfl⟩
  · exact absurd h.symm (toDigits_append_ne _)
  · exact absurd h (toDigits_append_ne _)
  · obtain ⟨habs, rfl⟩ := eq_of_toDigits_append hs ht h
    exact ⟨by omega, rfl⟩

/-! ### Texts that show where they end -/

/-- Where a text of such form begins with the form of `a`, it begins with no other form. -/
def Cancels (f : α → List Char) (a : α) : Prop :=
  ∀ b s t, EndsNumber s → EndsNumber t → f a ++ s = f b ++ t → a = b ∧ s = t

/-- The forms of some things with commas between them. -/
def separated (f : α → List Char) : List α → List Char
  | [] => []
  | a :: items => f a ++ items.flatMap fun b => ',' :: f b

private lemma endsNumber_flatMap (f : α → List Char) {close : Char}
    (hclose : Char.isDigit close = false) (items : List α) (s : List Char) :
    EndsNumber (items.flatMap (fun a => ',' :: f a) ++ close :: s) := by
  cases items with
  | nil => exact endsNumber_cons hclose
  | cons a items => exact endsNumber_cons (by decide)

@[simp] lemma separated_nil (f : α → List Char) : separated f [] = [] := rfl

@[simp] lemma separated_cons (f : α → List Char) (a : α) (items : List α) :
    separated f (a :: items) = f a ++ items.flatMap fun b => ',' :: f b := rfl

/-- Behind the first form there are more until the text closes. -/
private lemma cancels_flatMap {f : α → List Char} {close : Char} (hcomma : close ≠ ',')
    (hclose : Char.isDigit close = false) {items items' : List α} (h : ∀ a ∈ items, Cancels f a)
    (heq : items.flatMap (fun a => ',' :: f a) ++ close :: s
      = items'.flatMap (fun a => ',' :: f a) ++ close :: t) : items = items' ∧ s = t := by
  -- A comma stands where there is one more, and the closing character where there is none.
  induction items generalizing items' with
  | nil =>
    cases items' with
    | nil => exact ⟨rfl, (List.cons.inj heq).2⟩
    | cons b items' => exact absurd (List.cons.inj heq).1 hcomma
  | cons a items ih =>
    cases items' with
    | nil => exact absurd (List.cons.inj heq).1.symm hcomma
    | cons b items' =>
      rw [List.flatMap_cons, List.flatMap_cons, List.cons_append, List.cons_append,
        List.cons_append, List.cons_append, List.append_assoc, List.append_assoc] at heq
      obtain ⟨rfl, hrest⟩ :=
        h a List.mem_cons_self b _ _ (endsNumber_flatMap f hclose items s)
          (endsNumber_flatMap f hclose items' t) (List.cons.inj heq).2
      obtain ⟨rfl, rfl⟩ := ih (fun a ha => h a (List.mem_cons_of_mem _ ha)) hrest
      exact ⟨rfl, rfl⟩

/-- The forms of some things tell the things, if none of them begins as the text closes. -/
lemma cancels_separated {f : α → List Char} {close : Char} (hcomma : close ≠ ',')
    (hclose : Char.isDigit close = false) (hstart : ∀ a s t, f a ++ s ≠ close :: t)
    {items items' : List α} (h : ∀ a ∈ items, Cancels f a)
    (heq : separated f items ++ close :: s = separated f items' ++ close :: t) :
    items = items' ∧ s = t := by
  cases items with
  | nil =>
    cases items' with
    | nil => exact ⟨rfl, (List.cons.inj heq).2⟩
    | cons b items' =>
      rw [separated_nil, separated_cons, List.append_assoc] at heq
      exact absurd heq.symm (hstart _ _ _)
  | cons a items =>
    cases items' with
    | nil =>
      rw [separated_nil, separated_cons, List.append_assoc] at heq
      exact absurd heq (hstart _ _ _)
    | cons b items' =>
      rw [separated_cons, separated_cons, List.append_assoc, List.append_assoc] at heq
      obtain ⟨rfl, hrest⟩ :=
        h a List.mem_cons_self b _ _ (endsNumber_flatMap f hclose items s)
          (endsNumber_flatMap f hclose items' t) heq
      obtain ⟨rfl, rfl⟩ :=
        cancels_flatMap hcomma hclose (fun a ha => h a (List.mem_cons_of_mem _ ha)) hrest
      exact ⟨rfl, rfl⟩

lemma itemChars_eq (items : List Json) : itemChars items = separated toChars items := by
  induction items with
  | nil => rfl
  | cons item items ih =>
    cases items with
    | nil => rw [itemChars, separated_cons, List.flatMap_nil, List.append_nil]
    | cons item' items =>
      rw [itemChars, ih]
      · rfl
      · nofun

/-- The text of a field. -/
def fieldText (field : String × Json) : List Char :=
  stringChars field.1 ++ ':' :: toChars field.2

lemma fieldChars_eq (fields : List (String × Json)) :
    fieldChars fields = separated fieldText fields := by
  induction fields with
  | nil => rfl
  | cons field fields ih =>
    cases fields with
    | nil =>
      rw [fieldChars, separated_cons, List.flatMap_nil, List.append_nil]
      rfl
    | cons field' fields =>
      rw [fieldChars, ih]
      · simp [separated, fieldText]
      · nofun

/-! ### Values -/

/-- The shapes of values. -/
inductive Shape where
  | null
  | bool
  | int
  | string
  | array
  | object

/-- The shape of a value. -/
def shape : Json → Shape
  | null => .null
  | bool _ => .bool
  | int _ => .int
  | string _ => .string
  | array _ => .array
  | object _ => .object

/-- The shape of the value that begins with a character. -/
def shapeOf? (c : Char) : Option Shape :=
  if c = 'n' then some .null
  else if c = 't' ∨ c = 'f' then some .bool
  else if c = '\x22' then some .string
  else if c = '[' then some .array
  else if c = '\x7b' then some .object
  else if c = '-' ∨ Char.isDigit c then some .int
  else none

private lemma shapeOf?_of_isDigit {c : Char} (h : Char.isDigit c = true) :
    shapeOf? c = some .int := by
  have hne {x : Char} (hx : Char.isDigit x = false) : c ≠ x := by
    rintro rfl
    rw [h] at hx
    cases hx
  rw [shapeOf?, if_neg (hne (by decide)), if_neg (not_or.2 ⟨hne (by decide), hne (by decide)⟩),
    if_neg (hne (by decide)), if_neg (hne (by decide)), if_neg (hne (by decide)), if_pos (.inr h)]

/-- The first character of a value tells its shape. -/
lemma exists_toChars_eq_cons (a : Json) :
    ∃ c rest, a.toChars = c :: rest ∧ shapeOf? c = some a.shape := by
  cases a with
  | null => exact ⟨'n', _, by rw [toChars]; rfl, rfl⟩
  | bool b => cases b <;> exact ⟨_, _, by rw [toChars]; rfl, rfl⟩
  | int n =>
    rw [toChars, intChars]
    split_ifs
    · exact ⟨'-', _, rfl, rfl⟩
    · obtain ⟨c, rest, hdigits, hc⟩ := exists_toDigits_eq_cons n.natAbs
      exact ⟨c, rest, hdigits, shapeOf?_of_isDigit hc⟩
  | string s => exact ⟨_, _, by rw [toChars]; rfl, rfl⟩
  | array items => exact ⟨_, _, by rw [toChars]; rfl, rfl⟩
  | object fields => exact ⟨_, _, by rw [toChars]; rfl, rfl⟩

lemma shape_eq_of_append {a b : Json} (h : a.toChars ++ s = b.toChars ++ t) :
    a.shape = b.shape := by
  obtain ⟨c, rest, ha, hc⟩ := a.exists_toChars_eq_cons
  obtain ⟨c', rest', hb, hc'⟩ := b.exists_toChars_eq_cons
  rw [ha, hb] at h
  obtain ⟨rfl, -⟩ := List.cons.inj h
  exact Option.some.inj (hc.symm.trans hc')

/-- What holds of a value if it holds of its parts holds of every value. -/
@[elab_as_elim]
theorem induction {motive : Json → Prop} (null : motive null) (bool : ∀ b, motive (bool b))
    (int : ∀ n, motive (int n)) (string : ∀ s, motive (string s))
    (array : ∀ items, (∀ item ∈ items, motive item) → motive (array items))
    (object : ∀ fields, (∀ field ∈ fields, motive field.2) → motive (object fields))
    (a : Json) : motive a :=
  match a with
  | .null => null
  | .bool b => bool b
  | .int n => int n
  | .string s => string s
  | .array items => array items fun item _ => induction null bool int string array object item
  | .object fields =>
    object fields fun field _ => induction null bool int string array object field.2
termination_by sizeOf a
decreasing_by
  · have := List.sizeOf_lt_of_mem ‹_›
    simp only [Json.array.sizeOf_spec]
    omega
  · have := List.sizeOf_lt_of_mem ‹_›
    have : sizeOf field = 1 + sizeOf field.1 + sizeOf field.2 := rfl
    simp only [Json.object.sizeOf_spec]
    omega

lemma toChars_append_ne {close : Char} (hclose : shapeOf? close = none) (a : Json)
    (s t : List Char) : a.toChars ++ s ≠ close :: t := by
  obtain ⟨c, rest, ha, hc⟩ := a.exists_toChars_eq_cons
  rw [ha]
  rintro ⟨⟩
  rw [hclose] at hc
  cases hc

lemma fieldText_append_ne (field : String × Json) (s t : List Char) :
    fieldText field ++ s ≠ '\x7d' :: t :=
  fun h => absurd (List.cons.inj h).1 (by decide)

/-- A field tells its name and its value. -/
lemma cancels_fieldText {field : String × Json} (h : Cancels toChars field.2) :
    Cancels fieldText field := by
  intro field' s t hs ht heq
  rw [fieldText, fieldText, List.append_assoc, List.append_assoc] at heq
  obtain ⟨hname, hrest⟩ := eq_of_stringChars_append heq
  obtain ⟨hvalue, rfl⟩ := h field'.2 s t hs ht (List.cons.inj hrest).2
  exact ⟨Prod.ext hname hvalue, rfl⟩

/-- Where a text begins with a value, it begins with no other value. -/
theorem cancels_toChars (a : Json) : Cancels toChars a := by
  induction a using induction with
  | null =>
    intro b s t hs ht h
    have hshape := shape_eq_of_append h
    cases b with
    | null => exact ⟨rfl, List.append_cancel_left h⟩
    | _ => cases hshape
  | bool a =>
    intro b s t hs ht h
    have hshape := shape_eq_of_append h
    cases b with
    | bool b =>
      cases a <;> cases b
      · exact ⟨rfl, List.append_cancel_left h⟩
      · exact absurd (List.cons.inj h).1 (by decide)
      · exact absurd (List.cons.inj h).1 (by decide)
      · exact ⟨rfl, List.append_cancel_left h⟩
    | _ => cases hshape
  | int m =>
    intro b s t hs ht h
    have hshape := shape_eq_of_append h
    cases b with
    | int n =>
      rw [toChars, toChars] at h
      obtain ⟨rfl, rfl⟩ := eq_of_intChars_append hs ht h
      exact ⟨rfl, rfl⟩
    | _ => cases hshape
  | string a =>
    intro b s t hs ht h
    have hshape := shape_eq_of_append h
    cases b with
    | string b =>
      rw [toChars, toChars] at h
      obtain ⟨rfl, rfl⟩ := eq_of_stringChars_append h
      exact ⟨rfl, rfl⟩
    | _ => cases hshape
  | array items ih =>
    intro b s t hs ht h
    have hshape := shape_eq_of_append h
    cases b with
    | array items' =>
      rw [toChars, toChars, itemChars_eq, itemChars_eq, List.append_assoc, List.append_assoc] at h
      obtain ⟨rfl, rfl⟩ := cancels_separated (by decide) (by decide)
        (toChars_append_ne rfl) ih (List.cons.inj h).2
      exact ⟨rfl, rfl⟩
    | _ => cases hshape
  | object fields ih =>
    intro b s t hs ht h
    have hshape := shape_eq_of_append h
    cases b with
    | object fields' =>
      rw [toChars, toChars, fieldChars_eq, fieldChars_eq, List.append_assoc,
        List.append_assoc] at h
      obtain ⟨rfl, rfl⟩ := cancels_separated (by decide) (by decide) fieldText_append_ne
        (fun field hfield => cancels_fieldText (ih field hfield)) (List.cons.inj h).2
      exact ⟨rfl, rfl⟩
    | _ => cases hshape

theorem toChars_injective : Function.Injective toChars := by
  intro a b h
  exact (cancels_toChars a b [] [] endsNumber_nil endsNumber_nil (congrArg (· ++ []) h)).1

/-- No two values have the same text. -/
theorem render_injective : Function.Injective render := by
  intro a b h
  have hchars := congrArg String.toList h
  rw [render, render, String.toList_ofList, String.toList_ofList] at hchars
  exact toChars_injective hchars

end SupplicantWatch.Json
