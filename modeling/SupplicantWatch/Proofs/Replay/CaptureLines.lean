import Mathlib.Data.List.ReduceOption
import Mathlib.Tactic.Common
import SupplicantWatch.Capture
import SupplicantWatch.Proofs.Text.Decoding

/-!
# The lines of a capture

What a capture has to hand out, said without the reads that take it apart: the lines before the
first that is no UTF-8, trimmed, without the blank ones and the comments. Main statements:
`exists_append_texts`, `read_cases`.
-/

namespace SupplicantWatch.Capture

/-- The texts of the lines before the first that is no UTF-8. -/
def texts (lines : List (List UInt8)) : List (List Char) :=
  ((lines.map Utf8.decode?).takeWhile Option.isSome).reduceOption

/-- The lines that count, trimmed. -/
def counted (lines : List (List UInt8)) : List (List Char) :=
  ((texts lines).map Text.trim).filter (!isSkipped ·)

/-- The lines that count as they are handed out for an interface. -/
def linesFor (interface : String) (lines : List (List UInt8)) : List String :=
  (counted lines).map (forInterface interface)

variable {bytes : List UInt8} {lines : List (List UInt8)} {line : List Char}

/-- The lines begin with the bytes of the texts, and the line behind these is no text. -/
theorem exists_append_texts (lines : List (List UInt8)) :
    ∃ rest, lines = (texts lines).map Utf8.encode ++ rest
      ∧ ∀ bytes ∈ rest.head?, ∀ text, bytes ≠ Utf8.encode text := by
  induction lines with
  | nil => exact ⟨[], rfl, nofun⟩
  | cons bytes lines ih =>
    cases h : Utf8.decode? bytes with
    | none =>
      refine ⟨bytes :: lines, by simp [texts, h], ?_⟩
      rintro _ ⟨⟩ text htext
      rw [Utf8.decode?_eq_some_iff.2 htext] at h
      cases h
    | some text =>
      obtain ⟨rest, hlines, hrest⟩ := ih
      refine ⟨rest, ?_, hrest⟩
      have htexts : texts (bytes :: lines) = text :: texts lines := by
        simp [texts, h]
      rw [htexts, List.map_cons, List.cons_append, ← hlines, Utf8.decode?_eq_some_iff.1 h]

lemma counted_cons_of_none (h : Utf8.decode? bytes = none) : counted (bytes :: lines) = [] := by
  simp [counted, texts, h]

lemma counted_cons_of_skipped (h : Utf8.decode? bytes = some line)
    (hs : isSkipped (Text.trim line) = true) : counted (bytes :: lines) = counted lines := by
  simp [counted, texts, h, hs]

lemma counted_cons_of_not_skipped (h : Utf8.decode? bytes = some line)
    (hs : ¬isSkipped (Text.trim line) = true) :
    counted (bytes :: lines) = Text.trim line :: counted lines := by
  simp [counted, texts, h, hs]

lemma next?_cases (lines : List (List UInt8)) :
    ((next? lines).1 = none ∧ counted lines = [])
      ∨ ∃ line, (next? lines).1 = some line ∧ counted lines = line :: counted (next? lines).2 := by
  fun_induction next? lines with
  | case1 => exact .inl ⟨rfl, rfl⟩
  | case2 bytes rest h => exact .inl ⟨rfl, counted_cons_of_none h⟩
  | case3 bytes rest line h hs ih =>
    rw [counted_cons_of_skipped h hs]
    exact ih
  | case4 bytes rest line h hs => exact .inr ⟨_, rfl, counted_cons_of_not_skipped h hs⟩

/-- A read hands out the first line that counts and leaves those behind it, or it hands out the line
at the end. -/
theorem read_cases (interface : String) (lines : List (List UInt8)) :
    (linesFor interface lines = [] ∧ (read interface ⟨lines⟩).1 = endLine)
      ∨ lines ≠ [] ∧ linesFor interface lines
        = (read interface ⟨lines⟩).1 :: linesFor interface (read interface ⟨lines⟩).2.rest := by
  have hread : (read interface ⟨lines⟩).1
      = (next? lines).1.elim endLine (forInterface interface) := rfl
  have hrest : (read interface ⟨lines⟩).2.rest = (next? lines).2 := rfl
  rw [hread, hrest]
  rcases next?_cases lines with ⟨hnext, hcounted⟩ | ⟨line, hnext, hcounted⟩
  · left
    rw [linesFor, hcounted, hnext]
    exact ⟨rfl, rfl⟩
  · right
    constructor
    · rintro rfl
      cases hnext
    · rw [linesFor, hcounted, hnext]
      rfl

end SupplicantWatch.Capture
