import Mathlib.Tactic.Common
import SupplicantWatch.Proofs.Ssid.Spelling
import SupplicantWatch.Proofs.Text.Blanks
import SupplicantWatch.Proofs.Text.Offset

/-!
# White space behind a written network name

No escape reaches over white space, so white space behind a written name is white space behind the
name. Main statement: `decode_append_blanks`.
-/

namespace SupplicantWatch.Ssid

open Text (IsBlank)

variable {c : Char} {s b : List Char}

/-- White space begins no escape. -/
lemma not_escape_of_isBlank (h : Text.isBlank c = true) :
    letterByte? c = none ∧ c ≠ 'x' ∧ isOctal c = false := by
  refine ⟨?_, ?_, ?_⟩
  · unfold letterByte?
    split_ifs
    case neg => rfl
    all_goals
      subst c
      cases h
  · rintro rfl
    cases h
  · cases hc : isOctal c with
    | false => rfl
    | true =>
      obtain ⟨v, hv⟩ := Option.isSome_iff_exists.1 hc
      rw [Text.isBlank_of_digit? hv] at h
      cases h

lemma hexPair?_append_blanks (hb : IsBlank b) (s : List Char) :
    hexPair? (s ++ b) = (hexPair? s).map fun parts => (parts.1, parts.2 ++ b) := by
  have hnone {c d e : Char} (rest : List Char) (he : Text.isBlank e = true) (hmem : e ∈ [c, d]) :
      hexPair? (c :: d :: rest) = none := by
    rw [hexPair?, Text.word?_eq_none_of_isBlank 16 8 he hmem]
    rfl
  rcases s with _ | ⟨c, _ | ⟨d, s⟩⟩
  · rcases b with _ | ⟨c, _ | ⟨d, b⟩⟩
    · rfl
    · rfl
    · exact hnone b (hb c List.mem_cons_self) (by simp)
  · rcases b with _ | ⟨d, b⟩
    · rfl
    · exact hnone b (hb d List.mem_cons_self) (by simp)
  · rw [List.cons_append, List.cons_append, hexPair?, hexPair?]
    cases Text.word? 16 8 [c, d] <;> rfl

/-- The octal digits at the start of a text. -/
lemma takeWhile_isOctal_append_blanks (hb : IsBlank b) (n : Nat) (s : List Char) :
    ((s ++ b).take n).takeWhile isOctal = (s.take n).takeWhile isOctal := by
  rw [List.take_append]
  exact Text.takeWhile_append_blanks (fun _ hc => (not_escape_of_isBlank hc).2.2)
    (fun c hc => hb c (List.mem_of_mem_take hc)) _

/-- What a backslash and the text behind it stand for, with white space behind that text. -/
lemma afterBackslash_append_blanks (hne : s ≠ []) (hb : IsBlank b) :
    afterBackslash (s ++ b) = ((afterBackslash s).1, (afterBackslash s).2 ++ b) := by
  obtain ⟨c, s, rfl⟩ := List.exists_cons_of_ne_nil hne
  have hdigits := takeWhile_isOctal_append_blanks hb 3 (c :: s)
  have hle : (((c :: s).take 3).takeWhile isOctal).length ≤ (c :: s).length :=
    (List.takeWhile_prefix _).length_le.trans (List.length_take_le' 3 (c :: s))
  rw [List.cons_append] at hdigits ⊢
  rw [afterBackslash, afterBackslash]
  cases letterByte? c with
  | some byte => rfl
  | none =>
    dsimp only
    rw [hexPair?_append_blanks hb, hdigits, ← List.cons_append,
      List.drop_append_of_le_length hle]
    split_ifs
    · cases hexPair? s <;> rfl
    · rfl
    · rfl

lemma unescape_of_isBlank (hb : IsBlank b) : unescape b = Utf8.encode b :=
  unescape_of_notMem (hb.notMem (by decide))

/-- White space behind a written name is not changed when the escapes are taken back. -/
theorem unescape_append_blanks (hb : IsBlank b) (s : List Char) :
    unescape (s ++ b) = unescape s ++ Utf8.encode b := by
  induction hn : s.length using Nat.strongRecOn generalizing s with
  | ind n ih =>
    cases s with
    | nil => rw [List.nil_append, unescape_of_isBlank hb, unescape, List.nil_append]
    | cons c s =>
      rw [List.cons_append, unescape, unescape.eq_2]
      split_ifs
      · -- A backslash at the end stands for itself, whatever white space follows.
        cases s with
        | nil =>
          cases b with
          | nil => simp [afterBackslash, unescape]
          | cons d b =>
            obtain ⟨hletter, hx, hoctal⟩ := not_escape_of_isBlank (hb d List.mem_cons_self)
            have hafter : afterBackslash (d :: b) = (0x5c :: String.utf8EncodeChar d, b) := by
              rw [afterBackslash, hletter]
              simp [hx, hoctal]
            have hnil : unescape [] = [] := by rw [unescape]
            rw [List.nil_append, hafter, unescape_of_isBlank (List.forall_mem_cons.1 hb).2]
            simp [afterBackslash, hnil, Utf8.encode_cons]
        | cons d s =>
          have hlt : (afterBackslash (d :: s)).2.length < n := by
            rw [← hn]
            exact Nat.lt_succ_of_le (length_afterBackslash_le _)
          rw [afterBackslash_append_blanks (List.cons_ne_nil d s) hb, ih _ hlt _ rfl,
            List.append_assoc]
      · rw [ih s.length (by rw [← hn]; exact Nat.lt_succ_self _) s rfl, List.append_assoc]

theorem decode_append_blanks (hb : IsBlank b) (s : List Char) :
    decode (s ++ b) = decode s ++ String.ofList b := by
  rw [decode, decode, unescape_append_blanks hb, Utf8.decodeLossy_append_encode,
    String.ofList_append]

end SupplicantWatch.Ssid
