import Mathlib.Data.List.DropRight
import Mathlib.Data.List.Induction
import Mathlib.Tactic.Common
import SupplicantWatch.Classifier
import SupplicantWatch.Proofs.Text.Search

/-!
# What a line is about

A line may name an interface in front of its text, carry no mark at all, or carry a mark without a
name that ends. Together with the handlers that there are, this decides which interface the line is
about and which text is about that interface. Main statements: `resolve?_eq_some_iff`,
`resolve?_eq_none_iff`, and for what then becomes of the line `run_classify_of_isAbout` and
`run_classify_of_isMalformed`.
-/

namespace SupplicantWatch.Classifier

variable {config : Config} {isRegistered : String → Bool} {line name text : String}

/-! ### Marks -/

/-- A line names an interface in front of a text. The name ends at the first space. -/
def Names (line name text : String) : Prop :=
  line = markInterface name text ∧ ' ' ∉ name.toList

/-- A line names no interface. -/
def IsUnmarked (line : String) : Prop :=
  ¬interfaceMark.toList <+: line.toList

/-- A line is marked, but there is no space after the mark. -/
def IsMalformed (line : String) : Prop :=
  ∃ rest, line.toList = interfaceMark.toList ++ rest ∧ ' ' ∉ rest

lemma toList_markInterface (name text : String) :
    (markInterface name text).toList
      = interfaceMark.toList ++ (name.toList ++ ' ' :: text.toList) := by
  simp [markInterface]

/-- Every line is of one of the three shapes. -/
lemma isUnmarked_or_names_or_isMalformed (line : String) :
    IsUnmarked line ∨ (∃ name text, Names line name text) ∨ IsMalformed line := by
  by_cases hm : interfaceMark.toList <+: line.toList
  · obtain ⟨rest, hrest⟩ := hm
    by_cases hs : ' ' ∈ rest
    · obtain ⟨name, text, rfl, hname⟩ := List.eq_append_cons_of_mem hs
      refine .inr (.inl ⟨String.ofList name, String.ofList text, ?_, ?_⟩)
      · rw [← String.toList_inj, toList_markInterface, String.toList_ofList, String.toList_ofList,
          hrest]
      · rw [String.toList_ofList]
        exact hname
    · exact .inr (.inr ⟨rest, hrest.symm, hs⟩)
  · exact .inl hm

/-! ### Line ends -/

/-- Only what comes after a character that is no line end can lose its end. -/
lemma rdropWhile_append_cons {p : Char → Bool} {c : Char} (hc : ¬p c = true) (s t : List Char) :
    (s ++ c :: t).rdropWhile p = s ++ c :: t.rdropWhile p := by
  induction t using List.reverseRecOn with
  | nil => rw [List.rdropWhile_concat_neg p s c hc, List.rdropWhile_nil]
  | append_singleton t d ih =>
    rw [← List.cons_append, ← List.append_assoc, List.rdropWhile_concat, List.rdropWhile_concat, ih]
    split_ifs
    · rfl
    · rw [List.append_assoc, List.cons_append]

lemma withoutLineEnd_eq (line : String) :
    withoutLineEnd line = line.toList.rdropWhile fun c => c == '\r' || c == '\n' := rfl

lemma withoutLineEnd_prefix_toList (line : String) : withoutLineEnd line <+: line.toList :=
  List.rdropWhile_prefix _ line.toList

/-- The end of a line that names an interface is the end of its text. -/
lemma withoutLineEnd_of_names (h : Names line name text) :
    withoutLineEnd line
      = interfaceMark.toList ++ (name.toList ++ ' ' :: withoutLineEnd text) := by
  rw [withoutLineEnd_eq, h.1, toList_markInterface, ← List.append_assoc,
    rdropWhile_append_cons (by decide), List.append_assoc, withoutLineEnd_eq]

lemma isMalformed_withoutLineEnd (h : IsMalformed line) :
    ∃ rest, withoutLineEnd line = interfaceMark.toList ++ rest ∧ ' ' ∉ rest := by
  obtain ⟨rest, hline, hrest⟩ := h
  have hmark : interfaceMark.toList = "IFNAME".toList ++ ['='] := by decide
  refine ⟨rest.rdropWhile fun c => c == '\r' || c == '\n', ?_, ?_⟩
  · rw [withoutLineEnd_eq, hline, hmark, List.append_assoc, List.singleton_append,
      rdropWhile_append_cons (by decide), List.append_assoc, List.singleton_append]
  · intro hmem
    exact hrest ((List.rdropWhile_prefix _ rest).subset hmem)

/-! ### Interfaces -/

/-- The interface that a line is about, and the text about it. A line that names none is about the
peer-to-peer interface, and so is one that names a group interface without handlers. -/
inductive IsAbout (config : Config) (isRegistered : String → Bool) (line : String) :
    String → List Char → Prop where
  | unmarked (h : IsUnmarked line) :
    IsAbout config isRegistered line config.peerInterface (withoutLineEnd line)
  | group {name text : String} (h : Names line name text) (hr : isRegistered name = false)
      (hg : config.groupNameStart.toList <+: name.toList) :
    IsAbout config isRegistered line config.peerInterface (withoutLineEnd text)
  | named {name text : String} (h : Names line name text)
      (hn : isRegistered name = true ∨ ¬config.groupNameStart.toList <+: name.toList) :
    IsAbout config isRegistered line name (withoutLineEnd text)

lemma resolve?_of_isUnmarked (h : IsUnmarked line) :
    resolve? config isRegistered (withoutLineEnd line)
      = some (config.peerInterface, withoutLineEnd line) := by
  have hnone : List.isPrefixOf? interfaceMark.toList (withoutLineEnd line) = none := by
    rw [Text.isPrefixOf?_eq_none_iff]
    intro hm
    exact h (hm.trans (withoutLineEnd_prefix_toList line))
  rw [resolve?, hnone]

lemma resolve?_of_names (h : Names line name text) :
    resolve? config isRegistered (withoutLineEnd line)
      = if !isRegistered name && config.groupNameStart.toList.isPrefixOf name.toList then
          some (config.peerInterface, withoutLineEnd text)
        else some (name, withoutLineEnd text) := by
  have hcut : Text.cut? ' ' (name.toList ++ ' ' :: withoutLineEnd text)
      = some (name.toList, withoutLineEnd text) := Text.cut?_eq_some_iff.2 ⟨rfl, h.2⟩
  rw [resolve?, withoutLineEnd_of_names h, Text.isPrefixOf?_append]
  dsimp only
  rw [hcut, Option.map_some, String.ofList_toList]
  split_ifs <;> rfl

lemma resolve?_of_isMalformed (h : IsMalformed line) :
    resolve? config isRegistered (withoutLineEnd line) = none := by
  obtain ⟨rest, hline, hrest⟩ := isMalformed_withoutLineEnd h
  rw [resolve?, hline, Text.isPrefixOf?_append]
  dsimp only
  rw [Text.cut?_eq_none_iff.2 hrest]
  rfl

lemma IsAbout.resolve?_eq {i : String} {rest : List Char}
    (h : IsAbout config isRegistered line i rest) :
    resolve? config isRegistered (withoutLineEnd line) = some (i, rest) := by
  cases h with
  | unmarked h => exact resolve?_of_isUnmarked h
  | group h hr hg =>
    rw [resolve?_of_names h, if_pos]
    rw [hr, List.isPrefixOf_iff_prefix.2 hg]
    rfl
  | named h hn =>
    rw [resolve?_of_names h, if_neg]
    rw [Bool.and_eq_true, Bool.not_eq_true', List.isPrefixOf_iff_prefix]
    rintro ⟨hr, hg⟩
    rcases hn with hn | hn
    · rw [hr] at hn
      cases hn
    · exact hn hg

/-- A line is resolved to the interface and the text that it is about. -/
theorem resolve?_eq_some_iff {i : String} {rest : List Char} :
    resolve? config isRegistered (withoutLineEnd line) = some (i, rest)
      ↔ IsAbout config isRegistered line i rest := by
  refine ⟨?_, IsAbout.resolve?_eq⟩
  intro h
  rcases isUnmarked_or_names_or_isMalformed line with hu | ⟨name, text, hn⟩ | hm
  · rw [resolve?_of_isUnmarked hu] at h
    cases h
    exact .unmarked hu
  · rw [resolve?_of_names hn] at h
    split_ifs at h with hg
    · cases h
      rw [Bool.and_eq_true, Bool.not_eq_true', List.isPrefixOf_iff_prefix] at hg
      exact .group hn hg.1 hg.2
    · cases h
      rw [Bool.and_eq_true, Bool.not_eq_true', List.isPrefixOf_iff_prefix, not_and_or,
        Bool.not_eq_false] at hg
      exact .named hn hg
  · rw [resolve?_of_isMalformed hm] at h
    cases h

/-- A line is about at most one interface, and at most one of its texts is about it. -/
lemma IsAbout.unique {i j : String} {rest rest' : List Char}
    (h : IsAbout config isRegistered line i rest) (h' : IsAbout config isRegistered line j rest') :
    i = j ∧ rest = rest' := by
  have heq := h.resolve?_eq.symm.trans h'.resolve?_eq
  cases heq
  exact ⟨rfl, rfl⟩

/-- A line is about no interface exactly if its mark is not followed by a space. -/
theorem resolve?_eq_none_iff :
    resolve? config isRegistered (withoutLineEnd line) = none ↔ IsMalformed line := by
  refine ⟨?_, resolve?_of_isMalformed⟩
  intro h
  rcases isUnmarked_or_names_or_isMalformed line with hu | ⟨name, text, hn⟩ | hm
  · rw [resolve?_of_isUnmarked hu] at h
    cases h
  · rw [resolve?_of_names hn] at h
    split_ifs at h
  · exact hm

/-! ### What becomes of a line -/

variable {σ : Type} {c : Classifier}

/-- A line comes to what its text comes to at the interface that it is about. -/
lemma run_classify_of_isAbout {i : String} {rest : List Char}
    (h : IsAbout c.config isRegistered line i rest) (daemon : Daemon σ) (state : σ) :
    ∃ verdict exchanges state',
      ((c.remember i rest).verdict i rest).run daemon state = (verdict, exchanges, state')
      ∧ (c.classify isRegistered line).run daemon state
        = ((c.remember i rest).settle i verdict, exchanges, state') := by
  obtain ⟨⟨verdict, exchanges, state'⟩, hrun⟩ :
      ∃ r, ((c.remember i rest).verdict i rest).run daemon state = r := ⟨_, rfl⟩
  refine ⟨verdict, exchanges, state', hrun, ?_⟩
  rw [classify, h.resolve?_eq]
  dsimp only
  rw [Dialogue.run_bind, hrun]
  simp

/-- Nothing comes of a malformed line. -/
lemma run_classify_of_isMalformed (h : IsMalformed line) (daemon : Daemon σ) (state : σ) :
    (c.classify isRegistered line).run daemon state = ((⟨none, none, .goOn⟩, c), [], state) := by
  rw [classify, resolve?_of_isMalformed h]
  rfl

/-- Unless it ends the connection, what becomes of a line is for the interface that it is about. -/
lemma interface_settle {i : String} {verdict : Verdict}
    (h : (c.settle i verdict).1.signal = .goOn) : (c.settle i verdict).1.interface = some i := by
  cases verdict with
  | closed => cases h
  | receiveError =>
    rw [settle] at h ⊢
    split_ifs at h ⊢
    rfl
  | _ => rfl

end SupplicantWatch.Classifier
