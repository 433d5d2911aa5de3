import ScriptedScene.Proofs.Config.Format

/-! Configurations whose text is cut off. Every field may be left out, so a part of a text that could be read would be taken
for a configuration with defaults in place of what is lost; but no part of one can be read. -/
namespace ScriptedScene

open Json Json.Reader

namespace Config

theorem ofJson_eq_ok_iff {text : String} {c : Config} :
    ofJson text = .ok c ↔ run reader text = .ok c ∧ c.validate = .ok () := by
  unfold ofJson
  cases decoded : run reader text with
  | error cause => simp
  | ok d =>
    dsimp only
    rw [Except.ok.injEq]
    constructor
    · intro given
      split at given
      · cases given
      · cases given
        exact ⟨rfl, ‹_›⟩
    · rintro ⟨rfl, valid⟩
      rw [valid]

theorem ofJson_of_unread {text : String} (unread : ∀ c, run reader text ≠ .ok c) :
    ∃ cause, ofJson text = .error (.unparsable cause) := by
  unfold ofJson
  cases decoded : run reader text with
  | error cause => exact ⟨cause, rfl⟩
  | ok c => exact absurd decoded (unread c)

/-- Of a text that gives a configuration, a beginning gives the same one if only blanks are lost, and none at all if anything
else is. -/
theorem ofJson_beginning {kept lost : String} {c : Config} (given : ofJson (kept ++ lost) = .ok c) :
    (Blank lost.toList → ofJson kept = .ok c) ∧
      (¬ Blank lost.toList → ∃ cause, ofJson kept = .error (.unparsable cause)) := by
  obtain ⟨read, valid⟩ := ofJson_eq_ok_iff.mp given
  obtain ⟨whole, part⟩ := reads_reader.run_kept read
  refine ⟨fun blank => ?_, fun shown => ?_⟩
  · exact ofJson_eq_ok_iff.mpr ⟨whole blank, valid⟩
  · exact ofJson_of_unread (part shown)

/-- A text may be cut off in the middle of a character, deep inside of a field that nobody asked for. -/
theorem ofJson_beginning_pair :
    ofJson ("\x7b\"limits\":[4096],\"note\":[\x7b\"\":\"\\ud83d" ++ "\\ude00\"\x7d]\x7d ") =
        .ok { Config.default with limits := ⟨some 4096, none, none⟩ } ∧
      ∃ cause, ofJson "\x7b\"limits\":[4096],\"note\":[\x7b\"\":\"\\ud83d" = .error (.unparsable cause) := by
  have given : ofJson ("\x7b\"limits\":[4096],\"note\":[\x7b\"\":\"\\ud83d" ++ "\\ude00\"\x7d]\x7d ") =
      .ok { Config.default with limits := ⟨some 4096, none, none⟩ } := by decide +kernel
  have shown : ¬ Blank "\\ude00\"\x7d]\x7d ".toList := fun blank => absurd (blank '"' (by simp)) (by decide)
  exact ⟨given, (ofJson_beginning given).2 shown⟩

end Config

end ScriptedScene
