import ScriptedScene.Proofs.Config.Format
import ScriptedScene.Proofs.Json.Writing

/-! Configurations written and read back. -/
namespace ScriptedScene

open Json

namespace Limits

/-- Every limit is a number of 64 bits. -/
def Fits (l : Limits) : Prop := ∀ n, n ∈ l.memory ∨ n ∈ l.stack ∨ n ∈ l.collection → n < 2 ^ 64

theorem written_toJson {l : Limits} (fits : l.Fits) : Written l l.toJson.toList := by
  have limit {o : Option Nat} (small : ∀ n ∈ o, n < 2 ^ 64) : IsLimit o (Json.optional toString o).toList :=
    isOptional_optional fun n given => ⟨small n given, rfl⟩
  refine ⟨_, .object (isObject_object _) (by simp), ?_⟩
  refine ⟨.present ?_, .present ?_, .present ?_⟩
  · exact limit fun n given => fits n (.inl given)
  · exact limit fun n given => fits n (.inr (.inl given))
  · exact limit fun n given => fits n (.inr (.inr given))

end Limits

namespace Config

theorem written_toJson {c : Config} (fits : c.limits.Fits) : Written c c.toJson.toList := by
  refine ⟨_, .object (isObject_object _) (by simp), ?_⟩
  refine ⟨.present ?_, .present ?_, .present ?_, .present ?_⟩
  · exact isText_quote c.scope
  · exact isText_quote c.hook
  · exact isBoolean_boolean c.globalConsole
  · exact Limits.written_toJson fits

theorem spelled_toJson {c : Config} (fits : c.limits.Fits) : Spelled c c.toJson :=
  ⟨[], c.toJson.toList, [], nofun, written_toJson fits, nofun, by simp⟩

/-- A configuration that is written and read back comes back if it may be used. If it may not, the same is wrong with it as
before. No two configurations are written alike. -/
theorem ofJson_toJson {c : Config} (fits : c.limits.Fits) :
    (c.validate = .ok () → ofJson c.toJson = .ok c) ∧
      (∀ fault, c.validate = .error fault →
        ofJson c.toJson = .error fault ∧ ∃ field reason, fault = .invalid field reason) ∧
      (∀ cause, ofJson c.toJson ≠ .error (.unparsable cause)) ∧
      ∀ d : Config, d.limits.Fits → d.toJson = c.toJson → d = c := by
  have decoded := run_reader_eq_ok_iff.mpr (spelled_toJson fits)
  refine ⟨fun valid => ?_, fun fault wrong => ?_, fun cause => ?_, fun d other same => ?_⟩
  · simp only [ofJson, decoded, valid]
  · rcases valid_or_invalid c with valid | ⟨field, reason, invalid⟩
    · cases wrong.symm.trans (validate_of_valid valid)
    · obtain rfl := Except.error.inj (wrong.symm.trans (validate_of_invalid invalid))
      exact ⟨by simp only [ofJson, decoded, wrong], field, reason, rfl⟩
  · rcases valid_or_invalid c with valid | ⟨field, reason, invalid⟩
    · simp [ofJson, decoded, validate_of_valid valid]
    · simp [ofJson, decoded, validate_of_invalid invalid]
  · have again := run_reader_eq_ok_iff.mpr (spelled_toJson other)
    rw [same, decoded] at again
    exact (Except.ok.inj again).symm

theorem ofJson_toJson_astral :
    ofJson (toJson ⟨"a\"\\\x01😀", "onupdate", false, ⟨some (2 ^ 64 - 1), none, some 0⟩⟩) =
      .error (.invalid "namespace" "'a\"\\\x01😀' is not an identifier") := by
  have fits : Limits.Fits ⟨some (2 ^ 64 - 1), none, some 0⟩ := by
    rintro n (⟨⟨⟩⟩ | ⟨⟨⟩⟩ | ⟨⟨⟩⟩) <;> decide
  have wrong : validate ⟨"a\"\\\x01😀", "onupdate", false, ⟨some (2 ^ 64 - 1), none, some 0⟩⟩ =
      .error (.invalid "namespace" "'a\"\\\x01😀' is not an identifier") := by decide
  exact ((ofJson_toJson fits).2.1 _ wrong).1

end Config

end ScriptedScene
