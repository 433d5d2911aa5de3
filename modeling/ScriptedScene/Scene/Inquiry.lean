import ScriptedScene.Scene.Store

/-!
What can be asked of a scene at a time: that it makes one change, or what it holds.
-/

namespace ScriptedScene

/-- What is asked of a scene. -/
inductive Inquiry where
  | change (c : Store.Change)
  | find (name : String)
  | light (id : LightId)
  | count
  deriving DecidableEq, Repr

/-- What a scene says to an inquiry. -/
inductive Reading where
  /-- The change is made, and so is the light with the id, if the change was to make one. -/
  | changed (made : Option LightId)
  | found (id : Option LightId)
  | light (l : Light)
  | count (n : Nat)
  deriving DecidableEq, Repr

namespace Store

/-- What the store says to an inquiry, and the store as it is then. -/
def answer (s : Store) : Inquiry → Except SceneFault (Reading × Store)
  | .change c =>
    match s.request c with
    | (.ok made, s) => .ok (.changed made, s)
    | (.error fault, _) => .error fault
  | .find name => .ok (.found (s.find? name), s)
  | .light id =>
    match s.light id with
    | .ok l => .ok (.light l, s)
    | .error fault => .error fault
  | .count => .ok (.count s.size, s)

/-- The store after some changes in turn, or why one of them is refused. -/
def replay (s : Store) (changes : List Change) : Except SceneFault Store :=
  changes.foldlM apply s

theorem apply_of_answer {s t : Store} {c : Change} {reading : Reading} (h : s.answer (.change c) = .ok (reading, t)) :
    s.apply c = .ok t := by
  simp only [answer] at h
  rw [apply]
  revert h
  rcases s.request c with ⟨_ | made, u⟩
  · exact nofun
  · rintro ⟨⟩
    rfl

/-- Only changes change a store. -/
theorem eq_of_answer {s t : Store} {q : Inquiry} {reading : Reading} (h : s.answer q = .ok (reading, t))
    (unchanged : ∀ c, q ≠ .change c) : t = s := by
  cases q with
  | change c => exact absurd rfl (unchanged c)
  | find name => cases h; rfl
  | light id =>
    simp only [answer] at h
    split at h <;> cases h
    rfl
  | count => cases h; rfl

end Store

end ScriptedScene
