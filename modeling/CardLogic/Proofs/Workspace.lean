import CardLogic.Proofs.FileTree.Effects
import CardLogic.Workspace

/-!
Taking an action apart: how each step of an action that came to its end went, in which step an
action failed, and what an action leaves behind if it need not come to its end.
-/

namespace CardLogic

namespace Action

variable {α β : Type} {w w' : Workspace}

theorem ok_of_bind {x : Action α} {f : α → Action β} {b : β} (h : (x >>= f) w = .ok b w') :
    ∃ a w₁, x w = .ok a w₁ ∧ f a w₁ = .ok b w' := by
  simp only [bind, EStateM.bind] at h
  cases hx : x w with
  | error e w₁ => rw [hx] at h; exact absurd h (by simp)
  | ok a w₁ => rw [hx] at h; exact ⟨a, w₁, rfl, h⟩

theorem bind_of_ok {x : Action α} {f : α → Action β} {a : α} {w₁ : Workspace}
    (h : x w = .ok a w₁) : (x >>= f) w = f a w₁ := by
  simp only [bind, EStateM.bind]
  rw [h]

theorem bind_of_error {x : Action α} {f : α → Action β} {e : Failure} {w₁ : Workspace}
    (h : x w = .error e w₁) : (x >>= f) w = .error e w₁ := by
  simp only [bind, EStateM.bind]
  rw [h]

theorem read_of_ok {f : FileTree → Except Failure α} {a : α} (h : f w.tree = .ok a) :
    read f w = .ok a w := by
  unfold read
  rw [h]

theorem read_of_error {f : FileTree → Except Failure α} {e : Failure} (h : f w.tree = .error e) :
    read f w = .error e w := by
  unfold read
  rw [h]

theorem ok_of_disk {d : Disk α} {a : α} (h : disk d w = .ok a w') : d w.tree = .ok a w'.tree := by
  unfold disk at h
  cases hd : d w.tree with
  | error e t => rw [hd] at h; exact absurd h (by simp)
  | ok b t => rw [hd] at h; cases h; rfl

theorem disk_of_ok {d : Disk α} {a : α} {t : FileTree} (h : d w.tree = .ok a t) :
    disk d w = .ok a { w with tree := t } := by
  unfold disk
  rw [h]

theorem disk_of_error {d : Disk α} {e : FileError} {t : FileTree} (h : d w.tree = .error e t) :
    disk d w = .error (.file e) { w with tree := t } := by
  unfold disk
  rw [h]

theorem tree_of_tell {records : List LogRecord} {u : Unit} (h : tell records w = .ok u w') :
    w'.tree = w.tree := by
  cases h
  rfl

theorem tell_bind (records : List LogRecord) (g : Unit → Action β) (w : Workspace) :
    (tell records >>= g) w = g () { w with log := w.log ++ records } := rfl

/-! ## Actions that fail -/

/-- An action of two parts fails in the first part, or in the second one after the first. -/
theorem error_of_bind {x : Action α} {f : α → Action β} {e : Failure}
    (h : (x >>= f) w = .error e w') :
    x w = .error e w' ∨ ∃ a w₁, x w = .ok a w₁ ∧ f a w₁ = .error e w' := by
  simp only [bind, EStateM.bind] at h
  cases hx : x w with
  | error e' w₁ => rw [hx] at h; cases h; exact Or.inl rfl
  | ok a w₁ => rw [hx] at h; exact Or.inr ⟨a, w₁, rfl, h⟩

theorem error_of_disk {d : Disk α} {f : Failure} (h : disk d w = .error f w') :
    ∃ e, d w.tree = .error e w'.tree ∧ f = .file e := by
  unfold disk at h
  cases hd : d w.tree with
  | error e t => rw [hd] at h; cases h; exact ⟨e, rfl, rfl⟩
  | ok a t => rw [hd] at h; exact absurd h (by simp)

/-! ## What is left behind -/

/-- An action that reads first leaves all as it was, or what the rest leaves. -/
theorem after_read_bind (f : FileTree → Except Failure α) (g : α → Action β) (w : Workspace) :
    after (read f >>= g) w = w ∨
      ∃ a, f w.tree = .ok a ∧ after (read f >>= g) w = after (g a) w := by
  cases hf : f w.tree with
  | error e =>
    left
    unfold after read
    simp only [bind, EStateM.bind, hf]
  | ok a =>
    right
    refine ⟨a, rfl, ?_⟩
    unfold after read
    simp only [bind, EStateM.bind, hf]

/-- An action that changes the tree first leaves what this does, or what the rest leaves. -/
theorem after_disk_bind (d : Disk α) (g : α → Action β) (w : Workspace) :
    (after (disk d >>= g) w).tree = after d w.tree ∨
      ∃ a w₁, d w.tree = .ok a w₁.tree ∧ after (disk d >>= g) w = after (g a) w₁ := by
  cases hd : d w.tree with
  | error e t =>
    left
    unfold after disk
    simp only [bind, EStateM.bind, hd]
  | ok a t =>
    right
    refine ⟨a, { w with tree := t }, rfl, ?_⟩
    unfold after disk
    simp only [bind, EStateM.bind, hd]

/-! ## What holds of whatever is left behind -/

section Kept

variable (I : FileTree → Prop)

theorem kept_bind {x : Action α} {g : α → Action β} (h : I (after x w).tree)
    (hrest : ∀ a w₁, x w = .ok a w₁ → I (after (g a) w₁).tree) : I (after (x >>= g) w).tree := by
  rcases after_bind x g w with hafter | ⟨a, w₁, hx, hafter⟩
  · rw [hafter]
    exact h
  · rw [hafter]
    exact hrest a w₁ hx

theorem kept_read_bind {f : FileTree → Except Failure α} {g : α → Action β} (h : I w.tree)
    (hrest : ∀ a, f w.tree = .ok a → I (after (g a) w).tree) :
    I (after (read f >>= g) w).tree := by
  rcases after_read_bind f g w with hafter | ⟨a, hf, hafter⟩
  · rw [hafter]
    exact h
  · rw [hafter]
    exact hrest a hf

end Kept

end Action

end CardLogic
