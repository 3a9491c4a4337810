import Mathlib.Tactic.Common

/-!
What a checked computation returned: it returns exactly if each of its steps does.
-/

namespace LakeStore

variable {ε α β : Type} {x : Except ε α} {f : α → Except ε β} {b : β}

theorem bind_eq_ok : (x >>= f) = .ok b ↔ ∃ a, x = .ok a ∧ f a = .ok b := by
  cases x with
  | error e => exact ⟨nofun, fun ⟨_, h, _⟩ => nomatch h⟩
  | ok a => exact ⟨fun h => ⟨a, rfl, h⟩, fun ⟨_, ha, h⟩ => Except.ok.inj ha ▸ h⟩

theorem check_bind_eq_ok {check : Except ε Unit} {next : Except ε β} :
    (check >>= fun _ => next) = .ok b ↔ check = .ok () ∧ next = .ok b :=
  bind_eq_ok.trans ⟨fun ⟨(), h⟩ => h, fun h => ⟨(), h⟩⟩

theorem mapError_eq_ok {ε' : Type} {g : ε → ε'} {a : α} : x.mapError g = .ok a ↔ x = .ok a := by
  cases x with
  | error e => exact ⟨nofun, nofun⟩
  | ok b =>
    exact ⟨fun h => congrArg Except.ok (Except.ok.inj h), fun h => congrArg Except.ok (Except.ok.inj h)⟩

theorem forM_eq_ok {check : α → Except ε Unit} : ∀ {xs : List α}, xs.forM check = .ok () ↔
    ∀ x ∈ xs, check x = .ok ()
  | [] => ⟨fun _ => nofun, fun _ => rfl⟩
  | x :: xs => by
    rw [List.forM_eq_forM, List.forM_cons, ← List.forM_eq_forM, check_bind_eq_ok, forM_eq_ok,
      List.forall_mem_cons]

theorem forIn_eq_ok {check : α → Except ε Unit} : ∀ {xs : List α},
    (forIn xs PUnit.unit fun x _ => do check x; pure (ForInStep.yield PUnit.unit)) = .ok PUnit.unit ↔
      ∀ x ∈ xs, check x = .ok ()
  | [] => ⟨fun _ => nofun, fun _ => rfl⟩
  | x :: xs => by
    rw [List.forIn_cons, bind_assoc, check_bind_eq_ok, List.forall_mem_cons]
    exact and_congr_right fun _ => forIn_eq_ok

end LakeStore
