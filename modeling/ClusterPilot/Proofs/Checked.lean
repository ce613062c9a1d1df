/-
Laws of checks. A list of checks succeeds exactly when all of them do, and then gives their values
in order. Renaming the faults of a check goes through everything that checks are put together with;
it never turns a success into a failure, or the other way round. A computation that stops at its
first error gives something only where all its steps do.
-/
import ClusterPilot.Fault
import Mathlib.Data.List.Forall2

namespace ClusterPilot

/-! ## Successful steps -/

theorem bind_ok {ε α β : Type} {r : Except ε α} {f : α → Except ε β} {b : β}
    (h : r >>= f = .ok b) : ∃ a, r = .ok a ∧ f a = .ok b := by
  cases r with
  | error e => cases h
  | ok a => exact ⟨a, rfl, h⟩

theorem map_ok {ε α β : Type} {r : Except ε α} {f : α → β} {b : β} (h : r.map f = .ok b) :
    ∃ a, r = .ok a ∧ f a = b := by
  cases r with
  | error e => cases h
  | ok a => exact ⟨a, rfl, Except.ok.inj h⟩

theorem mapM_ok {ε α β : Type} {f : α → Except ε β} {xs : List α} {ys : List β}
    (h : xs.mapM f = .ok ys) : List.Forall₂ (fun x y => f x = .ok y) xs ys := by
  induction xs generalizing ys with
  | nil =>
    cases h
    exact .nil
  | cons x xs ih =>
    rw [List.mapM_cons] at h
    obtain ⟨y, hy, h⟩ := bind_ok h
    obtain ⟨ys', hys, h⟩ := bind_ok h
    cases h
    exact .cons hy (ih hys)

theorem exists_of_mapM_ok {ε α β : Type} {f : α → Except ε β} {xs : List α} {ys : List β}
    (h : xs.mapM f = .ok ys) {x : α} (hx : x ∈ xs) : ∃ y, f x = .ok y := by
  have hall := mapM_ok h
  clear h
  induction hall with
  | nil => cases hx
  | cons hy _ ih =>
    rcases List.mem_cons.1 hx with rfl | hx
    · exact ⟨_, hy⟩
    · exact ih hx

end ClusterPilot

namespace ClusterPilot.Checked

variable {α β : Type}

theorem faults_within (step : PathStep) (c : Checked α) :
    (c.within step).faults = c.faults.map (Fault.within step) := by
  cases c <;> rfl

theorem within_eq_ok_iff {step : PathStep} {c : Checked α} {a : α} :
    c.within step = .ok a ↔ c = .ok a := by
  cases c <;> simp [within]

theorem map_eq_ok_iff {f : α → β} {c : Checked α} {b : β} :
    c.map f = .ok b ↔ ∃ a, c = .ok a ∧ f a = b := by
  cases c <;> simp [map]

theorem both_eq_ok_iff {a : Checked α} {b : Checked β} {p : α × β} :
    both a b = .ok p ↔ a = .ok p.1 ∧ b = .ok p.2 := by
  cases a <;> cases b <;> simp [both, Prod.ext_iff]

theorem map_faulty (f : α → β) (e : Fault) (es : List Fault) :
    f <$> (faulty e es : Checked α) = faulty e es := rfl

theorem ok_seq_faulty (f : α → β) (e : Fault) (es : List Fault) :
    ok f <*> (faulty e es : Checked α) = faulty e es := rfl

theorem faulty_seq_ok (e : Fault) (es : List Fault) (a : α) :
    (faulty e es : Checked (α → β)) <*> ok a = faulty e es := by
  show faulty e (es ++ []) = _
  rw [List.append_nil]

/-! ## Checks of several parts -/

theorem faults_map_apply (f : α → β) (c : Checked α) : (f <$> c).faults = c.faults :=
  faults_map f c

/-- The faults of two parts come one after the other. -/
theorem faults_seq (f : Checked (α → β)) (c : Checked α) :
    (f <*> c).faults = f.faults ++ c.faults := by
  cases f with
  | ok f => cases c <;> rfl
  | faulty e es => rfl

theorem map_apply_eq_ok_iff {f : α → β} {c : Checked α} {b : β} :
    f <$> c = .ok b ↔ ∃ a, c = .ok a ∧ f a = b :=
  map_eq_ok_iff

theorem seq_eq_ok_iff {f : Checked (α → β)} {c : Checked α} {b : β} :
    f <*> c = .ok b ↔ ∃ g a, f = .ok g ∧ c = .ok a ∧ g a = b := by
  cases f with
  | ok g =>
    cases c with
    | ok a => simp
    | faulty e es => simp [ok_seq_faulty]
  | faulty e es =>
    cases c with
    | ok a => simp [faulty_seq_ok]
    | faulty e' es' =>
      constructor
      · intro h
        cases h
      · rintro ⟨_, _, h, -⟩
        cases h

/-- A list of checks gives the values of all of them. -/
theorem all_eq_ok_iff {cs : List (Checked α)} {as : List α} :
    all cs = .ok as ↔ List.Forall₂ (fun c a => c = .ok a) cs as := by
  induction cs generalizing as with
  | nil =>
    rw [List.forall₂_nil_left_iff, all, ok.injEq]
    exact eq_comm
  | cons c cs ih =>
    rw [all, map_eq_ok_iff]
    constructor
    · rintro ⟨⟨a, as⟩, hboth, rfl⟩
      rw [both_eq_ok_iff] at hboth
      exact .cons hboth.1 (ih.1 hboth.2)
    · rintro (_ | ⟨head, tail⟩)
      exact ⟨(_, _), both_eq_ok_iff.2 ⟨head, ih.2 tail⟩, rfl⟩

/-- Where the items of a list stand does not matter to whether all of them succeed. -/
theorem all_within_eq_ok_iff {f : α → Checked β} {as : List α} {bs : List β}
    (step : Nat → PathStep) :
    all (as.mapIdx fun i a => (f a).within (step i)) = .ok bs ↔
      List.Forall₂ (fun a b => f a = .ok b) as bs := by
  rw [all_eq_ok_iff]
  induction as generalizing bs step with
  | nil => simp
  | cons a as ih =>
    rw [List.mapIdx_cons]
    cases bs with
    | nil => simp
    | cons b bs =>
      rw [List.forall₂_cons, List.forall₂_cons, within_eq_ok_iff, ih fun i => step (i + 1)]

theorem eq_faulty_of_faults {c : Checked α} (h : c.faults ≠ []) :
    ∃ f fs, c = .faulty f fs ∧ c.faults = f :: fs := by
  cases c with
  | ok a => exact absurd rfl h
  | faulty f fs => exact ⟨f, fs, rfl, rfl⟩

/-! ## Other names for faults -/

/-- The outcome with its faults renamed. -/
def rename (ρ : Fault → Fault) : Checked α → Checked α
  | .ok a => .ok a
  | .faulty f fs => .faulty (ρ f) (fs.map ρ)

theorem rename_id (c : Checked α) : c.rename id = c := by
  cases c <;> simp [rename]

theorem faults_rename (ρ : Fault → Fault) (c : Checked α) :
    (c.rename ρ).faults = c.faults.map ρ := by
  cases c <;> rfl

theorem rename_eq_ok_iff {ρ : Fault → Fault} {c : Checked α} {a : α} :
    c.rename ρ = .ok a ↔ c = .ok a := by
  cases c <;> simp [rename]

theorem rename_map (ρ : Fault → Fault) (f : α → β) (c : Checked α) :
    (f <$> c).rename ρ = f <$> c.rename ρ := by
  cases c <;> rfl

theorem rename_seq (ρ : Fault → Fault) (f : Checked (α → β)) (c : Checked α) :
    (f <*> c).rename ρ = f.rename ρ <*> c.rename ρ := by
  cases f with
  | ok f => cases c <;> rfl
  | faulty e es =>
    have hfaults : (c.rename ρ).faults = c.faults.map ρ := faults_rename ρ c
    show Checked.faulty (ρ e) ((es ++ c.faults).map ρ) =
      .faulty (ρ e) (es.map ρ ++ (c.rename ρ).faults)
    rw [List.map_append, hfaults]

/-- A renaming inside becomes one outside, also where the step to the inside gets another name. -/
theorem rename_within {ρ ρ' : Fault → Fault} {step step' : PathStep}
    (h : ∀ f : Fault, ρ' (f.within step) = (ρ f).within step') (c : Checked α) :
    (c.within step).rename ρ' = (c.rename ρ).within step' := by
  cases c with
  | ok a => rfl
  | faulty f fs =>
    simp only [within, rename, h, List.map_map, Function.comp_def]

end ClusterPilot.Checked
