/-
What reading a YAML text promises. Most errors say that a text is no YAML document; the others break
out of the promise, and have to be told by what the text says. A computation meets two conditions,
one on what it gives and one on its error, when its parts do.
-/
import ClusterPilot.Yaml.Token

namespace ClusterPilot.Yaml

/-- The errors that say what is wrong with a text as a YAML document. -/
def Error.isPromised : Error → Bool
  | .undecodable | .noSuchValue | .hugeCodePoint | .hugePlace | .noSuchBoolean | .emptyNumber
  | .noSuchDate | .dateOfMapping | .tooDeep => false
  | _ => true

/-- What a computation gives meets `P`, and its error `E`. -/
def Meets {α : Type} (E : Error → Prop) (P : α → Prop) : Except Error α → Prop
  | .ok a => P a
  | .error e => E e

namespace Meets

variable {α β : Type} {E F : Error → Prop} {P P' : α → Prop} {Q : β → Prop} {x : Except Error α}

theorem imp (h : Meets E P x) (hE : ∀ e, E e → F e) (hP : ∀ a, P a → P' a) : Meets F P' x := by
  cases x with
  | ok a => exact hP a h
  | error e => exact hE e h

theorem weaken (h : Meets E P x) (hP : ∀ a, P a → P' a) : Meets E P' x :=
  h.imp (fun _ he => he) hP

theorem bind {f : α → Except Error β} (h : Meets E P x) (hf : ∀ a, P a → Meets E Q (f a)) :
    Meets E Q (x >>= f) := by
  cases x with
  | ok a => exact hf a h
  | error e => exact h

theorem map {f : α → β} (h : Meets E (fun a => Q (f a)) x) : Meets E Q (f <$> x) := by
  cases x with
  | ok a => exact h
  | error e => exact h

theorem mapM {f : β → Except Error α} {xs : List β} (h : ∀ b ∈ xs, Meets E P (f b)) :
    Meets E (fun as => ∀ a ∈ as, P a) (xs.mapM f) := by
  induction xs with
  | nil =>
    intro a ha
    cases ha
  | cons b xs ih =>
    rw [List.mapM_cons]
    refine (h b List.mem_cons_self).bind fun a ha => ?_
    refine (ih fun b' hb' => h b' (List.mem_cons_of_mem b hb')).bind fun as has => ?_
    exact List.forall_mem_cons.2 ⟨ha, has⟩

theorem foldlM {f : α → β → Except Error α} {xs : List β} {a : α} (ha : P a)
    (h : ∀ a, P a → ∀ b ∈ xs, Meets E P (f a b)) : Meets E P (xs.foldlM f a) := by
  induction xs generalizing a with
  | nil => exact ha
  | cons b xs ih =>
    rw [List.foldlM_cons]
    refine (h a ha b List.mem_cons_self).bind fun a' ha' => ?_
    exact ih ha' fun a'' ha'' b' hb' => h a'' ha'' b' (List.mem_cons_of_mem b hb')

end Meets

/-- A computation has no errors but some. -/
def OnlyFails {α : Type} (E : Error → Prop) (x : Except Error α) : Prop :=
  Meets E (fun _ => True) x

namespace OnlyFails

variable {α β : Type} {E F : Error → Prop} {x : Except Error α}

theorem ok (a : α) : OnlyFails E (.ok a) := trivial

theorem error {e : Error} (h : OnlyFails E x) (he : x = .error e) : E e := by
  subst he
  exact h

theorem imp (h : OnlyFails E x) (hE : ∀ e, E e → F e) : OnlyFails F x :=
  Meets.imp h hE fun _ _ => trivial

theorem bind {f : α → Except Error β} (h : OnlyFails E x) (hf : ∀ a, OnlyFails E (f a)) :
    OnlyFails E (x >>= f) :=
  Meets.bind h fun a _ => hf a

theorem map (f : α → β) (h : OnlyFails E x) : OnlyFails E (f <$> x) :=
  Meets.map (h : Meets E (fun _ => True) x)

theorem mapM {f : β → Except Error α} (h : ∀ b, OnlyFails E (f b)) (xs : List β) :
    OnlyFails E (xs.mapM f) :=
  (Meets.mapM fun b _ => h b).weaken fun _ _ => trivial

theorem foldlM {f : α → β → Except Error α} (h : ∀ a b, OnlyFails E (f a b)) (xs : List β)
    (a : α) : OnlyFails E (xs.foldlM f a) :=
  Meets.foldlM trivial fun a _ b _ => h a b

end OnlyFails

end ClusterPilot.Yaml
