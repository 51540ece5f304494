import Mathlib.Data.List.Forall2
import Mathlib.Data.Option.Defs

/-!
# Two outcomes compared

What is done twice, in two settings that are alike, comes to two outcomes that are alike.  `Concur`
says it of outcomes that may be failures: both are, whatever they say, or neither is and the results
are related.  `FailAlike` says that the failures are the same, whatever the results are, and
`Option.Rel` says it of results that may be missing.

All go through a row of steps by their `bind` lemmas, so a comparison follows the steps of what is
compared and names a fact for each.
-/

namespace GridLayout

/-! ## Steps in a row -/

section

variable {ε β γ : Type} {x : Except ε β} {f : β → Except ε γ}

theorem bind_eq_ok_iff {c : γ} : (x >>= f) = .ok c ↔ ∃ b, x = .ok b ∧ f b = .ok c := by
  cases x with
  | ok b =>
    constructor
    · intro h
      exact ⟨b, rfl, h⟩
    · rintro ⟨_, heq, h⟩
      rw [Except.ok.inj heq]
      exact h
  | error _ =>
    constructor
    · intro h
      exact nomatch h
    · rintro ⟨_, heq, -⟩
      exact nomatch heq

/-- Two ways to go on from a result that agree on the one there is, if there is one, come to the
same. -/
theorem bind_congr_of_ok {g : β → Except ε γ} (h : ∀ b, x = .ok b → f b = g b) :
    x >>= f = x >>= g := by
  cases x with
  | ok b => exact h b rfl
  | error _ => rfl

/-- An outcome that shows a result is that result. -/
theorem eq_ok_of_toOption {b : β} (h : x.toOption = some b) : x = .ok b := by
  cases x with
  | ok _ => rw [Option.some.inj h]
  | error _ => exact nomatch h

/-- What a result is made into is a result. -/
theorem bind_pure_eq_ok_iff {g : β → γ} {c : γ} :
    (x >>= fun b => pure (g b)) = .ok c ↔ ∃ b, x = .ok b ∧ c = g b := by
  rw [bind_eq_ok_iff]
  exact exists_congr fun b => and_congr_right fun _ => Except.ok.injEq (g b) c ▸ eq_comm

/-- What comes of a list, item by item, are the results of its items. -/
theorem forall₂_of_mapM_eq_ok {l : List β} :
    ∀ {bs : List γ}, l.mapM f = .ok bs → List.Forall₂ (fun a b => f a = .ok b) l bs := by
  induction l with
  | nil =>
    intro bs h
    rw [List.mapM_nil] at h
    rw [← Except.ok.inj h]
    exact .nil
  | cons a rest ih =>
    intro bs h
    rw [List.mapM_cons] at h
    obtain ⟨b, hb, h⟩ := bind_eq_ok_iff.mp h
    obtain ⟨cs, hcs, rfl⟩ := bind_pure_eq_ok_iff.mp h
    exact .cons hb (ih hcs)

end

/-! ## Outcomes that may be failures -/

/-- Two outcomes are both failures, or both are results and these are related. -/
inductive Concur {ε β γ : Type} (related : β → γ → Prop) : Except ε β → Except ε γ → Prop
  | ok {b : β} {c : γ} (h : related b c) : Concur related (.ok b) (.ok c)
  | error (f g : ε) : Concur related (.error f) (.error g)

namespace Concur

variable {ε β γ β' γ' : Type} {related : β → γ → Prop} {related' : β' → γ' → Prop}

theorem mono {x : Except ε β} {y : Except ε γ} {wider : β → γ → Prop} (h : Concur related x y)
    (hwider : ∀ b c, related b c → wider b c) : Concur wider x y := by
  cases h with
  | ok h => exact .ok (hwider _ _ h)
  | error f g => exact .error f g

/-- Steps in a row concur when each of them does. -/
theorem bind {x : Except ε β} {y : Except ε γ} {f : β → Except ε β'} {g : γ → Except ε γ'}
    (h : Concur related x y) (hfg : ∀ b c, related b c → Concur related' (f b) (g c)) :
    Concur related' (x >>= f) (y >>= g) := by
  cases h with
  | ok h => exact hfg _ _ h
  | error f g => exact .error f g

theorem map {x : Except ε β} {y : Except ε γ} {f : β → β'} {g : γ → γ'} (h : Concur related x y)
    (hfg : ∀ b c, related b c → related' (f b) (g c)) : Concur related' (x.map f) (y.map g) := by
  cases h with
  | ok h => exact .ok (hfg _ _ h)
  | error f g => exact .error f g

theorem exists_error {x : Except ε β} {y : Except ε γ} (h : Concur related x y) {f : ε}
    (hx : x = .error f) : ∃ g, y = .error g := by
  rw [hx] at h
  cases h with
  | error _ g => exact ⟨g, rfl⟩

theorem of_exists_error {x : Except ε β} {y : Except ε γ} (hx : ∃ f, x = .error f)
    (hy : ∃ g, y = .error g) : Concur related x y := by
  obtain ⟨f, rfl⟩ := hx
  obtain ⟨g, rfl⟩ := hy
  exact .error f g

/-- Results that are missing together make failures together. -/
theorem of_optionRel {x : Option β} {y : Option γ} (h : Option.Rel related x y) (f g : ε) :
    Concur related (x.elim (.error f) .ok) (y.elim (.error g) .ok) := by
  cases h with
  | none => exact .error f g
  | some h => exact .ok h

section

variable {x y : Except ε β}

/-- Outcomes that are the same, if results at all, concur. -/
theorem of_toOption (h : x.toOption = y.toOption) : Concur Eq x y := by
  cases x with
  | ok b =>
    cases y with
    | ok c => exact .ok (Option.some.inj h)
    | error g => exact nomatch h
  | error f =>
    cases y with
    | ok c => exact nomatch h
    | error g => exact .error f g

theorem refl (x : Except ε β) : Concur Eq x x := of_toOption rfl

theorem eq_ok (h : Concur Eq x y) {b : β} (hx : x = .ok b) : y = .ok b := by
  rw [hx] at h
  cases h with
  | ok h => rw [h]

/-- After a step that comes to the same, the other steps start from the same. -/
theorem bind_same {f : β → Except ε β'} {g : β → Except ε γ'} (h : Concur Eq x y)
    (hfg : ∀ b, Concur related' (f b) (g b)) : Concur related' (x >>= f) (y >>= g) := by
  refine h.bind fun b c hbc => ?_
  rw [hbc]
  exact hfg c

end

end Concur

/-! ## Outcomes with the same failure -/

/-- Two outcomes are one and the same failure, or neither is a failure. -/
inductive FailAlike {ε β γ : Type} : Except ε β → Except ε γ → Prop
  | ok (b : β) (c : γ) : FailAlike (.ok b) (.ok c)
  | error (f : ε) : FailAlike (.error f) (.error f)

namespace FailAlike

variable {ε β γ β' γ' : Type}

theorem refl (x : Except ε β) : FailAlike x x := by
  cases x with
  | ok b => exact .ok b b
  | error f => exact .error f

/-- Steps in a row fail alike when each of them does, whatever it is that they hand on. -/
theorem bind {x : Except ε β} {y : Except ε γ} {f : β → Except ε β'} {g : γ → Except ε γ'}
    (h : FailAlike x y) (hfg : ∀ b c, FailAlike (f b) (g c)) : FailAlike (x >>= f) (y >>= g) := by
  cases h with
  | ok b c => exact hfg b c
  | error f => exact .error f

/-- After one and the same step, the other steps start from the same. -/
theorem bind_same (x : Except ε β) {f : β → Except ε β'} {g : β → Except ε γ'}
    (hfg : ∀ b, FailAlike (f b) (g b)) : FailAlike (x >>= f) (x >>= g) := by
  cases x with
  | ok b => exact hfg b
  | error f => exact .error f

theorem map {x : Except ε β} {y : Except ε γ} (h : FailAlike x y) (f : β → β') (g : γ → γ') :
    FailAlike (x.map f) (y.map g) := by
  cases h with
  | ok b c => exact .ok _ _
  | error f => exact .error f

theorem exists_ok {x : Except ε β} {y : Except ε γ} (h : FailAlike x y) {b : β} (hx : x = .ok b) :
    ∃ c, y = .ok c := by
  rw [hx] at h
  cases h with
  | ok _ c => exact ⟨c, rfl⟩

theorem eq_error {x : Except ε β} {y : Except ε γ} (h : FailAlike x y) {f : ε}
    (hx : x = .error f) : y = .error f := by
  rw [hx] at h
  cases h with
  | error _ => rfl

end FailAlike

/-! ## Results that may be missing -/

section

variable {β γ β' γ' : Type} {S : β → γ → Prop} {S' : β' → γ' → Prop} {x : Option β} {y : Option γ}

theorem optionRel_refl {S : β → β → Prop} (hS : ∀ b, S b b) (x : Option β) :
    Option.Rel S x x := by
  cases x with
  | none => exact .none
  | some b => exact .some (hS b)

theorem optionRel_bind {f : β → Option β'} {g : γ → Option γ'} (h : Option.Rel S x y)
    (hfg : ∀ b c, S b c → Option.Rel S' (f b) (g c)) : Option.Rel S' (x >>= f) (y >>= g) := by
  cases h with
  | none => exact .none
  | some h => exact hfg _ _ h

/-- A step that is the same in both comes to the same. -/
theorem optionRel_bind_same {f : β → Option β'} {g : β → Option γ'} (x : Option β)
    (hfg : ∀ b, Option.Rel S' (f b) (g b)) : Option.Rel S' (x >>= f) (x >>= g) := by
  cases x with
  | none => exact .none
  | some b => exact hfg b

theorem optionRel_map {f : β → β'} {g : γ → γ'} (h : Option.Rel S x y)
    (hfg : ∀ b c, S b c → S' (f b) (g c)) : Option.Rel S' (x.map f) (y.map g) := by
  cases h with
  | none => exact .none
  | some h => exact .some (hfg _ _ h)

theorem isSome_eq_of_optionRel (h : Option.Rel S x y) : x.isSome = y.isSome := by
  cases h <;> rfl

end

end GridLayout
