import EggPool.Lib.Run

/-!
# Attempts over a list

A function that may fail, applied along a list: the first error ends the walk. What a
caller needs is one equation for a success, which gives the results one by one, and its
use on a list that is put together from pieces.
-/

namespace EggPool.Lib

variable {ε α β : Type} {f : α → Except ε β}

theorem exists_bind_eq_ok_iff {x : Except ε α} :
    (∃ b, x >>= f = .ok b) ↔ ∃ a, x = .ok a ∧ ∃ b, f a = .ok b := by
  constructor
  · rintro ⟨b, hb⟩
    obtain ⟨a, ha, hf⟩ := bind_eq_ok.mp hb
    exact ⟨a, ha, b, hf⟩
  · rintro ⟨a, ha, b, hf⟩
    exact ⟨b, bind_eq_ok.mpr ⟨a, ha, hf⟩⟩

/-- The results for all elements, or the first error. -/
def collect (f : α → Except ε β) : List α → Except ε (List β)
  | [] => .ok []
  | a :: l => do
    let b ← f a
    let bs ← collect f l
    .ok (b :: bs)

theorem collect_eq_ok_iff : ∀ {l : List α} {r : List β},
    collect f l = .ok r ↔ List.Forall₂ (fun a b => f a = .ok b) l r := by
  intro l
  induction l with
  | nil =>
    intro r
    rw [collect, List.forall₂_nil_left_iff, Except.ok.injEq, eq_comm]
  | cons a l ih =>
    intro r
    rw [collect, List.forall₂_cons_left_iff, bind_eq_ok]
    constructor
    · rintro ⟨b, hb, hs⟩
      obtain ⟨bs, hbs, hr⟩ := bind_eq_ok.mp hs
      cases hr
      exact ⟨b, bs, hb, ih.mp hbs, rfl⟩
    · rintro ⟨b, bs, hb, hbs, rfl⟩
      exact ⟨b, hb, bind_eq_ok.mpr ⟨bs, ih.mpr hbs, rfl⟩⟩

theorem collect_map {γ : Type} (f : β → Except ε γ) (g : α → β) (l : List α) :
    collect f (l.map g) = collect (fun a => f (g a)) l := by
  induction l with
  | nil => rfl
  | cons a l ih => rw [List.map_cons, collect, collect, ih]

/-- A list that is written and read back element by element. -/
theorem collect_round {γ : Type} {w : α → Except ε β} {r : β → Except ε γ}
    {R : α → γ → Prop} {l : List α} (h : ∀ a ∈ l, ∃ b c, w a = .ok b ∧ r b = .ok c ∧ R a c) :
    ∃ bs cs, collect w l = .ok bs ∧ collect r bs = .ok cs ∧ List.Forall₂ R l cs := by
  induction l with
  | nil => exact ⟨[], [], rfl, rfl, .nil⟩
  | cons a l ih =>
    obtain ⟨b, c, hw, hrd, hr⟩ := h a List.mem_cons_self
    obtain ⟨bs, cs, ht, hre, hl⟩ := ih fun a ha => h a (List.mem_cons_of_mem _ ha)
    refine ⟨b :: bs, c :: cs, ?_, ?_, .cons hr hl⟩
    · rw [collect, hw, ht]
      rfl
    · rw [collect, hrd, hre]
      rfl

end EggPool.Lib
