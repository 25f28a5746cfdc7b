import EggPool.Runtime.LeaseSafety

/-!
# Reloads under every interleaving

Publication never touches a slot that is being retired: each of its accesses, under the lock or
not, keeps `Published` and leaves the accounts alone. With the moves of requests and of
retirement tasks this gives the two invariants in every state that an interleaving reaches, and
from them the safety of reloads.
-/

namespace EggPool.Runtime

open EggPool.Lib RuntimeManager List GenerationSlot

namespace World

variable {w w' : World} {i : SlotRef}

/-- A write of publication: neither counts nor retirement, and the state only of an untended slot. -/
def Rewritten (slot next : GenerationSlot) : Prop :=
  next.retirement = slot.retirement ∧ next.activeLeases = slot.activeLeases ∧
    next.terminalReferences = slot.terminalReferences ∧
    (next.state = slot.state ∨ slot.retirement = none ∧ next.retainable = true)

theorem Rewritten.refl (slot : GenerationSlot) : Rewritten slot slot := ⟨rfl, rfl, rfl, .inl rfl⟩

theorem Rewritten.trans {a b c : GenerationSlot} (h : Rewritten a b) (h' : Rewritten b c) :
    Rewritten a c := by
  obtain ⟨ht, hl, hf, hst⟩ := h
  obtain ⟨hr', hl', hf', hst'⟩ := h'
  refine ⟨hr'.trans ht, hl'.trans hl, hf'.trans hf, ?_⟩
  rcases hst' with hs' | ⟨hu, hr⟩
  · rcases hst with hs | ⟨hu, hr⟩
    · exact .inl (hs'.trans hs)
    · refine .inr ⟨hu, ?_⟩
      rwa [retainable, hs']
  · exact .inr ⟨ht ▸ hu, hr⟩

variable {m : RuntimeManager}

theorem Rewritten.setSlot {g : GenerationSlot → GenerationSlot}
    (h : Rewritten (m.slots i) (g (m.slots i))) (j : SlotRef) :
    Rewritten (m.slots j) ((m.setSlot i g).slots j) := by
  rw [slots_setSlot]
  split
  · rename_i hji
    subst hji
    exact h
  · exact .refl _

theorem Account.Balanced.rewritten {a : Account} (h : a.Balanced) {slot : GenerationSlot}
    (hs : Rewritten a.slot slot) : { a with slot := slot }.Balanced := by
  obtain ⟨hr, hl, hf, hst⟩ := hs
  refine ⟨?_, hl.trans h.leases, hf.trans h.references, fun hp => h.drained ?_⟩
  · rcases hst with hm | ⟨hu, ht⟩
    · exact h.slotOk.of_le hm hr (Nat.le_of_eq hl)
    · exact .of_none (hr.trans hu) ht
  · rwa [pastReferences, hr] at hp

/-- Publication that takes up no new slot leaves the accounts alone. -/
theorem Safe.rewrite (h : w.Safe) {m : RuntimeManager} {rest : List Unwinding}
    (hh : m.shutdown = w.manager.shutdown) (hn : m.nextSlot = w.manager.nextSlot)
    (hl : ∀ j, Rewritten (w.manager.slots j) (m.slots j))
    (hp : ∀ i, { w with manager := m, unwinding := rest }.InPlay i → w.InPlay i)
    (hw : ∀ s, m.swap = some s → { w with manager := m, unwinding := rest }.Swapping s)
    (hg : rest ≠ [] → m.admissionClosed = true) (hend : WellEnded rest)
    (hc : Current m w.acquiring) : { w with manager := m, unwinding := rest }.Safe := by
  obtain ⟨hpu, ha⟩ := h
  refine ⟨⟨hh.trans hpu.running, hw, hg, hend, ?_, hpu.distinct, ?_, hc⟩,
    fun j => (ha.balanced j).rewritten (hl j), fun j hj => ha.unused j (hn ▸ hj)⟩
  · intro i hi
    dsimp only
    rw [hn, (hl i).1]
    exact hpu.inPlay i (hp i hi)
  · intro i hi
    dsimp only
    rw [hn, (hl i).1]
    exact hpu.scheduled i hi

variable {s : StagedGenerationSwap}

theorem Published.inPlay_old (h : w.Published) (hs : w.manager.swap = some s) :
    (w.manager.slots s.old).retirement = none :=
  (h.inPlay s.old (.inr (.inl ⟨s, hs, .inl rfl⟩))).2.1

theorem Safe.locked (h : w.Safe) (hn : w.acquiring = none → w'.Safe) : (w.locked w').Safe := by
  unfold World.locked
  split
  · rename_i hf
    exact hn (Option.isNone_iff_eq_none.mp hf)
  · exact h

theorem rewritten_stopAccepting (m : RuntimeManager) (i j : SlotRef) :
    Rewritten (m.slots j) ((m.stopAccepting i).slots j) :=
  Rewritten.setSlot ⟨rfl, rfl, rfl, .inl rfl⟩ j

/-- The same swap, with the pointer at the slot its phase says. -/
theorem Safe.swing (h : w.Safe) (hs : w.manager.swap = some s)
    (hf : w.acquiring = none) {m : RuntimeManager} {committed : Bool}
    (hl : ∀ j, Rewritten (w.manager.slots j) (m.slots j))
    (hn : m.nextSlot = w.manager.nextSlot) (hh : m.shutdown = w.manager.shutdown)
    (hgt : m.admissionClosed = w.manager.admissionClosed)
    (hact : m.active = if committed then s.new else s.old)
    (hw : m.swap = some { s with pointerCommitted := committed }) :
    { w with manager := m }.Safe := by
  obtain ⟨hd, -, hg, ha⟩ := h.published.swapping s hs
  refine h.rewrite hh hn hl ?_ ?_ ?_ h.published.wellEnded ?_
  · rintro i (rfl | ⟨s', hs', hi⟩ | hu)
    · refine .inr (.inl ⟨s, hs, ?_⟩)
      rw [hact]
      split
      · exact .inr rfl
      · exact .inl rfl
    · cases hw.symm.trans hs'
      exact .inr (.inl ⟨s, hs, hi⟩)
    · exact .inr (.inr hu)
  · intro s' hs'
    cases hw.symm.trans hs'
    exact ⟨hd, hact, hgt.trans hg, ha⟩
  · exact fun hu => absurd ha hu
  · rw [hf]
    trivial

theorem rewritten_commit (hold : (m.slots s.old).retirement = none) (j : SlotRef) :
    Rewritten (m.slots j) (((m.setSlot s.old fun slot =>
      { slot with accepting := false, state := .retiring }).stopAccepting s.new).slots j) :=
  (Rewritten.setSlot ⟨rfl, rfl, rfl, .inr ⟨hold, rfl⟩⟩ j).trans (rewritten_stopAccepting _ _ j)

theorem rewritten_restore (h : (m.slots s.old).retirement = none)
    (j : SlotRef) : Rewritten (m.slots j) ((m.restorePointer s).slots j) :=
  (Rewritten.setSlot ⟨rfl, rfl, rfl, .inr ⟨h, rfl⟩⟩ j).trans (rewritten_stopAccepting _ _ j)

theorem Safe.commitPointer (h : w.Safe) (hf : w.acquiring = none) :
    { w with manager := w.manager.commitPointer.2 }.Safe := by
  rcases commitPointer_cases w.manager with hm | ⟨s, hs, hv⟩
  · rwa [hm]
  · rw [hv]
    exact h.swing hs hf (rewritten_commit (h.published.inPlay_old hs)) rfl rfl rfl rfl rfl

theorem Safe.rollbackPointer (h : w.Safe) (hf : w.acquiring = none) :
    { w with manager := w.manager.rollbackPointer.2 }.Safe := by
  rcases rollbackPointer_cases w.manager with ⟨e, hb⟩ | ⟨s, hs, hb⟩
  · rwa [hb]
  · rw [hb]
    exact h.swing hs hf (rewritten_restore (h.published.inPlay_old hs)) rfl rfl rfl rfl rfl

theorem Published.reapRetirements (h : w.Published) :
    { w with manager := w.manager.reapRetirements }.Published :=
  h.of_sameStage ⟨rfl, rfl, rfl, rfl, rfl, rfl, rfl, fun _ hi => hi⟩
    (h.current.of_eq rfl rfl fun _ => rfl)

theorem Published.stage (h : w.Published) (hf : w.acquiring = none) (ex : Nat) (c : Option Nat) :
    { w with manager := (w.manager.stage ex c).2 }.Published := by
  rcases stage_cases w.manager ex c with
    ⟨e, hr, -⟩ | ⟨generationId, ho, ht⟩
  · rw [hr]
    exact h.reapRetirements
  rw [ht]
  obtain ⟨hact, hn, hun⟩ := h.inPlay w.manager.active (.inl rfl)
  have hd : w.unwinding = [] := by
    by_contra hw
    exact absurd (ho.symm.trans (h.unwindingGated hw)) (by decide)
  have hk : ∀ i, i < w.manager.nextSlot →
      (w.manager.reapRetirements.setSlot w.manager.nextSlot fun _ =>
        GenerationSlot.new generationId false).slots i = w.manager.slots i := by
    intro i hi
    rw [slots_setSlot, if_neg (Nat.ne_of_lt hi)]
    rfl
  constructor
  · exact h.running
  · intro s hs
    cases hs
    exact ⟨Nat.ne_of_lt hact, rfl, rfl, hd⟩
  · exact fun hw => absurd hd hw
  · exact h.wellEnded
  · intro i hi
    -- the active slot, which is also the old one of the swap, or the new one
    have hca : i = w.manager.active ∨ i = w.manager.nextSlot := by
      rcases hi with rfl | ⟨s, hs, hi⟩ | ⟨u, hu, -⟩
      · exact .inl rfl
      · cases hs
        exact hi
      · rw [hd] at hu
        cases hu
    rcases hca with rfl | rfl
    · rw [hk _ hact]
      exact ⟨Nat.lt_succ_of_lt hact, hn, hun⟩
    · refine ⟨Nat.lt_succ_self _, ?_, fun hmem => ?_⟩
      · rw [slots_setSlot, if_pos rfl]
        rfl
      · exact absurd (h.scheduled _ hmem).1 (Nat.lt_irrefl _)
  · exact h.distinct
  · intro i hi
    obtain ⟨hc, hn⟩ := h.scheduled i hi
    rw [hk i hc]
    exact ⟨Nat.lt_succ_of_lt hc, hn⟩
  · rw [hf]
    trivial

theorem Accounted.stage (h : w.Accounted) (ex : Nat) (c : Option Nat) :
    { w with manager := (w.manager.stage ex c).2 }.Accounted := by
  rcases stage_cases w.manager ex c with ⟨e, hr, -⟩ | ⟨generationId, -, ht⟩
  · rw [hr]
    exact ⟨h.balanced, h.unused⟩
  rw [ht]
  constructor
  · intro i
    by_cases hi : i = w.manager.nextSlot
    · subst hi
      obtain ⟨hl, hg, -, hs, hr⟩ := h.unused _ (Nat.le_refl _)
      simp only [account] at hl hg hs hr
      refine ⟨.of_none ?_ ?_, ?_, ?_, ?_⟩ <;>
        simp [account, GenerationSlot.new, GenerationSlot.retainable, hl, hg, hs, hr]
    · have hm := h.balanced i
      simpa [account, hi, RuntimeManager.reapRetirements] using hm
  · intro i hi
    exact h.unused i (Nat.le_of_succ_le hi)

theorem rewritten_publish (hnew : (m.slots s.new).retirement = none)
    (j : SlotRef) : Rewritten (m.slots j) ((m.publish s true).slots j) :=
  Rewritten.setSlot (g := fun slot => { slot with state := .active, accepting := true })
    ⟨rfl, rfl, rfl, .inr ⟨hnew, rfl⟩⟩ j

theorem Safe.accept (h : w.Safe) (hf : w.acquiring = none) (ir : Bool) :
    (w.accept ir).Safe := by
  unfold World.accept
  dsimp only
  split
  · exact h
  rename_i s hs
  split
  · exact h
  rename_i hre
  simp only [Bool.or_eq_true, decide_eq_true_eq, not_or, not_not, Bool.not_eq_true] at hre
  obtain ⟨hp, hac⟩ := h
  obtain ⟨hd, -, -, ha⟩ := hp.swapping s hs
  have hold := hp.inPlay s.old (.inr (.inl ⟨s, hs, .inl rfl⟩))
  have hnew := hp.inPlay s.new (.inr (.inl ⟨s, hs, .inr rfl⟩))
  have hl := rewritten_publish (m := w.manager) hnew.2.1
  have hm : ∀ i, i ∈ (if ir then w.scheduling ++ [s.old] else w.scheduling) →
      i ∈ w.scheduling ∨ i = s.old := by
    intro i hi
    split at hi
    · simpa using hi
    · exact .inl hi
  refine ⟨?_, fun j => (hac.balanced j).rewritten (hl j), hac.unused⟩
  constructor
  · exact hp.running
  · intro s' hs'
    cases hs'
  · exact fun hn => absurd ha hn
  · exact hp.wellEnded
  · -- only the new slot is left in play
    rintro i (rfl | ⟨s', hs', -⟩ | ⟨u, hu, -⟩)
    · dsimp only [RuntimeManager.publish, RuntimeManager.setSlot]
      rw [hre.2]
      refine ⟨hnew.1, (hl s.new).1.trans hnew.2.1, fun hmem => ?_⟩
      rcases hm s.new hmem with hb | hsa
      · exact hnew.2.2 hb
      · exact hd hsa.symm
    · cases hs'
    · rw [ha] at hu
      cases hu
  · split
    · have hc := hp.distinct.concat hold.2.2
      rwa [concat_eq_append] at hc
    · exact hp.distinct
  · intro i hi
    rcases hm i hi with hb | rfl
    · exact ⟨(hp.scheduled i hb).1, (hl i).1.trans (hp.scheduled i hb).2⟩
    · exact ⟨hold.1, (hl _).1.trans hold.2.1⟩
  · rw [hf]
    trivial

/-- A swap is given up: its owner still has some accesses to make, to its slots only. -/
theorem Safe.abandon (h : w.Safe) (hs : w.manager.swap = some s) {rest : List Unwinding}
    (hend : WellEnded rest) (hl : ∀ u ∈ rest, ∀ i, u.slot = some i → i = s.old ∨ i = s.new) :
    { w with
      manager := { w.manager with swap := none }
      unwinding := w.unwinding ++ rest }.Safe := by
  obtain ⟨-, -, hg, ha⟩ := h.published.swapping s hs
  rw [ha]
  refine h.rewrite rfl rfl (fun _ => .refl _) ?_ ?_ (fun _ => hg) hend ?_
  · rintro i (rfl | ⟨s', hs', -⟩ | ⟨u, hu, hi⟩)
    · exact .inl rfl
    · cases hs'
    · exact .inr (.inl ⟨s, hs, hl u hu i hi⟩)
  · intro s' hs'
    cases hs'
  · exact h.published.current.of_gated hg _

theorem Safe.dropSwap (h : w.Safe) : w.dropSwap.Safe := by
  unfold World.dropSwap
  split
  · exact h
  rename_i hs
  refine h.abandon hs ?_ ?_
  · split <;> simp [WellEnded]
  intro u hu i hi
  split at hu <;>
  · simp only [mem_cons, not_mem_nil, or_false] at hu
    rcases hu with rfl | rfl | rfl | rfl <;> simp_all [Unwinding.slot]

theorem Safe.giveUp (h : w.Safe) {t : StagedGenerationSwap}
    (ht : w.manager.swap = some t) (ho : t.old = s.old) (hnew : t.new = s.new) :
    (w.giveUp s).Safe := by
  refine h.abandon ht (by simp [WellEnded]) ?_
  intro u hu i hi
  rw [ho, hnew]
  simp only [mem_cons, not_mem_nil, or_false] at hu
  rcases hu with rfl | rfl | rfl | rfl
  · exact .inl (Option.some.inj hi).symm
  · exact .inl (Option.some.inj hi).symm
  · exact .inr (Option.some.inj hi).symm
  · cases hi

theorem Safe.rollback (h : w.Safe) : w.rollback.Safe := by
  unfold World.rollback
  cases hs : w.manager.swap with
  | none => exact h
  | some s =>
    dsimp only
    split
    · rcases rollbackPointer_cases w.manager with ⟨e, hb⟩ | ⟨t, ht, hb⟩
      · rwa [hb]
      cases hs.symm.trans ht
      rw [hb]
      refine h.locked fun hf => ?_
      have hr := h.rollbackPointer hf
      rw [hb] at hr
      exact hr.giveUp rfl rfl rfl
    · exact h.giveUp hs rfl rfl

/-- The slots that are left to write are slots in play. -/
theorem Published.unwinding_untended (h : w.Published) {u : Unwinding} (hu : u ∈ w.unwinding)
    (hi : u.slot = some i) : (w.manager.slots i).retirement = none :=
  (h.inPlay i (.inr (.inr ⟨u, hu, hi⟩))).2.1

/-- One access of an abandoned swap. -/
theorem Safe.unwound (h : w.Safe) {u : Unwinding} {rest : List Unwinding}
    (hu : w.unwinding = u :: rest) (hend : WellEnded rest) {m : RuntimeManager}
    (hl : ∀ j, Rewritten (w.manager.slots j) (m.slots j))
    (hact : m.active = w.manager.active ∨ u.slot = some m.active)
    (hn : m.nextSlot = w.manager.nextSlot) (hh : m.shutdown = w.manager.shutdown)
    (hw : m.swap = w.manager.swap)
    (hgt : rest ≠ [] → m.admissionClosed = w.manager.admissionClosed)
    (hc : Current m w.acquiring) : { w with manager := m, unwinding := rest }.Safe := by
  have hg : w.manager.admissionClosed = true :=
    h.published.unwindingGated (by rw [hu]; exact cons_ne_nil u rest)
  have hhe : u ∈ w.unwinding := hu ▸ mem_cons_self
  refine h.rewrite hh hn hl ?_ ?_ (fun hr => (hgt hr).trans hg) hend hc
  · rintro i (rfl | ⟨s, hs, hi⟩ | ⟨v, hv, hi⟩)
    · rcases hact with hm | hmo
      · exact .inl hm
      · exact .inr (.inr ⟨u, hhe, hmo⟩)
    · exact .inr (.inl ⟨s, hw ▸ hs, hi⟩)
    · exact .inr (.inr ⟨v, hu ▸ mem_cons_of_mem u hv, hi⟩)
  · intro s hs
    have ha := (h.published.swapping s (hw ▸ hs)).alone
    rw [hu] at ha
    cases ha

theorem Safe.unwind (h : w.Safe) : w.unwind.Safe := by
  have hend := h.published.wellEnded
  unfold World.unwind
  split
  · exact h
  all_goals
    rename_i hu
    rw [hu] at hend
    have hc := h.published.current.of_gated (h.published.unwindingGated (by simp [hu]))
  · exact h.unwound hu hend (fun _ => .refl _) (.inr rfl) rfl rfl rfl (fun _ => rfl) (hc _)
  · have hn := h.published.unwinding_untended (hu ▸ mem_cons_self) rfl
    exact h.unwound hu hend (Rewritten.setSlot ⟨rfl, rfl, rfl, .inr ⟨hn, rfl⟩⟩)
      (.inl rfl) rfl rfl rfl (fun _ => rfl) (hc _)
  · exact h.unwound hu hend (Rewritten.setSlot ⟨rfl, rfl, rfl, .inl rfl⟩)
      (.inl rfl) rfl rfl rfl (fun _ => rfl) (hc _)
  · exact h.unwound hu hend (rewritten_stopAccepting _ _)
      (.inl rfl) rfl rfl rfl (fun _ => rfl) (hc _)
  · -- the gate opens, and nothing is left to do
    exact h.locked fun _ => h.unwound hu (hend ▸ trivial) (fun _ => .refl _) (.inl rfl) rfl rfl rfl
      (fun hr => absurd hend hr) (hc _)

/-! ## Every interleaving -/

/-- Moves that give out handles or take them back. -/
def Move.OfHandle : Move → Prop
  | .releaseLease _ | .look _ | .exchangeFails _ | .exchange _ | .lookAgain _ | .undoReservation _
  | .dropGuard _ => True
  | _ => False

/-- Handles have no part in publication. -/
theorem Published.handle (h : w.Published) {mo : Move} (hm : mo.OfHandle) :
    (w.step mo).Published := by
  cases mo with
  | releaseLease | look | exchangeFails | exchange | lookAgain | undoReservation | dropGuard =>
    simp only [World.step, World.releaseLease, World.look, World.exchangeFails, World.exchange,
      World.lookAgain, World.undoReservation, World.dropGuard]
    repeat' split
    all_goals first
      | exact h
      | exact h.of_eq rfl rfl rfl rfl
      | exact (h.setSlot id rfl).of_eq rfl rfl rfl rfl
  | _ => exact hm.elim

theorem Safe.step (h : w.Safe) (mo : Move) : (w.step mo).Safe := by
  have hp := h.published
  have ha := h.accounted
  cases mo with
  | enter =>
    exact h.locked fun _ => ⟨hp.of_sameStage ⟨rfl, rfl, rfl, rfl, rfl, rfl, rfl, fun _ hi => hi⟩
      trivial, ha.balanced, ha.unused⟩
  | acquireNext => exact h.acquireNext
  | releaseLease i => exact ⟨hp.handle trivial, ha.releaseLease i⟩
  | look i => exact ⟨hp.handle trivial, ha.look i⟩
  | exchangeFails i => exact ⟨hp.handle trivial, ha.exchangeFails i⟩
  | exchange i => exact ⟨hp.handle trivial, ha.exchange i⟩
  | lookAgain i => exact ⟨hp.handle trivial, ha.lookAgain i⟩
  | undoReservation i => exact ⟨hp.handle trivial, ha.undoReservation i⟩
  | dropGuard i => exact ⟨hp.handle trivial, ha.dropGuard i⟩
  | reapRetirements => exact ⟨hp.reapRetirements, ha.balanced, ha.unused⟩
  | stage expected candidate =>
    exact h.locked fun hf => ⟨hp.stage hf expected candidate, ha.stage expected candidate⟩
  | commitPointer => exact h.locked h.commitPointer
  | rollbackPointer => exact h.locked h.rollbackPointer
  | accept inRuntime => exact h.locked fun hf => h.accept hf inRuntime
  | rollback => exact h.rollback
  | dropSwap => exact h.dropSwap
  | unwind => exact h.unwind
  | schedule i => exact h.schedule i
  | retirement i event => exact ⟨hp.retirementStep i event, ha.retirementStep i event⟩

theorem safe_after (g : Nat) (mo : List Move) : (after g mo).Safe :=
  run_invariant (I := Safe) (fun _ move h => h.step move) ⟨published_new g, accounted_new g⟩ mo

/-- **The counters count the handles** under every interleaving. -/
theorem counters_count_handles (g : Nat) (mo : List Move) : (after g mo).Accounted :=
  (safe_after g mo).accounted

/-- **Publication keeps to slots that nobody retires**, and undoes a swap behind a closed gate. -/
theorem publication_kept_apart (g : Nat) (mo : List Move) : (after g mo).Published :=
  (safe_after g mo).published

theorem leases_locked_le (hn : w'.leases i ≤ w.leases i) : (w.locked w').leases i ≤ w.leases i := by
  unfold World.locked
  split
  · exact hn
  · exact Nat.le_refl _

/-- Only the last access of `acquire` makes a lease. -/
theorem granted_cases {mo : Move} (h : w.leases i < (w.step mo).leases i) :
    w.acquiring = some (.sawAccepting i) := by
  have hn : ¬ (w.step mo).leases i ≤ w.leases i := Nat.not_le.mpr h
  cases mo with
  | acquireNext =>
    unfold World.step World.acquireNext at h
    dsimp only at h
    split at h
    · exact absurd h (Nat.lt_irrefl _)
    · split at h <;> exact absurd h (Nat.lt_irrefl _)
    · exact absurd h (Nat.lt_irrefl _)
    · split at h <;> exact absurd h (Nat.lt_irrefl _)
    · dsimp only at h
      rw [inc_apply] at h
      split at h
      · rename_i hik
        rwa [hik]
      · exact absurd h (Nat.lt_irrefl _)
  | releaseLease k =>
    refine absurd ?_ hn
    unfold World.step World.releaseLease
    dsimp only
    split
    · dsimp only
      rw [dec_apply]
      split <;> omega
    · exact Nat.le_refl _
  | look | exchange | lookAgain | undoReservation | dropGuard | schedule | enter | stage |
    commitPointer | rollbackPointer | accept | rollback | dropSwap | unwind =>
    -- no branch of these writes the leases
    refine absurd ?_ hn
    simp only [World.step, World.look, World.exchange, World.lookAgain, World.undoReservation,
      World.dropGuard, World.schedule, World.accept, World.rollback, World.dropSwap, World.unwind]
    repeat' split
    all_goals first
      | exact Nat.le_refl _
      | exact leases_locked_le (Nat.le_refl _)
  | exchangeFails _ | reapRetirements | retirement _ _ => exact absurd (Nat.le_refl _) hn

/-- Nothing is out on a slot that is being closed or is closed. -/
theorem Accounted.closed (h : w.Accounted)
    (hc : (w.manager.slots i).state = .closing ∨ (w.manager.slots i).state = .closed) :
    w.leases i = 0 ∧ w.guards i = 0 := by
  obtain ⟨hok, hl, -, hd⟩ := h.balanced i
  change (w.manager.slots i).activeLeases = w.leases i at hl
  change (w.manager.slots i).pastReferences = true → w.guards i = 0 at hd
  change (w.manager.slots i).Ok at hok
  unfold pastReferences at hd
  unfold GenerationSlot.Ok at hok
  rw [← hl]
  split at hok <;> rename_i hp
  case h_6 | h_7 => exact ⟨hok.2, hd (by rw [hp])⟩
  all_goals rcases hc with hst | hst <;> simp [retainable, hst] at hok

/--
**Reloads are safe under every interleaving.** One slot is active, and it is one that serves;
a lease is granted on the active slot only, while it accepts and the gate is open; and a slot
is closed only when no lease and no finalization guard is out on it, from the moment the close
begins.
-/
theorem reload_safe (generationId : Nat) (moves : List Move) :
    (∃! i, i < (after generationId moves).manager.nextSlot ∧
      (after generationId moves).manager.active = i) ∧ (∀ move i,
      (after generationId moves).leases i < ((after generationId moves).step move).leases i →
      (after generationId moves).manager.active = i ∧
        ((after generationId moves).manager.slots i).accepting = true ∧
        (after generationId moves).manager.admissionClosed = false) ∧
    ∀ i, ((after generationId moves).manager.slots i).state = .closing ∨
        ((after generationId moves).manager.slots i).state = .closed →
      (after generationId moves).leases i = 0 ∧ (after generationId moves).guards i = 0 := by
  obtain ⟨hpublished, haccounted⟩ := safe_after generationId moves
  generalize after generationId moves = w at hpublished haccounted
  refine ⟨?_, ?_, fun i => haccounted.closed⟩
  · refine ⟨w.manager.active, ⟨(hpublished.inPlay _ (.inl rfl)).1, rfl⟩, ?_⟩
    rintro i ⟨-, rfl⟩
    rfl
  · intro move i hgranted
    have hcurrent := hpublished.current
    rw [granted_cases hgranted] at hcurrent
    exact ⟨hcurrent.2.1, hcurrent.2.2, hcurrent.1⟩

end World

end EggPool.Runtime
