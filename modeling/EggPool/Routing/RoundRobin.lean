import EggPool.Lib.Recency
import EggPool.Routing.AcceptedSelection

/-!
# Taking turns

Under one fairness key the tied accounts are put in the order of their names and turned by a
counter that each accepted selection moves on, so that over a full round everyone is first
once. The counters live in a table of bounded size that forgets the key which was not
committed for the longest time; a key is safe as long as fewer other keys are committed than
the table holds.
-/

namespace EggPool.Routing

open EggPool.Lib List

/-! ## The rotor's table -/

namespace RotorState

/-- The rotor before anything is committed. -/
def empty : RotorState := ⟨.empty, []⟩

/-- One commit, of a key and the width of its band. -/
def commit (rotor : RotorState) (c : String × Nat) : RotorState := rotor.commitKeyed c.1 c.2

/-- Takes the key out of the recency list, or makes room for it. -/
def makeRoom (rotor : RotorState) (key : String) : RotorState :=
  if (rotor.positions.lookup key).isSome then
    { rotor with lru := rotor.lru.filter (· ≠ key) }
  else if FAIRNESS_KEY_HARD_CAP ≤ rotor.positions.size then
    match rotor.lru with
    | [] => rotor
    | oldest :: lru => ⟨rotor.positions.erase oldest, lru⟩
  else rotor

variable (rotor : RotorState)

theorem commitKeyed_eq (key : String) {c : Nat} (h : 2 ≤ c) : rotor.commitKeyed key c =
      { positions := (rotor.makeRoom key).positions.set key
          (min ((rotor.makeRoom key).position key + 1) U64_MAX)
        lru := (rotor.makeRoom key).lru ++ [key] } := by
  unfold commitKeyed
  rw [if_neg (Nat.not_lt.mpr h)]
  rfl

theorem commitKeyed_of_narrow (key : String) {c : Nat} (h : c < 2) :
    rotor.commitKeyed key c = rotor :=
  if_pos h

/-- The recency list has each key of the table once, and is not too long. -/
structure WellFormed (rotor : RotorState) : Prop where
  nodup : rotor.lru.Nodup
  keys : ∀ key, key ∈ rotor.lru ↔ (rotor.positions.lookup key).isSome
  bounded : rotor.lru.length ≤ FAIRNESS_KEY_HARD_CAP

variable {rotor : RotorState} {key : String}

theorem isSome_lookup_iff :
    (rotor.positions.lookup key).isSome ↔ key ∈ rotor.positions.rows.map Prod.fst := by
  rw [OrdMap.lookup, Option.isSome_map, Option.isSome_iff_exists, mem_map]
  constructor
  · rintro ⟨row, hrow⟩
    exact ⟨row, Table.mem_of_get? hrow, Table.key_of_get? hrow⟩
  · rintro ⟨row, hrow, rfl⟩
    exact ⟨row, Table.get?_self hrow⟩

theorem WellFormed.size_eq (h : rotor.WellFormed) : rotor.positions.size = rotor.lru.length := by
  have hp : rotor.lru.Perm (rotor.positions.rows.map Prod.fst) := by
    rw [perm_ext_iff_of_nodup h.nodup rotor.positions.keys_nodup]
    exact fun key => (h.keys key).trans isSome_lookup_iff
  rw [hp.length_eq, length_map]
  rfl

theorem wellFormed_empty : empty.WellFormed :=
  ⟨.nil, fun _ => iff_of_false not_mem_nil Bool.false_ne_true, Nat.zero_le _⟩

/-- The three things that making room can come to. -/
theorem WellFormed.makeRoom_cases (h : rotor.WellFormed) (key : String) :
    ((rotor.positions.lookup key).isSome ∧
      rotor.makeRoom key = { rotor with lru := rotor.lru.filter (· ≠ key) }) ∨
    ((rotor.positions.lookup key).isNone ∧ rotor.lru.length < FAIRNESS_KEY_HARD_CAP ∧
      rotor.makeRoom key = rotor) ∨
    ∃ o lru, (rotor.positions.lookup key).isNone ∧ rotor.lru = o :: lru ∧
      rotor.lru.length = FAIRNESS_KEY_HARD_CAP ∧
      rotor.makeRoom key = ⟨rotor.positions.erase o, lru⟩ := by
  unfold RotorState.makeRoom
  cases rotor.positions.lookup key with
  | some position => exact .inl ⟨rfl, if_pos rfl⟩
  | none =>
    right
    rw [Option.isSome_none, if_neg Bool.false_ne_true, h.size_eq]
    split
    · rename_i hf
      have hlen := le_antisymm h.bounded hf
      cases hl : rotor.lru with
      | nil =>
        rw [hl] at hlen
        cases hlen
      | cons o lru => exact .inr ⟨o, lru, rfl, rfl, hl ▸ hlen, rfl⟩
    · rename_i hr
      exact .inl ⟨rfl, Nat.not_le.mp hr, rfl⟩

theorem WellFormed.not_mem (h : rotor.WellFormed)
    (hnew : (rotor.positions.lookup key).isNone = true) : key ∉ rotor.lru := by
  intro hin
  have hs := (h.keys key).mp hin
  rw [Option.isNone_iff_eq_none.mp hnew] at hs
  cases hs

/-- Room is made in the list and in the table alike, and the key is not in the list any more. -/
theorem WellFormed.makeRoom (h : rotor.WellFormed) (key : String) :
    (rotor.makeRoom key).lru.Nodup ∧ key ∉ (rotor.makeRoom key).lru ∧
      (∀ other, other ≠ key → (other ∈ (rotor.makeRoom key).lru ↔
        ((rotor.makeRoom key).positions.lookup other).isSome)) ∧
      (rotor.makeRoom key).lru.length < FAIRNESS_KEY_HARD_CAP := by
  rcases h.makeRoom_cases key with ⟨hk, heq⟩ | ⟨hnew, hr, heq⟩ |
    ⟨oldest, lru, hnew, hl, hlen, heq⟩
  · have hlt : (rotor.lru.filter (· ≠ key)).length < rotor.lru.length := by
      refine length_filter_lt_length_iff_exists.mpr ⟨key, (h.keys key).mpr hk, ?_⟩
      simp
    rw [heq]
    refine ⟨h.nodup.filter _, by simp, fun other ho => ?_, hlt.trans_le h.bounded⟩
    simp [ho, h.keys other]
  · rw [heq]
    exact ⟨h.nodup, h.not_mem hnew, fun other _ => h.keys other, hr⟩
  · have hn := h.nodup
    rw [hl] at hn
    rw [heq]
    refine ⟨hn.of_cons, fun hin => ?_, fun other _ => ?_, ?_⟩
    · exact h.not_mem hnew (hl ▸ mem_cons_of_mem _ hin)
    · have hkey := h.keys other
      rw [hl, mem_cons] at hkey
      rw [OrdMap.lookup_erase]
      by_cases hold : other = oldest
      · rw [if_pos hold, hold]
        exact iff_of_false (nodup_cons.mp hn).1 Bool.false_ne_true
      · rw [if_neg hold, ← hkey, or_iff_right hold]
    · rw [hl] at hlen
      exact Nat.lt_of_succ_le hlen.le

theorem WellFormed.commit (h : rotor.WellFormed) (c : String × Nat) :
    (rotor.commit c).WellFormed := by
  obtain ⟨key, cou⟩ := c
  unfold RotorState.commit
  rcases Nat.lt_or_ge cou 2 with hn | hw
  · rwa [commitKeyed_of_narrow _ _ hn]
  rw [commitKeyed_eq _ _ hw]
  obtain ⟨hd, hf, hkey, hr⟩ := h.makeRoom key
  refine ⟨?_, fun other => ?_, ?_⟩
  · exact hd.append (nodup_singleton key) (disjoint_singleton.mpr hf)
  · rw [mem_append, mem_singleton, OrdMap.lookup_set]
    by_cases ho : other = key
    · simp [ho]
    · rw [if_neg (Ne.symm ho), or_iff_left ho]
      exact hkey other ho
  · rwa [length_append]

/-- Every rotor that commits lead to. -/
theorem wellFormed_run (hi : List (String × Nat)) : (run commit empty hi).WellFormed :=
  run_invariant (I := WellFormed) (fun _ c h => h.commit c) wellFormed_empty hi

/-! ## A key that stays -/

/-- Whatever was committed after `key` is among `others`. -/
def Recent (rotor : RotorState) (key : String) (others : Finset String) : Prop :=
  Behind key others rotor.lru

theorem position_commitKeyed_self (h : rotor.WellFormed) (key : String) {c : Nat}
    (hw : 2 ≤ c) (hr : rotor.position key < U64_MAX) :
    (rotor.commitKeyed key c).position key = rotor.position key + 1 := by
  have hs : (rotor.makeRoom key).position key = rotor.position key := by
    unfold position
    rcases h.makeRoom_cases key with ⟨-, heq⟩ | ⟨-, -, heq⟩ | ⟨olde, lru, hnew, -, -, heq⟩
    · rw [heq]
    · rw [heq]
    · rw [heq, OrdMap.lookup_erase, Option.isNone_iff_eq_none.mp hnew, ite_self]
  rw [commitKeyed_eq _ _ hw, position, OrdMap.lookup_set, if_pos rfl, hs]
  exact min_eq_left hr

theorem recent_commitKeyed_self (key : String) {c : Nat}
    (hw : 2 ≤ c) : (rotor.commitKeyed key c).Recent key ∅ := by
  rw [commitKeyed_eq _ _ hw]
  exact behind_push _

/-- **A recent key survives the commit of another one**, if not too many came after it. -/
theorem Recent.commit {o : Finset String} (hrec : rotor.Recent key o)
    (h : rotor.WellFormed) (c : String × Nat) (hne : c.1 ≠ key)
    (hf : (insert c.1 o).card < FAIRNESS_KEY_HARD_CAP) :
    (rotor.commit c).Recent key (insert c.1 o) ∧
      (rotor.commit c).position key = rotor.position key := by
  obtain ⟨other, cou⟩ := c
  unfold RotorState.commit
  rcases Nat.lt_or_ge cou 2 with hr | hw
  · rw [commitKeyed_of_narrow _ _ hr]
    exact ⟨hrec.mono (Finset.subset_insert _ _), rfl⟩
  -- whatever was done to make room, the key is still in its place
  suffices hp : Behind key o (rotor.makeRoom other).lru ∧
      (rotor.makeRoom other).position key = rotor.position key by
    rw [commitKeyed_eq _ _ hw]
    refine ⟨hp.1.push other, ?_⟩
    rw [← hp.2, position, OrdMap.lookup_set, if_neg hne]
    rfl
  rcases h.makeRoom_cases other with ⟨-, heq⟩ | ⟨-, -, heq⟩ | ⟨oldest, lru, hnew, hh, hlen, heq⟩ <;>
    rw [heq]
  · exact ⟨hrec.filter hne, rfl⟩
  · exact ⟨hrec, rfl⟩
  · have hb := hrec.tail h.nodup (h.not_mem hnew) (hlen ▸ hf)
    have hd := h.nodup
    rw [hh] at hb hd
    refine ⟨hb, ?_⟩
    have hkey : key ≠ oldest := by
      rintro rfl
      exact (nodup_cons.mp hd).1 hb.mem
    rw [position, OrdMap.lookup_erase, if_neg hkey]
    rfl

/-- **And any number of commits of few other keys.** -/
theorem Recent.commits : ∀ {commits : List (String × Nat)} {rotor : RotorState}
    {others : Finset String}, rotor.Recent key others → rotor.WellFormed →
    (∀ c ∈ commits, c.1 ≠ key) →
    ((commits.map Prod.fst).toFinset ∪ others).card < FAIRNESS_KEY_HARD_CAP →
    (run RotorState.commit rotor commits).position key = rotor.position key := by
  intro commits
  induction commits with
  | nil => exact fun _ _ _ _ => rfl
  | cons c commits ih =>
    intro rotor others hrec h hne hf
    obtain ⟨hc, hm⟩ := forall_mem_cons.mp hne
    have hall : ((c :: commits).map Prod.fst).toFinset ∪ others =
        (commits.map Prod.fst).toFinset ∪ insert c.1 others := by
      ext k
      simp only [map_cons, toFinset_cons, Finset.mem_union, Finset.mem_insert]
      tauto
    rw [hall] at hf
    have hl := lt_of_le_of_lt (Finset.card_le_card Finset.subset_union_right) hf
    obtain ⟨hrec', hp⟩ := hrec.commit h c hc hl
    exact (ih hrec' (h.commit c) hm hf).trans hp

end RotorState

/-! ## One turn -/

namespace Router

/-- The candidates that are taken in turn. -/
def tieBand (r : Router) : List RoutingCandidate → List RoutingCandidate
  | [] => []
  | best :: tail => (best :: tail).filter (r.inBand best)

/-- The key their turns are counted under. -/
def orderingKey (r : Router) (facts : RoutingRequestFacts) : List RoutingCandidate → String
  | [] => ""
  | best :: _ => (r.fairnessKey facts best.priority best.protocol).toKeyString

/-- In round-robin mode a band of two or more is put in the order of names and turned. -/
theorem fairnessOrder_of_roundRobin {r : Router} (f : RoutingRequestFacts)
    {c : List RoutingCandidate} (hm : r.fairnessMode = .roundRobin)
    (hw : 2 ≤ (r.tieBand c).length) : ∃ band rest d,
      band = ((r.tieBand c).mergeSort fun a b => a.accountName ≤ b.accountName).rotate
        (r.rotor.position (r.orderingKey f c)) ∧ r.fairnessOrder f c = (band ++ rest, some d) ∧
      d.applied = true ∧ d.key = r.orderingKey f c ∧ d.candidateCount = (r.tieBand c).length ∧
      d.orderedAccounts = band.map (·.accountName) := by
  cases c with
  | nil => cases hw
  | cons best tail =>
    have ha : ¬ (r.fairnessMode = .off || ((best :: tail).filter (r.inBand best)).length < 2)
        = true := by
      rw [hm, Bool.or_eq_true, decide_eq_true_eq, decide_eq_true_eq]
      rintro (h | h)
      · cases h
      · exact Nat.not_lt.mpr hw h
    unfold fairnessOrder
    dsimp only
    rw [if_neg ha, if_pos hm]
    exact ⟨_, _, _, rfl, rfl, rfl, rfl, rfl, rfl⟩

/-- Account names in order do not depend on the order in which the accounts came. -/
theorem names_mergeSort {ba : List RoutingCandidate} {ac : List String}
    (h : (ba.map (·.accountName)).Perm ac) :
    (ba.mergeSort fun a b => a.accountName ≤ b.accountName).map (·.accountName) =
      ac.insertionSort (· ≤ ·) := by
  refine List.Perm.eq_of_pairwise' ?_ (pairwise_insertionSort _ _) ?_
  · refine pairwise_map.mpr ?_
    refine (pairwise_mergeSort (fun a b c hab hbc => ?_) (fun a b => ?_) ba).imp fun h => ?_
    · exact decide_eq_true ((of_decide_eq_true hab).trans (of_decide_eq_true hbc))
    · rw [Bool.or_eq_true, decide_eq_true_eq, decide_eq_true_eq]
      exact le_total _ _
    · exact of_decide_eq_true h
  · exact ((mergeSort_perm _ _).map _).trans (h.trans (perm_insertionSort _ _).symm)

/-- Nobody refused: the decision is committed as it was made. -/
theorem acceptedFairness_of_mem {f : FairnessDecision} {s : RoutingCandidate}
    (ha : f.applied = true) (hmem : s.accountName ∈ f.orderedAccounts)
    (hc : f.orderedAccounts.length = f.candidateCount) :
    (acceptedFairness f s []).applied = true ∧ (acceptedFairness f s []).key = f.key ∧
      (acceptedFairness f s []).candidateCount = f.candidateCount := by
  have hall : (f.orderedAccounts.filter fun account => !([] : List String).contains account) =
      f.orderedAccounts := filter_eq_self.mpr fun _ _ => rfl
  obtain ⟨index, hi⟩ := Option.isSome_iff_exists.mp (isSome_idxOf?.mpr hmem)
  unfold acceptedFairness
  rw [ha]
  dsimp only
  rw [hall, hi]
  exact ⟨rfl, rfl, max_eq_left hc.le⟩

/-- **One turn**: whoever is first by the counter, which then moves on. -/
theorem turn_spec {r : Router} {f : RoutingRequestFacts} {ea : List String}
    {p : Option String} {c : SelectionClock} {cl : SelectionClaim}
    {ac : List String} (hmo : r.fairnessMode = .roundRobin) (hw : 2 ≤ ac.length)
    (hba : ((r.tieBand (r.candidates f ea p c)).map (·.accountName)).Perm ac)
    (hcl : (r.selectAndClaimWithPreference f ea p c).2 = .ok (some cl))
    (hh : (r.ordered f ea p c).head?.map (·.accountName) = some cl.accountName) :
    ((ac.insertionSort (· ≤ ·)).rotate (r.rotor.position (r.orderingKey f
      (r.candidates f ea p c)))).head? = some cl.accountName ∧
    (r.selectAndClaimWithPreference f ea p c).1.rotor = r.rotor.commitKeyed (r.orderingKey f
        (r.candidates f ea p c)) ac.length := by
  have hl : (r.tieBand (r.candidates f ea p c)).length =
      ac.length := by
    rw [← hba.length_eq, length_map]
  obtain ⟨band, rest, dcs, ht, ho, ha, hkey, hc, hn⟩ :=
    fairnessOrder_of_roundRobin f hmo (hl ▸ hw)
  have hb : band.map (·.accountName) = (ac.insertionSort (· ≤ ·)).rotate
      (r.rotor.position (r.orderingKey f
        (r.candidates f ea p c))) := by
    rw [ht, map_rotate, names_mergeSort hba]
  have hd : r.ordered f ea p c = band ++ rest := by
    rw [ordered, ho]
  obtain ⟨ear, chosen, later, hs, -, hm, hr⟩ := selectAndClaim_ok hcl
  -- the head was accepted, so nobody was asked before it
  have hno := r.ordered_nodup f ea p c
  rw [hs] at hh hno
  cases ear with
  | cons first ear =>
    exfalso
    have hsa : first.accountName = chosen.accountName :=
      (Option.some.inj hh).trans hm
    refine (nodup_cons.mp hno).1 (mem_map.mpr ⟨chosen, ?_, hsa.symm⟩)
    exact mem_append_right _ mem_cons_self
  | nil =>
    cases band with
    | nil =>
      have hnn := congrArg length ht
      rw [length_rotate, length_mergeSort, hl] at hnn
      exact absurd (hnn ▸ hw) (by decide)
    | cons first band =>
      have hf : first = chosen := by
        rw [hs] at hd
        exact (cons.inj hd).1.symm
      subst hf
      refine ⟨by rw [← hb, hm]; rfl, hr.trans ?_⟩
      obtain ⟨ha', hkey', hc'⟩ := acceptedFairness_of_mem ha
        (show first.accountName ∈ dcs.orderedAccounts by
          rw [hn]
          exact mem_cons_self)
        (by rw [hn, hc, ht, length_map, length_rotate, length_mergeSort])
      rw [ho, rotorAfter, Option.map_some, map_nil, Option.filter_some, if_pos ha']
      dsimp only
      rw [rotor_commitFairness, hkey', hc', hc, hl, hkey, if_pos ⟨hmo, hw⟩]

/-! ## A round -/

/--
Selections under one key from a rotor on, each of which claims the first of the band, and whom
they claim. The routers may differ in all but the rotor, which between two selections is
changed by commits of fewer other keys than the table holds.
-/
inductive Turns (key : String) (accounts : List String) : RotorState → List String → Prop
  | done (rotor : RotorState) : Turns key accounts rotor []
  | turn {r : Router} {facts : RoutingRequestFacts} {excludeAccounts : List String}
      {preferredAccount : Option String} {clock : SelectionClock} {claim : SelectionClaim}
      {others : List (String × Nat)} {claimed : List String}
      (hmode : r.fairnessMode = .roundRobin)
      (hkey : r.orderingKey facts (r.candidates facts excludeAccounts preferredAccount clock) = key)
      (hband : ((r.tieBand (r.candidates facts excludeAccounts preferredAccount clock)).map
        (·.accountName)).Perm accounts)
      (hclaim : (r.selectAndClaimWithPreference facts excludeAccounts preferredAccount clock).2 =
        .ok (some claim))
      (hhead : (r.ordered facts excludeAccounts preferredAccount clock).head?.map (·.accountName) =
        some claim.accountName)
      (hothers : ∀ c ∈ others, c.1 ≠ key)
      (hfew : (others.map Prod.fst).toFinset.card < FAIRNESS_KEY_HARD_CAP)
      (hrest : Turns key accounts (run RotorState.commit
        (r.selectAndClaimWithPreference facts excludeAccounts preferredAccount clock).1.rotor others)
        claimed) :
      Turns key accounts r.rotor (claim.accountName :: claimed)

/-- A list from its head on, in terms of the list turned by one. -/
theorem take_succ_eq_cons_rotate {l : List String} {a : String} {k : Nat} (hh : l.head? = some a)
    (hk : k < l.length) : l.take (k + 1) = a :: (l.rotate 1).take k := by
  cases l with
  | nil => cases hh
  | cons b tail =>
    cases hh
    rw [take_succ_cons, rotate_cons_succ, rotate_zero,
      take_append_of_le_length (Nat.le_of_lt_succ hk)]

/-- **Turns spell out the rotation of the names.** -/
theorem Turns.claimed_eq {key : String} {ac : List String} (hd : 2 ≤ ac.length)
    {rotor : RotorState} {cl : List String} (h : Turns key ac rotor cl)
    (hr : rotor.WellFormed) (hlen : cl.length ≤ ac.length)
    (hro : rotor.position key + cl.length ≤ U64_MAX) :
    cl = ((ac.insertionSort (· ≤ ·)).rotate (rotor.position key)).take cl.length := by
  induction h with
  | done rotor => rfl
  | @turn r fac ea pa clo cla oth cl hmo hkey hb hcl
      hh ho hw _ ih =>
      obtain ⟨hf, hc⟩ := turn_spec hmo hd hb hcl hh
      rw [hkey] at hf hc
      rw [hc] at ih
      rw [length_cons] at hlen hro ⊢
      have hm : (r.rotor.commitKeyed key ac.length).WellFormed :=
        hr.commit (key, ac.length)
      have hn : (run RotorState.commit (r.rotor.commitKeyed key ac.length) oth).position
          key = r.rotor.position key + 1 := by
        rw [(r.rotor.recent_commitKeyed_self key hd).commits hm ho (by rwa [Finset.union_empty])]
        exact RotorState.position_commitKeyed_self hr key hd (by omega)
      have hwe : (run RotorState.commit (r.rotor.commitKeyed key ac.length)
          oth).WellFormed :=
        run_invariant (fun _ c h => h.commit c) hm oth
      have hs := ih hwe (by omega) (by rw [hn]; omega)
      rw [hn, ← rotate_rotate] at hs
      have hl : cl.length <
          ((ac.insertionSort (· ≤ ·)).rotate (r.rotor.position key)).length := by
        rwa [length_rotate, length_insertionSort]
      rw [take_succ_eq_cons_rotate hf hl, ← hs]

/-- **In a round everyone is claimed once**, and the rotor's table stays within its bound. -/
theorem round_claims_each_once (history : List (String × Nat)) :
    (run RotorState.commit .empty history).positions.size ≤ FAIRNESS_KEY_HARD_CAP ∧
    ∀ (key : String) (accounts claimed : List String), 2 ≤ accounts.length → accounts.Nodup →
      Turns key accounts (run RotorState.commit .empty history) claimed →
      claimed.length = accounts.length →
      (run RotorState.commit .empty history).position key + accounts.length ≤ U64_MAX →
      ∀ account ∈ accounts, claimed.count account = 1 := by
  have hwell := RotorState.wellFormed_run history
  refine ⟨hwell.size_eq.trans_le hwell.bounded, ?_⟩
  intro key accounts claimed hwide hdistinct hturns hlen hroom account hmem
  have hclaimed := hturns.claimed_eq hwide hwell hlen.le (hlen ▸ hroom)
  have hall : ((accounts.insertionSort (· ≤ ·)).rotate
      ((run RotorState.commit .empty history).position key)).length ≤ claimed.length := by
    rw [length_rotate, length_insertionSort, hlen]
  rw [take_of_length_le hall] at hclaimed
  have hperm : claimed.Perm accounts := by
    rw [hclaimed]
    exact (rotate_perm _ _).trans (perm_insertionSort _ _)
  rw [hperm.count_eq]
  exact count_eq_one_of_mem hdistinct hmem

/-- A claim is made if the first to be asked lets the request through and the book has room. -/
theorem selectAndClaim_of_first {r : Router} {f : RoutingRequestFacts}
    {ea : List String} {p : Option String} {c : SelectionClock}
    {fi : RoutingCandidate} {re : List RoutingCandidate} (ho : r.ordered f ea p c = fi :: re)
    (hl : (r.scanned f c).letsThrough f c fi = true) (hra : InRange (r.config.claimFor f 0 fi))
    (hco : 0 ≤ (r.config.claimFor f 0 fi).projectedCostMicrodollars) (hb : r.bookRefuses = false) :
    ∃ cl, (r.selectAndClaimWithPreference f ea p c).2 =
      .ok (some cl) ∧ cl.accountName = fi.accountName := by
  rcases r.selectAndClaimWithPreference_cases f ea p c with
    ⟨hno, -⟩ | ⟨can, hf, r', own, fai, hs, -, heq⟩
  · rw [ho, find?_cons_of_pos hl] at hno
    cases hno
  rw [ho, find?_cons_of_pos hl] at hf
  cases hf
  have hc : r'.config = r.config := hs.config
  have hout := r'.claimAccepted_outcome f fi own fai (by rwa [hc])
  have hn := @claimAccepted_ok r' f fi own fai
  rw [hc] at hout
  rw [heq]
  revert hout hn
  generalize r'.claimAccepted f fi own fai = out
  intro hout hn
  cases hout with
  | quota err hg => omega
  | published r'' cl _ _ => exact ⟨cl, rfl, (hn rfl).1⟩
  | refused book est _ hr =>
    have hr' : r.bookRefuses = true := by
      rw [← hr, bookRefuses, bookRefuses, hs.book, hs.poisoned]
      rfl
    rw [hb] at hr'
    cases hr'

/-- Two accounts of one tier. -/
def pairRouter (rotor : RotorState) : Router :=
  { tieredRouter with
    config := { tieredRouter.config with
      registry := (Table.empty.insert ⟨1, "a", "p", true, true, 0, ["openai"], []⟩).insert
        ⟨2, "b", "p", true, true, 0, ["openai"], []⟩ }
    rotor := rotor }

theorem pairRouter_candidates (rotor : RotorState) :
    (pairRouter rotor).candidates oneToken [] none stopped =
      [⟨"a", "p", "m", "m", none, 0, false⟩, ⟨"b", "p", "m", "m", none, 0, false⟩] := by
  have hs : (pairRouter rotor).candidates oneToken [] none stopped =
      (pairRouter .empty).candidates oneToken [] none stopped := rfl
  rw [hs]
  decide +kernel

/-- Wherever the rotor stands, the first of the pair is claimed. -/
theorem pairRouter_claims (rotor : RotorState) : ∃ cl,
    ((pairRouter rotor).selectAndClaimWithPreference oneToken [] none stopped).2 = .ok (some cl) ∧
    ((pairRouter rotor).ordered oneToken [] none stopped).head?.map (·.accountName) =
      some cl.accountName := by
  have hc := pairRouter_candidates rotor
  have hp : ((pairRouter rotor).ordered oneToken [] none stopped).Perm
      ((pairRouter rotor).candidates oneToken [] none stopped) :=
    (pairRouter rotor).fairnessOrder_perm oneToken _
  have hl : ∀ c ∈ (pairRouter rotor).candidates oneToken [] none stopped,
      ((pairRouter rotor).scanned oneToken stopped).letsThrough oneToken stopped c = true := by
    rw [hc]
    show ∀ c ∈ _, ((pairRouter .empty).scanned oneToken stopped).letsThrough oneToken stopped c = true
    decide +kernel
  cases ho : (pairRouter rotor).ordered oneToken [] none stopped with
  | nil =>
    rw [ho] at hp
    cases hp.length_eq
  | cons first rest =>
    have hf := hp.mem_iff.mp (ho ▸ mem_cons_self)
    have hn : (1 : Int) ≤ I64.MAX := by decide
    have hz : (0 : Int) ≤ I64.MAX := by decide
    have hb : (pairRouter rotor).bookRefuses = false := by
      show (pairRouter .empty).bookRefuses = false
      decide +kernel
    obtain ⟨cl, hcl, hm⟩ := selectAndClaim_of_first ho (hl first hf)
      ⟨hn, hz⟩ le_rfl hb
    exact ⟨cl, hcl, congrArg some hm.symm⟩

/-- The pair can take any number of turns. -/
theorem pairRouter_turns (t : Nat) : ∀ rotor : RotorState, ∃ claimed, claimed.length = t ∧
      Turns "provider=*|model=m|protocol=*|tier=0" ["a", "b"] rotor claimed := by
  induction t with
  | zero => exact fun rotor => ⟨[], rfl, .done rotor⟩
  | succ t ih =>
    intro rotor
    obtain ⟨cla, hc, hh⟩ := pairRouter_claims rotor
    obtain ⟨claimed, hlen, hr⟩ := ih
      (((pairRouter rotor).selectAndClaimWithPreference oneToken [] none stopped).1.rotor)
    have ho : ∀ c ∈ ([] : List (String × Nat)), c.1 ≠ "provider=*|model=m|protocol=*|tier=0" :=
      fun _ h => absurd h not_mem_nil
    have hkey : FairnessKey.toKeyString ⟨none, "m", none, 0, none⟩ =
        "provider=*|model=m|protocol=*|tier=0" := by decide +kernel
    refine ⟨cla.accountName :: claimed, congrArg Nat.succ hlen,
      .turn rfl ?_ ?_ hc hh ho (by decide) hr⟩
    · exact hkey
    · exact .refl _

theorem round_claims_each_once_pair : ∃ claimed : List String,
    Turns "provider=*|model=m|protocol=*|tier=0" ["a", "b"] .empty claimed ∧
      claimed.length = 2 ∧ ∀ account ∈ ["a", "b"], claimed.count account = 1 := by
  obtain ⟨claimed, hlen, hturns⟩ := pairRouter_turns 2 .empty
  exact ⟨claimed, hturns, hlen, (round_claims_each_once []).2 _ _ claimed (by decide) (by decide)
    hturns hlen (by decide)⟩

end Router

end EggPool.Routing
