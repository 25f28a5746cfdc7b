import EggPool.Coordinator.HardLimits

/-!
# Publishing an attempt again

A caller that lost the answer of a publication publishes the same attempt again.
The transaction then finds the attempt by its request and number and hands back the
ids of its rows. An attempt row does not name its reservation: the lookup joins the
two tables on request, account and model and takes the joined row with the largest
reservation number, which is the reservation of the request's *last* attempt on
that account.

A row is found by columns that no transaction rewrites. The `Book` of a database
keeps those and forgets the rest, so that a finalization or a recovery pass does not
show in it at all and a publication adds a line to it. Over whole runs the lines of
attempts and reservations stay paired (`Filed`), and `republish_returns_ids_iff`
reads off when the lookup finds the pair of the attempt it was asked for.
-/

namespace EggPool.Coordinator

open EggPool.Lib EggPool.Budget EggPool.Store List AutoTable Publication Recorded

/-! ## The columns that never change -/

structure RequestEntry where
  id : Int
  (modelId protocol : String)
  streamed : Int
  proxyRequestId : Option String
  attribution : RequestAttribution
deriving DecidableEq, Repr

structure AttemptEntry where
  (id requestId attemptNumber accountId : Int)
  (providerId modelId protocol : Option String)
deriving DecidableEq, Repr

structure ReservationEntry where
  (id requestId accountId : Int)
  modelId : String
deriving DecidableEq, Repr

def requestEntry (r : Request) : RequestEntry :=
  ⟨r.id, r.modelId, r.protocol, r.streamed, r.proxyRequestId, r.attribution⟩

def attemptEntry (a : Attempt) : AttemptEntry :=
  ⟨a.id, a.requestId, a.attemptNumber, a.accountId, a.providerId, a.modelId, a.protocol⟩

def reservationEntry (v : Reservation) : ReservationEntry :=
  ⟨v.id, v.requestId, v.accountId, v.modelId⟩

/-- What an attempt and its reservation have in common. -/
def AttemptEntry.shared (a : AttemptEntry) : Int × Int × Int × Option String :=
  (a.id, a.requestId, a.accountId, a.modelId)

def ReservationEntry.shared (v : ReservationEntry) : Int × Int × Int × Option String :=
  (v.id, v.requestId, v.accountId, some v.modelId)

/-- The lines of the three tables, with the numbers given out so far. -/
structure Book where
  requests : List RequestEntry
  attempts : List AttemptEntry
  reservations : List ReservationEntry
  (requestSeq attemptSeq reservationSeq : Int)

def bookOf (db : Db) : Book where
  requests := db.requests.rows.map requestEntry
  attempts := db.attempts.rows.map attemptEntry
  reservations := db.reservations.rows.map reservationEntry
  requestSeq := db.requests.seq
  attemptSeq := db.attempts.seq
  reservationSeq := db.reservations.seq

namespace Book

/-- A new attempt and its reservation. -/
def addAttempt (b : Book) (p : Publication) (requestId : Int) : Book :=
  { b with
    attempts := b.attempts ++ [attemptEntry (p.newAttempt requestId (b.attemptSeq + 1))]
    reservations :=
      b.reservations ++ [reservationEntry (p.newReservation requestId (b.reservationSeq + 1))]
    attemptSeq := b.attemptSeq + 1
    reservationSeq := b.reservationSeq + 1 }

/-- A new request. -/
def addRequest (b : Book) (p : Publication) : Book :=
  { b with
    requests := b.requests ++ [requestEntry (p.newRequest (b.requestSeq + 1))]
    requestSeq := b.requestSeq + 1 }

/-- What one transaction can do to the book. -/
inductive Turn (b : Book) : Book → Prop
  | kept : Turn b b
  /-- A further attempt of a request, under a number that is free. -/
  | retried (p : Publication) {r : RequestEntry} :
      r ∈ b.requests → r.modelId = p.claim.canonicalModelId →
      (∀ a ∈ b.attempts, a.requestId = r.id → a.attemptNumber ≠ p.input.attemptNumber) →
      Turn b (b.addAttempt p r.id)
  /-- A new request with an attempt. -/
  | first (p : Publication) : Turn b ((b.addRequest p).addAttempt p (b.requestSeq + 1))

/-- The later book has every line of the earlier one, in the same place. -/
structure Extends (b b' : Book) : Prop where
  requests : ∃ more, b'.requests = b.requests ++ more
  attempts : ∃ more, b'.attempts = b.attempts ++ more

theorem Extends.refl (b : Book) : b.Extends b :=
  ⟨⟨[], (append_nil _).symm⟩, ⟨[], (append_nil _).symm⟩⟩

theorem exists_more_append {α : Type} {l l₁ : List α} (h : ∃ more, l₁ = l ++ more)
    (la : List α) : ∃ more, l₁ ++ la = l ++ more := by
  obtain ⟨more, hm⟩ := h
  exact ⟨more ++ la, by rw [hm, append_assoc]⟩

theorem Turn.extends {b b₁ b₂ : Book} (h : b.Extends b₁) (ht : b₁.Turn b₂) : b.Extends b₂ := by
  cases ht with
  | kept => exact h
  | retried p _ _ _ => exact ⟨h.requests, exists_more_append h.attempts _⟩
  | first p => exact ⟨exists_more_append h.requests _, exists_more_append h.attempts _⟩

end Book

/-! ## The book of a run -/

section Turns

variable {p : Publication} {db db' : Db}

theorem bookOf_addAttempt (p : Publication) (db : Db) (requestId : Int) :
    bookOf (p.addAttempt db requestId) = (bookOf db).addAttempt p requestId := by
  simp [bookOf, addAttempt, Book.addAttempt, append]

theorem bookOf_addRequest (p : Publication) (db : Db)
    (u : Option (String × BudgetPermit × BudgetHold)) (i : Option (BudgetPermit × BudgetHold)) :
    bookOf (p.addRequest db u i) = (bookOf db).addRequest p := by
  simp [bookOf, addRequest, Book.addRequest, append]

/-- Rows rewritten outside the columns of the book do not show in it. -/
theorem bookOf_congr
    (hr : db'.requests.rows.map requestEntry = db.requests.rows.map requestEntry)
    (ha : db'.attempts.rows.map attemptEntry = db.attempts.rows.map attemptEntry)
    (hv : db'.reservations.rows.map reservationEntry = db.reservations.rows.map reservationEntry)
    (hs : db'.requests.seq = db.requests.seq ∧ db'.attempts.seq = db.attempts.seq ∧
      db'.reservations.seq = db.reservations.seq) : bookOf db' = bookOf db := by
  unfold bookOf
  rw [hr, ha, hv, hs.1, hs.2.1, hs.2.2]

theorem bookOf_reassign (p : Publication) (db : Db) (r : Int) :
    bookOf (p.reassign db r) = bookOf db :=
  bookOf_congr (map_rows_update fun _ => rfl) rfl rfl ⟨rfl, rfl, rfl⟩

/-- A finalization does not show in the book. -/
theorem bookOf_finalizeDurable (f : Finalization) (db : Db) :
    bookOf (f.finalizeDurable db).1 = bookOf db := by
  rcases f.finalizeDurable_cases db with ⟨-, heq | heq | heq⟩ | ⟨-, heq⟩ <;> rw [heq]
  · exact bookOf_congr (map_rows_update fun _ => rfl) rfl rfl ⟨rfl, rfl, rfl⟩
  · exact bookOf_congr (map_rows_update fun _ => rfl) (map_rows_update fun _ => rfl) rfl
      ⟨rfl, rfl, rfl⟩
  · exact bookOf_congr (map_rows_update fun _ => rfl) (map_rows_update fun _ => rfl)
      (map_rows_update fun _ => rfl) ⟨rfl, rfl, rfl⟩

/-- Nor does a recovery pass. -/
theorem bookOf_fixBounded (b : Nat) (now : String) (db : Db) :
    bookOf (fixBounded b now db).1 = bookOf db :=
  bookOf_congr (map_rows_update fun _ => rfl) (map_rows_update fun _ => rfl)
    (map_rows_update fun _ => rfl) ⟨rfl, rfl, rfl⟩

/-- The request a proxy id finds, in the book. -/
theorem find?_requests (db : Db) (pr : String) :
    (bookOf db).requests.find? (fun r => r.proxyRequestId = some pr) =
      (db.requestByProxyId? pr).map requestEntry := by
  simp only [bookOf, find?_map]
  rfl

/-- A lookup that finds nothing: the number is free. -/
theorem number_free {r attemptNumber : Int} (h : db.latestAttempt? r attemptNumber = none) :
    ∀ a ∈ (bookOf db).attempts, a.requestId = r → a.attemptNumber ≠ attemptNumber := by
  intro e he hr hm
  obtain ⟨a, ha, rfl⟩ := mem_map.mp he
  have hj : db.attemptsJoined r attemptNumber = [] := by
    unfold Db.latestAttempt? at h
    split at h
    · assumption
    · cases h
  rw [Db.attemptsJoined, flatMap_eq_nil_iff] at hj
  have hn := hj a (mem_filter.mpr ⟨ha, by
    simp only [Bool.and_eq_true, decide_eq_true_eq]
    exact ⟨hr, hm⟩⟩)
  split at hn
  · cases hn
  · rename_i hs
    exact hs (map_eq_nil_iff.mp hn)

theorem retries_iff {request : Request} : p.retries db request = true ↔
    p.sameRequest request = true ∧ request.status = "pending" ∧
      db.latestAttempt? request.id p.input.attemptNumber = none ∧
      (p.input.attemptNumber ≤ 1 ∨ p.priorConverged db request.id = true) := by
  simp [retries, and_assoc]

theorem turn_publish (p : Publication) (db : Db) :
    (bookOf db).Turn (bookOf (db.withTransaction p.publishTransaction).1) := by
  unfold Db.withTransaction
  cases hrun : p.publishTransaction db with
  | error e => exact .kept
  | ok out =>
    obtain ⟨db', outcome⟩ := out
    cases publishTransaction_effect hrun with
    | refused | stranded => exact .kept
    | retried hf hr _ _ =>
      obtain ⟨hs, _, hn, _⟩ := retries_iff.mp hr
      simp only [sameRequest, Bool.and_eq_true, decide_eq_true_eq] at hs
      dsimp only
      rw [bookOf_addAttempt, bookOf_reassign]
      exact .retried p (mem_map_of_mem (mem_of_find?_eq_some hf)) hs.1.1.1 (number_free hn)
    | first hf _ _ _ =>
      dsimp only
      rw [bookOf_addAttempt, bookOf_addRequest]
      exact .first p

/-- **One step of a run is one turn of the book.** -/
theorem turn_step (s : Recorded) (a : Step) : (bookOf s.db).Turn (bookOf (s.step a).db) := by
  cases a with
  | publish p =>
    rw [db_step_publish]
    exact turn_publish p s.db
  | finalize f =>
    rw [show (s.step (.finalize f)).db = (f.finalizeDurable s.db).1 from rfl,
      bookOf_finalizeDurable]
    exact .kept
  | recover bat now =>
    rw [show (s.step (.recover bat now)).db = (fixBounded bat now s.db).1 from rfl,
      bookOf_fixBounded]
    exact .kept
  | administer dir => exact .kept

theorem extends_run (s : Recorded) (st : List Step) :
    (bookOf s.db).Extends (bookOf (run step s st).db) :=
  run_invariant (I := fun t => (bookOf s.db).Extends (bookOf t.db))
    (fun t a h => (turn_step t a).extends h) (Book.Extends.refl _) st

end Turns

/-! ## Attempts and reservations stay paired -/

/-- What the book of a run satisfies. -/
structure Filed (b : Book) : Prop where
  /-- Attempts and reservations are numbered alike. -/
  seqs : b.attemptSeq = b.reservationSeq
  /-- The lines of attempts and of reservations belong together, one by one. -/
  paired : b.attempts.map AttemptEntry.shared = b.reservations.map ReservationEntry.shared
  /-- An attempt is of a known request and asks for its model. -/
  parents : ∀ a ∈ b.attempts, ∃ r ∈ b.requests, r.id = a.requestId ∧ a.modelId = some r.modelId
  /-- A request has at most one attempt of each number. -/
  numbered : b.attempts.Pairwise
    fun a a' => a.requestId = a'.requestId → a.attemptNumber ≠ a'.attemptNumber

namespace Filed

theorem start (d : Directory) (u : List (BudgetRule String)) (i : List (BudgetRule Unit)) :
    Filed (bookOf (start d u i).db) where
  seqs := rfl
  paired := rfl
  parents := by intro a ha; cases ha
  numbered := List.Pairwise.nil

/-- One more pair, for a request in the book. -/
theorem addAttempt {b : Book} {p : Publication} {r : RequestEntry} (h : Filed b)
    (hr : r ∈ b.requests) (hm : r.modelId = p.claim.canonicalModelId)
    (hf : ∀ a ∈ b.attempts, a.requestId = r.id → a.attemptNumber ≠ p.input.attemptNumber) :
    Filed (b.addAttempt p r.id) where
  seqs := congrArg (· + 1) h.seqs
  paired := by
    rw [Book.addAttempt, map_append, map_append, h.paired]
    simp only [h.seqs]
    rfl
  parents := forall_mem_append.mpr
    ⟨h.parents, forall_mem_singleton.mpr ⟨r, hr, rfl, congrArg some hm.symm⟩⟩
  numbered := by
    refine pairwise_append.mpr ⟨h.numbered, pairwise_singleton _ _, ?_⟩
    intro a ha a' ha' heq
    rw [mem_singleton.mp ha'] at heq ⊢
    exact hf a ha heq

/-- A new request has no attempts yet. -/
theorem addRequest {b : Book} {p : Publication} (h : Filed b) : Filed (b.addRequest p) where
  seqs := h.seqs
  paired := h.paired
  parents := by
    intro a ha
    obtain ⟨r, hr, hrow⟩ := h.parents a ha
    exact ⟨r, mem_append_left _ hr, hrow⟩
  numbered := h.numbered

variable {db : Db}

theorem turn {b : Book} (h : Filed (bookOf db)) (ht : (bookOf db).Turn b) : Filed b := by
  cases ht with
  | kept => exact h
  | retried p hr hm hf => exact h.addAttempt hr hm hf
  | first p =>
    refine h.addRequest.addAttempt (mem_append_right _ (mem_singleton_self _)) rfl ?_
    intro a ha heq
    obtain ⟨r, hr, hid, _⟩ := h.parents a ha
    obtain ⟨row, hrow, rfl⟩ := mem_map.mp hr
    have hb := db.requests.bound row hrow
    have hnew : row.id = db.requests.seq + 1 := hid.trans heq
    omega

theorem run (d : Directory) (u : List (BudgetRule String))
    (i : List (BudgetRule Unit)) (st : List Step) :
    Filed (bookOf (Lib.run Recorded.step (Recorded.start d u i) st).db) :=
  run_invariant (I := fun s => Filed (bookOf s.db)) (fun s a h => h.turn (turn_step s a))
    (start d u i) st

section

variable (h : Filed (bookOf db))

include h

/-- An attempt's reservation has its number. -/
theorem exists_reservation {a : Attempt} (ha : a ∈ db.attempts.rows) : ∃ v ∈ db.reservations.rows,
      v.id = a.id ∧ v.requestId = a.requestId ∧ v.accountId = a.accountId ∧
        some v.modelId = a.modelId := by
  have hmem : (attemptEntry a).shared ∈ (bookOf db).attempts.map AttemptEntry.shared :=
    mem_map_of_mem (mem_map_of_mem ha)
  rw [h.paired] at hmem
  obtain ⟨e, he, hs⟩ := mem_map.mp hmem
  obtain ⟨v, hv, rfl⟩ := mem_map.mp he
  simp only [ReservationEntry.shared, AttemptEntry.shared, Prod.mk.injEq] at hs
  exact ⟨v, hv, hs⟩

/-- And the other way round. -/
theorem exists_attempt {v : Reservation} (hv : v ∈ db.reservations.rows) : ∃ a ∈ db.attempts.rows,
      a.id = v.id ∧ a.requestId = v.requestId ∧ a.accountId = v.accountId := by
  have hmem : (reservationEntry v).shared ∈ (bookOf db).reservations.map ReservationEntry.shared :=
    mem_map_of_mem (mem_map_of_mem hv)
  rw [← h.paired] at hmem
  obtain ⟨e, he, hs⟩ := mem_map.mp hmem
  obtain ⟨a, ha, rfl⟩ := mem_map.mp he
  simp only [ReservationEntry.shared, AttemptEntry.shared, Prod.mk.injEq] at hs
  exact ⟨a, ha, hs.1, hs.2.1, hs.2.2.1⟩

/-- All attempts of a request ask for one model. -/
theorem modelId_eq {a a' : Attempt} (ha : a ∈ db.attempts.rows)
    (ha' : a' ∈ db.attempts.rows) (heq : a.requestId = a'.requestId) : a.modelId = a'.modelId := by
  obtain ⟨e, he, hid, hm⟩ := h.parents _ (mem_map_of_mem ha)
  obtain ⟨e', he', hid', hm'⟩ := h.parents _ (mem_map_of_mem ha')
  obtain ⟨r, hr, rfl⟩ := mem_map.mp he
  obtain ⟨r', hr', rfl⟩ := mem_map.mp he'
  have hs : r = r' := Table.eq_of_key_eq hr hr' (hid.trans (heq.trans hid'.symm))
  rw [← hs] at hm'
  exact hm.trans hm'.symm

/-- Request and number pick one attempt. -/
theorem filter_attempts {a : Attempt} (ha : a ∈ db.attempts.rows) : db.attempts.rows.filter
      (fun b => b.requestId = a.requestId && b.attemptNumber = a.attemptNumber) = [a] := by
  have hd : db.attempts.rows.Pairwise fun b c =>
      b.requestId = c.requestId → b.attemptNumber ≠ c.attemptNumber :=
    pairwise_map.mp h.numbered
  have hsym : Std.Symm fun b c : Attempt =>
      b.requestId = c.requestId → b.attemptNumber ≠ c.attemptNumber :=
    ⟨fun b c h heq => (h heq.symm).symm⟩
  -- another row would have the same request and the same number
  have hone : ∀ b ∈ db.attempts.rows, (decide (b.requestId = a.requestId) &&
      decide (b.attemptNumber = a.attemptNumber)) = (b == a) := by
    intro b hb
    by_cases hba : b = a
    · simp [hba]
    · rw [beq_eq_false_iff_ne.mpr hba]
      simpa using hd.forall hb ha hba
  rw [filter_congr hone, filter_beq, count_eq_one_of_mem (.of_map _ (Table.keys_nodup _)) ha]
  rfl

end

/-- **Attempts and reservations are paired row by row**, and a request's attempts have different
numbers, after any run. -/
theorem rows_stay_paired (d : Directory) (u : List (BudgetRule String))
    (i : List (BudgetRule Unit)) (st : List Step) :
    let db := (Lib.run step (Recorded.start d u i) st).db
    (db.attempts.rows.map fun a => (a.id, a.requestId, a.accountId, a.modelId)) =
      (db.reservations.rows.map fun v => (v.id, v.requestId, v.accountId, some v.modelId)) ∧
    db.attempts.rows.Pairwise
      fun a b => a.requestId = b.requestId → a.attemptNumber ≠ b.attemptNumber := by
  have h := Filed.run d u i st
  exact ⟨map_map.symm.trans (h.paired.trans map_map), pairwise_map.mp h.numbered⟩

end Filed

/-! ## What the lookup finds -/

theorem laterReservation_some (a : Attempt) (v w : Reservation) :
    Db.laterReservation (a, some v) (a, some w) =
      if v.id < w.id then (a, some w) else (a, some v) := rfl

/-- `ORDER BY r.id DESC LIMIT 1` over the reservations joined to one attempt. -/
theorem foldl_laterReservation (a : Attempt) : ∀ (v : Reservation) (vs : List Reservation),
    ∃ w ∈ v :: vs, (∀ x ∈ v :: vs, x.id ≤ w.id) ∧
      (vs.map fun v => (a, some v)).foldl Db.laterReservation (a, some v) = (a, some w) := by
  intro v vs
  induction vs generalizing v with
  | nil => exact ⟨v, mem_cons_self, by simp, rfl⟩
  | cons x vs ih =>
    -- the larger of the first two goes on
    obtain ⟨u, hu, hv, hx, hl⟩ : ∃ u, (u = v ∨ u = x) ∧ v.id ≤ u.id ∧ x.id ≤ u.id ∧
        Db.laterReservation (a, some v) (a, some x) = (a, some u) := by
      rw [laterReservation_some]
      by_cases hlt : v.id < x.id
      · exact ⟨x, .inr rfl, le_of_lt hlt, le_refl _, if_pos hlt⟩
      · exact ⟨v, .inl rfl, le_refl _, Int.not_lt.mp hlt, if_neg hlt⟩
    obtain ⟨w, hw, hm, hf⟩ := ih u
    rw [forall_mem_cons] at hm
    refine ⟨w, ?_, ?_, ?_⟩
    · rcases mem_cons.mp hw with rfl | hw
      · rcases hu with rfl | rfl <;> simp
      · exact mem_cons_of_mem _ (mem_cons_of_mem _ hw)
    · rw [forall_mem_cons, forall_mem_cons]
      exact ⟨le_trans hv hm.1, le_trans hx hm.1, hm.2⟩
    · rwa [map_cons, foldl_cons, hl]

/-- No later attempt of the request went to this account. -/
def LastOnAccount (db : Db) (requestId accountId attemptId : Int) : Prop :=
  ∀ b ∈ db.attempts.rows, b.requestId = requestId → b.accountId = accountId → b.id ≤ attemptId

/-- **The lookup finds the attempt, and its reservation exactly when no later attempt of the
request went to the same account.** -/
theorem latestAttempt?_eq {db : Db} (h : Filed (bookOf db)) {a : Attempt}
    (ha : a ∈ db.attempts.rows) :
    ∃ w, db.latestAttempt? a.requestId a.attemptNumber = some (a, some w) ∧
      (w.id = a.id ↔ LastOnAccount db a.requestId a.accountId a.id) := by
  obtain ⟨v, hv, hd, hvr, hc, hvm⟩ := h.exists_reservation ha
  have hm : v ∈ db.reservations.rows.filter (fun r => r.requestId = a.requestId &&
      r.accountId = a.accountId && some r.modelId = a.modelId) :=
    mem_filter.mpr ⟨hv, by simp [hvr, hc, hvm]⟩
  have hjo : db.attemptsJoined a.requestId a.attemptNumber =
      (db.reservations.rows.filter (fun r => r.requestId = a.requestId &&
        r.accountId = a.accountId && some r.modelId = a.modelId)).map fun r => (a, some r) := by
    rw [Db.attemptsJoined, h.filter_attempts ha, flatMap_singleton]
    split
    · rename_i hnil
      rw [hnil] at hm
      cases hm
    · rfl
  match hl : db.reservations.rows.filter (fun r => r.requestId = a.requestId &&
      r.accountId = a.accountId && some r.modelId = a.modelId) with
  | [] => rw [hl] at hm; cases hm
  | first :: rest =>
    obtain ⟨w, hw, hx, hf⟩ := foldl_laterReservation a first rest
    refine ⟨w, ?_, ?_, ?_⟩
    · rw [Db.latestAttempt?, hjo, hl]
      exact congrArg some hf
    · intro heq b hb hr hac
      -- the reservation of `b` is joined too
      obtain ⟨u, hu, hui, hur, hua, hum⟩ := h.exists_reservation hb
      have huma : u ∈ first :: rest := by
        rw [← hl]
        refine mem_filter.mpr ⟨hu, ?_⟩
        simp [hur, hua, hum, hr, hac, h.modelId_eq hb ha hr]
      have hle := hx u huma
      omega
    · intro hs
      have hwm := hw
      rw [← hl] at hwm
      obtain ⟨hwr, hj⟩ := mem_filter.mp hwm
      simp only [Bool.and_eq_true, decide_eq_true_eq] at hj
      obtain ⟨b, hb, hbi, hbr, hba⟩ := h.exists_attempt hwr
      have hle := hs b hb (hbr.trans hj.1.1) (hba.trans hj.1.2)
      have hge := hx v (by rw [← hl]; exact hm)
      omega

/-! ## Publishing again -/

/-- The ids an answer hands back. -/
def TransactionOutcome.ids : TransactionOutcome → Option (Int × Int × Int)
  | .created requestId attemptId reservationId _ => some (requestId, attemptId, reservationId)
  | .observed identity => some (identity.dbRequestId, identity.attemptId, identity.reservationId)
  | _ => none

namespace Publication

/-- The ids a publication hands back, if it does. -/
def publishedIds (p : Publication) (db : Db) : Option (Int × Int × Int) :=
  match (db.withTransaction p.publishTransaction).2 with
  | .ok outcome => outcome.ids
  | .error _ => none

/-- The same attempt of the same request: every value the duplicate check compares. -/
structure Repeats (p' p : Publication) : Prop where
  proxyRequestId : p'.input.proxyRequestId = p.input.proxyRequestId
  attemptNumber : p'.input.attemptNumber = p.input.attemptNumber
  clientProtocol : p'.input.clientProtocol = p.input.clientProtocol
  upstreamProtocol : p'.input.upstreamProtocol = p.input.upstreamProtocol
  streamed : p'.input.streamed = p.input.streamed
  accountId : p'.claim.accountId = p.claim.accountId
  providerId : p'.claim.providerId = p.claim.providerId
  modelId : p'.claim.canonicalModelId = p.claim.canonicalModelId
  attribution : p'.attribution = p.attribution

/-- The gates a repeated publication has to pass: its principal is still current, the request
is still pending and the account is still there. -/
def gatesOpen (p : Publication) (db : Db) (requestId : Int) : Bool :=
  p.principalCurrent db && (db.requests.get? requestId).any (·.status = "pending") &&
    (db.directory.accounts p.claim.accountId).isSome

section Again

variable {p p' : Publication} {db : Db} {request : Request} {a : Attempt}

theorem observeAttempt_eq {w : Reservation} (ha : a.accountId = p.claim.accountId)
    (hp : a.providerId = some p.claim.providerId)
    (hm : a.modelId = some p.claim.canonicalModelId)
    (hr : a.protocol = some p.input.upstreamProtocol) :
    p.observeAttempt db request.id a (some w) =
      (db.directory.accounts p.claim.accountId).elim (.error .queryReturnedNoRows)
        fun accountName => .ok (.observed { p.identity request.id a.id w.id with
          accountName := accountName }) := by
  simp only [observeAttempt, hp, hm, hr, ha, ne_eq]
  cases db.directory.accounts p.claim.accountId <;> rfl

/-- What a repeated publication answers, from the rows it finds. -/
theorem publishedIds_iff (h : Filed (bookOf db))
    (hf : db.requestByProxyId? p.input.proxyRequestId = some request)
    (hm : p.sameRequest request = true) (ha : a ∈ db.attempts.rows)
    (hr : a.requestId = request.id) (hn : a.attemptNumber = p.input.attemptNumber)
    (hc : a.accountId = p.claim.accountId) (hv : a.providerId = some p.claim.providerId)
    (hd : a.modelId = some p.claim.canonicalModelId)
    (hpr : a.protocol = some p.input.upstreamProtocol) :
    p.publishedIds db = some (request.id, a.id, a.id) ↔
      p.gatesOpen db request.id = true ∧ LastOnAccount db request.id p.claim.accountId a.id := by
  obtain ⟨w, hl, hs⟩ := latestAttempt?_eq h ha
  rw [hr, hn] at hl
  rw [hr, hc] at hs
  have hget : db.requests.get? request.id = some request :=
    Table.get?_self (mem_of_find?_eq_some hf)
  simp only [publishedIds, Db.withTransaction, publishTransaction, hf, publishExisting, hm,
    hl, observeAttempt_eq hc hv hd hpr, gatesOpen, hget]
  -- the gates, in the order in which the transaction asks them
  cases hcu : p.principalCurrent db with
  | false => simp [TransactionOutcome.ids]
  | true =>
    by_cases hp : request.status = "pending"
    · cases ht : db.directory.accounts p.claim.accountId with
      | none => simp [hp, Except.map]
      | some name => simp [hp, Except.map, TransactionOutcome.ids, identity, hs]
    · simp [hp, TransactionOutcome.ids]

/-- A request is the publication's own exactly when its entry is. -/
theorem entry_of_sameRequest (hs : p.sameRequest request = true)
    (hp : request.proxyRequestId = some p.input.proxyRequestId) :
    requestEntry request = requestEntry (p.newRequest request.id) := by
  simp only [sameRequest, Bool.and_eq_true, decide_eq_true_eq] at hs
  obtain ⟨⟨⟨hm, hr⟩, ht⟩, ha⟩ := hs
  simp [requestEntry, newRequest, hm, hr, ht, ha, hp]

theorem sameRequest_of_entry {r : Int}
    (h : requestEntry request = requestEntry (p.newRequest r)) (hr : p'.Repeats p) :
    p'.sameRequest request = true := by
  simp only [requestEntry, RequestEntry.mk.injEq] at h
  obtain ⟨_, hm, hp, hs, _, ha⟩ := h
  simp only [sameRequest, Bool.and_eq_true, decide_eq_true_eq, hr.modelId, hr.clientProtocol,
    hr.streamed, hr.attribution]
  exact ⟨⟨⟨hm, hp⟩, hs⟩, ha⟩

/-- **What a publication that created an attempt numbered and wrote into the book.** -/
theorem created_entries {db' : Db} {ri ai re d : Int} (h : p.publishTransaction db =
      .ok (db', .created ri ai re d)) : (ai = db.attempts.seq + 1 ∧ re = db.reservations.seq + 1) ∧
    (bookOf db').requests.find? (fun r => r.proxyRequestId = some p.input.proxyRequestId) =
      some (requestEntry (p.newRequest ri)) ∧
    attemptEntry (p.newAttempt ri ai) ∈ (bookOf db').attempts := by
  cases publishTransaction_effect h with
  | refused hno => cases hno
  | stranded _ _ _ _ hd =>
    have hno := isCreated_of_denied hd
    cases hno
  | @retried request hf hr _ _ =>
    have hp : request.proxyRequestId = some p.input.proxyRequestId := by
      simpa using find?_some hf
    rw [bookOf_addAttempt, bookOf_reassign]
    refine ⟨⟨rfl, rfl⟩, ?_, mem_append_right _ (mem_singleton_self _)⟩
    show (bookOf db).requests.find? _ = _
    rw [find?_requests, hf, Option.map_some, entry_of_sameRequest (retries_iff.mp hr).1 hp]
  | first hn _ _ _ =>
    rw [bookOf_addAttempt, bookOf_addRequest]
    refine ⟨⟨rfl, rfl⟩, ?_, mem_append_right _ (mem_singleton_self _)⟩
    show ((bookOf db).requests ++ [requestEntry (p.newRequest (db.requests.seq + 1))]).find? _ = _
    rw [find?_append, find?_requests, hn, Option.map_none, Option.none_or,
      find?_singleton, if_pos (by simp [requestEntry, newRequest])]

/-- **A publication that created an attempt is found again in every later state**: its request
under the proxy id, and its attempt under the id it answered with. -/
theorem found_again {ri ai re d : Int} {s : Recorded}
    (hc : (s.db.withTransaction p.publishTransaction).2 =
      .ok (.created ri ai re d)) (af : List Step) :
    (∃ request, (run step (s.step (.publish p)) af).db.requestByProxyId?
        p.input.proxyRequestId = some request ∧
        requestEntry request = requestEntry (p.newRequest ri)) ∧
    ∃ a ∈ (run step (s.step (.publish p)) af).db.attempts.rows,
      attemptEntry a = attemptEntry (p.newAttempt ri ai) := by
  have he : (bookOf (s.step (.publish p)).db).requests.find?
        (fun r => r.proxyRequestId = some p.input.proxyRequestId) =
          some (requestEntry (p.newRequest ri)) ∧
      attemptEntry (p.newAttempt ri ai) ∈ (bookOf (s.step (.publish p)).db).attempts := by
    rw [db_step_publish]
    exact (created_entries (Db.eq_ok_of_withTransaction hc)).2
  obtain ⟨⟨req, hr⟩, ⟨attempts, ha⟩⟩ := extends_run (s.step (.publish p)) af
  constructor
  · have hf := find?_requests (run step (s.step (.publish p)) af).db p.input.proxyRequestId
    rw [hr, find?_append, he.1] at hf
    obtain ⟨request, hq, hn⟩ := Option.map_eq_some_iff.mp hf.symm
    exact ⟨request, hq, hn⟩
  · have hmem : attemptEntry (p.newAttempt ri ai) ∈
        (bookOf (run step (s.step (.publish p)) af).db).attempts := by
      rw [ha]
      exact mem_append_left _ he.2
    exact mem_map.mp hmem

/--
**A repeated publication returns the ids of the original one exactly when its gates are open
and no later attempt of the request went to the same account.** The original publication
created its rows at any point of any run, and anything may have happened since.
-/
theorem republish_returns_ids_iff (directory : Directory) (userRules : List (BudgetRule String))
    (instanceRules : List (BudgetRule Unit)) (before after : List Step) (p p' : Publication)
    {requestId attemptId reservationId decisionId : Int}
    (hcreated : ((run Recorded.step (Recorded.start directory userRules instanceRules)
      before).db.withTransaction p.publishTransaction).2 =
        .ok (.created requestId attemptId reservationId decisionId)) (hrepeats : p'.Repeats p) :
    p'.publishedIds (run Recorded.step (Recorded.start directory userRules instanceRules)
        (before ++ .publish p :: after)).db = some (requestId, attemptId, reservationId) ↔
      p'.gatesOpen (run Recorded.step (Recorded.start directory userRules instanceRules)
        (before ++ .publish p :: after)).db requestId = true ∧
      LastOnAccount (run Recorded.step (Recorded.start directory userRules instanceRules)
        (before ++ .publish p :: after)).db requestId p.claim.accountId attemptId := by
  have hfiled := Filed.run directory userRules instanceRules (before ++ .publish p :: after)
  have hseqs := (Filed.run directory userRules instanceRules before).seqs
  rw [run_append] at hfiled ⊢
  obtain ⟨⟨request, hfind, hrow⟩, a, ha, hentry⟩ := found_again hcreated after
  simp only [attemptEntry, newAttempt, AttemptEntry.mk.injEq] at hentry
  obtain ⟨haid, hareq, hanumber, haacc, haprovider, hamodel, haprotocol⟩ := hentry
  have hid : request.id = requestId := congrArg RequestEntry.id hrow
  -- attempt and reservation were numbered alike when they were created
  have hpair : reservationId = attemptId := by
    obtain ⟨⟨hattempt, hreservation⟩, _⟩ :=
      created_entries (Db.eq_ok_of_withTransaction hcreated)
    rw [hattempt, hreservation]
    exact congrArg (· + 1) hseqs.symm
  have hiff := publishedIds_iff hfiled (hrepeats.proxyRequestId ▸ hfind)
    (sameRequest_of_entry hrow hrepeats) ha (hareq.trans hid.symm)
    (hanumber.trans hrepeats.attemptNumber.symm) (haacc.trans hrepeats.accountId.symm)
    (by rw [haprovider, hrepeats.providerId]) (by rw [hamodel, hrepeats.modelId])
    (by rw [haprotocol, hrepeats.upstreamProtocol])
  rw [hid, haid, hrepeats.accountId] at hiff
  rwa [hpair]

end Again

/-- The first attempt of a request, on account 1. -/
def firstAttempt : Publication :=
  { secondAttempt with input := ⟨"r", "openai", "openai", false, 1, 600, none⟩ }

/-- It fails, and the request stays open. -/
def firstFailed : Finalization :=
  { Finalization.afterLastAccount with
    data := { outcome := .upstreamError, statusCode := some 503 }
    terminalizeRequest := false }

/-- The start of the runs below: no rules in either scope. -/
def unlimited : Recorded := Recorded.start drainedInstance.directory [] []

theorem firstAttempt_created :
    (unlimited.db.withTransaction firstAttempt.publishTransaction).2 = .ok (.created 1 1 1 1) := by
  decide +kernel

theorem firstAttempt_repeats : firstAttempt.Repeats firstAttempt :=
  ⟨rfl, rfl, rfl, rfl, rfl, rfl, rfl, rfl, rfl⟩

/-- After the failure alone the first attempt gets its own ids back. -/
theorem republish_returns_ids_failed : firstAttempt.publishedIds
      (run Recorded.step unlimited ([] ++ .publish firstAttempt :: [.finalize firstFailed])).db =
        some (1, 1, 1) := by
  refine (republish_returns_ids_iff _ _ _ [] [.finalize firstFailed] firstAttempt firstAttempt
    firstAttempt_created firstAttempt_repeats).mpr ⟨by decide +kernel, ?_⟩
  have hrows : (run Recorded.step unlimited
      ([] ++ .publish firstAttempt :: [.finalize firstFailed])).db.attempts.rows.map Attempt.id =
        [1] := by decide +kernel
  intro b hb _ _
  have hid := mem_map_of_mem (f := Attempt.id) hb
  rw [unlimited] at hrows
  rw [hrows, mem_singleton] at hid
  exact le_of_eq hid

/-- **Once the second attempt goes to the same account, publishing the first one again hands
back the second one's reservation.** -/
theorem republish_returns_other_reservation : firstAttempt.Repeats firstAttempt ∧
    (unlimited.db.withTransaction firstAttempt.publishTransaction).2 = .ok (.created 1 1 1 1) ∧
    firstAttempt.gatesOpen (run Recorded.step unlimited
      [.publish firstAttempt, .finalize firstFailed, .publish secondAttempt]).db 1 = true ∧
    firstAttempt.publishedIds (run Recorded.step unlimited
      [.publish firstAttempt, .finalize firstFailed, .publish secondAttempt]).db = some (1, 1, 2) :=
  ⟨firstAttempt_repeats, firstAttempt_created, by decide +kernel, by decide +kernel⟩

end Publication

end EggPool.Coordinator
