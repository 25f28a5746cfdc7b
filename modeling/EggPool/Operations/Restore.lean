import Mathlib

/-!
# Restoring a backup

`atomic_restore` puts the config, the env file and the database of an archive in their places, one
after another. Each is written beside its place and renamed over it. What was there before is
copied away first and written back if a later step fails.

Any operation on the file system may fail, on the way forward as on the way back. An operation is
named by what it is done to; none is done twice in one call.
-/

namespace EggPool.Operations

open Function (update)

abbrev Bytes := List UInt8

inductive Target
  | config | env | database
deriving DecidableEq

/-- The operations of `write_atomic`. -/
inductive WriteOp
  | createParent | create | setPrivate | setMode | write | sync | rename | openParent | syncParent

inductive Op
  | validateConfig | validateDatabase | createRoot | privateRoot | stagingDir
  | stat (t : Target)
  | copy (t : Target)
  /-- Writing a target, on the way forward or, with `undo`, on the way back. -/
  | write (undo : Bool) (t : Target) (op : WriteOp)
  | read (t : Target)
  | setPrivate (t : Target)
  | remove (t : Target)
  | removeStaging

inductive BackupError
  /-- The other errors, by the operation that failed. -/
  | failed (op : Op)
  | restoreRollback

structure PreparedRestore where
  (configBytes databaseBytes : Bytes)
  envBytes : Option Bytes

namespace PreparedRestore

/-- There is an env target exactly if the archive has an env file. -/
def targets (p : PreparedRestore) : List Target :=
  .config :: (if p.envBytes.isSome then [.env, .database] else [.database])

def bytes (p : PreparedRestore) : Target → Bytes
  | .config => p.configBytes
  | .env => p.envBytes.getD []
  | .database => p.databaseBytes

end PreparedRestore

/-- What lies at the targets, and the `-wal`, `-shm` and `-journal` files beside the database. -/
structure Disk where
  files : Target → Option Bytes
  sidecars : List String

def Disk.put (disk : Disk) (t : Target) (content : Option Bytes) : Disk :=
  { disk with files := update disk.files t content }

/-- What is left, and the operation that failed if one did. -/
abbrev Outcome := Disk × Option Op

def Outcome.andThen (out : Outcome) (next : Disk → Outcome) : Outcome :=
  match out.2 with
  | none => next out.1
  | some _ => out

/-- One target after another, until a failure. -/
def forEach (step : Target → Disk → Outcome) : List Target → Disk → Outcome
  | [], disk => (disk, none)
  | t :: rest, disk => (step t disk).andThen (forEach step rest)

variable (fails : Op → Bool)

/-- Operations that touch no target. -/
def attempt (ops : List Op) (disk : Disk) : Outcome := (disk, ops.find? fails)

def writeOps (undo : Bool) (t : Target) : List Op :=
  [.createParent, .create, .setPrivate, .setMode, .write, .sync, .rename].map (.write undo t)

def fsyncParentDir (undo : Bool) (t : Target) : List Op :=
  [.openParent, .syncParent].map (.write undo t)

/-- The rename puts the new bytes in place, even if the directory cannot be synced after it. -/
def writeAtomic (undo : Bool) (t : Target) (bytes : Bytes) (disk : Disk) : Outcome :=
  (attempt fails (writeOps undo t) disk).andThen fun disk =>
    attempt fails (fsyncParentDir undo t) (disk.put t (some bytes))

/-- `exists` is false of a file that cannot be looked at. -/
def seen (disk : Disk) (t : Target) : Bool := (disk.files t).isSome && !fails (.stat t)

/-- The copy kept of a target. -/
def original (disk : Disk) (t : Target) : Option Bytes :=
  if seen fails disk t then disk.files t else none

def preparation (p : PreparedRestore) (disk : Disk) : List Op :=
  [.validateConfig, .validateDatabase, .createRoot, .privateRoot, .stagingDir] ++
    (p.targets.filter (seen fails disk)).map .copy

/-- A copy is written back; what had no copy is removed, if it can be. -/
def putBack (originals : Target → Option Bytes) (t : Target) (disk : Disk) : Outcome :=
  match originals t with
  | some bytes => ((attempt fails [.read t] disk).andThen (writeAtomic fails true t bytes)).andThen
      (attempt fails [.setPrivate t])
  | none => (if fails (.remove t) then disk else disk.put t none, none)

def writeAll (p : PreparedRestore) : Disk → Outcome :=
  forEach (fun t => writeAtomic fails false t (p.bytes t)) p.targets

def atomicRestore (p : PreparedRestore) (disk : Disk) : Disk × Except BackupError Unit :=
  match (preparation fails p disk).find? fails with
  | some op => (disk, .error (.failed op))
  | none =>
    let written := writeAll fails p disk
    match written.2 with
    | none => (written.1, if fails .removeStaging then .error (.failed .removeStaging) else .ok ())
    | some op =>
      let left := forEach (putBack fails (original fails disk)) p.targets written.1
      (left.1, .error (if left.2.isNone then .failed op else .restoreRollback))

/-! ## What each part leaves -/

/-- The new bytes get in place. -/
def renames (undo : Bool) (t : Target) : Bool := !(writeOps undo t).any fails

def writes (undo : Bool) (t : Target) : Bool :=
  renames fails undo t && !(fsyncParentDir undo t).any fails

/-- A kept copy can be read and written back. -/
def undoes (t : Target) : Bool := !fails (.read t) && writes fails true t && !fails (.setPrivate t)

/-- The targets up to the first that is not `good`. -/
def reached (good : Target → Bool) : List Target → List Target
  | [] => []
  | t :: rest => t :: if good t then reached good rest else []

variable {disk : Disk} {t : Target} {p : PreparedRestore}

theorem put_self : disk.put t (disk.files t) = disk := by simp [Disk.put]

theorem writeAtomic_eq (undo : Bool) (t : Target) (b : Bytes) (disk : Disk) :
    (writeAtomic fails undo t b disk).1 =
      disk.put t (if renames fails undo t then some b else disk.files t) ∧
    (writeAtomic fails undo t b disk).2.isNone = writes fails undo t := by
  unfold writeAtomic writes renames Outcome.andThen attempt
  cases hf : (writeOps undo t).find? fails with
  | none =>
    have hw : (writeOps undo t).any fails = false := by rw [← List.isSome_find?, hf]; rfl
    simp [hw, ← List.isSome_find?]
  | some op =>
    have hw : (writeOps undo t).any fails = true := by rw [← List.isSome_find?, hf]; rfl
    simp [hw, put_self]

/-- What a step of the rollback makes of a target. -/
def afterPutBack (o : Target → Option Bytes) (t : Target) (content : Option Bytes) : Option Bytes:=
  match o t with
  | some b => if !fails (.read t) && renames fails true t then some b else content
  | none => if fails (.remove t) then content else none

theorem putBack_eq (o : Target → Option Bytes) (t : Target) (disk : Disk) :
    (putBack fails o t disk).1 = disk.put t (afterPutBack fails o t (disk.files t)) ∧
    (putBack fails o t disk).2.isNone = ((o t).isNone || undoes fails t) := by
  unfold putBack afterPutBack undoes attempt
  cases o t with
  | none => cases fails (.remove t) <;> simp [put_self]
  | some b =>
    cases hr : fails (.read t) with
    | true => simp [Outcome.andThen, hr, put_self]
    | false =>
      obtain ⟨hd, hw⟩ := writeAtomic_eq fails true t b disk
      simp only [Bool.not_false, Bool.true_and, ← hw, ← hd]
      cases ho : (writeAtomic fails true t b disk).2 with
      | none => cases hp : fails (.setPrivate t) <;> simp [Outcome.andThen, hr, ho, hp]
      | some op => simp [Outcome.andThen, hr, ho]

/-- A loop over steps that each set their own target to what a second step would leave. -/
theorem forEach_eq {step : Target → Disk → Outcome} {good : Target → Bool}
    {v : Target → Option Bytes → Option Bytes} (hv : ∀ t c, v t (v t c) = v t c)
    (hs : ∀ t d, (step t d).1 = d.put t (v t (d.files t)) ∧ (step t d).2.isNone = good t)
    (ts : List Target) (disk : Disk) :
    (∀ x, (forEach step ts disk).1.files x =
      if x ∈ reached good ts then v x (disk.files x) else disk.files x) ∧
    (forEach step ts disk).1.sidecars = disk.sidecars ∧
    (forEach step ts disk).2.isNone = ts.all good := by
  induction ts generalizing disk with
  | nil => simp [forEach, reached]
  | cons t rest ih =>
    obtain ⟨hd, hg⟩ := hs t disk
    rw [forEach, Outcome.andThen, reached]
    cases hout : (step t disk).2 with
    | some op =>
      rw [hout, Option.isNone_some] at hg
      refine ⟨fun x => ?_, by simp [hd, Disk.put], by simp [hout, ← hg]⟩
      by_cases hx : x = t
      · simp [hd, hx, Disk.put]
      · simp [hd, hx, Disk.put, ← hg]
    | none =>
      rw [hout, Option.isNone_none] at hg
      obtain ⟨hf, hc, ha⟩ := ih (disk.put t (v t (disk.files t)))
      rw [hd]
      refine ⟨fun x => (hf x).trans ?_, hc, by simp [ha, ← hg]⟩
      by_cases hx : x = t
      · simp [hx, Disk.put, hv]
      · simp [hx, Disk.put, ← hg]

/-! ## How a restore ends -/

/-- Success with the archive in place and nothing of the old database, an ordinary error with
everything as it was, or the error of a failed rollback. -/
def EndsAsPromised (p : PreparedRestore) (before : Disk) : Disk × Except BackupError Unit → Prop
  | (disk, .ok ()) => (∀ t ∈ p.targets, disk.files t = some (p.bytes t)) ∧ disk.sidecars = []
  | (_, .error .restoreRollback) => True
  | (disk, .error (.failed _)) => ∀ t ∈ p.targets, disk.files t = before.files t

/-- A target without a copy is as before after a rollback: if it is removed there was nothing, and
if it cannot be removed it was not replaced, or by the same bytes. -/
def Spared (p : PreparedRestore) (disk : Disk) (t : Target) : Prop :=
  if fails (.remove t) then t ∈ reached (writes fails false) p.targets →
    renames fails false t = true → disk.files t = some (p.bytes t)
  else disk.files t = none

/-- Something fails before the first write; or all writes succeed and the copies are removed where
there are no sidecars, or are not removed and the archive changed nothing; or a write fails, and
a copy cannot be written back or the targets without a copy are spared. -/
def Restorable (p : PreparedRestore) (disk : Disk) : Prop :=
  (preparation fails p disk).any fails = true ∨
  if p.targets.all (writes fails false) then
    if fails .removeStaging then ∀ t ∈ p.targets, disk.files t = some (p.bytes t)
    else disk.sidecars = []
  else (∃ t ∈ p.targets, seen fails disk t = true ∧ undoes fails t = false) ∨
    ∀ t ∈ p.targets, seen fails disk t = false → Spared fails p disk t

theorem reached_of_all {good : Target → Bool} {ts : List Target} (h : ts.all good = true) :
    reached good ts = ts := by
  induction ts with
  | nil => rfl
  | cons t rest ih =>
    simp only [List.all_cons, Bool.and_eq_true] at h
    rw [reached, if_pos h.1, ih h.2]

theorem renames_of_writes {undo : Bool} (h : writes fails undo t = true) :
    renames fails undo t = true := by
  simp only [writes, Bool.and_eq_true] at h
  exact h.1

theorem isSome_original : (original fails disk t).isSome = seen fails disk t := by
  unfold original
  cases h : seen fails disk t with
  | false => rfl
  | true =>
    simp only [seen, Bool.and_eq_true] at h
    exact h.1

/-- The rollback of a target that was written as far as the writes came. -/
theorem afterPutBack_eq_iff {c : Option Bytes} (hu : seen fails disk t = true → undoes fails t = true)
    (hc : c = if t ∈ reached (writes fails false) p.targets then
      (if renames fails false t then some (p.bytes t) else disk.files t) else disk.files t) :
    afterPutBack fails (original fails disk) t c = disk.files t ↔
      (seen fails disk t = false → Spared fails p disk t) := by
  unfold afterPutBack
  cases hs : seen fails disk t with
  | true =>
    have ho : original fails disk t = disk.files t := if_pos hs
    obtain ⟨b, hb⟩ := Option.isSome_iff_exists.mp ((isSome_original fails).trans hs)
    have hun := hu hs
    simp only [undoes, Bool.and_eq_true, Bool.not_eq_true'] at hun
    simp [← ho, hb, hun.1.1, renames_of_writes fails hun.1.2]
  | false =>
    rw [show original fails disk t = none by simp [original, hs], Spared]
    cases fails (.remove t) with
    | false => simp [eq_comm]
    | true =>
      subst hc
      by_cases hr : t ∈ reached (writes fails false) p.targets
      · cases renames fails false t <;> simp [hr, eq_comm]
      · simp [hr]

/-- **A restore ends as promised exactly if it is restorable.** -/
theorem atomicRestore_ends_iff (p : PreparedRestore) (disk : Disk) :
    EndsAsPromised p disk (atomicRestore fails p disk) ↔ Restorable fails p disk := by
  unfold atomicRestore Restorable
  rw [← List.isSome_find?]
  cases hp : (preparation fails p disk).find? fails with
  | some op => exact ⟨fun _ => .inl rfl, fun _ _ _ => rfl⟩
  | none =>
    simp only [Option.isSome_none, Bool.false_eq_true, false_or]
    obtain ⟨hf, hc, hw⟩ := forEach_eq
      (v := fun t c => if renames fails false t then some (p.bytes t) else c)
      (fun t c => by split <;> rfl)
      (fun t d => writeAtomic_eq fails false t (p.bytes t) d) p.targets disk
    rw [← writeAll] at hf hc hw
    cases hr : (writeAll fails p disk).2 with
    | none =>
      rw [hr, Option.isNone_none, eq_comm] at hw
      have hnew : ∀ t ∈ p.targets, (writeAll fails p disk).1.files t = some (p.bytes t) := by
        intro t ht
        rw [hf, reached_of_all hw, if_pos ht,
          if_pos (renames_of_writes fails (List.all_eq_true.mp hw t ht))]
      rw [if_pos hw]
      cases fails .removeStaging with
      | true => exact forall₂_congr fun t ht => by rw [hnew t ht, eq_comm]
      | false => exact (and_iff_right hnew).trans (by rw [hc]; rfl)
    | some op =>
      rw [hr] at hw
      rw [← hw]
      obtain ⟨hf', -, hw'⟩ := forEach_eq
        (v := afterPutBack fails (original fails disk)) (fun t c => by
          unfold afterPutBack
          cases original fails disk t <;> dsimp only <;> split <;> rfl)
        (putBack_eq fails (original fails disk)) p.targets (writeAll fails p disk).1
      dsimp only
      rw [hw']
      cases hg : p.targets.all fun t => (original fails disk t).isNone || undoes fails t with
      | true =>
        have hu : ∀ t ∈ p.targets, seen fails disk t = true → undoes fails t = true := by
          intro t ht hs
          rw [← isSome_original] at hs
          simpa [Option.isNone_eq_false_iff.mpr hs] using List.all_eq_true.mp hg t ht
        refine Iff.trans ?_ (or_iff_right ?_).symm
        · refine forall₂_congr fun t ht => ?_
          rw [hf', reached_of_all hg, if_pos ht]
          exact afterPutBack_eq_iff fails (hu t ht) (hf t)
        · rintro ⟨t, ht, hs, hno⟩
          rw [hu t ht hs] at hno
          cases hno
      | false =>
        obtain ⟨t, ht, hno⟩ := List.all_eq_false.mp hg
        simp only [Bool.or_eq_true, not_or, Option.isNone_iff_eq_none, ← Option.isSome_iff_ne_none,
          isSome_original, Bool.not_eq_true] at hno
        exact ⟨fun _ => .inl ⟨t, ht, hno⟩, fun _ => trivial⟩

/-- With no failure at all, the log of the old database stays beside the new one. -/
theorem restore_keeps_wal :
    Prod.map Disk.sidecars id (atomicRestore (fun _ => false) ⟨[1], [2], none⟩
      ⟨fun _ => some [0], ["usage.sqlite3-wal"]⟩) = (["usage.sqlite3-wal"], .ok ()) := rfl

end EggPool.Operations
