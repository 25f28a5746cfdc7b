import EggPool.Lib.Run
import EggPool.Lib.Text

/-!
# The catalog cache

The cache as far as its keys: which models and provider rows it has, which accounts it
records as supporting a model, and which keys an account last advertised. A map to sets is
the set of its pairs.

An update that withdraws models takes a row out unless the index says that another account
advertises it. Hydration restores rows and support but not the index, so a row can go that
an account still needs; this happens exactly at the updates that `Keeps` rules out.
-/

namespace EggPool.Catalog

open Lib Finset

inductive CatalogCacheError
  | invalidModelId (id : String)
  | invalidProviderId (id : String)
  | invalidProtocol (protocol : String)
  | invalidResolutionStatus (status : String)
  | invalidTimestamp (text : String)
  | unknownAccount (id : Int)
  | unknownAccountName (name : String)

def DEPRECATED_MODEL_ID : String := "__deprecated__"

def SUPPORTED_PROTOCOLS : List String := ["openai", "anthropic"]

structure ModelInput where
  modelId : String
  protocol : Option String

def requiredId (value : String) : Except CatalogCacheError Unit :=
  if (trim value).isEmpty then .error (.invalidModelId value) else .ok ()

def validateModelInput (input : ModelInput) : Except CatalogCacheError Unit := do
  requiredId input.modelId
  match input.protocol with
  | none => .ok ()
  | some protocol =>
    if protocol ∈ SUPPORTED_PROTOCOLS then .ok () else .error (.invalidProtocol protocol)

structure ModelCatalogCache where
  models : Finset String := ∅
  /-- Models with their providers. -/
  providerModels : Finset (String × String) := ∅
  /-- Models with the accounts that support them. -/
  accountSupport : Finset (String × String) := ∅
  accountProviders : String → Option String := fun _ => none
  /-- Accounts with the models and providers they last advertised. -/
  accountProviderKeys : Finset (String × String × String) := ∅

/-- The state after a loop that stops at its first error, and how it ended. -/
def forEach {σ α ε : Type} (body : σ → α → σ × Except ε Unit) : σ → List α → σ × Except ε Unit
  | s, [] => (s, .ok ())
  | s, a :: as => match body s a with
    | (s, .error e) => (s, .error e)
    | (s, .ok ()) => forEach body s as

theorem forEach_invariant {σ α ε : Type} {body : σ → α → σ × Except ε Unit} {I : σ → Prop}
    {as : List α} (h : ∀ s, ∀ a ∈ as, I s → I (body s a).1) : ∀ {s : σ}, I s →
      I (forEach body s as).1 := by
  intro s
  fun_induction forEach body s as with
  | case1 => exact id
  | case2 s a as t e hb => exact fun hs => hb ▸ h s a List.mem_cons_self hs
  | case3 s a as t hb ih =>
    exact fun hs => ih (fun s a ha => h s a (List.mem_cons_of_mem _ ha))
      (hb ▸ h s a List.mem_cons_self hs :)

namespace ModelCatalogCache

variable (c : ModelCatalogCache)

/-! ## Updates -/

def incoming (provider : String) (models : List ModelInput) : Finset (String × String) :=
  (models.map fun model => (model.modelId, provider)).toFinset

/-- Another account advertises the key. -/
def HeldByOther (account : String) (key : String × String) : Prop :=
  ∃ row ∈ c.accountProviderKeys, row.1 ≠ account ∧ row.2 = key
deriving Decidable

/-- The first half of a destructive update. -/
def withdraw (account : String) (keys : Finset (String × String)) : ModelCatalogCache :=
  { c with
    accountSupport := c.accountSupport.filter (·.2 ≠ account)
    providerModels := c.providerModels.filter fun stale =>
      ¬ ((account, stale) ∈ c.accountProviderKeys ∧ stale ∉ keys ∧ ¬ c.HeldByOther account stale)
    accountProviderKeys :=
      c.accountProviderKeys.filter (·.1 ≠ account) ∪ keys.image (Prod.mk account) }

/-- One model of an update. -/
def observe (account provider : String) (model : ModelInput) : ModelCatalogCache :=
  { c with
    providerModels := insert (model.modelId, provider) c.providerModels
    models := insert model.modelId c.models
    accountSupport := insert (model.modelId, account) c.accountSupport }

def updateFromAccountInner (account provider : String) (models : List ModelInput)
    (authoritative allowWithdrawals : Bool) : ModelCatalogCache × Except CatalogCacheError Unit :=
  if (c.accountProviders account).isNone then (c, .error (.unknownAccountName account))
  else match models.forM validateModelInput with
    | .error e => (c, .error e)
    | .ok () =>
      let c := { c with
        accountProviders := Function.update c.accountProviders account (some provider) }
      let keys := incoming provider models
      let c := if authoritative && allowWithdrawals then c.withdraw account keys
        else { c with
          accountProviderKeys := c.accountProviderKeys ∪ keys.image (Prod.mk account) }
      (models.foldl (fun c model => c.observe account provider model) c, .ok ())

def setAccountProvider (account provider : String) : ModelCatalogCache :=
  { c with accountProviders := Function.update c.accountProviders account (some provider) }

def seedFromAccount (account provider : String) (models : List ModelInput) :
    ModelCatalogCache × Except CatalogCacheError Unit :=
  c.updateFromAccountInner account provider models false false

/-- The static models of a configuration, each with its provider and an account. -/
def seedStaticModels (seeds : List (String × String × ModelInput)) :
    ModelCatalogCache × Except CatalogCacheError Unit :=
  forEach (fun c (provider, account, input) =>
    (c.setAccountProvider account provider).seedFromAccount account provider [input]) c seeds

def pruneUnused : ModelCatalogCache :=
  let referenced := c.accountSupport.image Prod.fst ∪ c.providerModels.image Prod.fst
  let stale := c.models \ referenced
  { c with
    models := c.models \ stale
    accountSupport := c.accountSupport.filter (·.1 ∉ stale) }

/-! ## Hydration -/

structure AccountRow where
  id : Int
  name : String
  providerId : String
  enabled : Bool

/-- The rows of the four loops. A row may have a column that does not parse. -/
inductive CatalogRow
  | model (modelId : String) (defect : Option CatalogCacheError)
  | providerModel (modelId providerId : String) (defect : Option CatalogCacheError)
  | account (row : AccountRow)
  | support (accountId : Int) (modelId : String) (enabled : Bool)

def hydrateRow (accountById : Int → Option AccountRow) :
    CatalogRow → ModelCatalogCache × Except CatalogCacheError Unit
  | .model id defect =>
    if id = DEPRECATED_MODEL_ID then (c, .ok ()) else match defect with
      | some e => (c, .error e)
      | none => ({ c with models := insert id c.models }, .ok ())
  | .providerModel id provider defect =>
    if id = DEPRECATED_MODEL_ID then (c, .ok ()) else match defect with
      | some e => (c, .error e)
      | none => ({ c with providerModels := insert (id, provider) c.providerModels }, .ok ())
  | .account row => (if row.enabled then c.setAccountProvider row.name row.providerId else c, .ok ())
  | .support accountId id enabled =>
    if id = DEPRECATED_MODEL_ID || !enabled then (c, .ok ()) else match accountById accountId with
      | none => (c, .error (.unknownAccount accountId))
      | some row =>
        -- stale rows of another provider are skipped
        if (id, row.providerId) ∈ c.providerModels ∧ row.enabled then
          ({ c with accountSupport := insert (id, row.name) c.accountSupport }, .ok ())
        else (c, .ok ())

/-- What hydration reads; the accounts are in the order of their ids. -/
structure CatalogDb where
  accounts : List AccountRow
  models : List (String × Option CatalogCacheError)
  providerModels : List (String × String × Option CatalogCacheError)
  support : List (Int × String × Bool)

def CatalogDb.accountById (db : CatalogDb) (id : Int) : Option AccountRow :=
  db.accounts.reverse.find? (·.id = id)

def CatalogDb.rows (db : CatalogDb) : List CatalogRow :=
  (db.models.map fun row => .model row.1 row.2) ++
    (db.providerModels.map fun row => .providerModel row.1 row.2.1 row.2.2) ++
    db.accounts.map .account ++ db.support.map fun row => .support row.1 row.2.1 row.2.2

def hydrateFromDb (db : CatalogDb) : ModelCatalogCache × Except CatalogCacheError Unit :=
  match db.accounts.find? fun row =>
      row.id ≤ 0 || (trim row.name).isEmpty || (trim row.providerId).isEmpty with
  | some row => (c, .error (.invalidProviderId row.providerId))
  | none => forEach (fun c row => c.hydrateRow db.accountById row) c db.rows

/-! ## Histories -/

/-- The calls on a cache. An account has one provider, so a call names the account alone. -/
inductive Call
  | hydrate (db : CatalogDb)
  | setAccountProvider (account : String)
  | seedStatic (seeds : List (String × ModelInput))
  | seed (account : String) (models : List ModelInput)
  | update (account : String) (models : List ModelInput) (authoritative allowWithdrawals : Bool)
  | prune

variable (providerOf : String → String)

def step : Call → ModelCatalogCache
  | .hydrate db => (c.hydrateFromDb { db with
      accounts := db.accounts.map fun row => { row with providerId := providerOf row.name } }).1
  | .setAccountProvider account => c.setAccountProvider account (providerOf account)
  | .seedStatic seeds =>
    (c.seedStaticModels (seeds.map fun seed => (providerOf seed.1, seed))).1
  | .seed account models => (c.seedFromAccount account (providerOf account) models).1
  | .update account models authoritative allowWithdrawals =>
    (c.updateFromAccountInner account (providerOf account) models authoritative
      allowWithdrawals).1
  | .prune => c.pruneUnused

/-- Every account that supports a model has the row of its provider. -/
def RowsCover : Prop :=
  ∀ model account, (model, account) ∈ c.accountSupport →
    (model, providerOf account) ∈ c.providerModels

/-- What an update withdraws while another account supports it is advertised by another account. -/
def Keeps : Call → Prop
  | .update account models authoritative allowWithdrawals =>
    authoritative = true → allowWithdrawals = true → (c.accountProviders account).isSome →
      models.forM validateModelInput = .ok () →
      ∀ model other, other ≠ account → (model, other) ∈ c.accountSupport →
        (account, model, providerOf other) ∈ c.accountProviderKeys →
        (model, providerOf other) ∉ incoming (providerOf account) models →
        c.HeldByOther account (model, providerOf other)
  | _ => True

variable {c providerOf} {account : String} {models : List ModelInput}

theorem mem_incoming {provider : String} {key : String × String} :
    key ∈ incoming provider models ↔ ∃ model ∈ models, key = (model.modelId, provider) := by
  simp [incoming, eq_comm]

theorem foldl_observe (provider : String) (models : List ModelInput) : ∀ c : ModelCatalogCache,
    (models.foldl (fun c model => c.observe account provider model) c).providerModels =
        c.providerModels ∪ incoming provider models ∧
      (models.foldl (fun c model => c.observe account provider model) c).accountSupport =
        c.accountSupport ∪ incoming account models := by
  induction models with
  | nil => simp [incoming]
  | cons model models ih =>
    intro c
    obtain ⟨hp, hs⟩ := ih (c.observe account provider model)
    rw [List.foldl_cons, hp, hs]
    simp [observe, incoming]

/-- The models of an update bring their own rows. -/
theorem rowsCover_foldl_observe (c : ModelCatalogCache) :
    (models.foldl (fun c model => c.observe account (providerOf account) model) c).RowsCover
        providerOf ↔
      ∀ model other, (model, other) ∈ c.accountSupport →
        (model, providerOf other) ∈ c.providerModels ∨
          (model, providerOf other) ∈ incoming (providerOf account) models := by
  unfold RowsCover
  simp only [foldl_observe, mem_union]
  refine forall₂_congr fun model other => ⟨fun h hs => h (.inl hs), ?_⟩
  rintro h (hs | hs)
  · exact h hs
  · right
    obtain ⟨input, hm, he⟩ := mem_incoming.mp hs
    rw [Prod.mk.injEq] at he
    exact mem_incoming.mpr ⟨input, hm, by rw [he.1, he.2]⟩

/-- **An update keeps the rows exactly if what it withdraws is advertised or unsupported.** -/
theorem rowsCover_update_iff (h : c.RowsCover providerOf) (authoritative allowWithdrawals : Bool) :
    (c.step providerOf (.update account models authoritative allowWithdrawals)).RowsCover
        providerOf ↔
      c.Keeps providerOf (.update account models authoritative allowWithdrawals) := by
  dsimp only [step, Keeps]
  unfold updateFromAccountInner
  split
  · rename_i hn
    simp [h, Option.isNone_iff_eq_none.mp hn]
  rename_i hs
  split
  · rename_i hv
    simp [h, hv]
  rename_i hv
  rw [rowsCover_foldl_observe]
  split
  · rename_i hd
    obtain ⟨rfl, rfl⟩ := Bool.and_eq_true_iff.mp hd
    constructor
    · intro hk _ _ _ _ model other ho hm hp hi
      by_contra hn
      rcases hk model other (mem_filter.mpr ⟨hm, ho⟩) with hr | hr
      · exact (mem_filter.mp hr).2 ⟨hp, hi, hn⟩
      · exact hi hr
    · intro hk model other hm
      obtain ⟨hm, ho⟩ := mem_filter.mp hm
      refine or_iff_not_imp_right.mpr fun hi => mem_filter.mpr ⟨h model other hm, ?_⟩
      rintro ⟨hp, -, hn⟩
      exact hn (hk rfl rfl (by simpa [Option.isSome_iff_ne_none] using hs) hv model other ho hm hp hi)
  · rename_i hd
    refine iff_of_true (fun model other hm => .inl (h model other hm)) fun ha hw => ?_
    exact absurd (Bool.and_eq_true_iff.mpr ⟨ha, hw⟩) hd

theorem rowsCover_seed (h : c.RowsCover providerOf) (account : String) (models : List ModelInput) :
    (c.seedFromAccount account (providerOf account) models).1.RowsCover providerOf :=
  (rowsCover_update_iff h false false).mpr nofun

theorem rowsCover_hydrateRow {accountById : Int → Option AccountRow}
    (ha : ∀ id row, accountById id = some row → row.providerId = providerOf row.name)
    (h : c.RowsCover providerOf) (row : CatalogRow) :
    (c.hydrateRow accountById row).1.RowsCover providerOf := by
  fun_cases hydrateRow c accountById row with
  | case6 => exact fun model account hs => mem_insert_of_mem (h model account hs)
  | case7 => split <;> exact h
  | case10 accountId id enabled _ row hr hp =>
    intro model account hs
    rcases mem_insert.mp hs with he | hs
    · rw [Prod.mk.injEq] at he
      rw [he.1, he.2, ← ha _ _ hr]
      exact hp.1
    · exact h model account hs
  | _ => exact h

theorem rowsCover_hydrate (h : c.RowsCover providerOf) (db : CatalogDb) :
    (c.step providerOf (.hydrate db)).RowsCover providerOf := by
  dsimp only [step]
  unfold hydrateFromDb
  split
  · exact h
  refine forEach_invariant (I := (RowsCover · providerOf)) (fun c row _ hc => ?_) h
  refine rowsCover_hydrateRow (fun id row hr => ?_) hc row
  obtain ⟨row, -, rfl⟩ := List.mem_map.mp (List.mem_reverse.mp (List.mem_of_find?_eq_some hr))
  rfl

theorem rowsCover_step_iff (h : c.RowsCover providerOf) (call : Call) :
    (c.step providerOf call).RowsCover providerOf ↔ c.Keeps providerOf call := by
  cases call with
  | update account models authoritative allowWithdrawals =>
    exact rowsCover_update_iff h authoritative allowWithdrawals
  | hydrate db => exact iff_of_true (rowsCover_hydrate h db) trivial
  | setAccountProvider account => exact iff_of_true h trivial
  | seed account models => exact iff_of_true (rowsCover_seed h account models) trivial
  | seedStatic seeds =>
    refine iff_of_true ?_ trivial
    refine forEach_invariant (I := (RowsCover · providerOf)) (fun c seed hm hc => ?_) h
    obtain ⟨seed, -, rfl⟩ := List.mem_map.mp hm
    exact rowsCover_seed (c := c.setAccountProvider _ _) hc seed.1 [seed.2]
  | prune =>
    refine iff_of_true (fun model account hs => h model account ?_) trivial
    exact (mem_filter.mp hs).1

/-- **All states of a history have the rows of what they support exactly if no update on the way
withdraws a supported key that no other account advertises.** -/
theorem supported_rows_iff (providerOf : String → String) (calls : List Call) :
    (∀ first, first <+: calls →
      (run (step · providerOf ·) {} first).RowsCover providerOf) ↔
      Along (step · providerOf ·) (Keeps · providerOf ·) {} calls :=
  forall_prefix_iff_along (I := (RowsCover · providerOf)) (by simp [RowsCover])
    fun _ call _ h => rowsCover_step_iff h call

/-- Account `a` supports model `m`. -/
def storedSupport : CatalogDb where
  accounts := [⟨1, "a", "p", true⟩]
  models := [("m", none)]
  providerModels := [("m", "p", none)]
  support := [(1, "m", true)]

/-- Account `b` of the same provider lists the model and later no longer does: the row goes,
although `a` supports the model since the cache was hydrated. -/
theorem withdrawal_removes_supported_row :
    let c := run (step · (fun _ => "p") ·) {} [.hydrate storedSupport, .setAccountProvider "b",
      .update "b" [⟨"m", none⟩] true true, .update "b" [] true true]
    ("m", "a") ∈ c.accountSupport ∧ ("m", "p") ∉ c.providerModels ∧
      ¬ c.RowsCover fun _ => "p" := by
  intro c
  have hrow : ("m", "a") ∈ c.accountSupport ∧ ("m", "p") ∉ c.providerModels := by
    decide +kernel
  exact ⟨hrow.1, hrow.2, fun h => hrow.2 (h "m" "a" hrow.1)⟩

end ModelCatalogCache

end EggPool.Catalog
