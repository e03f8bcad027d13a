import Mathlib.Logic.Function.Basic
import VirtualHaibin.Foundation.OrderedMap
import VirtualHaibin.Mandate.Permit

/-!
# Sessions of the agent

The session store of the agent's HTTP API.  A handle names a session object; a request keeps its
handle while it waits, also when the session has meanwhile left the store.  Session keys are digests
of the tokens, and the owner of an invocation is a session key or a mark that its session ended.
-/

namespace VirtualHaibin.Agent

open Foundation Mandate

structure InstalledPermit where
  permit : SignedPurchasePermitV2
  digest : String

structure Session where
  createdAt : ℕ
  expiresAt : ℕ
  installed : Option InstalledPermit
  /-- IDs this session claimed. -/
  invocations : OrderedSet String
  /-- IDs for which the authority decided this session's own request. -/
  decided : OrderedSet String

/-- A session object as `create` makes it. -/
def Session.new (createdAt expiresAt : ℕ) : Session := ⟨createdAt, expiresAt, none, .empty, .empty⟩

inductive ClaimResult
  | claimed
  | alreadyOwn
  | foreign
  | limit
  deriving DecidableEq

structure SessionStoreOptions where
  ttlMs : ℕ := 60 * 60 * 1000
  maxSessions : ℕ := 100
  maxInvocationsPerSession : ℕ := 200
  /-- Bound on remembered invocation ownership, live and retired. -/
  maxOwnedInvocations : ℕ := 50000

/-- An owning session key, or the mark left when the session ended. -/
inductive Owner
  | session (key : String)
  | retired
  deriving DecidableEq

structure SessionStore where
  /-- How many session objects were made; they are the handles below this number. -/
  created : ℕ
  /-- The object behind a handle. -/
  heap : ℕ → Session
  sessions : OrderedMap String ℕ
  /-- Never deleted from. -/
  keys : OrderedMap ℕ String
  owners : OrderedMap String Owner

/-- `/^[A-Za-z0-9_-]{43}$/`. -/
def TOKEN_PATTERN (text : String) : Bool := Text.inClass (fun c ↦ c.isAlphanum || c = '_' || c = '-') 43 43 text

namespace SessionStore

def empty : SessionStore := ⟨0, fun _ ↦ .new 0 0, .empty, .empty, .empty⟩

/-- Retire, never release. -/
def retireOne (key : String) (owners : OrderedMap String Owner) (invocationId : String) : OrderedMap String Owner :=
  if owners.get? invocationId = some (.session key) then owners.set invocationId .retired else owners

/-- The loop of `#evict` over the IDs of the session. -/
def retire (key : String) (owners : OrderedMap String Owner) (invocations : List String) : OrderedMap String Owner :=
  invocations.foldl (retireOne key) owners

def evict (store : SessionStore) (key : String) : SessionStore :=
  match store.sessions.get? key with
  | none => store
  | some session =>
    { store with
      owners := retire key store.owners (store.heap session).invocations.rows
      sessions := store.sessions.delete key }

/-- The loop goes over the entries present when it starts: it deletes none but the one it visits. -/
def prune (store : SessionStore) (now : ℕ) : SessionStore :=
  store.sessions.rows.foldl (fun store entry ↦
    if (store.heap entry.2).expiresAt ≤ now then store.evict entry.1 else store) store

/-- `while (size >= maxSessions)`, evict the oldest session; every round evicts one. -/
def evictTo (maxSessions : ℕ) : ℕ → SessionStore → SessionStore
  | 0, store => store
  | rounds + 1, store =>
    if maxSessions ≤ store.sessions.size then
      match store.sessions.oldest? with
      | none => store
      | some oldest => evictTo maxSessions rounds (store.evict oldest)
    else store

def size (store : SessionStore) (now : ℕ) : ℕ × SessionStore :=
  let store := store.prune now
  (store.sessions.size, store)

/-- A new session object under the key of its token. -/
def insert (platform : Platform) (options : SessionStoreOptions) (token : String) (now : ℕ)
    (store : SessionStore) : SessionStore :=
  { store with
    created := store.created + 1
    heap := Function.update store.heap store.created (.new now (now + options.ttlMs))
    sessions := store.sessions.set (platform.sha256Hex token) store.created
    keys := store.keys.set store.created (platform.sha256Hex token) }

/-- The clock is read once to prune and once more for the session. -/
def create (platform : Platform) (options : SessionStoreOptions) (token : String) (pruned now : ℕ)
    (store : SessionStore) : ℕ × SessionStore :=
  let store := store.prune pruned
  let store := evictTo options.maxSessions store.sessions.size store
  (store.created, store.insert platform options token now)

def authenticate (platform : Platform) (authorization : Option String) (now : ℕ) (store : SessionStore) :
    Option ℕ × SessionStore :=
  match authorization with
  | none => (none, store)
  | some authorization =>
    if "Bearer ".toList.isPrefixOf authorization.toList then
      let token := String.ofList (authorization.toList.drop "Bearer ".length)
      if TOKEN_PATTERN token then
        let store := store.prune now
        (store.sessions.get? (platform.sha256Hex token), store)
      else (none, store)
    else (none, store)

/-- The claim of an ID nobody is remembered to own, by a session below its limit. -/
def own (options : SessionStoreOptions) (store : SessionStore) (session : ℕ) (key invocationId : String) :
    SessionStore :=
  { store with
    heap := Function.update store.heap session
      { store.heap session with invocations := (store.heap session).invocations.add invocationId }
    owners := (store.owners.set invocationId (.session key)).trim options.maxOwnedInvocations }

def claimInvocation (options : SessionStoreOptions) (store : SessionStore) (session : ℕ)
    (invocationId : String) : ClaimResult × SessionStore :=
  match store.keys.get? session with
  | none => (.foreign, store)
  | some key =>
    match store.owners.get? invocationId with
    | some owner => if owner = .session key then (.alreadyOwn, store) else (.foreign, store)
    | none =>
      if options.maxInvocationsPerSession ≤ (store.heap session).invocations.size then (.limit, store)
      else (.claimed, store.own options session key invocationId)

def markDecided (store : SessionStore) (session : ℕ) (invocationId : String) : SessionStore :=
  -- A handle without a key compares `undefined` with the owner of an ID nobody owns.
  if store.owners.get? invocationId = (store.keys.get? session).map .session then
    { store with
      heap := Function.update store.heap session
        { store.heap session with decided := (store.heap session).decided.add invocationId } }
  else store

def canReadEvidence (store : SessionStore) (session : ℕ) (invocationId : String) : Bool :=
  match store.keys.get? session with
  | none => false
  | some key =>
    (store.heap session).decided.has invocationId && decide (store.owners.get? invocationId = some (.session key))

/-! ## Evicting a session -/

theorem keys_retire (key : String) (invocations : List String) (owners : OrderedMap String Owner) :
    (retire key owners invocations).keys = owners.keys := by
  induction invocations generalizing owners with
  | nil => rfl
  | cons invocationId rest ih =>
    have hone : (retireOne key owners invocationId).keys = owners.keys := by
      unfold retireOne
      split
      · rename_i howner
        exact OrderedMap.keys_set_of_mem (OrderedMap.mem_keys_of_get? howner) _
      · rfl
    exact (ih _).trans hone

theorem get?_retireOne (key : String) (owners : OrderedMap String Owner) (other invocationId : String) :
    (retireOne key owners other).get? invocationId =
      if invocationId = other ∧ owners.get? invocationId = some (.session key) then some .retired
      else owners.get? invocationId := by
  unfold retireOne
  by_cases heq : invocationId = other
  · subst heq
    by_cases howner : owners.get? invocationId = some (.session key)
    · simp [howner]
    · simp [howner]
  · split
    · simp [heq, OrderedMap.get?_set_of_ne _ _ (Ne.symm heq)]
    · simp [heq]

theorem get?_retire (key : String) (invocations : List String) (owners : OrderedMap String Owner)
    (invocationId : String) : (retire key owners invocations).get? invocationId =
      if invocationId ∈ invocations ∧ owners.get? invocationId = some (.session key) then some .retired
      else owners.get? invocationId := by
  induction invocations generalizing owners with
  | nil => simp [retire]
  | cons other rest ih =>
    refine (ih _).trans ?_
    by_cases howner : owners.get? invocationId = some (.session key)
    · by_cases heq : invocationId = other
      · simp [get?_retireOne, heq, heq ▸ howner]
      · simp [get?_retireOne, heq, howner]
    · simp [get?_retireOne, howner]

@[simp] theorem created_evict (store : SessionStore) (key : String) : (store.evict key).created = store.created := by
  unfold evict
  split <;> rfl

@[simp] theorem heap_evict (store : SessionStore) (key : String) : (store.evict key).heap = store.heap := by
  unfold evict
  split <;> rfl

@[simp] theorem keys_evict (store : SessionStore) (key : String) : (store.evict key).keys = store.keys := by
  unfold evict
  split <;> rfl

@[simp] theorem ownersKeys_evict (store : SessionStore) (key : String) :
    (store.evict key).owners.keys = store.owners.keys := by
  unfold evict
  split
  · rfl
  · exact keys_retire key _ _

theorem sessions_evict (store : SessionStore) (key : String) :
    (store.evict key).sessions = store.sessions.delete key := by
  unfold evict
  split
  · rename_i habsent
    refine Table.ext (List.filter_eq_self.2 fun entry hentry ↦ ?_).symm
    rw [decide_eq_true_eq]
    rintro rfl
    exact OrderedMap.get?_eq_none.1 habsent (List.mem_map_of_mem hentry)
  · rfl

theorem owners_evict {store : SessionStore} {key : String} {session : ℕ}
    (h : store.sessions.get? key = some session) :
    (store.evict key).owners = retire key store.owners (store.heap session).invocations.rows := by
  unfold evict
  rw [h]

/-- An eviction changes the owners that are its own session and no others. -/
theorem owner_evict_of_ne {store : SessionStore} {key : String} {invocationId : String}
    (h : store.owners.get? invocationId ≠ some (.session key)) :
    (store.evict key).owners.get? invocationId = store.owners.get? invocationId := by
  unfold evict
  split
  · rfl
  · show (retire key _ _).get? invocationId = _
    rw [get?_retire, if_neg fun hboth ↦ h hboth.2]

/-- What every eviction keeps, `#prune` keeps. -/
theorem prune_induction {P : SessionStore → Prop} (hevict : ∀ store key, P store → P (store.evict key))
    {store : SessionStore} (h : P store) (now : ℕ) : P (store.prune now) := by
  suffices hloop : ∀ (entries : List (String × ℕ)) (store : SessionStore), P store →
      P (entries.foldl (fun store entry ↦
        if (store.heap entry.2).expiresAt ≤ now then store.evict entry.1 else store) store) from
    hloop store.sessions.rows store h
  intro entries
  induction entries with
  | nil => exact fun _ h ↦ h
  | cons entry rest ih =>
    intro store h
    rw [List.foldl_cons]
    split
    · exact ih _ (hevict _ _ h)
    · exact ih _ h

theorem evictTo_induction {P : SessionStore → Prop} (hevict : ∀ store key, P store → P (store.evict key))
    (maxSessions rounds : ℕ) {store : SessionStore} (h : P store) : P (evictTo maxSessions rounds store) := by
  induction rounds generalizing store with
  | zero => exact h
  | succ rounds ih =>
    unfold evictTo
    split
    · split
      · exact h
      · exact ih (hevict _ _ h)
    · exact h

/-- An authorization that names no token is refused before the store is pruned. -/
theorem authenticate_store (platform : Platform) (authorization : Option String) (now : ℕ) (store : SessionStore) :
    (store.authenticate platform authorization now).2 = store ∨
      (store.authenticate platform authorization now).2 = store.prune now := by
  unfold authenticate
  cases authorization with
  | none => exact .inl rfl
  | some authorization =>
    dsimp only
    split
    · split
      · exact .inr rfl
      · exact .inl rfl
    · exact .inl rfl

/-! ## Claiming an invocation -/

/-- A claim succeeds for an ID nobody is remembered to own, through a session below its limit, and else
leaves the store as it was. -/
theorem claimInvocation_cases (options : SessionStoreOptions) (store : SessionStore) (session : ℕ)
    (invocationId : String) :
    (∃ key, store.keys.get? session = some key ∧ store.owners.get? invocationId = none ∧
      (store.heap session).invocations.size < options.maxInvocationsPerSession ∧
      store.claimInvocation options session invocationId = (.claimed, store.own options session key invocationId)) ∨
    ((store.claimInvocation options session invocationId).1 ≠ .claimed ∧
      (store.claimInvocation options session invocationId).2 = store) := by
  unfold claimInvocation
  split
  · exact .inr ⟨by simp, rfl⟩
  · rename_i key hkey
    split
    · split
      · exact .inr ⟨by simp, rfl⟩
      · exact .inr ⟨by simp, rfl⟩
    · rename_i hunowned
      split
      · exact .inr ⟨by simp, rfl⟩
      · rename_i hroom
        exact .inl ⟨key, hkey, hunowned, by omega, rfl⟩

theorem sessions_claimInvocation (options : SessionStoreOptions) (store : SessionStore) (session : ℕ)
    (invocationId : String) : (store.claimInvocation options session invocationId).2.sessions = store.sessions := by
  rcases claimInvocation_cases options store session invocationId with ⟨key, -, -, -, h⟩ | ⟨-, h⟩
  · rw [h]
    rfl
  · rw [h]

theorem claimInvocation_own {options : SessionStoreOptions} {store : SessionStore} {session : ℕ}
    {key invocationId : String} (hkey : store.keys.get? session = some key)
    (howner : store.owners.get? invocationId = some (.session key)) :
    store.claimInvocation options session invocationId = (.alreadyOwn, store) := by
  unfold claimInvocation
  simp [hkey, howner]

theorem claimInvocation_foreign {options : SessionStoreOptions} {store : SessionStore} {session : ℕ}
    {invocationId : String} {owner : Owner} (howner : store.owners.get? invocationId = some owner)
    (hne : ∀ key, store.keys.get? session = some key → owner ≠ .session key) :
    store.claimInvocation options session invocationId = (.foreign, store) := by
  unfold claimInvocation
  cases hkey : store.keys.get? session with
  | none => rfl
  | some key => simp [howner, hne key hkey]

section MarkDecided

variable (store : SessionStore) (session : ℕ) (invocationId : String)

@[simp] theorem created_markDecided : (store.markDecided session invocationId).created = store.created := by
  unfold markDecided
  split <;> rfl

@[simp] theorem sessions_markDecided : (store.markDecided session invocationId).sessions = store.sessions := by
  unfold markDecided
  split <;> rfl

@[simp] theorem keys_markDecided : (store.markDecided session invocationId).keys = store.keys := by
  unfold markDecided
  split <;> rfl

@[simp] theorem owners_markDecided : (store.markDecided session invocationId).owners = store.owners := by
  unfold markDecided
  split <;> rfl

@[simp] theorem invocations_markDecided (other : ℕ) :
    ((store.markDecided session invocationId).heap other).invocations = (store.heap other).invocations := by
  unfold markDecided
  split
  · by_cases heq : other = session
    · subst heq
      simp
    · simp [heq]
  · rfl

@[simp] theorem expiresAt_markDecided (other : ℕ) :
    ((store.markDecided session invocationId).heap other).expiresAt = (store.heap other).expiresAt := by
  unfold markDecided
  split
  · by_cases heq : other = session
    · subst heq
      simp
    · simp [heq]
  · rfl

variable {store session invocationId}

/-- A decision is recorded when the ID is the session's own. -/
theorem mem_decided_markDecided {other : ℕ} {claimed : String} :
    claimed ∈ ((store.markDecided session invocationId).heap other).decided.rows ↔
      claimed ∈ (store.heap other).decided.rows ∨ (other = session ∧ claimed = invocationId ∧
        store.owners.get? invocationId = (store.keys.get? session).map .session) := by
  unfold markDecided
  split
  · rename_i hown
    by_cases heq : other = session
    · subst heq
      simp [hown]
    · simp [heq]
  · rename_i hforeign
    simp [hforeign]

end MarkDecided

/-! ## Sessions in the store and sessions that ended -/

/-- The session object is in the store. -/
def Live (store : SessionStore) (session : ℕ) : Prop := ∃ key, store.sessions.get? key = some session

/-- The token's key names no session yet. -/
def Fresh (platform : Platform) (token : String) (store : SessionStore) : Prop :=
  ∀ session, store.keys.get? session ≠ some (platform.sha256Hex token)

/-- Sessions may have left the store; nothing else a request can see through a handle has changed. -/
structure Evicted (store after : SessionStore) : Prop where
  created : after.created = store.created
  heap : after.heap = store.heap
  keys : after.keys = store.keys
  live : ∀ session, after.Live session → store.Live session

theorem live_of_evict {store : SessionStore} {key : String} {session : ℕ} (h : (store.evict key).Live session) :
    store.Live session := by
  obtain ⟨other, hother⟩ := h
  rw [sessions_evict, OrderedMap.get?_delete_eq_some] at hother
  exact ⟨other, hother.2⟩

theorem Evicted.refl (store : SessionStore) : Evicted store store := ⟨rfl, rfl, rfl, fun _ h ↦ h⟩

theorem Evicted.evict {store after : SessionStore} (h : Evicted store after) (key : String) :
    Evicted store (after.evict key) where
  created := by rw [created_evict, h.created]
  heap := by rw [heap_evict, h.heap]
  keys := by rw [keys_evict, h.keys]
  live session hlive := h.live session (live_of_evict hlive)

theorem evicted_prune (store : SessionStore) (now : ℕ) : Evicted store (store.prune now) :=
  prune_induction (P := Evicted store) (fun _ key h ↦ h.evict key) (.refl store) now

theorem evicted_evictTo {store after : SessionStore} (h : Evicted store after) (maxSessions rounds : ℕ) :
    Evicted store (evictTo maxSessions rounds after) :=
  evictTo_induction (P := Evicted store) (fun _ key h ↦ h.evict key) maxSessions rounds h

theorem Evicted.fresh {platform : Platform} {token : String} {store after : SessionStore}
    (h : Evicted store after) (hfresh : store.Fresh platform token) : after.Fresh platform token := by
  unfold Fresh
  rw [h.keys]
  exact hfresh

theorem live_of_insert {platform : Platform} {options : SessionStoreOptions} {token : String} {now session : ℕ}
    {store : SessionStore}
    (hlive : (store.insert platform options token now).Live session) :
    session = store.created ∨ store.Live session := by
  obtain ⟨key, hkey⟩ := hlive
  change (store.sessions.set _ _).get? key = some session at hkey
  rw [OrderedMap.get?_set] at hkey
  split at hkey
  · exact .inl (Option.some.inj hkey).symm
  · exact .inr ⟨key, hkey⟩

/-- The maps name the same sessions under the same keys, and an owner in the map of owners is a
session in the store that has claimed the ID. -/
structure Consistent (store : SessionStore) : Prop where
  known : ∀ session, session < store.created ↔ ∃ key, store.keys.get? session = some key
  injective : ∀ session other key, store.keys.get? session = some key → store.keys.get? other = some key →
    session = other
  listed : ∀ session key, store.sessions.get? key = some session → store.keys.get? session = some key
  owned : ∀ invocationId key, store.owners.get? invocationId = some (.session key) →
    ∃ session, store.sessions.get? key = some session ∧ invocationId ∈ (store.heap session).invocations.rows

namespace Consistent

variable {store : SessionStore}

theorem empty : Consistent SessionStore.empty where
  known session := by simp [SessionStore.empty]
  injective := by simp [SessionStore.empty]
  listed := by simp [SessionStore.empty]
  owned := by simp [SessionStore.empty]

theorem live_iff (h : Consistent store) {session : ℕ} {key : String} (hkey : store.keys.get? session = some key) :
    store.Live session ↔ store.sessions.get? key = some session := by
  constructor
  · rintro ⟨other, hother⟩
    have heq := (h.listed session other hother).symm.trans hkey
    exact Option.some.inj heq ▸ hother
  · exact fun hlive ↦ ⟨key, hlive⟩

theorem created_of_live (h : Consistent store) {session : ℕ} (hlive : store.Live session) :
    session < store.created := by
  obtain ⟨key, hkey⟩ := hlive
  exact (h.known session).2 ⟨key, h.listed session key hkey⟩

theorem evict (h : Consistent store) (key : String) : Consistent (store.evict key) where
  known session := by simpa using h.known session
  injective := by simpa using h.injective
  listed session other hother := by
    rw [sessions_evict, OrderedMap.get?_delete_eq_some] at hother
    rw [keys_evict]
    exact h.listed session other hother.2
  owned invocationId other howner := by
    have hother : store.owners.get? invocationId = some (.session other) ∧ other ≠ key := by
      by_cases hkey : store.owners.get? invocationId = some (.session key)
      · -- The session behind the key claimed the ID, so the loop came to it.
        obtain ⟨session, hsession, hclaimed⟩ := h.owned invocationId key hkey
        rw [owners_evict hsession, get?_retire, if_pos ⟨hclaimed, hkey⟩] at howner
        cases howner
      · rw [owner_evict_of_ne hkey] at howner
        refine ⟨howner, ?_⟩
        rintro rfl
        exact hkey howner
    obtain ⟨session, hsession, hclaimed⟩ := h.owned invocationId other hother.1
    refine ⟨session, ?_, by rwa [heap_evict]⟩
    rw [sessions_evict, OrderedMap.get?_delete_eq_some]
    exact ⟨hother.2, hsession⟩

theorem insert {platform : Platform} {options : SessionStoreOptions} {token : String} {now : ℕ}
    (h : Consistent store) (hfresh : store.Fresh platform token) :
    Consistent (store.insert platform options token now) where
  known session := by
    show session < store.created + 1 ↔ ∃ key, (store.keys.set _ _).get? session = some key
    rw [OrderedMap.get?_set]
    split
    · rename_i heq
      exact ⟨fun _ ↦ ⟨_, rfl⟩, fun _ ↦ by omega⟩
    · rename_i hne
      rw [← h.known session]
      omega
  injective session other key hsession hother := by
    change (store.keys.set _ _).get? session = some key at hsession
    change (store.keys.set _ _).get? other = some key at hother
    rw [OrderedMap.get?_set] at hsession hother
    split at hsession
    · split at hother
      · rename_i heq heq'
        exact heq.symm.trans heq'
      · cases hsession
        exact absurd hother (hfresh other)
    · split at hother
      · cases hother
        exact absurd hsession (hfresh session)
      · exact h.injective session other key hsession hother
  listed session key hsession := by
    change (store.sessions.set _ _).get? key = some session at hsession
    show (store.keys.set _ _).get? session = some key
    rw [OrderedMap.get?_set] at hsession ⊢
    split at hsession
    · rename_i heq
      cases hsession
      rw [if_pos rfl, heq]
    · have hkey := h.listed session key hsession
      have hlt := (h.known session).2 ⟨key, hkey⟩
      rw [if_neg (by omega), hkey]
  owned invocationId key howner := by
    obtain ⟨session, hsession, hclaimed⟩ := h.owned invocationId key howner
    have hkey := h.listed session key hsession
    have hlt := (h.known session).2 ⟨key, hkey⟩
    have hne : platform.sha256Hex token ≠ key := by
      rintro rfl
      exact hfresh session hkey
    refine ⟨session, ?_, ?_⟩
    · show (store.sessions.set _ _).get? key = some session
      rw [OrderedMap.get?_set_of_ne _ _ hne, hsession]
    · show invocationId ∈ (Function.update store.heap store.created _ session).invocations.rows
      rwa [Function.update_of_ne (by omega)]

/-- A claim through a session in the store. -/
theorem own {options : SessionStoreOptions} {session : ℕ} {key : String} (h : Consistent store)
    (hsession : store.sessions.get? key = some session) (invocationId : String) :
    Consistent (store.own options session key invocationId) where
  known := h.known
  injective := h.injective
  listed := h.listed
  owned other otherKey howner := by
    have howner := OrderedMap.get?_of_get?_trim howner
    have hkept (holder : ℕ) (hclaimed : other ∈ (store.heap holder).invocations.rows) :
        other ∈ ((store.own options session key invocationId).heap holder).invocations.rows := by
      show other ∈ (Function.update store.heap session _ holder).invocations.rows
      by_cases heq : holder = session
      · subst heq
        rw [Function.update_self]
        exact OrderedSet.mem_add.2 (.inl hclaimed)
      · rwa [Function.update_of_ne heq]
    rw [OrderedMap.get?_set] at howner
    split at howner
    · rename_i heq
      cases howner
      refine ⟨session, hsession, ?_⟩
      show other ∈ (Function.update store.heap session _ session).invocations.rows
      rw [Function.update_self]
      exact OrderedSet.mem_add.2 (.inr heq.symm)
    · obtain ⟨holder, hholder, hclaimed⟩ := h.owned other otherKey howner
      exact ⟨holder, hholder, hkept holder hclaimed⟩

theorem markDecided (h : Consistent store) (session : ℕ) (invocationId : String) :
    Consistent (store.markDecided session invocationId) where
  known := by simpa using h.known
  injective := by simpa using h.injective
  listed := by simpa using h.listed
  owned := by simpa using h.owned

/-- The sets of a session object may change as long as it keeps what it claimed. -/
theorem update (h : Consistent store) (session : ℕ) {object : Session}
    (hinvocations : object.invocations = (store.heap session).invocations) :
    Consistent { store with heap := Function.update store.heap session object } where
  known := h.known
  injective := h.injective
  listed := h.listed
  owned invocationId key howner := by
    obtain ⟨holder, hholder, hclaimed⟩ := h.owned invocationId key howner
    refine ⟨holder, hholder, ?_⟩
    show invocationId ∈ (Function.update store.heap session object holder).invocations.rows
    by_cases heq : holder = session
    · subst heq
      rwa [Function.update_self, hinvocations]
    · rwa [Function.update_of_ne heq]

end Consistent

end SessionStore

end VirtualHaibin.Agent
