import VirtualHaibin.Agent.Sessions
import VirtualHaibin.Foundation.Transition

/-!
# Ownership of invocations by sessions in the store

Sessions leave the store in the order they came, so the sessions that could claim anything since a
session in the store was made are fewer than twice `maxSessions`, and the IDs remembered after its own
are their claims.  When the bound on remembered owners is no smaller than what these sessions may
claim, it never reaches an ID of a session in the store.
-/

namespace VirtualHaibin.Agent

open Foundation

namespace SessionStore

variable {options : SessionStoreOptions} {store : SessionStore} {clock : ℕ}

theorem length_claims_le (low count : ℕ) {heap : ℕ → Session} {limit : ℕ}
    (hlimited : ∀ session, (heap session).invocations.size ≤ limit) :
    ((List.range' low count).flatMap fun session ↦ (heap session).invocations.rows).length ≤
      count * limit := by
  induction count generalizing low with
  | zero => simp
  | succ count ih =>
    rw [List.range'_succ, List.flatMap_cons, List.length_append, Nat.succ_mul, Nat.add_comm]
    exact Nat.add_le_add (ih (low + 1)) (hlimited low)

/-- Distinct IDs claimed by the sessions of a range are no more than these may claim. -/
theorem length_le_of_claimed (low count : ℕ) {ids : List String} (hnodup : ids.Nodup) {heap : ℕ → Session}
    {limit : ℕ} (hlimited : ∀ session, (heap session).invocations.size ≤ limit)
    (hclaimed : ∀ invocationId ∈ ids, ∃ session, low ≤ session ∧ session < low + count ∧
      invocationId ∈ (heap session).invocations.rows) : ids.length ≤ count * limit := by
  have hsubset : ids ⊆ (List.range' low count).flatMap fun session ↦ (heap session).invocations.rows := by
    intro invocationId hmem
    obtain ⟨session, hlow, hhigh, hrow⟩ := hclaimed invocationId hmem
    exact List.mem_flatMap.2 ⟨session, List.mem_range'_1.2 ⟨hlow, hhigh⟩, hrow⟩
  calc
    ids.length ≤ _ := hnodup.length_le_of_subset hsubset
    _ ≤ count * limit := length_claims_le low count hlimited

/-! ## The invariant -/

/-- The store holds the sessions made last, at most `room` of them, oldest first. -/
def Recent (room : ℕ) (store : SessionStore) : Prop :=
  ∃ first count, store.sessions.rows.map Prod.snd = List.range' first count ∧
    first + count = store.created ∧ count ≤ room

/-- The IDs a session in the store claimed are its own, and those remembered after them were claimed by
sessions that were in the store together with it. -/
structure Kept (options : SessionStoreOptions) (store : SessionStore) (clock : ℕ) : Prop where
  consistent : Consistent store
  unused : ∀ session, store.created ≤ session →
    (store.heap session).invocations = .empty ∧ (store.heap session).decided = .empty
  ordered : ∀ session other, session ≤ other → other < store.created →
    (store.heap session).expiresAt ≤ (store.heap other).expiresAt
  timely : ∀ session < store.created, (store.heap session).expiresAt ≤ clock + options.ttlMs
  limited : ∀ session, (store.heap session).invocations.size ≤ options.maxInvocationsPerSession
  owner : ∀ session key, store.sessions.get? key = some session →
    ∀ invocationId ∈ (store.heap session).invocations.rows, store.owners.get? invocationId = some (.session key)
  queue : ∀ session, store.Live session → ∃ before after, store.owners.keys = before ++ after ∧
    (∀ invocationId ∈ (store.heap session).invocations.rows, invocationId ∈ after) ∧
    ∀ invocationId ∈ after, ∃ claimant < store.created, session < claimant + options.maxSessions ∧
      invocationId ∈ (store.heap claimant).invocations.rows

theorem Recent.mem {room : ℕ} (h : store.Recent room) {session : ℕ} (hlive : store.Live session) :
    session < store.created ∧ store.created ≤ session + room := by
  obtain ⟨first, count, hrows, hcreated, hcount⟩ := h
  obtain ⟨key, hkey⟩ := hlive
  have hmem : session ∈ store.sessions.rows.map Prod.snd :=
    List.mem_map_of_mem (OrderedMap.get?_eq_some.1 hkey)
  rw [hrows, List.mem_range'_1] at hmem
  omega

theorem Recent.size_le {room : ℕ} (h : store.Recent room) : store.sessions.size ≤ room := by
  obtain ⟨first, count, hrows, -, hcount⟩ := h
  have hlength := congrArg List.length hrows
  rw [List.length_map, List.length_range'] at hlength
  unfold OrderedMap.size
  omega

theorem kept_empty : Kept options SessionStore.empty clock where
  consistent := .empty
  unused _ _ := ⟨rfl, rfl⟩
  ordered _ _ _ h := absurd h (Nat.not_lt_zero _)
  timely _ h := absurd h (Nat.not_lt_zero _)
  limited _ := Nat.zero_le _
  owner _ _ h := by simp [SessionStore.empty] at h
  queue _ h := by
    obtain ⟨key, hkey⟩ := h
    simp [SessionStore.empty] at hkey

theorem recent_empty {room : ℕ} : Recent room SessionStore.empty := ⟨0, 0, rfl, rfl, Nat.zero_le _⟩

theorem Kept.later {clock' : ℕ} (h : Kept options store clock) (hclock : clock ≤ clock') :
    Kept options store clock' :=
  { h with timely := fun session hsession ↦ (h.timely session hsession).trans (by omega) }

theorem Kept.evict (h : Kept options store clock) (key : String) : Kept options (store.evict key) clock where
  consistent := h.consistent.evict key
  unused := by simpa using h.unused
  ordered := by simpa using h.ordered
  timely := by simpa using h.timely
  limited := by simpa using h.limited
  owner session other hother invocationId hclaimed := by
    rw [sessions_evict, OrderedMap.get?_delete_eq_some] at hother
    rw [heap_evict] at hclaimed
    have howner := h.owner session other hother.2 invocationId hclaimed
    rw [owner_evict_of_ne, howner]
    rw [howner]
    rintro heq
    cases heq
    exact hother.1 rfl
  queue session hlive := by
    rw [ownersKeys_evict, heap_evict, created_evict]
    exact h.queue session (live_of_evict hlive)

theorem filter_range' (first count : ℕ) (kept : ℕ → Bool)
    (hup : ∀ n, first ≤ n → n + 1 < first + count → kept n = true → kept (n + 1) = true) :
    ∃ skipped ≤ count, (List.range' first count).filter kept = List.range' (first + skipped) (count - skipped) := by
  induction count generalizing first with
  | zero => exact ⟨0, le_rfl, rfl⟩
  | succ count ih =>
    rw [List.range'_succ]
    by_cases hfirst : kept first = true
    · -- Everything after a kept number is kept.
      have hall (offset : ℕ) (hoffset : offset < count + 1) : kept (first + offset) = true := by
        induction offset with
        | zero => exact hfirst
        | succ offset ih => exact hup (first + offset) (by omega) (by omega) (ih (by omega))
      refine ⟨0, Nat.zero_le _, ?_⟩
      rw [← List.range'_succ, List.filter_eq_self.2]
      · rfl
      · intro n hn
        rw [List.mem_range'_1] at hn
        obtain ⟨offset, rfl⟩ := Nat.exists_eq_add_of_le hn.1
        exact hall offset (by omega)
    · obtain ⟨skipped, hskipped, hfilter⟩ := ih (first + 1) fun n hlow hhigh ↦ hup n (by omega) (by omega)
      refine ⟨skipped + 1, by omega, ?_⟩
      rw [List.filter_cons_of_neg hfirst, hfilter]
      congr 1
      · omega
      · omega

/-- Pruning keeps the rows of the sessions that have not expired. -/
theorem rows_prune (store : SessionStore) (now : ℕ) :
    (store.prune now).sessions.rows =
      store.sessions.rows.filter fun entry ↦ now < (store.heap entry.2).expiresAt := by
  have hloop : ∀ (entries : List (String × ℕ)) (current : SessionStore), current.heap = store.heap →
      (entries.foldl (fun current entry ↦
        if (current.heap entry.2).expiresAt ≤ now then current.evict entry.1 else current) current).sessions.rows =
      current.sessions.rows.filter fun entry ↦
        ∀ other ∈ entries, other.1 = entry.1 → now < (store.heap other.2).expiresAt := by
    intro entries
    induction entries with
    | nil => intro current _; simp
    | cons other rest ih =>
      intro current hheap
      rw [List.foldl_cons, hheap]
      split
      · rename_i hexpired
        rw [ih _ (by rw [heap_evict, hheap]), sessions_evict]
        show (current.sessions.rows.filter _).filter _ = _
        rw [List.filter_filter]
        refine List.filter_congr fun entry _ ↦ ?_
        by_cases heq : other.1 = entry.1
        · simp [heq, Nat.not_lt.2 hexpired]
        · simp [heq, Ne.symm heq]
      · rename_i hvalid
        rw [ih _ hheap]
        refine List.filter_congr fun entry _ ↦ ?_
        simp [Nat.not_le.1 hvalid]
  rw [show (store.prune now).sessions.rows = _ from hloop store.sessions.rows store rfl]
  refine List.filter_congr fun entry hentry ↦ ?_
  -- Keys are distinct, so the entry is the only one under its key.
  have honly : (∀ other ∈ store.sessions.rows, other.1 = entry.1 → now < (store.heap other.2).expiresAt) ↔
      now < (store.heap entry.2).expiresAt := by
    refine ⟨fun hall ↦ hall entry hentry rfl, fun hvalid other hother heq ↦ ?_⟩
    rwa [List.inj_on_of_nodup_map store.sessions.nodup hother hentry heq]
  exact decide_eq_decide.2 honly

theorem Kept.prune (h : Kept options store clock) (now : ℕ) : Kept options (store.prune now) clock :=
  prune_induction (P := fun after ↦ Kept options after clock) (fun _ key h ↦ h.evict key) h now

theorem Kept.evictTo (h : Kept options store clock) (maxSessions rounds : ℕ) :
    Kept options (evictTo maxSessions rounds store) clock :=
  evictTo_induction (P := fun after ↦ Kept options after clock) (fun _ key h ↦ h.evict key) maxSessions rounds h

/-- Sessions expire in the order they were made. -/
theorem Recent.prune {room : ℕ} (hrecent : store.Recent room) (h : Kept options store clock) (now : ℕ) :
    (store.prune now).Recent room := by
  obtain ⟨first, count, hrows, hcreated, hcount⟩ := hrecent
  obtain ⟨skipped, hskipped, hfilter⟩ := filter_range' first count
    (fun session ↦ decide (now < (store.heap session).expiresAt)) (by
      intro session hlow hhigh hvalid
      have hordered := h.ordered session (session + 1) (Nat.le_succ _) (by omega)
      rw [decide_eq_true_eq] at hvalid ⊢
      omega)
  refine ⟨first + skipped, count - skipped, ?_, by rw [(evicted_prune store now).created]; omega, by omega⟩
  rw [rows_prune, ← hfilter, ← hrows, List.filter_map]
  rfl

/-- Evicting the oldest sessions leaves room for one more. -/
theorem rows_evictTo {maxSessions rounds : ℕ} (h : store.sessions.size ≤ rounds) :
    (evictTo maxSessions rounds store).sessions.rows =
      store.sessions.rows.drop (store.sessions.size + 1 - maxSessions) := by
  unfold OrderedMap.size at h ⊢
  induction rounds generalizing store with
  | zero =>
    have hrows : store.sessions.rows = [] := List.length_eq_zero_iff.1 (by omega)
    simp [evictTo, hrows]
  | succ rounds ih =>
    unfold evictTo OrderedMap.size
    split
    · rename_i hfull
      cases holdest : store.sessions.oldest? with
      | none => simp [OrderedMap.oldest?, List.head?_eq_none_iff] at holdest; simp [holdest]
      | some oldest =>
        have hevict : (store.evict oldest).sessions.rows = store.sessions.rows.tail := by
          rw [sessions_evict, OrderedMap.rows_delete_oldest holdest]
        have hne : store.sessions.rows ≠ [] := by
          intro hnil
          simp [OrderedMap.oldest?, hnil] at holdest
        have hpos := List.length_pos_iff.2 hne
        show (evictTo maxSessions rounds (store.evict oldest)).sessions.rows = _
        rw [ih (by rw [hevict, List.length_tail]; omega), hevict, List.length_tail, ← List.drop_one, List.drop_drop]
        congr 1
        omega
    · rename_i hroom
      rw [Nat.sub_eq_zero_of_le (by omega), List.drop_zero]

theorem Recent.evictTo {room maxSessions : ℕ} (hrecent : store.Recent room) (hmax : 1 ≤ maxSessions) :
    (evictTo maxSessions store.sessions.size store).Recent (maxSessions - 1) := by
  obtain ⟨first, count, hrows, hcreated, hcount⟩ := hrecent
  have hlength := congrArg List.length hrows
  rw [List.length_map, List.length_range'] at hlength
  refine ⟨first + (count + 1 - maxSessions), count - (count + 1 - maxSessions), ?_, ?_, by omega⟩
  · rw [rows_evictTo le_rfl, List.map_drop, hrows]
    unfold OrderedMap.size
    rw [hlength, List.drop_range']
    simp
  · rw [(evicted_evictTo (.refl store) _ _).created]
    omega

variable {platform : Platform} {token : String}

theorem heap_insert_of_lt {now session : ℕ} (h : session < store.created) :
    (store.insert platform options token now).heap session = store.heap session :=
  Function.update_of_ne (Nat.ne_of_lt h) _ _

theorem heap_insert_self {now : ℕ} :
    (store.insert platform options token now).heap store.created = .new now (now + options.ttlMs) :=
  Function.update_self _ _ _

theorem Kept.insert {now : ℕ} (h : Kept options store clock) (hfresh : store.Fresh platform token)
    (hnow : clock ≤ now) : Kept options (store.insert platform options token now) now where
  consistent := h.consistent.insert hfresh
  unused session hsession := by
    change store.created + 1 ≤ session at hsession
    have hheap : (store.insert platform options token now).heap session = store.heap session :=
      Function.update_of_ne (by omega) _ _
    rw [hheap]
    exact h.unused session (by omega)
  ordered session other hle hother := by
    change other < store.created + 1 at hother
    rcases Nat.lt_or_eq_of_le (Nat.le_of_lt_succ hother) with hother | rfl
    · rw [heap_insert_of_lt hother, heap_insert_of_lt (by omega)]
      exact h.ordered session other hle hother
    · rcases Nat.lt_or_eq_of_le hle with hsession | rfl
      · rw [heap_insert_of_lt hsession, heap_insert_self]
        have htimely := h.timely session hsession
        show (store.heap session).expiresAt ≤ now + options.ttlMs
        omega
      · exact le_rfl
  timely session hsession := by
    change session < store.created + 1 at hsession
    rcases Nat.lt_or_eq_of_le (Nat.le_of_lt_succ hsession) with hsession | rfl
    · rw [heap_insert_of_lt hsession]
      have htimely := h.timely session hsession
      omega
    · rw [heap_insert_self]
      exact le_rfl
  limited session := by
    by_cases heq : session = store.created
    · rw [heq, heap_insert_self]
      exact Nat.zero_le _
    · show (Function.update store.heap store.created _ session).invocations.size ≤ _
      rw [Function.update_of_ne heq]
      exact h.limited session
  owner session key hkey invocationId hclaimed := by
    change (store.sessions.set _ _).get? key = some session at hkey
    rw [OrderedMap.get?_set] at hkey
    split at hkey
    · cases hkey
      rw [heap_insert_self] at hclaimed
      cases hclaimed
    · have hlt := h.consistent.created_of_live ⟨key, hkey⟩
      rw [heap_insert_of_lt hlt] at hclaimed
      exact h.owner session key hkey invocationId hclaimed
  queue session hlive := by
    show ∃ before after, store.owners.keys = before ++ after ∧ _
    rcases live_of_insert hlive with rfl | hlive
    · refine ⟨store.owners.keys, [], (List.append_nil _).symm, ?_, ?_⟩
      · rw [heap_insert_self]
        intro invocationId hclaimed
        cases hclaimed
      · intro invocationId hmem
        cases hmem
    · have hlt := h.consistent.created_of_live hlive
      obtain ⟨before, after, hkeys, hown, hafter⟩ := h.queue session hlive
      refine ⟨before, after, hkeys, by rwa [heap_insert_of_lt hlt], fun invocationId hmem ↦ ?_⟩
      obtain ⟨claimant, hclaimant, hnear, hclaimed⟩ := hafter invocationId hmem
      exact ⟨claimant, Nat.lt_succ_of_lt hclaimant, hnear, by rwa [heap_insert_of_lt hclaimant]⟩

theorem Recent.insert {room now : ℕ} (h : store.Recent room) (hconsistent : Consistent store)
    (hfresh : store.Fresh platform token) : (store.insert platform options token now).Recent (room + 1) := by
  obtain ⟨first, count, hrows, hcreated, hcount⟩ := h
  have habsent : platform.sha256Hex token ∉ store.sessions.keys := by
    intro hmem
    obtain ⟨session, hsession⟩ := OrderedMap.mem_keys.1 hmem
    exact hfresh session (hconsistent.listed session _ hsession)
  refine ⟨first, count + 1, ?_, ?_, by omega⟩
  · show (store.sessions.set _ _).rows.map Prod.snd = _
    rw [OrderedMap.rows_set_of_not_mem habsent, List.map_append, hrows, ← hcreated, ← List.range'_append]
    simp
  · show first + (count + 1) = store.created + 1
    omega

theorem invocations_own (session : ℕ) (key invocationId : String) (other : ℕ) :
    ((store.own options session key invocationId).heap other).invocations =
      if other = session then (store.heap session).invocations.add invocationId
      else (store.heap other).invocations := by
  show (Function.update store.heap session _ other).invocations = _
  split
  · rename_i heq
    rw [heq, Function.update_self]
  · rename_i hne
    rw [Function.update_of_ne hne]

theorem mem_invocations_own {session other : ℕ} {key invocationId claimed : String} :
    claimed ∈ ((store.own options session key invocationId).heap other).invocations.rows ↔
      claimed ∈ (store.heap other).invocations.rows ∨ (other = session ∧ claimed = invocationId) := by
  rw [invocations_own]
  split
  · rename_i heq
    subst heq
    simp
  · rename_i hne
    simp [hne]

theorem timing_own (session : ℕ) (key invocationId : String) (other : ℕ) :
    ((store.own options session key invocationId).heap other).expiresAt = (store.heap other).expiresAt ∧
      ((store.own options session key invocationId).heap other).decided = (store.heap other).decided := by
  show (Function.update store.heap session _ other).expiresAt = _ ∧ _
  unfold own
  by_cases heq : other = session
  · subst heq
    simp
  · simp [heq]

/-- What the other sessions may have claimed since a session was made leaves its IDs within the bound. -/
theorem Kept.own (hbound : 2 * options.maxSessions * options.maxInvocationsPerSession ≤ options.maxOwnedInvocations)
    (h : Kept options store clock) (hrecent : store.Recent options.maxSessions) {session : ℕ} {key : String}
    (hsession : store.sessions.get? key = some session) {invocationId : String}
    (hunowned : store.owners.get? invocationId = none)
    (hlimit : (store.heap session).invocations.size < options.maxInvocationsPerSession) :
    Kept options (store.own options session key invocationId) clock := by
  have hlimited : ∀ other, ((store.own options session key invocationId).heap other).invocations.size ≤
      options.maxInvocationsPerSession := by
    intro other
    rw [invocations_own]
    split
    · exact (OrderedSet.size_add_le _ _).trans hlimit
    · exact h.limited other
  have hset : (store.owners.set invocationId (.session key)).keys = store.owners.keys ++ [invocationId] :=
    OrderedMap.keys_set_of_not_mem (OrderedMap.get?_eq_none.1 hunowned) _
  have hlive : store.Live session := ⟨key, hsession⟩
  have hqueue : ∀ other, store.Live other → ∃ before after,
      (store.own options session key invocationId).owners.keys = before ++ after ∧
      (∀ claimed ∈ ((store.own options session key invocationId).heap other).invocations.rows, claimed ∈ after) ∧
      ∀ claimed ∈ after, ∃ claimant < store.created, other < claimant + options.maxSessions ∧
        claimed ∈ ((store.own options session key invocationId).heap claimant).invocations.rows := by
    intro other hother
    obtain ⟨before, after, hkeys, hown, hafter⟩ := h.queue other hother
    have hnear := hrecent.mem hother
    have hnear' := hrecent.mem hlive
    have hafter' : ∀ claimed ∈ after ++ [invocationId], ∃ claimant < store.created,
        other < claimant + options.maxSessions ∧
          claimed ∈ ((store.own options session key invocationId).heap claimant).invocations.rows := by
      intro claimed hmem
      rcases List.mem_append.1 hmem with hmem | hmem
      · obtain ⟨claimant, hclaimant, hroom, hclaimed⟩ := hafter claimed hmem
        exact ⟨claimant, hclaimant, hroom, mem_invocations_own.2 (.inl hclaimed)⟩
      · exact ⟨session, hnear'.1, by omega, mem_invocations_own.2 (.inr ⟨rfl, List.mem_singleton.1 hmem⟩)⟩
    rw [hkeys, List.append_assoc] at hset
    have hnodup := (store.owners.set invocationId (.session key)).nodup_keys
    rw [hset] at hnodup
    have hfits : (after ++ [invocationId]).length ≤ options.maxOwnedInvocations := by
      refine (length_le_of_claimed (other + 1 - options.maxSessions) (2 * options.maxSessions)
        (List.nodup_append.1 hnodup).2.1 hlimited fun claimed hmem ↦ ?_).trans hbound
      obtain ⟨claimant, hclaimant, hroom, hclaimed⟩ := hafter' claimed hmem
      exact ⟨claimant, by omega, by omega, hclaimed⟩
    obtain ⟨kept, hkept⟩ := OrderedMap.keys_trim_of_suffix hset hfits
    refine ⟨kept, after ++ [invocationId], hkept, fun claimed hclaimed ↦ ?_, hafter'⟩
    rcases mem_invocations_own.1 hclaimed with hclaimed | ⟨-, rfl⟩
    · exact List.mem_append_left _ (hown claimed hclaimed)
    · exact List.mem_append_right _ (List.mem_singleton.2 rfl)
  exact {
    consistent := h.consistent.own hsession invocationId
    unused := fun other hother ↦ by
      have hlt := (hrecent.mem hlive).1
      rw [invocations_own, if_neg (by change store.created ≤ other at hother; omega), (timing_own _ _ _ _).2]
      exact h.unused other hother
    ordered := fun other later hle hlater ↦ by
      rw [(timing_own _ _ _ _).1, (timing_own _ _ _ _).1]
      exact h.ordered other later hle hlater
    timely := fun other hother ↦ by
      rw [(timing_own _ _ _ _).1]
      exact h.timely other hother
    limited := hlimited
    owner := fun other otherKey hother claimed hclaimed ↦ by
      obtain ⟨before, after, hkeys, hown, -⟩ := hqueue other ⟨otherKey, hother⟩
      have hmem : claimed ∈ (store.own options session key invocationId).owners.keys :=
        hkeys ▸ List.mem_append_right _ (hown claimed hclaimed)
      rw [show (store.own options session key invocationId).owners.get? claimed = _ from
        OrderedMap.get?_trim_of_mem hmem, OrderedMap.get?_set]
      rcases mem_invocations_own.1 hclaimed with hclaimed | ⟨rfl, rfl⟩
      · have howner := h.owner other otherKey hother claimed hclaimed
        rw [if_neg (by rintro rfl; rw [howner] at hunowned; cases hunowned), howner]
      · rw [if_pos rfl]
        have hkey := (h.consistent.listed other key hsession).symm.trans (h.consistent.listed other otherKey hother)
        rw [Option.some.inj hkey]
    queue := hqueue }

theorem Recent.own {room : ℕ} (h : store.Recent room) (session : ℕ) (key invocationId : String) :
    (store.own options session key invocationId).Recent room := h

theorem Recent.markDecided {room : ℕ} (h : store.Recent room) (session : ℕ) (invocationId : String) :
    (store.markDecided session invocationId).Recent room := by
  unfold Recent
  rw [sessions_markDecided, created_markDecided]
  exact h

theorem Kept.markDecided (h : Kept options store clock) {session : ℕ} (hsession : session < store.created)
    (invocationId : String) : Kept options (store.markDecided session invocationId) clock where
  consistent := h.consistent.markDecided session invocationId
  unused other hother := by
    rw [created_markDecided] at hother
    obtain ⟨hinvocations, hdecided⟩ := h.unused other hother
    refine ⟨by rwa [invocations_markDecided], ?_⟩
    unfold SessionStore.markDecided
    split
    · show (Function.update store.heap session _ other).decided = _
      rwa [Function.update_of_ne (by omega)]
    · exact hdecided
  ordered := by simpa using h.ordered
  timely := by simpa using h.timely
  limited := by simpa using h.limited
  owner := by simpa using h.owner
  queue := by simpa [Live] using h.queue

end SessionStore

/-! ## Runs of calls -/

/-- A call of the store with what it reads: the clock, and for a new session its token. -/
inductive Call
  | create (token : String) (pruned now : ℕ)
  | authenticate (authorization : Option String) (now : ℕ)
  | size (now : ℕ)
  | claimInvocation (session : ℕ) (invocationId : String)
  | markDecided (session : ℕ) (invocationId : String)
  | canReadEvidence (session : ℕ) (invocationId : String)

/-- The store and the latest reading of the clock. -/
structure Timed where
  store : SessionStore
  clock : ℕ

def Timed.empty : Timed := ⟨.empty, 0⟩

def Timed.step (platform : Platform) (options : SessionStoreOptions) (timed : Timed) : Call → Option Timed
  | .create token pruned now => some ⟨(timed.store.create platform options token pruned now).2, now⟩
  | .authenticate authorization now => some ⟨(timed.store.authenticate platform authorization now).2, now⟩
  | .size now => some ⟨(timed.store.size now).2, now⟩
  | .claimInvocation session invocationId =>
    some { timed with store := (timed.store.claimInvocation options session invocationId).2 }
  | .markDecided session invocationId => some { timed with store := timed.store.markDecided session invocationId }
  | .canReadEvidence _ _ => some timed

/-- The clock does not go back, random tokens name new sessions, claims come through sessions in the
store and the other calls through session objects that `create` made. -/
def Timed.Allowed (platform : Platform) (timed : Timed) : Call → Prop
  | .create token pruned now => timed.store.Fresh platform token ∧ timed.clock ≤ pruned ∧ pruned ≤ now
  | .authenticate _ now | .size now => timed.clock ≤ now
  | .claimInvocation session _ => timed.store.Live session
  | .markDecided session _ | .canReadEvidence session _ => session < timed.store.created

section Runs

variable (platform : Platform) (options : SessionStoreOptions)

/-- The calls lead from the empty store to this one. -/
abbrev Calls (labels : List Call) (timed : Timed) : Prop :=
  Run (Timed.step platform options) (Timed.Allowed platform) .empty labels timed

/-- A claim of the ID through the session was answered with success. -/
def HasClaimed (labels : List Call) (session : ℕ) (invocationId : String) : Prop :=
  Run.Took (Timed.step platform options) (Timed.Allowed platform) .empty labels fun _ timed call ↦
    call = .claimInvocation session invocationId ∧
      (timed.store.claimInvocation options session invocationId).1 = .claimed

/-- A decision about the ID was recorded through the session after it had claimed the ID. -/
def HasDecided (labels : List Call) (session : ℕ) (invocationId : String) : Prop :=
  Run.Took (Timed.step platform options) (Timed.Allowed platform) .empty labels fun before _ call ↦
    call = .markDecided session invocationId ∧ HasClaimed platform options before session invocationId

/-- What the sessions in the store hold after a run of calls. -/
structure OwnershipKept (labels : List Call) (store : SessionStore) : Prop where
  owned : ∀ invocationId key, store.owners.get? invocationId = some (.session key) ↔
    ∃ session, store.sessions.get? key = some session ∧ HasClaimed platform options labels session invocationId
  again : ∀ session invocationId, store.Live session → HasClaimed platform options labels session invocationId →
    store.claimInvocation options session invocationId = (.alreadyOwn, store)
  foreign : ∀ session invocationId, store.Live session → HasClaimed platform options labels session invocationId →
    ∀ other ≠ session, store.claimInvocation options other invocationId = (.foreign, store)
  evidence : ∀ session invocationId, store.Live session → HasClaimed platform options labels session invocationId →
    ∀ reader, store.canReadEvidence reader invocationId = true ↔
      reader = session ∧ HasDecided platform options labels session invocationId
  exclusive : ∀ session other invocationId, store.Live session → store.Live other →
    HasClaimed platform options labels session invocationId →
    HasClaimed platform options labels other invocationId → session = other
  bounded : store.sessions.size ≤ options.maxSessions
  /-- What a claim makes the store forget is no ID of a session in the store. -/
  remembered : ∀ claimant invocationId forgotten, store.Live claimant → forgotten ∈ store.owners.keys →
    forgotten ∉ (store.claimInvocation options claimant invocationId).2.owners.keys →
      ∀ session, store.Live session → ¬ HasClaimed platform options labels session forgotten

end Runs

section Invariant

variable {platform : Platform} {options : SessionStoreOptions}

/-- The store with what its sets record about the run. -/
structure Holds (platform : Platform) (options : SessionStoreOptions) (labels : List Call) (timed : Timed) : Prop where
  kept : timed.store.Kept options timed.clock
  recent : timed.store.Recent options.maxSessions
  claimed : ∀ session invocationId, invocationId ∈ (timed.store.heap session).invocations.rows ↔
    HasClaimed platform options labels session invocationId
  decided : ∀ session, timed.store.Live session → ∀ invocationId,
    invocationId ∈ (timed.store.heap session).decided.rows ↔ HasDecided platform options labels session invocationId

variable {labels : List Call} {timed : Timed}

theorem hasClaimed_snoc (hrun : Calls platform options labels timed) {call : Call} {session : ℕ}
    {invocationId : String} : HasClaimed platform options (labels ++ [call]) session invocationId ↔
      HasClaimed platform options labels session invocationId ∨
        (call = .claimInvocation session invocationId ∧
          (timed.store.claimInvocation options session invocationId).1 = .claimed) :=
  Run.took_snoc hrun

theorem hasDecided_snoc (hrun : Calls platform options labels timed) {call : Call} {session : ℕ}
    {invocationId : String} : HasDecided platform options (labels ++ [call]) session invocationId ↔
      HasDecided platform options labels session invocationId ∨
        (call = .markDecided session invocationId ∧ HasClaimed platform options labels session invocationId) :=
  Run.took_snoc hrun

theorem HasDecided.hasClaimed {session : ℕ} {invocationId : String}
    (h : HasDecided platform options labels session invocationId) :
    HasClaimed platform options labels session invocationId := by
  obtain ⟨before, call, after, state, rfl, -, -, hclaimed⟩ := h
  exact Run.Took.later hclaimed _

/-- Sessions that leave the store take nothing with them. -/
theorem Holds.evicted (hrun : Calls platform options labels timed) (h : Holds platform options labels timed)
    {call : Call} {after : SessionStore} {clock : ℕ} (hclock : timed.clock ≤ clock)
    (hclaim : ∀ session invocationId, call ≠ .claimInvocation session invocationId)
    (hmark : ∀ session invocationId, call ≠ .markDecided session invocationId)
    (hevicted : timed.store.Evicted after) (hkept : after.Kept options timed.clock)
    (hrecent : after.Recent options.maxSessions) :
    Holds platform options (labels ++ [call]) ⟨after, clock⟩ where
  kept := hkept.later hclock
  recent := hrecent
  claimed session invocationId := by
    rw [hasClaimed_snoc hrun, hevicted.heap, h.claimed]
    simp [hclaim]
  decided session hlive invocationId := by
    rw [hasDecided_snoc hrun, hevicted.heap, h.decided session (hevicted.live session hlive)]
    simp [hmark]

theorem Holds.create (hmax : 1 ≤ options.maxSessions) (hrun : Calls platform options labels timed)
    (h : Holds platform options labels timed) {token : String} {pruned now : ℕ}
    (hfresh : timed.store.Fresh platform token) (hpruned : timed.clock ≤ pruned) (hnow : pruned ≤ now) :
    Holds platform options (labels ++ [.create token pruned now])
      ⟨(timed.store.create platform options token pruned now).2, now⟩ := by
  obtain ⟨before, hbefore⟩ : ∃ before, before = SessionStore.evictTo options.maxSessions
    (timed.store.prune pruned).sessions.size (timed.store.prune pruned) := ⟨_, rfl⟩
  have hevicted : timed.store.Evicted before :=
    hbefore ▸ SessionStore.evicted_evictTo (SessionStore.evicted_prune timed.store pruned) _ _
  have hkept : before.Kept options timed.clock := hbefore ▸ (h.kept.prune pruned).evictTo _ _
  have hrecent : before.Recent (options.maxSessions - 1) := hbefore ▸ (h.recent.prune h.kept pruned).evictTo hmax
  have hfresh' := hevicted.fresh hfresh
  have hinsert : (timed.store.create platform options token pruned now).2 =
      before.insert platform options token now := by
    rw [hbefore]
    rfl
  rw [hinsert]
  -- The new object claimed nothing, and neither had its handle.
  have hnew (session : ℕ) (invocationId : String) :
      invocationId ∈ ((before.insert platform options token now).heap session).invocations.rows ↔
        invocationId ∈ (timed.store.heap session).invocations.rows := by
    rw [← hevicted.heap]
    by_cases heq : session = before.created
    · subst heq
      rw [SessionStore.heap_insert_self, (hkept.unused before.created le_rfl).1]
      rfl
    · rw [show (before.insert platform options token now).heap session = before.heap session from
        Function.update_of_ne heq _ _]
  have hroom : (before.insert platform options token now).Recent (options.maxSessions - 1 + 1) :=
    hrecent.insert hkept.consistent hfresh'
  rw [Nat.sub_add_cancel hmax] at hroom
  refine ⟨hkept.insert hfresh' (hpruned.trans hnow), hroom, fun session invocationId ↦ ?_,
    fun session hlive invocationId ↦ ?_⟩
  · rw [hasClaimed_snoc hrun, hnew, h.claimed]
    simp
  · rw [hasDecided_snoc hrun]
    simp only [reduceCtorEq, false_and, or_false]
    rcases SessionStore.live_of_insert hlive with rfl | hlive
    · rw [SessionStore.heap_insert_self]
      refine ⟨fun hmem ↦ absurd hmem List.not_mem_nil, fun hdecided ↦ ?_⟩
      have hclaimed := (h.claimed _ _).2 hdecided.hasClaimed
      rw [← hevicted.heap, (hkept.unused before.created le_rfl).1] at hclaimed
      cases hclaimed
    · have hlt := hkept.consistent.created_of_live hlive
      rw [SessionStore.heap_insert_of_lt hlt, hevicted.heap, h.decided session (hevicted.live session hlive)]

theorem Holds.claim (hbound : 2 * options.maxSessions * options.maxInvocationsPerSession ≤ options.maxOwnedInvocations)
    (hrun : Calls platform options labels timed) (h : Holds platform options labels timed) {session : ℕ}
    {invocationId : String} (hlive : timed.store.Live session) :
    Holds platform options (labels ++ [.claimInvocation session invocationId])
      { timed with store := (timed.store.claimInvocation options session invocationId).2 } := by
  have hother (other : ℕ) (claimed : String) : HasClaimed platform options
      (labels ++ [.claimInvocation session invocationId]) other claimed ↔
      claimed ∈ (timed.store.heap other).invocations.rows ∨ (other = session ∧ claimed = invocationId ∧
        (timed.store.claimInvocation options session invocationId).1 = .claimed) := by
    rw [hasClaimed_snoc hrun, ← h.claimed]
    constructor
    · rintro (hclaimed | ⟨heq, hclaimed⟩)
      · exact .inl hclaimed
      · cases heq
        exact .inr ⟨rfl, rfl, hclaimed⟩
    · rintro (hclaimed | ⟨rfl, rfl, hclaimed⟩)
      · exact .inl hclaimed
      · exact .inr ⟨rfl, hclaimed⟩
  rcases timed.store.claimInvocation_cases options session invocationId with
    ⟨key, hkey, hunowned, hlimit, hclaim⟩ | ⟨hne, hsame⟩
  · have hsession := (h.kept.consistent.live_iff hkey).1 hlive
    rw [hclaim]
    refine ⟨h.kept.own hbound h.recent hsession hunowned hlimit, h.recent.own session key invocationId,
      fun other claimed ↦ ?_, fun other hother claimed ↦ ?_⟩
    · rw [hother, hclaim, SessionStore.mem_invocations_own]
      simp
    · rw [hasDecided_snoc hrun, (SessionStore.timing_own _ _ _ _).2, h.decided other hother]
      simp
  · rw [hsame]
    refine ⟨h.kept, h.recent, fun other claimed ↦ ?_, fun other hother claimed ↦ ?_⟩
    · rw [hother]
      simp [hne]
    · rw [hasDecided_snoc hrun, h.decided other hother]
      simp

/-- The owner of an ID is a session in the store that has claimed it. -/
theorem Holds.owned (h : Holds platform options labels timed) {session : ℕ} {key invocationId : String}
    (hsession : timed.store.sessions.get? key = some session) :
    timed.store.owners.get? invocationId = some (.session key) ↔
      HasClaimed platform options labels session invocationId := by
  rw [← h.claimed]
  refine ⟨fun howner ↦ ?_, h.kept.owner session key hsession invocationId⟩
  obtain ⟨other, hother, hclaimed⟩ := h.kept.consistent.owned invocationId key howner
  rw [hsession] at hother
  cases hother
  exact hclaimed

theorem Holds.mark (hrun : Calls platform options labels timed) (h : Holds platform options labels timed)
    {session : ℕ} {invocationId : String} (hsession : session < timed.store.created) :
    Holds platform options (labels ++ [.markDecided session invocationId])
      { timed with store := timed.store.markDecided session invocationId } where
  kept := h.kept.markDecided hsession invocationId
  recent := h.recent.markDecided session invocationId
  claimed other claimed := by
    rw [hasClaimed_snoc hrun, SessionStore.invocations_markDecided, h.claimed]
    simp
  decided other hlive claimed := by
    have hother : timed.store.Live other := by simpa [SessionStore.Live] using hlive
    rw [hasDecided_snoc hrun, SessionStore.mem_decided_markDecided, h.decided other hother]
    refine or_congr_right ⟨?_, ?_⟩
    · rintro ⟨rfl, rfl, hown⟩
      obtain ⟨key, hkey⟩ := hother
      rw [h.kept.consistent.listed other key hkey] at hown
      exact ⟨rfl, (h.owned hkey).1 hown⟩
    · rintro ⟨heq, hclaimed⟩
      cases heq
      obtain ⟨key, hkey⟩ := hother
      refine ⟨rfl, rfl, ?_⟩
      rw [h.kept.consistent.listed session key hkey]
      exact (h.owned hkey).2 hclaimed

theorem holds_empty : Holds platform options [] .empty where
  kept := SessionStore.kept_empty
  recent := SessionStore.recent_empty
  claimed _ _ := ⟨fun h ↦ absurd h List.not_mem_nil, fun h ↦ absurd h Run.not_took_nil⟩
  decided _ _ _ := ⟨fun h ↦ absurd h List.not_mem_nil, fun h ↦ absurd h Run.not_took_nil⟩

theorem Holds.step (hmax : 1 ≤ options.maxSessions)
    (hbound : 2 * options.maxSessions * options.maxInvocationsPerSession ≤ options.maxOwnedInvocations)
    (hrun : Calls platform options labels timed) (h : Holds platform options labels timed) {call : Call}
    (hallowed : timed.Allowed platform call) {timed' : Timed} (hstep : timed.step platform options call = some timed') :
    Holds platform options (labels ++ [call]) timed' := by
  cases call with
  | create token pruned now =>
    obtain rfl := Option.some.inj hstep
    exact h.create hmax hrun hallowed.1 hallowed.2.1 hallowed.2.2
  | authenticate authorization now =>
    obtain rfl := Option.some.inj hstep
    rcases timed.store.authenticate_store platform authorization now with hstore | hstore
    · rw [hstore]
      exact h.evicted hrun hallowed (by simp) (by simp) (.refl _) h.kept h.recent
    · rw [hstore]
      exact h.evicted hrun hallowed (by simp) (by simp) (SessionStore.evicted_prune _ _) (h.kept.prune now)
        (h.recent.prune h.kept now)
  | size now =>
    obtain rfl := Option.some.inj hstep
    exact h.evicted hrun hallowed (by simp) (by simp) (SessionStore.evicted_prune _ _) (h.kept.prune now)
      (h.recent.prune h.kept now)
  | claimInvocation session invocationId =>
    obtain rfl := Option.some.inj hstep
    exact h.claim hbound hrun hallowed
  | markDecided session invocationId =>
    obtain rfl := Option.some.inj hstep
    exact h.mark hrun hallowed
  | canReadEvidence session invocationId =>
    obtain rfl := Option.some.inj hstep
    exact h.evicted hrun le_rfl (by simp) (by simp) (.refl _) h.kept h.recent

theorem holds_of_calls (hmax : 1 ≤ options.maxSessions)
    (hbound : 2 * options.maxSessions * options.maxInvocationsPerSession ≤ options.maxOwnedInvocations)
    (hrun : Calls platform options labels timed) : Holds platform options labels timed :=
  hrun.invariant_run holds_empty fun _ _ _ _ hrun h hallowed hstep ↦ h.step hmax hbound hrun hallowed hstep

/-! ## What the invariant says of the calls -/

namespace Holds

variable (h : Holds platform options labels timed) {session : ℕ} {invocationId : String}

include h

theorem owner_of_claimed (hlive : timed.store.Live session)
    (hclaimed : HasClaimed platform options labels session invocationId) :
    ∃ key, timed.store.keys.get? session = some key ∧ timed.store.sessions.get? key = some session ∧
      timed.store.owners.get? invocationId = some (.session key) := by
  obtain ⟨key, hkey⟩ := hlive
  exact ⟨key, h.kept.consistent.listed session key hkey, hkey, (h.owned hkey).2 hclaimed⟩

theorem again (hlive : timed.store.Live session)
    (hclaimed : HasClaimed platform options labels session invocationId) :
    timed.store.claimInvocation options session invocationId = (.alreadyOwn, timed.store) := by
  obtain ⟨key, hkey, -, howner⟩ := h.owner_of_claimed hlive hclaimed
  exact SessionStore.claimInvocation_own hkey howner

theorem foreign (hlive : timed.store.Live session)
    (hclaimed : HasClaimed platform options labels session invocationId) {other : ℕ} (hne : other ≠ session) :
    timed.store.claimInvocation options other invocationId = (.foreign, timed.store) := by
  obtain ⟨key, hkey, -, howner⟩ := h.owner_of_claimed hlive hclaimed
  refine SessionStore.claimInvocation_foreign howner fun otherKey hother heq ↦ ?_
  cases heq
  exact hne (h.kept.consistent.injective other session key hother hkey)

theorem evidence (hlive : timed.store.Live session)
    (hclaimed : HasClaimed platform options labels session invocationId) (reader : ℕ) :
    timed.store.canReadEvidence reader invocationId = true ↔
      reader = session ∧ HasDecided platform options labels session invocationId := by
  obtain ⟨key, hkey, -, howner⟩ := h.owner_of_claimed hlive hclaimed
  rw [← h.decided session hlive]
  unfold SessionStore.canReadEvidence
  by_cases heq : reader = session
  · subst heq
    simp [hkey, howner, OrderedSet.has_iff]
  · cases hreader : timed.store.keys.get? reader with
    | none => simp [heq]
    | some otherKey =>
      have hne : key ≠ otherKey := by
        rintro rfl
        exact heq (h.kept.consistent.injective reader session key hreader hkey)
      simp [heq, howner, hne]

theorem exclusive {other : ℕ} (hlive : timed.store.Live session) (hother : timed.store.Live other)
    (hclaimed : HasClaimed platform options labels session invocationId)
    (hclaimed' : HasClaimed platform options labels other invocationId) : session = other := by
  obtain ⟨key, hkey, -, howner⟩ := h.owner_of_claimed hlive hclaimed
  obtain ⟨otherKey, hotherKey, -, howner'⟩ := h.owner_of_claimed hother hclaimed'
  rw [howner] at howner'
  cases howner'
  exact h.kept.consistent.injective session other key hkey hotherKey

end Holds

/-- Sessions in the store keep what they claimed, as long as the bound on remembered owners covers the
claims of two full stores. -/
theorem ownershipKept (hmax : 1 ≤ options.maxSessions)
    (hbound : 2 * options.maxSessions * options.maxInvocationsPerSession ≤ options.maxOwnedInvocations)
    (hrun : Calls platform options labels timed) : OwnershipKept platform options labels timed.store := by
  have h := holds_of_calls hmax hbound hrun
  refine ⟨fun invocationId key ↦ ⟨fun howner ↦ ?_, fun ⟨session, hsession, hclaimed⟩ ↦ ?_⟩,
    fun _ _ ↦ h.again, fun _ _ hlive hclaimed _ ↦ h.foreign hlive hclaimed, fun _ _ ↦ h.evidence,
    fun _ _ _ ↦ h.exclusive, h.recent.size_le,
    fun claimant invocationId forgotten hclaimant _ hforgotten session hlive hclaimed ↦ ?_⟩
  · obtain ⟨session, hsession, hmem⟩ := h.kept.consistent.owned invocationId key howner
    exact ⟨session, hsession, (h.claimed session invocationId).1 hmem⟩
  · exact (h.owned hsession).2 hclaimed
  · -- The claim is one more call, after which the session still owns its ID.
    have hnext : Holds platform options (labels ++ [.claimInvocation claimant invocationId])
        ⟨(timed.store.claimInvocation options claimant invocationId).2, timed.clock⟩ :=
      h.claim hbound hrun hclaimant
    have hlive' : (timed.store.claimInvocation options claimant invocationId).2.Live session := by
      unfold SessionStore.Live
      rw [SessionStore.sessions_claimInvocation]
      exact hlive
    obtain ⟨key, -, -, howner⟩ := hnext.owner_of_claimed hlive' (Run.Took.later hclaimed _)
    exact hforgotten (OrderedMap.mem_keys_of_get? howner)

end Invariant

/-- Two sessions of the default store, the first with a decided invocation. -/
theorem ownershipKept_default : ∃ timed,
    Calls .plain {} [.create "first" 0 0, .claimInvocation 0 "purchase", .create "second" 1 1,
      .markDecided 0 "purchase"] timed ∧
    OwnershipKept .plain {} [.create "first" 0 0, .claimInvocation 0 "purchase", .create "second" 1 1,
      .markDecided 0 "purchase"] timed.store := by
  have hrun : ∃ timed, Calls .plain {} [.create "first" 0 0, .claimInvocation 0 "purchase", .create "second" 1 1,
      .markDecided 0 "purchase"] timed := by
    refine ⟨_, .next (.next (.next (.next .start ?_ rfl) ?_ rfl) ?_ rfl) ?_ rfl⟩
    · exact ⟨fun session ↦ by simp [Timed.empty, SessionStore.empty], le_rfl, le_rfl⟩
    · exact ⟨"first", by decide⟩
    · refine ⟨fun session ↦ ?_, by decide, le_rfl⟩
      show (OrderedMap.set Table.empty 0 "first").get? session ≠ some "second"
      rw [OrderedMap.get?_set]
      split <;> simp
    · show 0 < 2
      decide
  obtain ⟨timed, hrun⟩ := hrun
  exact ⟨timed, hrun, ownershipKept (by decide) (by decide) hrun⟩

/-- A store for no sessions. -/
def roomless : SessionStoreOptions := { maxSessions := 0 }

/-- With no room at all the store makes a session nevertheless. -/
theorem ownershipKept_roomless :
    2 * roomless.maxSessions * roomless.maxInvocationsPerSession ≤ roomless.maxOwnedInvocations ∧
    ∃ timed, Calls .plain roomless [.create "first" 0 0] timed ∧
      ¬ OwnershipKept .plain roomless [.create "first" 0 0] timed.store := by
  refine ⟨by decide, _, .next .start ⟨fun session ↦ by simp [Timed.empty, SessionStore.empty], le_rfl, le_rfl⟩ rfl,
    fun h ↦ ?_⟩
  exact absurd h.bounded (by decide)

end VirtualHaibin.Agent
