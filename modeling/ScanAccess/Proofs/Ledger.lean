import Mathlib.Data.List.Induction
import ScanAccess.Proofs.Age
import ScanAccess.Proofs.History

/-! # Ledgers of stores

A ledger lists what the steps of a run did to the records of a store, oldest
first. It is enough to say what the store holds under every key: the record that
was last stored there, invalid if the key was revoked since. Times do not enter,
since an expired record is not written back.
-/

namespace ScanAccess

/-- What a step did to the records of a store. -/
inductive Deed where
  | stored (record : AccessToken)
  | revoked (key : RawText × RawText)
  | nothing
  deriving DecidableEq

namespace Deed

/-- What is under a key after a deed, by what was there before. -/
def apply (key : RawText × RawText) (held : Option AccessToken) : Deed → Option AccessToken
  | stored record => if record.key = key then some record else held
  | revoked other => if other = key then held.map AccessToken.invalidate else held
  | nothing => held

/-- The record that a deed stored under a key. -/
def storedAt (key : RawText × RawText) : Deed → Option AccessToken
  | stored record => if record.key = key then some record else none
  | _ => none

theorem storedAt_eq_none_iff {key : RawText × RawText} {deed : Deed} :
    deed.storedAt key = none ↔ ∀ record, deed = stored record → record.key ≠ key := by
  cases deed <;> simp [storedAt]

/-- Storing wins over what was there, revoking invalidates it, and all else leaves it. -/
theorem apply_eq (key : RawText × RawText) (held : Option AccessToken) (deed : Deed) :
    deed.apply key held =
      (deed.storedAt key).or
        (if deed = revoked key then held.map AccessToken.invalidate else held) := by
  cases deed with
  | stored record => by_cases hkey : record.key = key <;> simp [apply, storedAt, hkey]
  | revoked other => simp [apply, storedAt]
  | nothing => simp [apply, storedAt]

/-- Under a key, one store comes from another by a deed. -/
structure Changes (key : RawText × RawText) (deed : Deed) (before after : Store) : Prop where
  maxAge : after.maxAge = before.maxAge
  get? : after.get? key = deed.apply key (before.get? key)

theorem changes_nothing (key : RawText × RawText) (store : Store) :
    nothing.Changes key store store :=
  ⟨rfl, rfl⟩

theorem changes_put (key : RawText × RawText) (store : Store) (record : AccessToken) :
    (stored record).Changes key store (store.put record) :=
  ⟨rfl, store.get?_put record key⟩

/-- A record put under another key is as good as none. -/
theorem changes_put_of_ne {key : RawText × RawText} {record : AccessToken}
    (h : record.key ≠ key) (store : Store) : nothing.Changes key store (store.put record) := by
  refine ⟨rfl, ?_⟩
  rw [Store.get?_put, if_neg h, apply]

theorem changes_revoke {store : Store} {key : RawText × RawText} {record : AccessToken}
    (h : store.get? key = some record) (hkey : record.key = key) (other : RawText × RawText) :
    (revoked key).Changes other store (store.put record.invalidate) := by
  refine ⟨rfl, ?_⟩
  rw [Store.get?_put, AccessToken.key_invalidate, hkey, apply]
  split
  next heq => rw [← heq, h]; rfl
  next => rfl

end Deed

namespace Ledger

/-- What is under a key after the deeds of a ledger, by what was there at its beginning. -/
def replay (key : RawText × RawText) (held : Option AccessToken) (deeds : List Deed) :
    Option AccessToken :=
  deeds.foldl (fun held deed => deed.apply key held) held

/-- The record that was last stored under a key. -/
def lastStored (key : RawText × RawText) (deeds : List Deed) : Option AccessToken :=
  deeds.reverse.findSome? (Deed.storedAt key)

/-- Whether a key was revoked after the last time a record was stored under it. -/
def revokedSince (key : RawText × RawText) (deeds : List Deed) : Bool :=
  (deeds.reverse.takeWhile fun deed => (deed.storedAt key).isNone).contains (.revoked key)

/-- A ledger in which nothing was stored under a key. -/
def NeverStored (key : RawText × RawText) (deeds : List Deed) : Prop :=
  ∀ record, Deed.stored record ∈ deeds → record.key ≠ key

variable {key : RawText × RawText} {deeds : List Deed}

theorem lastStored_eq_none_iff : lastStored key deeds = none ↔ NeverStored key deeds := by
  simp only [lastStored, List.findSome?_eq_none_iff, List.mem_reverse, Deed.storedAt_eq_none_iff]
  exact ⟨fun h record hmem => h _ hmem record rfl, fun h _ hmem record heq => h record (heq ▸ hmem)⟩

theorem lastStored_concat (deed : Deed) :
    lastStored key (deeds ++ [deed]) = (deed.storedAt key).or (lastStored key deeds) := by
  rw [lastStored, List.reverse_concat, List.findSome?_cons]
  cases deed.storedAt key <;> rfl

theorem revokedSince_concat (deed : Deed) :
    revokedSince key (deeds ++ [deed]) =
      ((deed.storedAt key).isNone && (deed == .revoked key || revokedSince key deeds)) := by
  rw [revokedSince, List.reverse_concat, List.takeWhile_cons]
  cases deed.storedAt key with
  | some record => rfl
  | none =>
      simp only [Option.isNone_none, if_true, Bool.true_and, List.contains_cons]
      rw [Bool.beq_comm]
      rfl

theorem replay_concat (held : Option AccessToken) (deed : Deed) :
    replay key held (deeds ++ [deed]) = deed.apply key (replay key held deeds) := by
  rw [replay, List.foldl_append]
  rfl

/-- Under every key is the record last stored there, invalid if the key was revoked since. -/
theorem replay_none (key : RawText × RawText) (deeds : List Deed) :
    replay key none deeds = (lastStored key deeds).map fun record =>
      if revokedSince key deeds then record.invalidate else record := by
  induction deeds using List.reverseRecOn with
  | nil => rfl
  | append_singleton deeds deed ih =>
      rw [replay_concat, ih, lastStored_concat, revokedSince_concat, Deed.apply_eq]
      cases deed.storedAt key with
      | some record => simp
      | none =>
          by_cases hrevoked : deed = .revoked key
          · -- A second revocation adds nothing to the first.
            cases lastStored key deeds with
            | none => simp
            | some record => by_cases h : revokedSince key deeds <;> simp [hrevoked, h]
          · simp [hrevoked]

/-- As long as nothing is stored under a key, what is there stays, and is invalidated if the key
is revoked. -/
theorem NeverStored.replay_eq {held : Option AccessToken} (h : NeverStored key deeds) :
    replay key held deeds =
      if .revoked key ∈ deeds then held.map AccessToken.invalidate else held := by
  induction deeds using List.reverseRecOn with
  | nil => simp [replay]
  | append_singleton deeds deed ih =>
      have hdeed : deed.storedAt key = none :=
        Deed.storedAt_eq_none_iff.mpr fun record heq => h record (by simp [heq])
      have hdeeds : NeverStored key deeds := fun record hmem =>
        h record (List.mem_append_left _ hmem)
      rw [replay_concat, ih hdeeds, Deed.apply_eq, hdeed]
      by_cases hlast : deed = .revoked key
      · by_cases hearlier : Deed.revoked key ∈ deeds
        · cases held <;> simp [hlast, hearlier]
        · simp [hlast, hearlier]
      · simp [hlast, Ne.symm hlast]

section Runs

open ScanAccess.Action

variable {ι σ α : Type} {act : ι → Action σ α} {store : σ → Store}
  {deed : ι × Except Failure α → Deed}

/-- Steps keep a ledger of what a store in their state holds under a key: each changes it by the
deed that its entry in the history tells. -/
def Kept (key : RawText × RawText) (act : ι → Action σ α) (store : σ → Store)
    (deed : ι × Except Failure α → Deed) : Prop :=
  ∀ step state, (deed (step, (act step state).result)).Changes key (store state)
    (store (act step state).state)

theorem Kept.maxAge_stateAfter (h : Kept key act store deed) (steps : List ι) (state : σ) :
    (store (stateAfter act steps state)).maxAge = (store state).maxAge := by
  induction steps generalizing state with
  | nil => rfl
  | cons step rest ih => exact (ih (act step state).state).trans (h step state).maxAge

/-- What a run leaves under a key is told by its history. -/
theorem Kept.get?_stateAfter (h : Kept key act store deed) (steps : List ι) (state : σ) :
    (store (stateAfter act steps state)).get? key =
      replay key ((store state).get? key) ((history act steps state).map deed) := by
  induction steps generalizing state with
  | nil => rfl
  | cons step rest ih =>
      rw [stateAfter, ih (act step state).state, (h step state).get?]
      rfl

end Runs

end Ledger

end ScanAccess
