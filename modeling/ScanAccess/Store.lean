import ScanAccess.Action
import ScanAccess.Fingerprint

/-! # The token store

The store keeps records of tokens, one for every pair of a token and a URL. If
it has a maximal age, a valid record that has reached this age is found as
invalid; the record itself stays as it is, so what is found depends on the time
of the search. What the store does is logged with the token's fingerprint, after it
is done: without a fingerprint it fails then, and what was written stays.
-/

namespace ScanAccess

/-- Records of tokens with distinct keys, and the age at which they expire, if they do. -/
structure Store where
  maxAge : Option Duration
  records : List AccessToken
  distinct : (records.map AccessToken.key).Nodup
  maxAge_pos : ∀ age ∈ maxAge, age.isPositive = true

namespace Store

/-- Puts a record in the place of the one with its key, or at the end. -/
def replace (record : AccessToken) : List AccessToken → List AccessToken
  | [] => [record]
  | first :: rest =>
    if first.key = record.key then record :: rest else first :: replace record rest

theorem mem_keys_replace {record : AccessToken} {records : List AccessToken}
    {key : RawText × RawText} :
    key ∈ (replace record records).map AccessToken.key ↔
      key = record.key ∨ key ∈ records.map AccessToken.key := by
  induction records with
  | nil => simp [replace]
  | cons first rest ih =>
    by_cases h : first.key = record.key
    · simp [replace, h]
    · rw [replace, if_neg h, List.map_cons, List.mem_cons, ih, List.map_cons, List.mem_cons]
      exact or_left_comm

theorem nodup_keys_replace {record : AccessToken} {records : List AccessToken}
    (h : (records.map AccessToken.key).Nodup) :
    ((replace record records).map AccessToken.key).Nodup := by
  induction records with
  | nil => simp [replace]
  | cons first rest ih =>
    rw [List.map_cons, List.nodup_cons] at h
    by_cases hkey : first.key = record.key
    · rw [replace, if_pos hkey, List.map_cons, List.nodup_cons, ← hkey]
      exact h
    · rw [replace, if_neg hkey, List.map_cons, List.nodup_cons, mem_keys_replace]
      refine ⟨?_, ih h.2⟩
      rintro (heq | hmem)
      · exact hkey heq
      · exact h.1 hmem

/-- The empty store. A maximal age must be positive. -/
def create (maxAge : Option Duration) : Except Failure Store :=
  if h : ∀ age ∈ maxAge, age.isPositive = true then
    .ok { maxAge, records := [], distinct := by simp, maxAge_pos := h }
  else .error .ageNotPositive

/-- The store with a record put under its key. -/
def put (store : Store) (record : AccessToken) : Store :=
  { store with
    records := replace record store.records
    distinct := nodup_keys_replace store.distinct }

/-- The record under a key. -/
def get? (store : Store) (key : RawText × RawText) : Option AccessToken :=
  store.records.find? fun record => record.key == key

theorem find?_replace {record : AccessToken} {records : List AccessToken}
    {key : RawText × RawText} :
    (replace record records).find? (fun r => r.key == key) =
      if record.key = key then some record else records.find? fun r => r.key == key := by
  induction records with
  | nil => by_cases h : record.key = key <;> simp [replace, h]
  | cons first rest ih =>
    by_cases hkey : first.key = record.key
    · by_cases h : record.key = key <;> simp [replace, hkey, h]
    · by_cases h : first.key = key
      · subst h
        have hne : record.key ≠ first.key := Ne.symm hkey
        simp [replace, hkey, hne]
      · simp [replace, hkey, h, ih]

/-- A record that was put is found under its key, and nothing else changes. -/
@[simp] theorem get?_put (store : Store) (record : AccessToken) (key : RawText × RawText) :
    (store.put record).get? key = if record.key = key then some record else store.get? key :=
  find?_replace

/-- The number of records. -/
def size (store : Store) : Nat :=
  store.records.length

/-- A record as it is found at a time: a valid one that has reached the maximal age is invalid. -/
def current (store : Store) (now : Timestamp) (record : AccessToken) :
    Except Failure AccessToken :=
  if !record.isValid then .ok record
  else
    match store.maxAge with
    | none => .ok record
    | some maxAge =>
      (record.isOlderThan maxAge now).map fun expired =>
        if expired then record.invalidate else record

/-- The logger of the store. -/
def logger : String := "huskyci_token.infrastructure.state.access_token_store"

/-- An event about a URL and a token, of which the fingerprint is given. -/
def event (level : Log.Level) (message print : String) (url : RawText) : Log.Event :=
  { logger
    level
    message
    data := some (Log.Payload.ofFields [("url", .text url), ("fingerprint", .text print)]) }

/-- Logs what was done about a token and a URL. -/
def report (level : Log.Level) (message : String) (token url : RawText) : Logged Unit :=
  match fingerprint token with
  | .ok print => { result := .ok (), events := [event level message print url] }
  | .error failure => .fail failure

/-- Stores a record, unless a record under the same key is found valid. -/
def insert (now : Timestamp) (record : AccessToken) : Action Store Unit :=
  fun store =>
    let blocked : Except Failure Bool :=
      match store.get? record.key with
      | none => .ok false
      | some existing => (store.current now existing).map AccessToken.isValid
    match blocked with
    | .error failure => { result := .error failure, state := store }
    | .ok true => { result := .error .alreadyRegistered, state := store }
    | .ok false =>
      { toLogged := report Log.Level.info "stored access token" record.token record.url
        state := store.put record }

/-- Finds the record of a token and a URL as it is at a time. -/
def find (now : Timestamp) (token url : RawText) : Action Store AccessToken :=
  fun store =>
    match store.get? (token, url) with
    | none =>
      { toLogged := (report Log.Level.debug "access token lookup missed" token url).bind fun _ =>
          .fail .tokenNotFound
        state := store }
    | some record => { result := store.current now record, state := store }

/-- Invalidates the record of a token and a URL for good, and returns it. -/
def revoke (token url : RawText) : Action Store AccessToken :=
  fun store =>
    match store.get? (token, url) with
    | none => { result := .error .tokenNotFound, state := store }
    | some record =>
      { toLogged := (report Log.Level.info "revoked access token" token url).bind fun _ =>
          .ok record.invalidate
        state := store.put record.invalidate }

end Store

end ScanAccess
