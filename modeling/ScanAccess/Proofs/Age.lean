import ScanAccess.Store

/-! # The age of records

What a store shows of a record depends on the time: a valid record is invalid
from the moment on at which it reaches the maximal age. Ages are differences of
instants, except in one zone, where they are differences of what the walls show. There is
none between a time with an offset and one without.
-/

namespace ScanAccess

namespace Timestamp

/-- Whether the offset of a timestamp is known, so that it stands for an instant. -/
def isAware (t : Timestamp) : Bool :=
  t.offset.isSome

/-- The difference of two timestamps: in one zone that of the walls, else that of the instants. -/
def minus (t start : Timestamp) : Int :=
  if t.isAware && t.sharesZone start then t.wall - start.wall else t.instant - start.instant

/-- Two timestamps have a difference if the offsets of both are known or of neither. -/
theorem since?_eq (t start : Timestamp) :
    t.since? start = if t.isAware = start.isAware then some (t.minus start) else none := by
  obtain ⟨wall, offset, zone⟩ := t
  obtain ⟨startWall, startOffset, startZone⟩ := start
  cases offset <;> cases startOffset <;> simp [since?, isAware, minus, instant]

/-- The offset did not change between two timestamps, if they are of one zone. -/
def KeepsOffset (t start : Timestamp) : Prop :=
  t.sharesZone start = true → t.offset = start.offset

/-- As long as no offset changed, the difference is that of the instants. -/
theorem minus_eq {t start : Timestamp} (h : t.KeepsOffset start) :
    t.minus start = t.instant - start.instant := by
  unfold minus
  split
  next hshared =>
    have hoffset := h (Bool.and_eq_true_iff.mp hshared).2
    simp only [instant, hoffset]
    omega
  next => rfl

end Timestamp

namespace AccessToken

/-- How a valid record shows at a time: as it is without a maximal age, else as a record that is
valid as long as its age stays below. -/
def shown (maxAge : Option Duration) (now : Timestamp) (record : AccessToken) :
    Except Failure AccessToken :=
  match maxAge with
  | none => .ok record
  | some age =>
    if now.isAware = record.createdAt.isAware then
      .ok { record with
        isValid := decide (now.minus record.createdAt < age.microseconds) }
    else .error .mixedOffsets

/-- Whether a record has reached a maximal age, if there is one. -/
def Expired (maxAge : Option Duration) (now : Timestamp) (record : AccessToken) : Prop :=
  ∃ age, maxAge = some age ∧ now.isAware = record.createdAt.isAware ∧
    age.microseconds ≤ now.minus record.createdAt

/-- An expired record stays expired as time goes on, unless the offset of its zone changes. -/
theorem Expired.mono {maxAge : Option Duration} {now later : Timestamp} {record : AccessToken}
    (h : record.Expired maxAge now) (hnow : now.isAware = true) (hlater : later.isAware = true)
    (hkeeps : now.KeepsOffset record.createdAt) (hlaterKeeps : later.KeepsOffset record.createdAt)
    (hle : now.instant ≤ later.instant) : record.Expired maxAge later := by
  obtain ⟨age, hage, haware, hold⟩ := h
  rw [Timestamp.minus_eq hkeeps] at hold
  refine ⟨age, hage, ?_, ?_⟩
  · rw [hlater, ← hnow, haware]
  · rw [Timestamp.minus_eq hlaterKeeps]
    omega

@[simp] theorem invalidate_invalidate (record : AccessToken) :
    record.invalidate.invalidate = record.invalidate := rfl

theorem invalidate_of_not_valid {record : AccessToken} (h : record.isValid = false) :
    record.invalidate = record := by
  obtain ⟨token, url, isValid, createdAt⟩ := record
  cases h
  rfl

end AccessToken

namespace Store

/-- The store shows an invalid record as it is, and a valid one by its age. -/
theorem current_eq (store : Store) (now : Timestamp) (record : AccessToken) :
    store.current now record =
      if record.isValid then record.shown store.maxAge now else .ok record := by
  obtain ⟨token, url, isValid, createdAt⟩ := record
  obtain ⟨maxAge, records, distinct, hpos⟩ := store
  cases isValid with
  | false => rfl
  | true =>
      cases maxAge with
      | none => rfl
      | some age =>
          have hage : age.isPositive = true := hpos age rfl
          simp only [current, AccessToken.isOlderThan, AccessToken.shown, Timestamp.since?_eq, hage]
          by_cases haware : now.isAware = createdAt.isAware
          · by_cases hold : age.microseconds ≤ now.minus createdAt
            · simp [haware, hold, AccessToken.invalidate, Except.map]
            · simp [haware, hold, Except.map]
              omega
          · simp [haware, Except.map]

/-- A record is found invalid exactly if it was invalidated or has expired, and then it is the
same record in all other fields. -/
theorem current_eq_ok_iff_of_not_valid {store : Store} {now : Timestamp}
    {record found : AccessToken} (hfound : found.isValid = false) :
    store.current now record = .ok found ↔
      (record.isValid = false ∨ record.Expired store.maxAge now) ∧ found = record.invalidate := by
  rw [current_eq]
  cases hvalid : record.isValid with
  | false =>
      rw [AccessToken.invalidate_of_not_valid hvalid]
      simp [eq_comm]
  | true =>
      have hne : record ≠ found := by
        rintro rfl
        simp [hvalid] at hfound
      cases hage : store.maxAge with
      | none => simp [AccessToken.shown, AccessToken.Expired, hne]
      | some age =>
          by_cases haware : now.isAware = record.createdAt.isAware
          · by_cases hold : age.microseconds ≤ now.minus record.createdAt
            · have hnot : ¬ now.minus record.createdAt < age.microseconds := by omega
              simp [AccessToken.shown, AccessToken.Expired, AccessToken.invalidate, haware, hold,
                hnot, eq_comm]
            · have hyoung : now.minus record.createdAt < age.microseconds := by omega
              have hsame : { record with isValid := true } = record := by rw [← hvalid]
              simp [AccessToken.shown, AccessToken.Expired, haware, hold, hyoung, hsame, hne]
          · simp [AccessToken.shown, AccessToken.Expired, haware]

/-- A record that was invalidated or has expired is one that is found invalid. -/
theorem lapsed_iff {store : Store} {now : Timestamp} {record : AccessToken} :
    (record.isValid = false ∨ record.Expired store.maxAge now) ↔
      ∃ found, store.current now record = .ok found ∧ found.isValid = false := by
  constructor
  · intro hlapsed
    have hinvalid := AccessToken.isValid_invalidate record
    exact ⟨_, (current_eq_ok_iff_of_not_valid hinvalid).mpr ⟨hlapsed, rfl⟩, hinvalid⟩
  · rintro ⟨found, hfound, hinvalid⟩
    exact ((current_eq_ok_iff_of_not_valid hinvalid).mp hfound).1

end Store

end ScanAccess
