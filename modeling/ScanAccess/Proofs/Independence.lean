import ScanAccess.Proofs.Erasure
import ScanAccess.Proofs.StoreRefinement

/-! # What does not depend on what

Visits of a store that concern different keys may change places: neither notices the
other, and nothing that comes after them tells the two orders apart. The two halves of a
desk, its registry on the one side and its store, clock and source of tokens on the
other, do not notice each other at all.
-/

namespace ScanAccess

namespace Store

open ScanAccess.Action

/-- The key that a visit is about. -/
def Visit.key : Visit → RawText × RawText
  | ⟨_, .insert record⟩ => record.key
  | ⟨_, .find token url⟩ | ⟨_, .revoke token url⟩ => (token, url)

/-- The same records under all keys, which expire at the same age. -/
structure Same (store other : Store) : Prop where
  maxAge : other.maxAge = store.maxAge
  get? : ∀ key, other.get? key = store.get? key

variable {store other : Store} {visit first second : Visit} {key : RawText × RawText}

theorem Same.size_eq (h : Same store other) : other.size = store.size := by
  have hperm : (other.records.map AccessToken.key).Perm (store.records.map AccessToken.key) := by
    rw [List.perm_ext_iff_of_nodup other.distinct store.distinct]
    intro key
    rw [mem_keys_iff, mem_keys_iff, h.get?]
  simpa [size] using hperm.length_eq

/-- The answer to a visit depends on what is under its key. -/
theorem serve_result_congr (hage : other.maxAge = store.maxAge)
    (hget : other.get? visit.key = store.get? visit.key) :
    (serve visit other).result = (serve visit store).result := by
  have hcurrent (now : Timestamp) (record : AccessToken) :
      other.current now record = store.current now record := by
    rw [current_eq, current_eq, hage]
  obtain ⟨now, request⟩ := visit
  cases request with
  | insert record =>
      have hget : other.get? record.key = store.get? record.key := hget
      simp only [serve_insert_result, insert_result, lookUp, hget, hcurrent]
  | find token url =>
      have hget : other.get? (token, url) = store.get? (token, url) := hget
      simp only [serve_find_result, find_result, hget, hcurrent]
  | revoke token url =>
      have hget : other.get? (token, url) = store.get? (token, url) := hget
      simp only [serve_revoke_result, revoke_result, hget]

/-- A visit does nothing under other keys. -/
theorem apply_deed_of_ne {result : Except Failure (Option AccessToken)} (h : visit.key ≠ key)
    (held : Option AccessToken) : (deed (visit, result)).apply key held = held := by
  obtain ⟨now, request⟩ := visit
  cases request with
  | insert record =>
      rw [deed]
      split
      · exact if_neg h
      · rfl
  | find token url => rfl
  | revoke token url =>
      rw [deed]
      split
      · exact if_neg h
      · rfl

theorem maxAge_serve (visit : Visit) (store : Store) :
    (serve visit store).state.maxAge = store.maxAge :=
  (kept_serve visit.key visit store).maxAge

theorem get?_serve (visit : Visit) (store : Store) (key : RawText × RawText) :
    (serve visit store).state.get? key =
      (deed (visit, (serve visit store).result)).apply key (store.get? key) :=
  (kept_serve key visit store).get?

theorem get?_serve_of_ne (h : visit.key ≠ key) :
    (serve visit store).state.get? key = store.get? key := by
  rw [get?_serve, apply_deed_of_ne h]

/-- What is under a key after a visit depends on what was there before. -/
theorem get?_serve_congr (hage : other.maxAge = store.maxAge)
    (hget : other.get? visit.key = store.get? visit.key) (hkey : other.get? key = store.get? key) :
    (serve visit other).state.get? key = (serve visit store).state.get? key := by
  rw [get?_serve, get?_serve, hkey, serve_result_congr hage hget]

/-- Stores with the same records cannot be told apart by any run. -/
theorem Same.history_eq (h : Same store other) (visits : List Visit) :
    history serve visits other = history serve visits store ∧
      Same (stateAfter serve visits store) (stateAfter serve visits other) := by
  induction visits generalizing store other with
  | nil => exact ⟨rfl, h⟩
  | cons visit rest ih =>
      have hresult : (serve visit other).result = (serve visit store).result :=
        serve_result_congr h.maxAge (h.get? visit.key)
      have hsame : Same (serve visit store).state (serve visit other).state := by
        refine ⟨?_, fun key => get?_serve_congr h.maxAge (h.get? _) (h.get? key)⟩
        rw [maxAge_serve, maxAge_serve, h.maxAge]
      obtain ⟨hhistory, hleft⟩ := ih hsame
      rw [history_cons, history_cons, hresult, hhistory]
      exact ⟨rfl, hleft⟩

/-- A visit is answered as if one about another key had not been there. -/
theorem serve_result_of_ne (h : first.key ≠ second.key) :
    (serve second (serve first store).state).result = (serve second store).result :=
  serve_result_congr (maxAge_serve first store) (get?_serve_of_ne h)

/-- Two visits about different keys leave the same records in either order. -/
theorem same_of_exchange (h : first.key ≠ second.key) :
    Same (serve second (serve first store).state).state
      (serve first (serve second store).state).state := by
  constructor
  · simp only [maxAge_serve]
  · intro key
    by_cases hfirst : first.key = key
    · -- Under the key of the first visit, the second one leaves what is there.
      have hsecond : second.key ≠ key := hfirst ▸ h.symm
      rw [get?_serve_of_ne hsecond]
      exact get?_serve_congr (maxAge_serve second store) (get?_serve_of_ne h.symm)
        (get?_serve_of_ne hsecond)
    · rw [get?_serve_of_ne hfirst]
      exact (get?_serve_congr (maxAge_serve first store) (get?_serve_of_ne h)
        (get?_serve_of_ne hfirst)).symm

end Store

namespace Desk

open ScanAccess.Action

variable {γ α : Type}

/-- A step of a run in which the clock moves by steps only. -/
structure Turn (γ : Type) where
  rules : Rules γ
  request : DeskRequest

/-- Takes a turn. -/
def take (turn : Turn γ) : Action (Desk γ) DeskReply :=
  answer turn.rules turn.request

/-- Whether a request is about registered repositories, and not about tokens or the time. -/
def concernsRegistry : DeskRequest → Bool
  | .verify _ | .findRepository _ | .register _ | .unregister _ | .contains _ => true
  | _ => false

/-- The half of a desk that tokens need. -/
def tokenHalf (desk : Desk γ) : Store × Timestamp × γ :=
  (desk.store, desk.clock, desk.source)

/-- Two desks with the same half for tokens. -/
def SameTokens (desk other : Desk γ) : Prop :=
  tokenHalf desk = tokenHalf other

/-- Two desks with the same registry. -/
def SameRegistry (desk other : Desk γ) : Prop :=
  desk.registry = other.registry

/-! ## Requests about tokens -/

section Tokens

variable (rules : Rules γ)

theorem sameTokens_onStore (x : Action Store α) :
    Twins SameTokens Eq (onStore (γ := γ) x) (onStore x) := by
  rintro ⟨store, registry, clock, source⟩ ⟨-, other, -, -⟩ ⟨⟩
  exact ⟨rfl, .refl _, rfl⟩

theorem sameTokens_atClock (x : Timestamp → Action Store α) :
    Twins SameTokens Eq (atClock (γ := γ) x) (atClock x) := by
  rintro ⟨store, registry, clock, source⟩ ⟨-, other, -, -⟩ ⟨⟩
  exact ⟨rfl, .refl _, rfl⟩

theorem sameTokens_generateToken :
    Twins SameTokens Eq (services rules).generateToken (services rules).generateToken := by
  rintro ⟨store, registry, clock, source⟩ ⟨-, other, -, -⟩ ⟨⟩
  exact ⟨rfl, .refl _, rfl⟩

theorem sameTokens_now : Twins SameTokens Eq (services rules).now (services rules).now := by
  rintro ⟨store, registry, clock, source⟩ ⟨-, other, -, -⟩ ⟨⟩
  exact ⟨rfl, .refl _, rfl⟩

theorem sameTokens_advance (duration : Duration) :
    Twins SameTokens Eq (advance (γ := γ) duration) (advance duration) := by
  rintro ⟨store, registry, clock, source⟩ ⟨-, other, -, -⟩ ⟨⟩
  unfold advance
  dsimp only
  cases clock.advance? duration with
  | none => exact ⟨rfl, .refl _, rfl⟩
  | some later => exact ⟨rfl, .refl _, rfl⟩

theorem sameTokens_findToken (token url : RawText) :
    Twins SameTokens Eq (findToken rules token url) (findToken rules token url) := by
  refine (Twins.lift _).bind ?_
  rintro canonical - rfl
  exact sameTokens_atClock _

theorem sameTokens_issue (request : TokenRequest) :
    Twins SameTokens Eq ((services rules).issue request) ((services rules).issue request) := by
  refine (Twins.lift (rules.validateUrl request.url)).bind ?_
  rintro url - rfl
  refine (sameTokens_generateToken rules).bind ?_
  rintro token - rfl
  refine (sameTokens_now rules).bind ?_
  rintro now - rfl
  exact (sameTokens_atClock fun now => Store.insert now _).bind fun _ _ _ => Twins.pure rfl

theorem sameTokens_check (token url : RawText) :
    Twins SameTokens Eq ((services rules).check token url) ((services rules).check token url) := by
  refine (sameTokens_findToken rules token url).bind ?_
  rintro record - rfl
  cases record.isValid with
  | true => exact Twins.pure rfl
  | false => exact Twins.fail .tokenInvalid

/-- A request that is not about repositories depends on the half for tokens. -/
theorem sameTokens_answer {request : DeskRequest} (h : concernsRegistry request = false) :
    Twins SameTokens Eq (answer rules request) (answer rules request) := by
  cases request with
  | issue request => exact (sameTokens_issue rules request).map _
  | check token url => exact (sameTokens_check rules token url).map _
  | validateUrl url => exact (Twins.lift (rules.validateUrl url)).map _
  | generateToken => exact (sameTokens_generateToken rules).map _
  | now => exact (sameTokens_now rules).map _
  | storeToken record => exact (sameTokens_atClock fun now => Store.insert now record).map _
  | findToken token url => exact (sameTokens_findToken rules token url).map _
  | lookUp token url => exact (sameTokens_atClock fun now => Store.find now token url).map _
  | revoke token url => exact (sameTokens_onStore (Store.revoke token url)).map _
  | setClock time =>
      refine (Twins.modify ?_).map _
      rintro ⟨store, registry, clock, source⟩ ⟨-, other, -, -⟩ ⟨⟩
      rfl
  | advance duration => exact (sameTokens_advance duration).map _
  | _ => cases h

/-- A request about repositories leaves the half for tokens as it is. -/
theorem leaves_tokenHalf_answer {request : DeskRequest} (h : concernsRegistry request = true) :
    Leaves tokenHalf (answer rules request) := by
  have honRegistry {α : Type} (x : Action Registry α) :
      Leaves (tokenHalf (γ := γ)) (onRegistry x) :=
    Leaves.within x fun _ _ => rfl
  cases request with
  | verify url =>
      refine Leaves.bind ?_ fun _ => Leaves.pure _
      exact (Leaves.lift _).bind fun _ => honRegistry _
  | findRepository url => exact (honRegistry _).bind fun _ => Leaves.pure _
  | register url => exact (honRegistry _).bind fun _ => Leaves.pure _
  | unregister url => exact (honRegistry _).bind fun _ => Leaves.pure _
  | contains url => exact Leaves.get.bind fun _ => Leaves.pure _
  | _ => cases h

end Tokens

/-! ## Requests about repositories -/

section Repositories

variable (rules : Rules γ)

theorem sameRegistry_onRegistry (x : Action Registry α) :
    Twins SameRegistry Eq (onRegistry (γ := γ) x) (onRegistry x) := by
  rintro ⟨store, registry, clock, source⟩ ⟨otherStore, -, otherClock, otherSource⟩ ⟨⟩
  exact ⟨rfl, .refl _, rfl⟩

theorem sameRegistry_verify (url : RawText) :
    Twins SameRegistry Eq ((services rules).verify url) ((services rules).verify url) := by
  refine (Twins.lift (rules.validateUrl url)).bind ?_
  rintro canonical - rfl
  exact sameRegistry_onRegistry (Registry.find canonical)

/-- A request about repositories depends on the registry. -/
theorem sameRegistry_answer {request : DeskRequest} (h : concernsRegistry request = true) :
    Twins SameRegistry Eq (answer rules request) (answer rules request) := by
  cases request with
  | verify url => exact (sameRegistry_verify rules url).map _
  | findRepository url => exact (sameRegistry_onRegistry (Registry.find url)).map _
  | register url => exact (sameRegistry_onRegistry (Registry.register rules.registerUrl url)).map _
  | unregister url =>
      exact (sameRegistry_onRegistry (Registry.unregister rules.registerUrl url)).map _
  | contains url =>
      refine Twins.get.bind fun desk other hsame => Twins.pure ?_
      rw [hsame]
  | _ => cases h

theorem writesRegistry_of_concernsRegistry {request : DeskRequest}
    (h : concernsRegistry request = false) : writesRegistry request = false := by
  cases request with
  | register url => cases h
  | unregister url => cases h
  | _ => rfl

end Repositories

/-! ## Runs -/

/-- Without the turns about repositories, the others end as before. -/
theorem history_without_registry (turns : List (Turn γ)) (desk : Desk γ) :
    history take (turns.filter fun turn => !concernsRegistry turn.request) desk =
      (history take turns desk).filter fun entry => !concernsRegistry entry.1.request := by
  refine (history_filter tokenHalf (fun entry => concernsRegistry entry.1.request = true)
    ?_ ?_ rfl ?_).1
  · intro turn hkeep
    exact sameTokens_answer turn.rules (by simpa using hkeep)
  · intro turn desk hidle
    exact leaves_tokenHalf_answer turn.rules hidle desk
  · intro entry _ hdropped
    simpa using hdropped

/-- Without the turns that are not about repositories, those that are end as before. -/
theorem history_of_registry (turns : List (Turn γ)) (desk : Desk γ) :
    history take (turns.filter fun turn => concernsRegistry turn.request) desk =
      (history take turns desk).filter fun entry => concernsRegistry entry.1.request := by
  refine (history_filter registry (fun entry => concernsRegistry entry.1.request = false)
    ?_ ?_ rfl ?_).1
  · intro turn hkeep
    exact sameRegistry_answer turn.rules hkeep
  · intro turn desk hidle
    exact leaves_registry_answer turn.rules (writesRegistry_of_concernsRegistry hidle) desk
  · intro entry _ hdropped
    exact hdropped

/-- Two visits of a store next to each other that concern different keys may change places: both
are answered as before, and so is whatever follows, and the same records are there in the end.
The turns of a desk that are about repositories can be taken out without any effect on the others,
and the others without any effect on them. -/
theorem other_keys_and_halves_do_not_interfere :
    (∀ (store : Store) (first second : Store.Visit) (after : List Store.Visit),
      first.key ≠ second.key →
      ∃ one two future,
        history Store.serve (first :: second :: after) store =
          (first, one) :: (second, two) :: future ∧
        history Store.serve (second :: first :: after) store =
          (second, two) :: (first, one) :: future ∧
        let left := stateAfter Store.serve (first :: second :: after) store
        let other := stateAfter Store.serve (second :: first :: after) store
        (∀ key, other.get? key = left.get? key) ∧ other.size = left.size) ∧
    ∀ (turns : List (Turn γ)) (desk : Desk γ),
      history take (turns.filter fun turn => !concernsRegistry turn.request) desk =
          (history take turns desk).filter (fun entry => !concernsRegistry entry.1.request) ∧
        history take (turns.filter fun turn => concernsRegistry turn.request) desk =
          (history take turns desk).filter fun entry => concernsRegistry entry.1.request := by
  constructor
  · intro store first second after hkey
    have hsame : Store.Same (Store.serve second (Store.serve first store).state).state
        (Store.serve first (Store.serve second store).state).state := Store.same_of_exchange hkey
    obtain ⟨hhistory, hleft⟩ := hsame.history_eq after
    let future :=
      history Store.serve after (Store.serve second (Store.serve first store).state).state
    refine ⟨(Store.serve first store).result, (Store.serve second store).result, future, ?_, ?_,
      hleft.get?, hleft.size_eq⟩
    · rw [history_cons, history_cons, Store.serve_result_of_ne hkey]
    · rw [history_cons, history_cons, Store.serve_result_of_ne hkey.symm, hhistory]
  · exact fun turns desk => ⟨history_without_registry turns desk, history_of_registry turns desk⟩

theorem other_keys_and_halves_do_not_interfere_hourly :
    let stored : Store.Visit := ⟨⟨0, some 0, none⟩, .insert (Store.sample ⟨0, some 0, none⟩)⟩
    let revoked : Store.Visit := ⟨⟨1, none, none⟩, .revoke "t" "git:b.git"⟩
    let sought : Store.Visit := ⟨⟨2, some 0, none⟩, .find "t" "git:a.git"⟩
    let turn (request : DeskRequest) : Turn Unit :=
      ⟨(issuing Logged.ok ⟨0, some 0, none⟩).rules, request⟩
    history Store.serve [revoked, stored, sought] Store.hourly =
        [(revoked, .error .tokenNotFound), (stored, .ok none),
          (sought, .ok (some (Store.sample ⟨0, some 0, none⟩)))] ∧
      history take [turn (.issue { url := "git:a.git" }), turn (.check "t" "git:a.git")] hourly =
        (history take [turn (.register "git:a.git"), turn (.issue { url := "git:a.git" }),
          turn (.verify "git:a.git"), turn (.check "t" "git:a.git")] hourly).filter
            fun entry => !concernsRegistry entry.1.request := by
  intro stored revoked sought turn
  have hkey : stored.key ≠ revoked.key := by decide
  obtain ⟨hexchange, hhalves⟩ := other_keys_and_halves_do_not_interfere (γ := Unit)
  obtain ⟨one, two, future, hfirst, hsecond, -⟩ :=
    hexchange Store.hourly stored revoked [sought] hkey
  constructor
  · rw [hsecond]
    -- The answers in the exchanged order are those in the given one, which are computed.
    have hgiven : history Store.serve [stored, revoked, sought] Store.hourly =
        [(stored, .ok none), (revoked, .error .tokenNotFound),
          (sought, .ok (some (Store.sample ⟨0, some 0, none⟩)))] := rfl
    rw [hgiven] at hfirst
    cases hfirst
    rfl
  · exact (hhalves [turn (.register "git:a.git"), turn (.issue { url := "git:a.git" }),
      turn (.verify "git:a.git"), turn (.check "t" "git:a.git")] hourly).1

end Desk

end ScanAccess
