import ScanAccess.Proofs.CanonicalUrl
import ScanAccess.Proofs.Verdict

/-! # Runs of the registry

The registry brings every URL that it is given into canonical form, by a function that
may fail and of which nothing else is assumed. What it holds after a run is decided by
the last successful step that concerns a form, and steps that fail do not count.
-/

namespace ScanAccess

open ScanAccess.Action

namespace Registry

/-- What can be asked of a registry during a run. -/
inductive Request where
  | register (url : RawText)
  | unregister (url : RawText)

namespace Request

/-- The URL of a request, in any form. -/
def url : Request → RawText
  | register url | unregister url => url

/-- The reply to a request that succeeds: the canonical form of what was registered. -/
def reply : Request → RawText → Option RawText
  | register _, canonical => some canonical
  | unregister _, _ => none

/-- What a request that succeeds makes of a registry. -/
def change : Request → RawText → Registry → Registry
  | register _, canonical, registry => registry.add canonical
  | unregister _, canonical, registry => registry.remove canonical

/-- A request that registers a URL with the given canonical form. -/
def Adds (canonicalize : Canonicalize) (request : Request) (canonical : RawText) : Prop :=
  ∃ url, request = .register url ∧ (canonicalize url).result = .ok canonical

/-- A request that unregisters a URL with the given canonical form. -/
def Removes (canonicalize : Canonicalize) (request : Request) (canonical : RawText) : Prop :=
  ∃ url, request = .unregister url ∧ (canonicalize url).result = .ok canonical

end Request

/-- Serves a request. -/
def serve (canonicalize : Canonicalize) : Request → Action Registry (Option RawText)
  | .register url => do return some (← register canonicalize url)
  | .unregister url => do
    unregister canonicalize url
    return none

variable {canonicalize : Canonicalize} {registry : Registry} {request : Request}
  {url canonical : RawText} {failure : Failure}

/-! ## Steps -/

/-- A request whose URL has no canonical form fails for the same reason and changes nothing. -/
theorem serve_of_error (h : (canonicalize request.url).result = .error failure) :
    (serve canonicalize request registry).result = .error failure ∧
      (serve canonicalize request registry).state = registry := by
  cases request with
  | register url =>
      have hregister : (register canonicalize url registry).result = .error failure :=
        result_bind_of_error h
      refine ⟨result_bind_of_error hregister, (state_bind_of_error hregister).trans ?_⟩
      exact state_bind_of_error h
  | unregister url =>
      have hunregister : (unregister canonicalize url registry).result = .error failure :=
        result_bind_of_error h
      refine ⟨result_bind_of_error hunregister, (state_bind_of_error hunregister).trans ?_⟩
      exact state_bind_of_error h

theorem serve_of_ok (h : (canonicalize request.url).result = .ok canonical) :
    (serve canonicalize request registry).result = .ok (request.reply canonical) ∧
      (serve canonicalize request registry).state = request.change canonical registry := by
  cases request with
  | register url =>
      have hresult : (register canonicalize url registry).result = .ok canonical :=
        result_bind_of_ok h
      have hstate : (register canonicalize url registry).state = registry.add canonical :=
        state_bind_of_ok h
      exact ⟨result_bind_of_ok hresult, (state_bind_of_ok hresult).trans hstate⟩
  | unregister url =>
      have hresult : (unregister canonicalize url registry).result = .ok () :=
        result_bind_of_ok h
      have hstate : (unregister canonicalize url registry).state = registry.remove canonical :=
        state_bind_of_ok h
      exact ⟨result_bind_of_ok hresult, (state_bind_of_ok hresult).trans hstate⟩

/-- The members after a request are those that it adds and those before that it does not remove. -/
theorem mem_serve (canonicalize : Canonicalize) (request : Request) (registry : Registry)
    (member : RawText) :
    member ∈ (serve canonicalize request registry).state.urls ↔
      request.Adds canonicalize member ∨
        member ∈ registry.urls ∧ ¬ request.Removes canonicalize member := by
  cases hurl : (canonicalize request.url).result with
  | error failure =>
      have hstate : (serve canonicalize request registry).state = registry :=
        (serve_of_error hurl).2
      have hadds : ¬ request.Adds canonicalize member := by
        rintro ⟨url, rfl, hok⟩
        cases hurl.symm.trans hok
      have hremoves : ¬ request.Removes canonicalize member := by
        rintro ⟨url, rfl, hok⟩
        cases hurl.symm.trans hok
      simp [hstate, hadds, hremoves]
  | ok canonical =>
      -- The one form that the request is about is added or removed, and all others stay.
      have hstate : (serve canonicalize request registry).state =
          request.change canonical registry := (serve_of_ok hurl).2
      rw [hstate]
      cases request with
      | register url =>
          have hurl : (canonicalize url).result = .ok canonical := hurl
          simp [Request.change, Request.Adds, Request.Removes, hurl, eq_comm]
      | unregister url =>
          have hurl : (canonicalize url).result = .ok canonical := hurl
          simp [Request.change, Request.Adds, Request.Removes, hurl, eq_comm]

/-- A member after a run was added by a request and not removed since, or was there from the start
and never removed. -/
theorem mem_stateAfter (canonicalize : Canonicalize) (requests : List Request)
    (registry : Registry) (member : RawText) :
    member ∈ (stateAfter (serve canonicalize) requests registry).urls ↔
      (member ∈ registry.urls ∧
        ∀ request ∈ requests, ¬ request.Removes canonicalize member) ∨
      ∃ earlier request later, requests = earlier ++ request :: later ∧
        request.Adds canonicalize member ∧
        ∀ next ∈ later, ¬ next.Removes canonicalize member := by
  induction requests generalizing registry with
  | nil => simp [stateAfter]
  | cons first rest ih =>
      -- The run goes on from what the first request leaves, so that the first one only has the
      -- last word on what no later request removes.
      rw [stateAfter, ih, mem_serve]
      constructor
      · rintro (⟨hadds | ⟨hmem, hkept⟩, hnever⟩ | ⟨earlier, request, later, rfl, hrequest⟩)
        · exact Or.inr ⟨[], first, rest, rfl, hadds, hnever⟩
        · exact Or.inl ⟨hmem, List.forall_mem_cons.mpr ⟨hkept, hnever⟩⟩
        · exact Or.inr ⟨first :: earlier, request, later, rfl, hrequest⟩
      · rintro (⟨hmem, hnever⟩ | ⟨earlier, request, later, hsplit, hadds, hnever⟩)
        · obtain ⟨hkept, hnever⟩ := List.forall_mem_cons.mp hnever
          exact Or.inl ⟨Or.inr ⟨hmem, hkept⟩, hnever⟩
        · cases earlier with
          | nil =>
              obtain ⟨rfl, rfl⟩ := List.cons.inj hsplit
              exact Or.inl ⟨Or.inl hadds, hnever⟩
          | cons other earlier =>
              obtain ⟨rfl, rfl⟩ := List.cons.inj hsplit
              exact Or.inr ⟨earlier, request, later, rfl, hadds, hnever⟩

/-! ## Construction -/

section Seeds

variable {seeds rest : List RawText} {seed : RawText}

theorem ofUrls_cons_of_error (h : (canonicalize seed).result = .error failure) :
    (ofUrls canonicalize (seed :: rest)).result = .error failure := by
  simp [ofUrls, Logged.bind, h]

theorem ofUrls_cons_of_ok (h : (canonicalize seed).result = .ok canonical) :
    (ofUrls canonicalize (seed :: rest)).result =
      (ofUrls canonicalize rest).result.map fun registry => registry.add canonical := by
  simp only [ofUrls, Logged.bind, h]
  cases (ofUrls canonicalize rest).result <;> rfl

/-- A registry can be made of URLs exactly if all of them have a canonical form, and then these
forms are its members. -/
theorem ofUrls_ok (h : ∀ seed ∈ seeds, ∃ canonical, (canonicalize seed).result = .ok canonical) :
    ∃ registry, (ofUrls canonicalize seeds).result = .ok registry ∧
      ∀ member, member ∈ registry.urls ↔
        ∃ seed ∈ seeds, (canonicalize seed).result = .ok member := by
  induction seeds with
  | nil => exact ⟨empty, rfl, by simp [empty]⟩
  | cons seed rest ih =>
      obtain ⟨⟨canonical, hseed⟩, hrest⟩ := List.forall_mem_cons.mp h
      obtain ⟨registry, hregistry, hmem⟩ := ih hrest
      refine ⟨registry.add canonical, ?_, fun member => ?_⟩
      · rw [ofUrls_cons_of_ok hseed, hregistry]
        rfl
      · simp [mem_add, hmem, hseed, eq_comm]

/-- The first URL without a canonical form decides with which failure construction ends. -/
theorem ofUrls_error {before after : List RawText}
    (hbefore : ∀ other ∈ before, ∃ canonical, (canonicalize other).result = .ok canonical)
    (hseed : (canonicalize seed).result = .error failure) :
    (ofUrls canonicalize (before ++ seed :: after)).result = .error failure := by
  induction before with
  | nil => exact ofUrls_cons_of_error hseed
  | cons other before ih =>
      obtain ⟨⟨canonical, hother⟩, hrest⟩ := List.forall_mem_cons.mp hbefore
      rw [List.cons_append, ofUrls_cons_of_ok hother, ih hrest]
      rfl

/-- Either all seeds have a canonical form or there is a first one that has none. -/
theorem forall_ok_or_first_error (canonicalize : Canonicalize) (seeds : List RawText) :
    (∀ seed ∈ seeds, ∃ canonical, (canonicalize seed).result = .ok canonical) ∨
      ∃ before seed after failure, seeds = before ++ seed :: after ∧
        (∀ other ∈ before, ∃ canonical, (canonicalize other).result = .ok canonical) ∧
        (canonicalize seed).result = .error failure := by
  induction seeds with
  | nil => exact Or.inl (by simp)
  | cons seed rest ih =>
      cases hseed : (canonicalize seed).result with
      | error failure => exact Or.inr ⟨[], seed, rest, failure, rfl, by simp, hseed⟩
      | ok canonical =>
          rcases ih with hrest | ⟨before, other, after, failure, rfl, hbefore, hother⟩
          · exact Or.inl (List.forall_mem_cons.mpr ⟨⟨canonical, hseed⟩, hrest⟩)
          · refine Or.inr ⟨seed :: before, other, after, failure, rfl, ?_, hother⟩
            exact List.forall_mem_cons.mpr ⟨⟨canonical, hseed⟩, hbefore⟩

/-- Construction fails exactly if some seed has no canonical form. -/
theorem exists_ofUrls_error_iff :
    (∃ failure, (ofUrls canonicalize seeds).result = .error failure) ↔
      ∃ seed ∈ seeds, ∃ failure, (canonicalize seed).result = .error failure := by
  rcases forall_ok_or_first_error canonicalize seeds with
    hok | ⟨before, seed, after, failure, rfl, hbefore, hseed⟩
  · obtain ⟨registry, hregistry, -⟩ := ofUrls_ok hok
    constructor
    · rintro ⟨failure, herror⟩
      cases hregistry.symm.trans herror
    · rintro ⟨seed, hmem, failure, herror⟩
      obtain ⟨canonical, hseed⟩ := hok seed hmem
      cases hseed.symm.trans herror
  · constructor
    · intro _
      exact ⟨seed, List.mem_append_right _ List.mem_cons_self, failure, hseed⟩
    · intro _
      exact ⟨failure, ofUrls_error hbefore hseed⟩

theorem forall_ok_of_ofUrls_ok (h : (ofUrls canonicalize seeds).result = .ok registry) :
    ∀ seed ∈ seeds, ∃ canonical, (canonicalize seed).result = .ok canonical := by
  intro seed hmem
  cases hseed : (canonicalize seed).result with
  | ok canonical => exact ⟨canonical, rfl⟩
  | error failure =>
      obtain ⟨other, herror⟩ := exists_ofUrls_error_iff.mpr ⟨seed, hmem, failure, hseed⟩
      cases h.symm.trans herror

theorem mem_ofUrls (h : (ofUrls canonicalize seeds).result = .ok registry) (member : RawText) :
    member ∈ registry.urls ↔ ∃ seed ∈ seeds, (canonicalize seed).result = .ok member := by
  obtain ⟨other, hother, hmem⟩ := ofUrls_ok (forall_ok_of_ofUrls_ok h)
  cases h.symm.trans hother
  exact hmem member

/-- Neither the order of the seeds matters nor how often one is repeated. -/
theorem ofUrls_of_same_seeds {others : List RawText} (hsame : ∀ url, url ∈ others ↔ url ∈ seeds)
    (h : (ofUrls canonicalize seeds).result = .ok registry) :
    ∃ other, (ofUrls canonicalize others).result = .ok other ∧
      ∀ member, member ∈ other.urls ↔ member ∈ registry.urls := by
  have hok : ∀ seed ∈ others, ∃ canonical, (canonicalize seed).result = .ok canonical :=
    fun seed hmem => forall_ok_of_ofUrls_ok h seed ((hsame seed).mp hmem)
  obtain ⟨other, hother, hmem⟩ := ofUrls_ok hok
  refine ⟨other, hother, fun member => ?_⟩
  rw [hmem, mem_ofUrls h]
  simp only [hsame]

end Seeds

/-! ## Lookups -/

/-- Looking a URL up takes it as it is, logs nothing and changes nothing. -/
theorem find_eq (url : RawText) (registry : Registry) :
    find url registry =
      { result := if url ∈ registry.urls then .ok () else .error .repositoryNotFound
        state := registry } := by
  unfold find contains
  by_cases hmem : url ∈ registry.urls
  · simp [hmem]
  · simp [hmem]

end Registry

namespace Desk

/-- A repository is verified by looking its canonical URL up. -/
theorem verify_result_eq_ok_iff {γ : Type} {rules : Rules γ} {desk : Desk γ} {url : RawText}
    (hrules : rules.validateUrl = RepositoryUrl.canonicalize) :
    ((services rules).verify url desk).result = .ok () ↔
      ∃ canonical, (RepositoryUrl.canonicalize url).result = .ok canonical ∧
        canonical ∈ desk.registry.urls := by
  have hvalidate : ((services rules).validateUrl url desk).result =
      (RepositoryUrl.canonicalize url).result := by
    rw [← hrules]
    rfl
  cases hurl : (RepositoryUrl.canonicalize url).result with
  | error failure =>
      have hverify : ((services rules).verify url desk).result = .error failure :=
        result_bind_of_error (hvalidate.trans hurl)
      simp [hverify]
  | ok canonical =>
      have hverify : ((services rules).verify url desk).result =
          (Registry.find canonical desk.registry).result :=
        result_bind_of_ok (hvalidate.trans hurl)
      rw [hverify, Registry.find_eq]
      by_cases hmem : canonical ∈ desk.registry.urls <;> simp [hmem]

end Desk

namespace Registry

/-! ## The last word -/

/-- The last word on a canonical form is that it belongs to the registry: it was added by a request
and not removed since, or it comes from a seed and was never removed. -/
def LastAdded (canonicalize : Canonicalize) (seeds : List RawText) (requests : List Request)
    (member : RawText) : Prop :=
  ((∃ seed ∈ seeds, (canonicalize seed).result = .ok member) ∧
    ∀ request ∈ requests, ¬ request.Removes canonicalize member) ∨
  ∃ earlier request later, requests = earlier ++ request :: later ∧
    request.Adds canonicalize member ∧ ∀ next ∈ later, ¬ next.Removes canonicalize member

theorem mem_stateAfter_ofUrls {seeds : List RawText} (requests : List Request)
    (h : (ofUrls canonicalize seeds).result = .ok registry) (member : RawText) :
    member ∈ (stateAfter (serve canonicalize) requests registry).urls ↔
      LastAdded canonicalize seeds requests member := by
  rw [mem_stateAfter, mem_ofUrls h, LastAdded]

/-- What was added last is the canonical form of some URL. -/
theorem LastAdded.exists_url {seeds : List RawText} {requests : List Request} {member : RawText}
    (h : LastAdded canonicalize seeds requests member) :
    ∃ url, (canonicalize url).result = .ok member := by
  rcases h with ⟨⟨seed, -, hseed⟩, -⟩ | ⟨-, -, -, -, ⟨url, -, hurl⟩, -⟩
  · exact ⟨seed, hseed⟩
  · exact ⟨url, hurl⟩

/-- Whatever the canonical forms are, a registry can be made of seeds unless one of them has none,
and the first such seed tells why it cannot. After a run the registry holds the forms on which the
last word is that they were added; a request for a URL without canonical form fails and changes
nothing, a lookup takes the URL as it is, and seeds count as a set. Where the canonical forms are
those of repository URLs, all members are canonical, and a repository is verified exactly if its
canonical URL is a member. -/
theorem last_word_decides_membership (canonicalize : Canonicalize) (seeds : List RawText)
    (requests : List Request) :
    let run := stateAfter (serve canonicalize) requests
    ((∃ failure, (ofUrls canonicalize seeds).result = .error failure) ↔
      ∃ seed ∈ seeds, ∃ failure, (canonicalize seed).result = .error failure) ∧
    (∀ before seed after failure, seeds = before ++ seed :: after →
      (∀ other ∈ before, ∃ canonical, (canonicalize other).result = .ok canonical) →
      (canonicalize seed).result = .error failure →
      (ofUrls canonicalize seeds).result = .error failure) ∧
    (∀ (registry : Registry) (request : Request),
      (∀ canonical, (canonicalize request.url).result = .ok canonical →
        (serve canonicalize request registry).result = .ok (request.reply canonical)) ∧
      ∀ failure, (canonicalize request.url).result = .error failure →
        (serve canonicalize request registry).result = .error failure ∧
          (serve canonicalize request registry).state = registry) ∧
    ∀ registry, (ofUrls canonicalize seeds).result = .ok registry →
      (∀ member, member ∈ (run registry).urls ↔ LastAdded canonicalize seeds requests member) ∧
      (∀ url, find url (run registry) =
        { result := if url ∈ (run registry).urls then .ok () else .error .repositoryNotFound
          state := run registry }) ∧
      (∀ others : List RawText, (∀ url, url ∈ others ↔ url ∈ seeds) →
        ∃ other, (ofUrls canonicalize others).result = .ok other ∧
          ∀ member, member ∈ other.urls ↔ member ∈ registry.urls) ∧
      (canonicalize = RepositoryUrl.canonicalize → ∀ member ∈ (run registry).urls,
        (RepositoryUrl.canonicalize member).result = .ok member) ∧
      ∀ (γ : Type) (rules : Desk.Rules γ) (desk : Desk γ),
        rules.validateUrl = RepositoryUrl.canonicalize → desk.registry = run registry →
        ∀ url, ((Desk.services rules).verify url desk).result = .ok () ↔
          ∃ canonical, (RepositoryUrl.canonicalize url).result = .ok canonical ∧
            canonical ∈ (run registry).urls := by
  intro run
  refine ⟨exists_ofUrls_error_iff, ?_, ?_, ?_⟩
  · rintro before seed after failure rfl hbefore hseed
    exact ofUrls_error hbefore hseed
  · intro registry request
    exact ⟨fun canonical hurl => (serve_of_ok hurl).1, fun failure hurl => serve_of_error hurl⟩
  · intro registry hregistry
    have hmem (member : RawText) : member ∈ (run registry).urls ↔
        LastAdded canonicalize seeds requests member :=
      mem_stateAfter_ofUrls requests hregistry member
    refine ⟨hmem, fun url => find_eq url (run registry), ?_, ?_, ?_⟩
    · exact fun others hsame => ofUrls_of_same_seeds hsame hregistry
    · rintro rfl member hmember
      obtain ⟨url, hurl⟩ := ((hmem member).mp hmember).exists_url
      rw [RepositoryUrl.canonicalize_result_eq_ok_iff] at hurl ⊢
      exact RepositoryUrl.canonicalForm?_of_canonicalForm? hurl
    · intro γ rules desk hrules hdesk url
      rw [← hdesk]
      exact Desk.verify_result_eq_ok_iff hrules

theorem last_word_decides_membership_validate :
    let run := stateAfter (serve RepositoryUrl.canonicalize)
      [.unregister "git:a.git/", .register " git:b.git", .register "c"]
    let rules := (Desk.issuing RepositoryUrl.canonicalize ⟨0, some 0, none⟩).rules
    (ofUrls RepositoryUrl.canonicalize ["git:a.git", "c"]).result = .error .malformedUrl ∧
      ∃ registry, (ofUrls RepositoryUrl.canonicalize ["git:a.git"]).result = .ok registry ∧
        RawText.ofString "git:a.git" ∉ (run registry).urls ∧
        RawText.ofString "git:b.git" ∈ (run registry).urls ∧
        (serve RepositoryUrl.canonicalize (.register "c") registry).state = registry ∧
        (∃ other,
          (ofUrls RepositoryUrl.canonicalize ["git:a.git", "git:a.git"]).result = .ok other ∧
          ∀ member, member ∈ other.urls ↔ member ∈ registry.urls) ∧
        (RepositoryUrl.canonicalize "git:b.git").result = .ok "git:b.git" ∧
        let desk : Desk Unit := { Desk.hourly with registry := run registry }
        ((Desk.services rules).verify "git:b.git/" desk).result = .ok () := by
  intro run rules
  have ha : (RepositoryUrl.canonicalize "git:a.git").result = .ok "git:a.git" := by decide +kernel
  have haSlash : (RepositoryUrl.canonicalize "git:a.git/").result = .ok "git:a.git" := by
    decide +kernel
  have hb : (RepositoryUrl.canonicalize " git:b.git").result = .ok "git:b.git" := by decide +kernel
  have hbSlash : (RepositoryUrl.canonicalize "git:b.git/").result = .ok "git:b.git" := by
    decide +kernel
  have hc : (RepositoryUrl.canonicalize "c").result = .error .malformedUrl := by decide +kernel
  have hseed : ∀ seed ∈ [RawText.ofString "git:a.git"],
      ∃ canonical, (RepositoryUrl.canonicalize seed).result = .ok canonical := by simp [ha]
  obtain ⟨registry, hregistry, -⟩ := ofUrls_ok hseed
  obtain ⟨-, hfirst, -, -⟩ :=
    last_word_decides_membership RepositoryUrl.canonicalize ["git:a.git", "c"] []
  obtain ⟨-, -, hstep, hrun⟩ :=
    last_word_decides_membership RepositoryUrl.canonicalize ["git:a.git"]
      [.unregister "git:a.git/", .register " git:b.git", .register "c"]
  obtain ⟨hmem, -, hsame, hcanonical, hverify⟩ := hrun registry hregistry
  have hadded : RawText.ofString "git:b.git" ∈ (run registry).urls := by
    refine (hmem _).mpr (Or.inr ⟨[_], _, [_], rfl, ⟨_, rfl, hb⟩, ?_⟩)
    simp [Request.Removes]
  refine ⟨hfirst ["git:a.git"] "c" [] _ rfl hseed hc, registry, hregistry, ?_, hadded,
    ((hstep registry (.register "c")).2 _ hc).2, hsame _ (by simp), hcanonical rfl _ hadded, ?_⟩
  · rw [hmem]
    rintro (⟨-, hkept⟩ | ⟨earlier, request, later, hsplit, ⟨url, rfl, hurl⟩, -⟩)
    · exact hkept _ List.mem_cons_self ⟨_, rfl, haSlash⟩
    · have hrequest : Request.register url ∈ [Request.unregister "git:a.git/",
          .register " git:b.git", .register "c"] := by
        rw [hsplit]
        exact List.mem_append_right _ List.mem_cons_self
      simp only [List.mem_cons, List.not_mem_nil, reduceCtorEq, Request.register.injEq, or_false,
        false_or] at hrequest
      rcases hrequest with rfl | rfl
      · rw [hb] at hurl
        exact absurd hurl (by decide)
      · cases hc.symm.trans hurl
  · intro desk
    have hrules : rules.validateUrl = RepositoryUrl.canonicalize := by simp [rules, Desk.issuing]
    have hdesk : desk.registry = run registry := by simp only [desk]
    exact (hverify Unit rules desk hrules hdesk "git:b.git/").mpr ⟨"git:b.git", hbSlash, hadded⟩

end Registry

end ScanAccess
