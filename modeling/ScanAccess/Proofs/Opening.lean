import ScanAccess.Startup
import ScanAccess.Proofs.Confinement
import ScanAccess.Proofs.History
import ScanAccess.Proofs.OwnVariables
import ScanAccess.Proofs.Redacted
import ScanAccess.Proofs.RegistryRun

/-! # Opening a desk by accepted settings

Settings that were accepted open a desk but for two reasons: a repository without a canonical
form, and after that a maximal age that no duration reaches. The desk then has what the
settings say. That ages and sizes have to be positive is checked again where they are used,
and these checks never fail: neither on opening nor later. All of it holds for every library of
settings that accepts nothing out of bounds.
-/

namespace ScanAccess

namespace Logged

variable {α β : Type} {x : Logged α} {f : α → Logged β}

theorem result_bind_of_ok {value : α} (h : x.result = .ok value) :
    (x >>= f).result = (f value).result := by
  change (Logged.bind x f).result = _
  simp only [Logged.bind, h]

theorem result_bind_of_error {failure : Failure} (h : x.result = .error failure) :
    (x >>= f).result = .error failure := by
  change (Logged.bind x f).result = _
  simp only [Logged.bind, h]

end Logged

namespace Duration

/-- So many seconds are a positive duration if they are less than a thousand million days. -/
theorem ofSeconds?_eq {n : Int} (h : 0 < n) :
    ofSeconds? n = if n < 1000000000 * 86400 then some ⟨1000000 * n⟩ else none := by
  have hrange : inRange ⟨1000000 * n⟩ = true ↔ n < 1000000000 * 86400 := by
    simp only [inRange, Bool.and_eq_true, decide_eq_true_eq]
    rw [perDay]
    omega
  simp only [ofSeconds?, ofMicroseconds?, hrange]

end Duration

namespace TokenSettings

variable {settings : TokenSettings}

/-- Settings with numbers as they are needed: a size that is neither too small nor too large, and a
positive age, if there is one. -/
structure Bounded (settings : TokenSettings) : Prop where
  low : 16 ≤ settings.tokenBytes
  high : settings.tokenBytes ≤ 256
  age_pos : ∀ seconds ∈ settings.maxAgeSeconds, 0 < seconds

theorem bounded_of_withinBounds (h : Settings.WithinBounds settings) : settings.Bounded := by
  have hbytes := h .tokenBytes settings.tokenBytes rfl
  refine ⟨?_, ?_, fun seconds hseconds => ?_⟩
  · exact of_decide_eq_true (hbytes (.atLeast 16) (by decide))
  · exact of_decide_eq_true (hbytes (.atMost 256) (by decide))
  · have hage : Settings.valueOf settings .maxAgeSeconds = some (.number seconds) :=
      congrArg (Option.map Settings.FieldValue.number) hseconds
    exact of_decide_eq_true (h .maxAgeSeconds seconds hage (.moreThan 0) (by decide))

/-- Some repository has no canonical form. -/
def HasMalformedUrl (settings : TokenSettings) : Prop :=
  ∃ url ∈ settings.repositories, ∃ failure, (RepositoryUrl.canonicalize url).result = .error failure

/-- The maximal age is a thousand million days or more. -/
def AgeTooLong (settings : TokenSettings) : Prop :=
  ∃ seconds ∈ settings.maxAgeSeconds, 1000000000 * 86400 ≤ seconds

/-- The maximal age as a duration. -/
def age? (settings : TokenSettings) : Option Duration :=
  settings.maxAgeSeconds.map fun seconds => ⟨1000000 * seconds⟩

theorem maxAge_of_ageTooLong (hbounded : settings.Bounded) (h : settings.AgeTooLong) :
    settings.maxAge = .error .durationOutOfRange := by
  obtain ⟨seconds, hseconds, hlong⟩ := h
  have hpos := hbounded.age_pos seconds hseconds
  have hage : settings.maxAgeSeconds = some seconds := hseconds
  simp only [maxAge, hage, Duration.ofSeconds?_eq hpos, if_neg (Int.not_lt.mpr hlong)]

theorem maxAge_of_not_ageTooLong (hbounded : settings.Bounded) (h : ¬ settings.AgeTooLong) :
    settings.maxAge = .ok settings.age? := by
  unfold maxAge age?
  cases hage : settings.maxAgeSeconds with
  | none => rfl
  | some seconds =>
      have hshort : seconds < 1000000000 * 86400 :=
        Int.not_le.mp fun hlong => h ⟨seconds, hage, hlong⟩
      simp only [Duration.ofSeconds?_eq (hbounded.age_pos seconds hage), if_pos hshort]
      rfl

theorem isPositive_of_mem_age? (hbounded : settings.Bounded) :
    ∀ age ∈ settings.age?, age.isPositive = true := by
  intro age hmem
  obtain ⟨seconds, hseconds, rfl⟩ := Option.mem_map.mp hmem
  have hpos := hbounded.age_pos seconds hseconds
  simp only [Duration.isPositive, decide_eq_true_eq]
  omega

end TokenSettings

namespace Startup

open ScanAccess.Action

variable {settings : TokenSettings} {clock : Timestamp} {entropy : Entropy}

theorem rules_registerUrl : rules.registerUrl = RepositoryUrl.canonicalize := by
  rw [rules]

/-! ## Opening -/

/-- A new desk that is as the settings say. -/
structure Opened (settings : TokenSettings) (clock : Timestamp) (entropy : Entropy)
    (desk : Desk TokenSource) : Prop where
  records : desk.store.records = []
  maxAge : desk.store.maxAge = settings.age?
  members : ∀ member, member ∈ desk.registry.urls ↔
    ∃ url ∈ settings.repositories, (RepositoryUrl.canonicalize url).result = .ok member
  source : ∃ generator : TokenGenerator, desk.source = .generated generator entropy ∧
    generator.size = settings.tokenBytes
  clock : desk.clock = clock

theorem openDesk_of_malformedUrl (h : settings.HasMalformedUrl) :
    (openDesk settings clock entropy).result = .error .malformedUrl := by
  obtain ⟨failure, hregistry⟩ := Registry.exists_ofUrls_error_iff.mpr h
  have hfailure := (Registry.confined_ofUrls RepositoryUrl.confined_canonicalize
    settings.repositories).fails failure hregistry
  rw [hfailure, ← rules_registerUrl] at hregistry
  exact Logged.result_bind_of_error hregistry

theorem exists_ofUrls_eq_ok (h : ¬ settings.HasMalformedUrl) :
    ∃ registry,
      (Registry.ofUrls rules.registerUrl settings.repositories).result = .ok registry := by
  rw [rules_registerUrl]
  cases hregistry : (Registry.ofUrls RepositoryUrl.canonicalize settings.repositories).result with
  | ok registry => exact ⟨registry, rfl⟩
  | error failure => exact absurd (Registry.exists_ofUrls_error_iff.mp ⟨failure, hregistry⟩) h

theorem openDesk_of_ageTooLong (hbounded : settings.Bounded) (hurls : ¬ settings.HasMalformedUrl)
    (h : settings.AgeTooLong) :
    (openDesk settings clock entropy).result = .error .durationOutOfRange := by
  obtain ⟨registry, hregistry⟩ := exists_ofUrls_eq_ok hurls
  have hage := settings.maxAge_of_ageTooLong hbounded h
  exact (Logged.result_bind_of_ok hregistry).trans (Logged.result_bind_of_error hage)

theorem openDesk_of_bounded (clock : Timestamp) (entropy : Entropy) (hbounded : settings.Bounded)
    (hurls : ¬ settings.HasMalformedUrl) (h : ¬ settings.AgeTooLong) :
    ∃ desk, (openDesk settings clock entropy).result = .ok desk ∧
      Opened settings clock entropy desk := by
  obtain ⟨registry, hregistry⟩ := exists_ofUrls_eq_ok hurls
  have hage := settings.maxAge_of_not_ageTooLong hbounded h
  have hpositive := settings.isPositive_of_mem_age? hbounded
  have hstore : Store.create settings.age? = .ok _ := dif_pos hpositive
  -- Both checks of positive numbers pass by the bounds of accepted settings.
  have hsize : 0 < settings.tokenBytes := lt_of_lt_of_le (by decide) hbounded.low
  have hgenerator : TokenGenerator.ofSize settings.tokenBytes = .ok _ := dif_pos hsize
  have hopen : (openDesk settings clock entropy).result = .ok _ :=
    (Logged.result_bind_of_ok hregistry).trans <| (Logged.result_bind_of_ok hage).trans <|
      (Logged.result_bind_of_ok hstore).trans (Logged.result_bind_of_ok hgenerator)
  refine ⟨_, hopen, ?_⟩
  exact
    { records := rfl
      maxAge := rfl
      members := fun member => by rw [Registry.mem_ofUrls hregistry, rules_registerUrl]
      source := ⟨_, rfl, Int.toNat_of_nonneg hsize.le⟩
      clock := rfl }

/-! ## Starting up -/

/-- The settings that starting up loads. -/
def Conditions.loaded (conditions : Conditions) : Logged AllSettings :=
  Settings.load conditions.library
    (if conditions.preload then conditions.calls else conditions.calls + 1) conditions.env
    conditions.file

/-- The console that starting up goes on with. There always is one if none is to be set up. -/
def Conditions.console (conditions : Conditions) : Except Failure Log.Console :=
  if conditions.configure then Log.Console.configure conditions.host conditions.env
  else .ok (Log.Console.unconfigured conditions.host conditions.env conditions.level)

/-- With settings and a console, starting up comes to what opening a desk comes to. -/
theorem start_result {conditions : Conditions} {settings : AllSettings} {console : Log.Console}
    (hload : conditions.loaded.result = .ok settings)
    (hconsole : conditions.console = .ok console) :
    (start conditions).result =
      (openDesk settings.token conditions.clock conditions.entropy).result.map
        fun desk => { settings, desk, console } := by
  obtain ⟨library, host, calls, env, file, level, clock, entropy, configure, preload⟩ := conditions
  have hopen : ∀ loaded : Logged AllSettings, loaded.result = .ok settings →
      (loaded >>= fun settings => openDesk settings.token clock entropy >>= fun desk =>
        (pure { settings, desk, console } : Logged Running)).result =
      (openDesk settings.token clock entropy).result.map
        fun desk => { settings, desk, console } := by
    intro loaded hloaded
    rw [Logged.result_bind_of_ok hloaded]
    cases hdesk : (openDesk settings.token clock entropy).result with
    | error failure => exact Logged.result_bind_of_error hdesk
    | ok desk => exact Logged.result_bind_of_ok hdesk
  simp only [Conditions.console] at hconsole
  -- Settings that were loaded before are opened without their events, which changes no result.
  cases preload with
  | true =>
      have hloaded : (Settings.load library calls env file).result = .ok settings := hload
      simp only [start, if_true, Option.map_some, hloaded, hconsole]
      exact hopen (Logged.ofExcept (.ok settings)) rfl
  | false =>
      have hloaded : (Settings.load library (calls + 1) env file).result = .ok settings := hload
      simp only [start, Bool.false_eq_true, if_false, Option.map_none, hconsole]
      exact hopen _ hloaded

/-- The settings that starting up loads are within their bounds. -/
theorem bounded_of_loaded {conditions : Conditions} {settings : AllSettings}
    (hlibrary : conditions.library.Documented)
    (hload : conditions.loaded.result = .ok settings) : settings.token.Bounded := by
  rw [Conditions.loaded, Settings.load_result] at hload
  exact TokenSettings.bounded_of_withinBounds (hlibrary.bounds (Loader.eq_ok_of_mapError hload))

/-! ## Later requests -/

/-- A later request, with the clock, the time for issued tokens and the entropy of that
moment. -/
structure Visit where
  now : Timestamp
  issueTime : Option Timestamp
  entropy : Entropy
  request : DeskRequest

/-- Answers a visit. -/
def serve (visit : Visit) : Action (Desk TokenSource) DeskReply :=
  fun desk => Desk.answer { rules with issueTime := visit.issueTime } visit.request
    { desk with clock := visit.now, source := desk.source.setEntropy visit.entropy }

/-- A failure of the checks that ages and sizes are positive. -/
def IsGuard (failure : Failure) : Prop :=
  failure = .ageNotPositive ∨ failure = .sizeNotPositive

theorem not_isGuard_of_failing {issueTime : Option Timestamp} {failure : Failure}
    (h : Desk.Failing { rules with issueTime } failure) : ¬ IsGuard failure := by
  cases h with
  | url h | registration h =>
      simp only [rules] at h
      rw [(RepositoryUrl.confined_canonicalize _).fails _ h]
      simp [IsGuard]
  | token h => cases (TokenSource.confined_next _).fails _ h <;> simp [IsGuard]
  | store h => cases h <;> simp [IsGuard]
  | _ => simp [IsGuard]

/-- No request to a desk fails in these checks. -/
theorem not_isGuard_of_serve {visit : Visit} {desk : Desk TokenSource} {failure : Failure}
    (h : (serve visit desk).result = .error failure) : ¬ IsGuard failure :=
  not_isGuard_of_failing ((Desk.confined_answer _ visit.request _).fails failure h)

/-- Whichever library of settings there is, accepted settings are within their bounds. They open a
desk unless a repository has no canonical form, which is reported first, or the maximal age is out
of range; nothing else fails. The desk is then as the settings say, and whatever is asked of it at
whatever time and with whatever entropy, it never fails for an age or a size that is not
positive. -/
theorem start_of_accepted {conditions : Conditions} {settings : AllSettings}
    {console : Log.Console} (hlibrary : conditions.library.Documented)
    (hload : conditions.loaded.result = .ok settings)
    (hconsole : conditions.console = .ok console) :
    let result := (start conditions).result
    settings.token.Bounded ∧
    (result = .error .malformedUrl ↔ settings.token.HasMalformedUrl) ∧
    (result = .error .durationOutOfRange ↔
      ¬ settings.token.HasMalformedUrl ∧ settings.token.AgeTooLong) ∧
    (¬ settings.token.HasMalformedUrl → ¬ settings.token.AgeTooLong →
      ∃ running, result = .ok running) ∧
    (∀ failure, result = .error failure → ¬ IsGuard failure) ∧
    ∀ running, result = .ok running →
      running.settings = settings ∧
      Opened settings.token conditions.clock conditions.entropy running.desk ∧
      ∀ visits, ∀ entry ∈ history serve visits running.desk, ∀ failure,
        entry.2 = .error failure → ¬ IsGuard failure := by
  have hbounded : settings.token.Bounded := bounded_of_loaded hlibrary hload
  have hvisits (desk : Desk TokenSource) : ∀ visits, ∀ entry ∈ history serve visits desk,
      ∀ failure, entry.2 = .error failure → ¬ IsGuard failure := by
    intro visits entry hmem failure hfailure
    obtain ⟨-, reached, hreached⟩ := exists_of_mem_history serve hmem
    exact not_isGuard_of_serve (hreached ▸ hfailure)
  dsimp only
  rw [start_result hload hconsole]
  refine ⟨hbounded, ?_⟩
  -- The registry comes before the store, so a malformed URL hides an age out of range.
  by_cases hurls : settings.token.HasMalformedUrl
  · rw [openDesk_of_malformedUrl hurls]
    simp [Except.map, hurls, IsGuard]
  · by_cases hage : settings.token.AgeTooLong
    · rw [openDesk_of_ageTooLong hbounded hurls hage]
      simp [Except.map, hurls, hage, IsGuard]
    · obtain ⟨desk, hopen, hopened⟩ :=
        openDesk_of_bounded conditions.clock conditions.entropy hbounded hurls hage
      rw [hopen]
      simp only [Except.map, reduceCtorEq, hurls, hage, and_false, iff_self, true_and]
      refine ⟨fun _ _ => ⟨_, rfl⟩, fun _ h => (nomatch h), ?_⟩
      rintro _ ⟨⟩
      exact ⟨rfl, hopened, hvisits desk⟩

/-- Conditions that set an age and two spellings of one repository. -/
def hourlyConditions : Conditions :=
  { library := Settings.runningLibrary
    host := Log.roomyHost
    calls := 0
    env := [("HUSKYCI_TOKEN_BYTES", "64"), ("HUSKYCI_TOKEN_MAX_AGE_SECONDS", "3600"),
      ("HUSKYCI_REGISTERED_REPOSITORIES", "[\"git:a.git\", \" git:a.git/\"]")]
    file := none
    level := Log.Level.info
    clock := ⟨0, some 0, none⟩
    entropy := .counting
    configure := false
    preload := true }

theorem start_of_accepted_hourly :
    let canonical : RawText := "git:a.git"
    ∃ running, (start hourlyConditions).result = .ok running ∧
      running.desk.store.maxAge = some ⟨3600000000⟩ ∧
      canonical ∈ running.desk.registry.urls := by
  intro canonical
  let settings : TokenSettings :=
    { tokenBytes := 64, maxAgeSeconds := some 3600, repositories := [canonical, " git:a.git/"] }
  have hload : hourlyConditions.loaded.result = .ok ⟨settings⟩ := by decide +kernel
  have hcanonical : ∀ url ∈ settings.repositories,
      (RepositoryUrl.canonicalize url).result = .ok canonical := by decide +kernel
  obtain ⟨-, -, -, hstart, -, hopened⟩ :=
    start_of_accepted Settings.documented_runningLibrary hload rfl
  have hurls : ¬ settings.HasMalformedUrl := by
    rintro ⟨url, hmem, failure, herror⟩
    rw [hcanonical url hmem] at herror
    cases herror
  have hage : ¬ settings.AgeTooLong := by
    rintro ⟨seconds, hseconds, hlong⟩
    cases Option.some.inj hseconds
    omega
  obtain ⟨running, hrunning⟩ := hstart hurls hage
  obtain ⟨-, hdesk, -⟩ := hopened running hrunning
  refine ⟨running, hrunning, hdesk.maxAge, (hdesk.members _).mpr ⟨canonical, ?_, ?_⟩⟩
  · exact List.mem_cons_self
  · exact hcanonical canonical List.mem_cons_self

end Startup

end ScanAccess
