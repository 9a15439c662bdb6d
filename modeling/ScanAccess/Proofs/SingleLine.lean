import ScanAccess.Startup
import ScanAccess.Proofs.BothModes
import ScanAccess.Proofs.Confinement
import ScanAccess.Proofs.PrintableText

/-! # Events on a single line

In text mode an event is told on one line if its logger and its message are printable: whatever
is in the payload is written as plain JSON. All events of this library are so, though URLs,
tokens, faults and settings may have any characters in them.
-/

namespace ScanAccess

open ScanAccess.Text

namespace Log

/-! ## Lines -/

/-- The characters that end a line in some system of writing. -/
def lineEndRanges : List CodeRange :=
  [(0x0a, 0x0d), (0x1c, 0x1e), (0x85, 0x85), (0x2028, 0x2029)]

/-- A character that ends a line. -/
def endsLine (c : Char) : Bool :=
  inRanges lineEndRanges c.toNat

/-- One line, without characters below the space. -/
structure IsLine (text : String) : Prop where
  whole : text.toList.splitOnP endsLine = [text.toList]
  above : ∀ c ∈ text.toList, 0x20 ≤ c.toNat

theorem lineEndRanges_apart : ∀ range ∈ lineEndRanges, ∀ other ∈ printableRanges,
    range.2 < other.1 ∨ other.2 < range.1 := by
  decide +kernel

theorem endsLine_of_isPrintable {c : Char} (h : isPrintable c = true) : endsLine c = false := by
  obtain ⟨other, hother, hlower, hupper⟩ := inRanges_eq_true_iff.mp h
  rw [Bool.eq_false_iff]
  intro hends
  obtain ⟨range, hrange, hlow, hhigh⟩ := inRanges_eq_true_iff.mp hends
  have hapart := lineEndRanges_apart range hrange other hother
  omega

theorem isLine_of_printable {text : String} (h : Printable text.toList) : IsLine text where
  whole := List.splitOnP_eq_singleton fun c hc => endsLine_of_isPrintable (h c hc)
  above c hc := le_of_isPrintable (h c hc)

/-! ## Fixed words -/

/-- What events and layouts of this library say in fixed words: the loggers, the messages, and what
stands around other texts. -/
def wording : List String :=
  [RepositoryUrl.logger, TokenGenerator.logger, Store.logger, Registry.logger,
   "huskyci_token.settings", "huskyci_token.runtime", "huskyci_token.observability.logging",
   "rejected repository url", "repository url does not match", "entropy source unavailable",
   "generated token", "stored access token", "access token lookup missed",
   "revoked access token", "registered repository", "token settings loaded: ",
   "token runtime ready", "configured logging", "Settings(token=", " ", ": ", " | data=", "Level "]

theorem printable_wording : ∀ text ∈ wording, Text.Printable text.toList := by
  decide +kernel

/-! ## Events in text mode -/

/-- A layout whose own texts are printable. -/
def Layout.Printable (layout : Layout) : Prop :=
  ∀ text, .literal text ∈ layout → Text.Printable text.toList

/-- An event whose logger and message are printable. -/
structure Event.Printable (event : Event) : Prop where
  logger : Text.Printable event.logger.toList
  message : Text.Printable event.message.toList

variable {host : Host} {layout : Layout} {event : Event} {now : Timestamp} {text : String}

theorem printable_levelName (level : Level) : Text.Printable level.name.toList := by
  rw [Level.name]
  split_ifs
  all_goals first
    | decide +kernel
    | rw [String.toList_append, Text.Printable.append_iff]
      exact ⟨printable_wording "Level " (by simp [wording]),
        String.toList_ofList ▸ Text.Printable.signedDecimal level⟩

theorem printable_of_timeAhead_eq_ok {record : Record} {ahead : Int → Int} {time : List Char}
    (h : record.timeAhead ahead = .ok time) : Text.Printable time := by
  obtain ⟨second, -, h⟩ := bind_eq_ok_iff.mp h
  obtain ⟨date, -, h⟩ := bind_eq_ok_iff.mp h
  cases h
  rw [Text.Printable.append_iff, Text.Printable.cons_iff]
  exact ⟨CalendarDate.printable_text 1 date, by decide, printable_clockText _⟩

theorem printable_fill {record : Record} {time : List Char} {message : String}
    (hlayout : layout.Printable) (hlogger : Text.Printable record.logger.toList)
    (htime : Text.Printable time) (hmessage : Text.Printable message.toList) :
    Text.Printable (layout.fill record time message) := by
  have hpieces : ∀ piece ∈ layout, Text.Printable (Layout.piece record time message piece) := by
    intro piece hpiece
    cases piece with
    | time => exact htime
    | level => exact printable_levelName record.level
    | logger => exact hlogger
    | message => exact hmessage
    | literal text => exact hlayout text hpiece
  intro c hc
  obtain ⟨piece, hpiece, hc⟩ := List.mem_flatMap.mp hc
  exact hpieces piece hpiece c hc

/-- What an event's text shows of its time. -/
def Event.timeShown (host : Host) (event : Event) (now : Timestamp) (layout : Layout) :
    Except Failure (List Char) :=
  if layout.showsTime then (event.at now).timeAhead host.ahead else .ok []

/-- An event has neither a fault nor a stack, so its text without the payload is the layout's. -/
theorem plain_at_eq_ok_iff :
    (event.at now).plain host layout = .ok text ↔ ∃ seconds time,
      secondsOf now.instant = .ok seconds ∧ event.timeShown host now layout = .ok time ∧
        String.ofList (layout.fill (event.at now) time event.message) = text := by
  have hplain : (event.at now).plain host layout =
      (secondsOf now.instant >>= fun _ => event.timeShown host now layout >>= fun time =>
        .ok (String.ofList (layout.fill (event.at now) time event.message))) := by
    have hmessage : (event.at now).message.text = .ok event.message := rfl
    simp only [Record.plain, hmessage, Event.timeShown]
    cases layout.showsTime <;> rfl
  rw [hplain]
  simp only [bind_eq_ok_iff, Except.ok.injEq, exists_and_left]

/-- The text of an event without its payload, if there is one, is printable. -/
theorem printable_of_plain (hlayout : layout.Printable) (h : event.Printable)
    (htext : (event.at now).plain host layout = .ok text) : Text.Printable text.toList := by
  obtain ⟨seconds, time, -, htime, rfl⟩ := plain_at_eq_ok_iff.mp htext
  rw [String.toList_ofList]
  refine printable_fill hlayout h.logger ?_ h.message
  unfold Event.timeShown at htime
  split at htime
  · exact printable_of_timeAhead_eq_ok htime
  · cases htime
    exact Text.Printable.nil

/-- The text of an event, if there is one, is printable: its payload is written as JSON, which is
plain whatever stands in it. -/
theorem printable_of_format (hlayout : layout.Printable) (h : event.Printable)
    (htext : (event.at now).format host false layout = .ok text) : Text.Printable text.toList := by
  obtain ⟨_, -, hrest⟩ := bind_eq_ok_iff.mp htext
  obtain ⟨data, hdata, -⟩ := bind_eq_ok_iff.mp hrest
  rw [Record.format_text_of_shownData hdata] at htext
  obtain ⟨plain, hplain, htext⟩ := bind_eq_ok_iff.mp htext
  have hprintable := printable_of_plain hlayout h hplain
  cases data with
  | none =>
      cases htext
      exact hprintable
  | some data =>
      obtain ⟨shown, hshown, rfl⟩ := exists_of_map_eq_ok htext
      obtain ⟨-, rfl⟩ := Json.encode_eq_ok_iff.mp hshown
      have hrender : Text.Printable data.render.toList := by
        rw [Json.render, String.toList_ofList]
        exact .of_isPlain (Json.isPlain_write data)
      rw [String.toList_append, String.toList_append, Text.Printable.append_iff,
        Text.Printable.append_iff]
      exact ⟨⟨hprintable, printable_wording " | data=" (by simp [wording])⟩, hrender⟩

/-- On any host and at any time, an event is told on one line in text mode; and there is a text for
it if the time is not too far away and its payload can be told. -/
structure Event.OnOneLine (event : Event) (layout : Layout) : Prop where
  line : ∀ host now text, (event.at now).format host false layout = .ok text → IsLine text
  told : ∀ host (now : Timestamp), now.instant.natAbs < twoTo 60 →
    (event.at now).Tellable host → ∃ text, (event.at now).format host false layout = .ok text

theorem Event.Printable.onOneLine (h : event.Printable) (hlayout : layout.Printable) :
    event.OnOneLine layout where
  line _ _ _ htext := isLine_of_printable (printable_of_format hlayout h htext)
  told _ _ hnow htellable := Record.exists_format_eq_ok rfl hnow rfl htellable false layout

theorem Layout.printable_plain : Layout.plain.Printable := by
  intro text hmem
  simp only [Layout.plain, List.mem_cons, Piece.literal.injEq, reduceCtorEq, false_or, or_false,
    List.not_mem_nil] at hmem
  rcases hmem with rfl | rfl
  · exact printable_wording " " (by simp [wording])
  · exact printable_wording ": " (by simp [wording])

theorem Layout.printable_console : Layout.console.Printable := by
  intro text hmem
  simp only [Layout.console, List.mem_cons, Piece.literal.injEq, reduceCtorEq, false_or] at hmem
  rcases hmem with rfl | hmem
  · exact printable_wording " " (by simp [wording])
  · exact Layout.printable_plain text hmem

/-- An event in fixed words is printable, whatever its payload is. -/
theorem Event.Printable.of_mem {event : Event} (hlogger : event.logger ∈ wording)
    (hmessage : event.message ∈ wording) : event.Printable :=
  ⟨printable_wording _ hlogger, printable_wording _ hmessage⟩

end Log

/-! ## The events of the library -/

/-- What logs only printable events tells each of them on one line. -/
theorem Logged.Confined.onOneLine {α : Type} {x : Logged α} {failures : Failure → Prop}
    {events : Log.Event → Prop} {layout : Log.Layout} (h : x.Confined failures events)
    (hevents : ∀ event, events event → event.Printable) (hlayout : layout.Printable) :
    ∀ event ∈ x.events, event.OnOneLine layout :=
  fun event hmem => (hevents event (h.logs event hmem)).onOneLine hlayout

theorem RepositoryUrl.Logging.printable {event : Log.Event} (h : Logging event) :
    event.Printable := by
  cases h with
  | rejected candidate =>
      exact .of_mem (by simp [refusal, Log.wording]) (by simp [refusal, Log.wording])
  | unmatched candidate =>
      exact .of_mem (by simp [refusal, Log.wording]) (by simp [refusal, Log.wording])

theorem TokenGenerator.Logging.printable {size : Nat} {event : Log.Event} (h : Logging size event) :
    event.Printable := by
  cases h with
  | unavailable fault =>
      exact .of_mem (by simp [TokenGenerator.unavailable, Log.wording])
        (by simp [TokenGenerator.unavailable, Log.wording])
  | generated print =>
      exact .of_mem (by simp [TokenGenerator.generated, Log.wording])
        (by simp [TokenGenerator.generated, Log.wording])

theorem Store.Logging.printable {event : Log.Event} (h : Logging event) : event.Printable := by
  cases h with
  | stored print url =>
      exact .of_mem (by simp [event, Log.wording]) (by simp [event, Log.wording])
  | missed print url =>
      exact .of_mem (by simp [event, Log.wording]) (by simp [event, Log.wording])
  | revoked print url =>
      exact .of_mem (by simp [event, Log.wording]) (by simp [event, Log.wording])

theorem Registry.printable_registered (url : RawText) : (registered url).Printable :=
  .of_mem (by simp [registered, Log.wording]) (by simp [registered, Log.wording])

namespace Settings

theorem printable_spellTokens (settings : TokenSettings) : Printable (spellTokens settings) := by
  have hquoted : ∀ text ∈ settings.repositories.map fun url => quote url, Printable text :=
    List.forall_mem_map.mpr fun url _ => Printable.quote url
  have hrepositories := Log.Shape.tuple.printable_spell hquoted
  unfold spellTokens
  cases settings.maxAgeSeconds with
  | none =>
      simp only [Printable.append_iff, Printable.signedDecimal, hrepositories, and_true]
      decide +kernel
  | some seconds =>
      simp only [Printable.append_iff, Printable.signedDecimal, hrepositories, and_true]
      decide +kernel

theorem printable_loadedEvent (settings : AllSettings) :
    (loadedEvent (spellAll settings)).Printable := by
  have hspelling : Printable (spellAll settings).toList := by
    have hopening : Printable "Settings(token=".toList :=
      Log.printable_wording _ (by simp [Log.wording])
    unfold spellAll
    rw [String.toList_ofList]
    exact Printable.append_iff.mpr
      ⟨Printable.append_iff.mpr ⟨hopening, printable_spellTokens settings.token⟩, by decide⟩
  have hmessage : Printable ("token settings loaded: " ++ spellAll settings).toList := by
    rw [String.toList_append, Printable.append_iff]
    exact ⟨Log.printable_wording _ (by simp [Log.wording]), hspelling⟩
  exact ⟨Log.printable_wording _ (by simp [loadedEvent, Log.wording]), hmessage⟩

/-- What loading logs was logged by the library or is the event of the settings. -/
theorem mem_load_events {library : Library} (hlibrary : library.Documented) {calls : Nat}
    {env : Environment} {file : Option String} {event : Log.Event}
    (h : event ∈ (load library calls env file).events) :
    event ∈ (library.buildAll calls env file).events ∨
      ∃ settings, (library.buildAll calls env file).result = .ok settings ∧
        event = loadedEvent (spellAll settings) := by
  unfold load at h
  dsimp only at h
  split at h
  next => exact .inl h
  next settings hsettings =>
    rcases List.mem_append.mp h with h | h
    · exact .inl h
    · rw [List.mem_singleton, hlibrary.spelling] at h
      exact .inr ⟨settings, hsettings, h⟩

end Settings

namespace Startup

theorem printable_readyEvent (settings : TokenSettings) : (readyEvent settings).Printable :=
  .of_mem (by simp [readyEvent, Log.wording]) (by simp [readyEvent, Log.wording])

theorem confined_openDesk (settings : TokenSettings) (clock : Timestamp) (entropy : Entropy) :
    (openDesk settings clock entropy).Confined (fun _ => True) Log.Event.Printable := by
  have hurl (url : RawText) : (rules.registerUrl url).Confined (fun _ => True)
      Log.Event.Printable := by
    simp only [rules]
    exact (RepositoryUrl.confined_canonicalize url).mono (fun _ _ => trivial) fun _ h => h.printable
  refine (Registry.confined_ofUrls hurl _).bind fun registry _ => ?_
  refine (Logged.Confined.ofExcept fun _ _ => trivial).bind fun maxAge _ => ?_
  refine (Logged.Confined.ofExcept fun _ _ => trivial).bind fun store _ => ?_
  refine (Logged.Confined.ofExcept fun _ _ => trivial).bind fun generator _ => ?_
  exact .logged _ (List.forall_mem_singleton.mpr (printable_readyEvent settings))

end Startup

theorem Desk.Logging.printable {event : Log.Event} (h : Logging Startup.rules event) :
    event.Printable := by
  cases h with
  | url h | registration h =>
      simp only [Startup.rules] at h
      exact ((RepositoryUrl.confined_canonicalize _).logs event h).printable
  | token h =>
      obtain ⟨size, hlogging⟩ := (TokenSource.confined_next _).logs event h
      exact hlogging.printable
  | store h => exact h.printable
  | registered url => exact Registry.printable_registered url

namespace Log

theorem printable_configuredEvent : configuredEvent.Printable :=
  .of_mem (by simp [configuredEvent, wording]) (by simp [configuredEvent, wording])

/-- Whatever there is in URLs, tokens, faults and settings, each event of this library is told on
one line in text mode, with or without the time: those of URLs, of tokens and the failure of their
entropy, of the store, of registrations, of settings, of an opened desk, of the console, and of
all requests to a desk. What a library of settings logs on its own is its own. -/
theorem events_on_one_line {layout : Layout}
    (hlayout : layout = Layout.plain ∨ layout = Layout.console) :
    (∀ url, ∀ event ∈ (RepositoryUrl.canonicalize url).events, event.OnOneLine layout) ∧
    (∀ (σ : Type) (generator : TokenGenerator) (draw : RandomBytes σ) (source : σ),
      ∀ event ∈ (generator.generate draw source).events, event.OnOneLine layout) ∧
    (∀ now record store, ∀ event ∈ (Store.insert now record store).events,
      event.OnOneLine layout) ∧
    (∀ now token url store, ∀ event ∈ (Store.find now token url store).events,
      event.OnOneLine layout) ∧
    (∀ token url store, ∀ event ∈ (Store.revoke token url store).events,
      event.OnOneLine layout) ∧
    (∀ (canonicalize : Registry.Canonicalize) url registry,
      ∀ event ∈ (Registry.register canonicalize url registry).events,
        event ∈ (canonicalize url).events ∨ event.OnOneLine layout) ∧
    (∀ library : Settings.Library, library.Documented → ∀ calls env file,
      ∀ event ∈ (Settings.load library calls env file).events,
        event ∈ (library.buildAll calls env file).events ∨ event.OnOneLine layout) ∧
    (∀ settings clock entropy, ∀ event ∈ (Startup.openDesk settings clock entropy).events,
      event.OnOneLine layout) ∧
    configuredEvent.OnOneLine layout ∧
    ∀ request desk, ∀ event ∈ (Desk.answer Startup.rules request desk).events,
      event.OnOneLine layout := by
  have hprintable : layout.Printable := by
    rcases hlayout with rfl | rfl
    · exact Layout.printable_plain
    · exact Layout.printable_console
  refine ⟨?_, ?_, ?_, ?_, ?_, ?_, ?_, ?_, ?_, ?_⟩
  · intro url
    exact (RepositoryUrl.confined_canonicalize url).onOneLine (fun _ h => h.printable) hprintable
  · intro σ generator draw source
    exact (generator.confined_generate draw source).onOneLine (fun _ h => h.printable) hprintable
  · intro now record store
    exact (Store.confined_insert now record store).onOneLine (fun _ h => h.printable) hprintable
  · intro now token url store
    exact (Store.confined_find now token url store).onOneLine (fun _ h => h.printable) hprintable
  · intro token url store
    exact (Store.confined_revoke token url store).onOneLine (fun _ h => h.printable) hprintable
  · intro canonicalize url registry event hmem
    -- What the canonical form logs is not the registry's own, so it is kept as it is.
    have hcanonicalize : (canonicalize url).Confined (fun _ => True) fun event =>
        event ∈ (canonicalize url).events ∨ event.OnOneLine layout :=
      ⟨fun _ _ => trivial, fun _ => Or.inl⟩
    refine (Registry.confined_register hcanonicalize ?_ registry).logs event hmem
    exact fun canonical =>
      Or.inr ((Registry.printable_registered canonical).onOneLine hprintable)
  · intro library hlibrary calls env file event hmem
    rcases Settings.mem_load_events hlibrary hmem with h | ⟨settings, -, rfl⟩
    · exact .inl h
    · exact .inr ((Settings.printable_loadedEvent settings).onOneLine hprintable)
  · intro settings clock entropy
    exact (Startup.confined_openDesk settings clock entropy).onOneLine (fun _ h => h) hprintable
  · exact printable_configuredEvent.onOneLine hprintable
  · intro request desk
    exact (Desk.confined_answer Startup.rules request desk).onOneLine (fun _ h => h.printable)
      hprintable

theorem events_on_one_line_of_refusal :
    let url := "git:a\nINFO huskyci_token: b.git"
    let text := "DEBUG huskyci_token.infrastructure.url: rejected repository url" ++
      " | data=\x7b\"url\":\"git:a\\nINFO huskyci_token: b.git\"\x7d"
    (∃ event ∈ (RepositoryUrl.canonicalize url).events,
      (event.at ⟨0, some 0, none⟩).format roomyHost false Layout.plain = .ok text) ∧
        IsLine text := by
  intro url text
  let event := RepositoryUrl.refusal "rejected repository url" url
  have hmem : event ∈ (RepositoryUrl.canonicalize url).events := by
    have htrim : trim url = url := by decide +kernel
    have hforbidden : (url.isEmpty || url.toList.any RepositoryUrl.isForbidden) = true := by
      decide +kernel
    simp only [RepositoryUrl.canonicalize, RawText.toString?_ofString, RepositoryUrl.validate,
      htrim, hforbidden, if_true]
    exact List.mem_singleton_self event
  have htext : (event.at ⟨0, some 0, none⟩).format roomyHost false Layout.plain = .ok text := by
    decide +kernel
  obtain ⟨hurl, -⟩ := events_on_one_line (Or.inl (Eq.refl Layout.plain))
  exact ⟨⟨event, hmem, htext⟩, (hurl url event hmem).line _ _ text htext⟩

end Log

end ScanAccess
