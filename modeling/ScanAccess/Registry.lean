import ScanAccess.Action

/-! # The repository registry

The registry is the set of repositories that may ask for scans, by their
canonical URLs. Registering and unregistering take a URL in any form; looking one
up takes it as it is.
-/

namespace ScanAccess

/-- Distinct URLs. -/
structure Registry where
  urls : List RawText
  distinct : urls.Nodup

namespace Registry

/-- No URLs. -/
def empty : Registry :=
  ⟨[], List.nodup_nil⟩

/-- Whether a URL is registered in exactly this form. -/
def contains (registry : Registry) (url : RawText) : Bool :=
  registry.urls.contains url

/-- The registry with a URL added. -/
def add (registry : Registry) (url : RawText) : Registry :=
  if h : url ∈ registry.urls then registry
  else ⟨url :: registry.urls, List.nodup_cons.2 ⟨h, registry.distinct⟩⟩

/-- The registry with a URL removed. -/
def remove (registry : Registry) (url : RawText) : Registry :=
  ⟨registry.urls.filter (· != url), registry.distinct.filter _⟩

@[simp] theorem mem_add {registry : Registry} {url other : RawText} :
    other ∈ (registry.add url).urls ↔ other = url ∨ other ∈ registry.urls := by
  unfold add
  split
  case isTrue h =>
    constructor
    · exact Or.inr
    · rintro (rfl | hmem)
      · exact h
      · exact hmem
  case isFalse => exact List.mem_cons

@[simp] theorem mem_remove {registry : Registry} {url other : RawText} :
    other ∈ (registry.remove url).urls ↔ other ∈ registry.urls ∧ other ≠ url := by
  simp [remove, List.mem_filter]

/-- The registered URLs in the order of their code points. -/
def toSortedList (registry : Registry) : List RawText :=
  registry.urls.mergeSort fun a b => decide (a ≤ b)

/-- A way to bring a URL into canonical form. -/
abbrev Canonicalize : Type :=
  RawText → Logged RawText

/-- The registry of some URLs, brought into canonical form one after the other. -/
def ofUrls (canonicalize : Canonicalize) : List RawText → Logged Registry
  | [] => .ok empty
  | url :: rest =>
    (canonicalize url).bind fun canonical =>
      (ofUrls canonicalize rest).bind fun registry => .ok (registry.add canonical)

/-- The logger of the registry. -/
def logger : String := "huskyci_token.infrastructure.state.repository_registry"

/-- The event of a registered URL. -/
def registered (url : RawText) : Log.Event :=
  { logger
    level := Log.Level.info
    message := "registered repository"
    data := some (Log.Payload.ofFields [("url", .text url)]) }

/-- Registers a URL and returns its canonical form. -/
def register (canonicalize : Canonicalize) (url : RawText) : Action Registry RawText := do
  let canonical ← Action.lift (canonicalize url)
  Action.modify fun registry => registry.add canonical
  Action.log (registered canonical)
  return canonical

/-- Removes a URL, if it is registered. -/
def unregister (canonicalize : Canonicalize) (url : RawText) : Action Registry Unit := do
  let canonical ← Action.lift (canonicalize url)
  Action.modify fun registry => registry.remove canonical

/-- Fails unless a URL is registered in exactly this form. -/
def find (url : RawText) : Action Registry Unit :=
  fun registry =>
    if registry.contains url then { result := .ok (), state := registry }
    else { result := .error .repositoryNotFound, state := registry }

end Registry

end ScanAccess
