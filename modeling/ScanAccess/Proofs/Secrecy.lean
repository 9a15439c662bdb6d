import ScanAccess.Log.Format
import ScanAccess.Proofs.LetterCase
import ScanAccess.Proofs.Position

/-! # What logs show of secret texts

A text under a secret name is shown as its fingerprint, at every position that the
depth reaches and even where nothing is left of it. Payloads that differ in such texts
only, and not in their fingerprints, cannot be told apart by anything that is logged.
A secret name speaks for the text that stands right under it and for nothing else: a
text inside a container there is shown as it is.
-/

namespace ScanAccess.Log

variable {host : Host}

namespace Payload

mutual

/-- The same payload twice, but for texts that are secret where they stand. These may differ as
long as their fingerprints are the same. -/
inductive Alike : Payload → Payload → Prop where
  | same (payload : Payload) : Alike payload payload
  | items (shape : Shape) {values others : List Payload} (h : AlikeItems values others) :
    Alike (.items shape values) (.items shape others)
  | mapping {entries others : List (Payload × Payload)} (h : AlikeEntries entries others) :
    Alike (.mapping entries) (.mapping others)
  | token (record : AccessToken) {other : RawText}
    (h : fingerprint record.token = fingerprint other) :
    Alike (.token record) (.token { record with token := other })
  | request (url : RawText) {metadata other : Payload} (h : Alike metadata other) :
    Alike (.request url metadata) (.request url other)

/-- Payloads that are alike one by one. -/
inductive AlikeItems : List Payload → List Payload → Prop where
  | nil : AlikeItems [] []
  | cons {value other : Payload} {values others : List Payload} (h : Alike value other)
    (hrest : AlikeItems values others) : AlikeItems (value :: values) (other :: others)

/-- Entries with the same keys, whose values are alike or are texts under a secret name. -/
inductive AlikeEntries : List (Payload × Payload) → List (Payload × Payload) → Prop where
  | nil : AlikeEntries [] []
  | cons (key : Payload) {value other : Payload} {entries others : List (Payload × Payload)}
    (h : Alike value other) (hrest : AlikeEntries entries others) :
    AlikeEntries ((key, value) :: entries) ((key, other) :: others)
  | secret (key : Payload) {token other : RawText} {entries others : List (Payload × Payload)}
    (hkey : NamesSecret key.shown) (h : fingerprint token = fingerprint other)
    (hrest : AlikeEntries entries others) :
    AlikeEntries ((key, .text token) :: entries) ((key, .text other) :: others)

end

theorem Alike.isEmpty_eq {payload other : Payload} (h : Alike payload other) :
    payload.isEmpty = other.isEmpty := by
  cases h with
  | same => rfl
  | items shape h => cases h <;> rfl
  | mapping h => cases h <;> rfl
  | token record h => rfl
  | request url h => rfl

/-- Alike payloads are both secret texts only if they are the same. -/
theorem Alike.secret?_eq {payload other : Payload} (h : Alike payload other) (name : RawText) :
    secret? name payload = secret? name other := by
  cases h <;> rfl

mutual

theorem Alike.redact_eq {payload other : Payload} (h : Alike payload other) (left depth : Nat) :
    redact host left payload depth = redact host left other depth := by
  cases depth with
  | zero => rw [redact, redact]
  | succ depth =>
      cases h with
      | same => rfl
      | items shape h => simp only [redact, h.redactItems_eq _ depth]
      | mapping h => simp only [redact, h.redactEntries_eq _ depth]
      | token record h => simp only [redact, redactToken, tokenMark, h]
      | request url h => simp only [redact, h.redact_eq _ depth]

theorem AlikeItems.redactItems_eq {values others : List Payload} (h : AlikeItems values others)
    (left depth : Nat) :
    redactItems host left values depth = redactItems host left others depth := by
  cases h with
  | nil => rfl
  | cons h hrest => simp only [redactItems, h.redact_eq _ depth, hrest.redactItems_eq left depth]

theorem AlikeEntries.redactEntries_eq {entries others : List (Payload × Payload)}
    (h : AlikeEntries entries others) (left depth : Nat) :
    redactEntries host left entries depth = redactEntries host left others depth := by
  cases h with
  | nil => rfl
  | cons key h hrest =>
      simp only [redactEntries, h.redact_eq _ depth, h.secret?_eq,
        hrest.redactEntries_eq left depth]
  | secret key hkey h hrest =>
      have hsecret : isSecretName key.shown = true := (isSecretName_iff _).mpr hkey
      simp only [redactEntries, hrest.redactEntries_eq left depth]
      -- If the key has a text at all, it is the one that is secret.
      cases hname : host.textOf left key with
      | error failure => rfl
      | ok name =>
          obtain ⟨-, -, rfl⟩ := textOf_eq_ok_iff.mp hname
          simp only [ok_bind, secret?, hsecret, if_true, tokenMark, h]

end

theorem Alike.redactData_eq {payload other : Payload} (h : Alike payload other) :
    redactData host payload = redactData host other := by
  rw [redactData, redactData, h.isEmpty_eq, h.redact_eq _ maxDepth]

end Payload

/-- The text of a record depends on its payload through what is shown of it. -/
theorem Record.format_eq_of_shownData_eq (record : Record) {data other : Option Payload}
    (h : ({ record with data } : Record).shownData host =
      ({ record with data := other } : Record).shownData host)
    (jsonLines : Bool) (layout : Layout) :
    ({ record with data } : Record).format host jsonLines layout =
      ({ record with data := other } : Record).format host jsonLines layout := by
  unfold format formatWith toJson toText
  rw [h]
  rfl

/-- A secret text that the depth leads up to has a fingerprint if the payload is shown. -/
theorem exists_fingerprint_of_legible {payload : Payload} {depth : Nat} {path : List Step}
    {last : Step} {token : RawText} (h : payload.Legible depth) (hlt : path.length < depth)
    (hat : payload.at? (path ++ [last]) = some (.text token)) (hsecret : last.isSecret = true) :
    ∃ print, fingerprint token = .ok print := by
  have hpart := legiblePart_of_at? h hlt hat
  cases last with
  | item index => cases hsecret
  | entry name =>
      have hname : isSecretName name = true := hsecret
      simp only [LegiblePart, secret?, hname, if_true] at hpart
      exact exists_fingerprint_of_isEncodable hpart

/-- Alike payloads are shown in the same way to any depth, and records with alike payloads have the
same text in both modes. A secret text that the depth leads up to is replaced by its fingerprint,
even where no depth is left for it. -/
theorem secret_texts_show_as_fingerprints (host : Host) :
    (∀ payload other : Payload, payload.Alike other →
      (∀ depth : Int, redactTo host depth payload = redactTo host depth other) ∧
      ∀ (record : Record) (jsonLines : Bool) (layout : Layout),
        ({ record with data := some payload } : Record).format host jsonLines layout =
          ({ record with data := some other } : Record).format host jsonLines layout) ∧
    ∀ (payload : Payload) (depth : Int) (shown : Json), redactTo host depth payload = .ok shown →
      ∀ (path : List Step) (name token : RawText),
        payload.at? (path ++ [.entry name]) = some (.text token) → NamesSecret name →
        path.length < depth →
        ∃ print, fingerprint token = .ok print ∧
          jsonAt? shown (path ++ [.entry name]) =
            some (.string ("<token " ++ print ++ ">" : String)) := by
  refine ⟨fun payload other halike => ⟨fun depth => halike.redact_eq _ depth.toNat, ?_⟩, ?_⟩
  · exact fun record => record.format_eq_of_shownData_eq halike.redactData_eq
  · intro payload depth shown hshown path name token hat hsecret hdepth
    obtain ⟨-, hlegible, rfl⟩ := (redact_eq_ok_iff _ payload _ _).mp hshown
    have hlt : path.length < depth.toNat := by omega
    have hstep : (Step.entry name).isSecret = true := (isSecretName_iff name).mpr hsecret
    obtain ⟨print, hprint⟩ := exists_fingerprint_of_legible hlegible hlt hat hstep
    refine ⟨print, hprint, ?_⟩
    rw [redacted_at?_of_lt hlt, hat, Option.map_some, redactedPart_text, if_pos hstep,
      shownToken_of_eq_ok hprint]
    rfl

/-- A payload with a token in a record and under a name that is secret in any case. -/
def sample (token : String) : Payload :=
  .ofFields [
    ("records", .items .list [
      .token { token, url := "git:a.git", createdAt := { wall := 0, offset := some 0 } }]),
    ("Token", .text token)]

theorem secret_texts_show_as_fingerprints_of_collision :
    redactTo roomyHost 6 (sample "AAAASSpt") = redactTo roomyHost 6 (sample "AAABq9ir") ∧
      ∃ shown, redactTo roomyHost 1 (sample "AAAASSpt") = .ok shown ∧
        jsonAt? shown [.entry "Token"] = some (.string "<token 2414eb22c8d7>") := by
  have hprint : fingerprint "AAAASSpt" = .ok "2414eb22c8d7" := by
    rw [fingerprint_ofString]
    exact congrArg Except.ok (by decide +kernel)
  have hkey : NamesSecret (Payload.text "Token").shown := ⟨"Token", rfl, by decide +kernel⟩
  have halike : (sample "AAAASSpt").Alike (sample "AAABq9ir") := by
    refine .mapping (.cons _ (.items .list (.cons ?_ .nil)) ?_)
    · exact .token _ fingerprint_collision
    · exact .secret _ hkey fingerprint_collision .nil
  have hsecret : isSecretName "Token" = true := (isSecretName_iff _).mpr hkey
  have hat : (sample "AAAASSpt").at? ([] ++ [.entry "Token"]) = some (.text "AAAASSpt") := by
    rfl
  have hshown : redactTo roomyHost 1 (sample "AAAASSpt") = .ok (redacted (sample "AAAASSpt") 1) :=
    redactTo_roomyHost (by decide) (by
      simp [sample, Payload.ofFields, Payload.Legible, Payload.LegibleEntries, Payload.isText,
        secret?, Payload.shown, hsecret])
  obtain ⟨hsame, hmarks⟩ := secret_texts_show_as_fingerprints roomyHost
  obtain ⟨print, hfound, hmark⟩ := hmarks _ 1 _ hshown [] "Token" "AAAASSpt" hat hkey (by decide)
  rw [hprint] at hfound
  obtain rfl := Except.ok.inj hfound
  exact ⟨(hsame _ _ halike).1 6, _, hshown, hmark⟩

/-! ## Containers under secret names -/

/-- Whether a text is already what a log would show of it. -/
def IsMark (text : RawText) : Prop :=
  (∃ print, fingerprint text = .ok print ∧ Json.string text = markOf print) ∨
    Json.string text = depthMark

/-- Nothing below a position shows a text that stands there, apart from marks, wherever the payload
is shown at all. -/
def HidesTextsBelow (host : Host) (payload : Payload) (depth : Int) (position : List Step) : Prop :=
  ∀ shown : Json, redactTo host depth payload = .ok shown →
    ∀ (below : List Step) (last : Step) (text : RawText),
      payload.at? (position ++ below ++ [last]) = some (.text text) → ¬ IsMark text →
      jsonAt? shown (position ++ below ++ [last]) ≠ some (.string text)

/-- A text is shown as it is exactly where its own name is not secret and some depth is left. -/
theorem shows_text_iff {payload : Payload} {depth : Int} {shown : Json}
    (hshown : redactTo host depth payload = .ok shown) {path : List Step} {last : Step}
    {text : RawText} (hat : payload.at? (path ++ [last]) = some (.text text))
    (hmark : ¬ IsMark text) :
    jsonAt? shown (path ++ [last]) = some (.string text) ↔
      last.isSecret = false ∧ path.length + 1 < depth := by
  obtain ⟨htoken, hdeep⟩ := not_or.mp hmark
  obtain ⟨-, hlegible, rfl⟩ := (redact_eq_ok_iff _ payload _ _).mp hshown
  rcases Nat.lt_or_ge path.length depth.toNat with hlt | hge
  · rw [redacted_at?_of_lt hlt, hat, Option.map_some, Option.some_inj, redactedPart_text]
    cases hsecret : last.isSecret with
    | true =>
        obtain ⟨print, hprint⟩ := exists_fingerprint_of_legible hlegible hlt hat hsecret
        have hne : markOf print ≠ .string text := fun heq => htoken ⟨print, hprint, heq.symm⟩
        simp [shownToken_of_eq_ok hprint, hne]
    | false =>
        rw [atDepth]
        by_cases hleft : depth.toNat - path.length - 1 = 0
        · simp [hleft, Ne.symm hdeep]
          omega
        · simp [hleft]
          omega
  · rw [redacted_at?_of_le hge]
    simp
    omega

/-- The texts below a position are all hidden exactly if each of them is secret where it stands or
lies below the depth, or nothing is shown. The names on the way to the position make no difference,
whether they are secret or not. -/
theorem hidesTextsBelow_iff (host : Host) (payload : Payload) (depth : Int) (position : List Step) :
    HidesTextsBelow host payload depth position ↔
      ∀ shown : Json, redactTo host depth payload = .ok shown →
        ∀ (below : List Step) (last : Step) (text : RawText),
          payload.at? (position ++ below ++ [last]) = some (.text text) → ¬ IsMark text →
          last.isSecret = true ∨ depth ≤ (position ++ below).length + 1 := by
  refine forall_congr' fun shown => forall_congr' fun hshown => forall_congr' fun below =>
    forall_congr' fun last => forall_congr' fun text => forall_congr' fun hat =>
    forall_congr' fun hmark => ?_
  rw [ne_eq, shows_text_iff hshown hat hmark, Classical.not_and_iff_not_or_not, Bool.not_eq_false,
    Int.not_lt]

/-- A list under a secret name shows its texts. -/
theorem not_hidesTextsBelow_token :
    isSecretName "token" = true ∧
      ¬ HidesTextsBelow roomyHost (.ofFields [("token", .items .list [.text "abc"])]) maxDepth
        [.entry "token"] := by
  have hat : (Payload.ofFields [("token", .items .list [.text "abc"])]).at?
      ([.entry "token"] ++ [] ++ [.item 0]) = some (.text "abc") := by
    rfl
  have hshown : redactTo roomyHost maxDepth (.ofFields [("token", .items .list [.text "abc"])]) =
      .ok (redacted (.ofFields [("token", .items .list [.text "abc"])]) maxDepth) :=
    redactTo_roomyHost (by decide) (by
      simp [maxDepth, Payload.ofFields, Payload.Legible, Payload.LegibleEntries,
        Payload.LegibleItems, Payload.isText, secret?])
  have hmark : ¬ IsMark "abc" := by
    rintro (⟨print, hprint, hshown⟩ | hshown)
    · rw [fingerprint_ofString] at hprint
      obtain rfl := Except.ok.inj hprint
      simp only [markOf, Json.string.injEq, RawText.ofString_inj] at hshown
      exact absurd hshown (by decide +kernel)
    · simp only [depthMark, Json.string.injEq, RawText.ofString_inj] at hshown
      exact absurd hshown (by decide)
  refine ⟨by decide, fun hhides => hhides _ hshown [] (.item 0) "abc" hat hmark ?_⟩
  exact (shows_text_iff hshown hat hmark).mpr ⟨rfl, by decide⟩

end ScanAccess.Log
