import ScanAccess.Proofs.Base64
import ScanAccess.TokenGenerator

/-! # Drawing tokens

Each call of a generator draws once from its source and says what it makes of the answer: a
token that can be read back as the bytes that were drawn, or a failure. Whatever came of the calls
before makes no difference, since the source is all that is passed on from one call to the next.
-/

namespace ScanAccess

open ScanAccess.Action

namespace Fault.Kind

/-- A kind stands below another one if it is this one, or was defined below a kind that stands
below it. -/
inductive Descends : Fault.Kind → Fault.Kind → Prop where
  | refl (kind : Fault.Kind) : Descends kind kind
  | ofParent {module name : String} {parents : List Fault.Kind} {parent other : Fault.Kind}
    (hparent : parent ∈ parents) (h : Descends parent other) :
    Descends (definedIn module name parents) other

/-- A fault counts as one of every kind that its own stands below. -/
theorem Descends.isA {kind other : Fault.Kind} (h : kind.Descends other) :
    kind.isA other = true := by
  induction h with
  | refl kind => exact List.contains_iff_mem.mpr List.mem_cons_self
  | ofParent hparent _ ih => exact isA_definedIn.mpr (.inr ⟨_, hparent, ih⟩)

theorem permission_descends_system : permission.Descends system :=
  .ofParent List.mem_cons_self (.refl system)

theorem descends_system_of_mem :
    ∀ kind ∈ [permission, connection, timeout, invalidAccessToken], kind.Descends system := by
  intro kind hkind
  simp only [List.mem_cons, List.not_mem_nil, or_false] at hkind
  rcases hkind with rfl | rfl | rfl | rfl
  · exact permission_descends_system
  · exact .ofParent List.mem_cons_self (.refl system)
  · exact .ofParent List.mem_cons_self (.refl system)
  · exact .ofParent (List.mem_cons_of_mem _ List.mem_cons_self) permission_descends_system

end Fault.Kind

namespace RandomBytes

variable {σ : Type}

/-- The state of a source after it was asked so many times for a number of bytes. -/
def after (draw : RandomBytes σ) (size : Nat) : Nat → σ → σ
  | 0, source => source
  | count + 1, source => after draw size count (draw size source).2

/-- What a source says when it was asked so many times before. -/
def answer (draw : RandomBytes σ) (size count : Nat) (source : σ) : Except Fault (List UInt8) :=
  (draw size (draw.after size count source)).1

end RandomBytes

namespace TokenGenerator

/-- A token that stands for some bytes: four characters for every three of them, the last ones
signs that fill it up, and no other text is read back as the bytes. -/
structure Encodes (token : String) (bytes : List UInt8) : Prop where
  length : token.length = 4 * ((bytes.length + 2) / 3)
  characters : ∃ body, token.toList = body ++ List.replicate ((3 - bytes.length % 3) % 3) '=' ∧
    ∀ c ∈ body, Bytes.Base64.IsUrlSafe c
  decoded : Bytes.Base64.decode? token.toList = some bytes
  only : ∀ text, Bytes.Base64.decode? text = some bytes → text = token.toList

theorem encodes_encode (bytes : List UInt8) :
    Encodes (String.ofList (Bytes.Base64.encode bytes)) bytes where
  length := by rw [String.length_ofList, Bytes.Base64.length_encode]
  characters := by
    rw [String.toList_ofList]
    exact Bytes.Base64.exists_encode_eq bytes
  decoded := by
    rw [String.toList_ofList]
    exact Bytes.Base64.decode?_encode bytes
  only := by
    rw [String.toList_ofList]
    exact fun text htext => (Bytes.Base64.decode?_eq_some_iff.mp htext).symm

/-- Whether a fault means that there is no entropy to be had is a matter of its kind alone. -/
def LacksEntropy (kind : Fault.Kind) : Prop :=
  kind.isA .system = true ∨ kind.isA .notImplemented = true

theorem isUnavailable_iff {fault : Fault} :
    isUnavailable fault = true ↔ LacksEntropy fault.kind := by
  rw [isUnavailable, Bool.or_eq_true, LacksEntropy]

theorem lacksEntropy_of_descends {kind : Fault.Kind}
    (h : kind.Descends .system ∨ kind.Descends .notImplemented) : LacksEntropy kind :=
  h.imp Fault.Kind.Descends.isA Fault.Kind.Descends.isA

/-- Beyond these two kinds, a kind lacks entropy only through one that it was defined below. -/
theorem lacksEntropy_definedIn_iff {module name : String} {parents : List Fault.Kind} :
    LacksEntropy (Fault.Kind.definedIn module name parents) ↔
      module ++ "." ++ name = Fault.Kind.system.fullName ∨
        module ++ "." ++ name = Fault.Kind.notImplemented.fullName ∨
        ∃ parent ∈ parents, LacksEntropy parent := by
  simp only [LacksEntropy, Fault.Kind.isA_definedIn]
  constructor
  · rintro ((h | ⟨parent, hparent, h⟩) | (h | ⟨parent, hparent, h⟩))
    · exact .inl h
    · exact .inr (.inr ⟨parent, hparent, .inl h⟩)
    · exact .inr (.inl h)
    · exact .inr (.inr ⟨parent, hparent, .inr h⟩)
  · rintro (h | h | ⟨parent, hparent, h | h⟩)
    · exact .inl (.inl h)
    · exact .inr (.inl h)
    · exact .inl (.inr ⟨parent, hparent, h⟩)
    · exact .inr (.inr ⟨parent, hparent, h⟩)

variable {generator : TokenGenerator}

/-- What a call may come to, by what its source said. -/
inductive Judged (size : Nat) : Except Fault (List UInt8) → Except Failure String → Prop where
  | token {bytes : List UInt8} {token : String} (hsize : bytes.length = size)
    (h : Encodes token bytes) : Judged size (.ok bytes) (.ok token)
  | wrongSize {bytes : List UInt8} (hsize : bytes.length ≠ size) :
    Judged size (.ok bytes) (.error .generationFailed)
  | unavailable {fault : Fault} (h : LacksEntropy fault.kind) :
    Judged size (.error fault) (.error .generationFailed)
  | foreign {fault : Fault} (h : ¬ LacksEntropy fault.kind) :
    Judged size (.error fault) (.error (.foreign fault))

theorem judged_tokenFrom (generator : TokenGenerator) (drawn : Except Fault (List UInt8)) :
    Judged generator.size drawn (generator.tokenFrom drawn).result := by
  cases drawn with
  | error fault =>
      rw [tokenFrom]
      split
      next h => exact .unavailable (isUnavailable_iff.mp h)
      next h => exact .foreign (mt isUnavailable_iff.mpr h)
  | ok bytes =>
      by_cases hsize : bytes.length = generator.size
      · rw [tokenFrom_of_length hsize]
        exact .token hsize (encodes_encode bytes)
      · rw [tokenFrom, if_neg hsize]
        exact .wrongSize hsize

variable {σ : Type}

/-- Calls one after the other: each makes of its own answer what a call makes of such an answer,
and leaves the source one draw further. -/
theorem runEach_generate (generator : TokenGenerator) (draw : RandomBytes σ) (count : Nat)
    (source : σ) :
    runEach (List.replicate count (generator.generate draw)) source =
      (List.range count).map fun i =>
        { toLogged := generator.tokenFrom (draw.answer generator.size i source)
          state := draw.after generator.size (i + 1) source } := by
  induction count generalizing source with
  | zero => rfl
  | succ count ih =>
      rw [List.replicate_succ, runEach, ih, List.range_succ_eq_map, List.map_cons, List.map_map]
      rfl

theorem ofSize_size (generator : TokenGenerator) : ofSize generator.size = .ok generator := by
  rw [ofSize, dif_pos (Int.natCast_pos.mpr generator.size_pos)]
  rfl

/-- An answer can be told from the token that was made of it. -/
theorem Judged.eq_of_token {size : Nat} {drawn other : Except Fault (List UInt8)} {token : String}
    (h : Judged size drawn (.ok token)) (hother : Judged size other (.ok token)) :
    drawn = other := by
  cases h with
  | token _ h =>
      cases hother with
      | token _ hother =>
          have hbytes := h.decoded.symm.trans hother.decoded
          rw [Option.some_inj.mp hbytes]

/-- A generator can be made for every positive number of bytes. Whatever its source says, and
however often it is called, each call makes a token of its own answer that can be read back as
this answer, if that is of the right size, and otherwise fails as the answer demands; errors of the
system count as a lack of entropy, and so do all kinds below them, whoever defined these. The calls
before it only took their answers from the source. -/
theorem calls_encode_answers (generator : TokenGenerator) (draw : RandomBytes σ) (source : σ)
    (count : Nat) :
    let calls := runEach (List.replicate count (generator.generate draw)) source
    ofSize generator.size = .ok generator ∧ calls.length = count ∧
      (∀ i < count, ∃ outcome, calls[i]? = some outcome ∧
        Judged generator.size (draw.answer generator.size i source) outcome.result ∧
        outcome.toLogged = (generator.generate draw (draw.after generator.size i source)).toLogged ∧
        outcome.state = draw.after generator.size (i + 1) source) ∧
      (∀ i j first second token, calls[i]? = some first → calls[j]? = some second →
        first.result = .ok token → second.result = .ok token →
        draw.answer generator.size i source = draw.answer generator.size j source) ∧
      Failure.kind .generationFailed = .tokenGeneration ∧
      (∀ kind ∈ [.permission, .connection, .timeout, .invalidAccessToken],
        Fault.Kind.Descends kind .system) ∧
      (∀ kind : Fault.Kind, kind.Descends .system ∨ kind.Descends .notImplemented →
        LacksEntropy kind) ∧
      ∀ (module name : String) (parents : List Fault.Kind),
        LacksEntropy (Fault.Kind.definedIn module name parents) ↔
          module ++ "." ++ name = Fault.Kind.system.fullName ∨
            module ++ "." ++ name = Fault.Kind.notImplemented.fullName ∨
            ∃ parent ∈ parents, LacksEntropy parent := by
  intro calls
  have hcalls : calls = (List.range count).map fun i =>
      { toLogged := generator.tokenFrom (draw.answer generator.size i source)
        state := draw.after generator.size (i + 1) source } :=
    generator.runEach_generate draw count source
  have hjudged {i : Nat} {outcome : Outcome σ String} (h : calls[i]? = some outcome) :
      Judged generator.size (draw.answer generator.size i source) outcome.result := by
    rw [hcalls, List.getElem?_map] at h
    obtain ⟨j, hj, rfl⟩ := Option.map_eq_some_iff.mp h
    obtain ⟨-, rfl⟩ := List.getElem?_eq_some_iff.mp hj
    rw [List.getElem_range]
    exact generator.judged_tokenFrom _
  refine ⟨generator.ofSize_size, ?_, ?_, ?_, rfl, Fault.Kind.descends_system_of_mem,
    fun kind => lacksEntropy_of_descends, fun module name parents => lacksEntropy_definedIn_iff⟩
  · rw [hcalls, List.length_map, List.length_range]
  · intro i hi
    have hcall : calls[i]? = some
        { toLogged := generator.tokenFrom (draw.answer generator.size i source)
          state := draw.after generator.size (i + 1) source } := by
      rw [hcalls, List.getElem?_map, List.getElem?_range hi, Option.map_some]
    exact ⟨_, hcall, hjudged hcall, rfl, rfl⟩
  · intro i j first second token hi hj hfirst hsecond
    have htoken := hjudged hi
    rw [hfirst] at htoken
    have hother := hjudged hj
    rw [hsecond] at hother
    exact htoken.eq_of_token hother

/-- A source whose answers are fixed in advance; at their end it has no bytes. -/
def scripted : RandomBytes (List (Except Fault (List UInt8)))
  | _, [] => (.ok [], [])
  | _, answer :: rest => (answer, rest)

theorem calls_encode_answers_of_script :
    let generator : TokenGenerator := ⟨4, by decide⟩
    let script := [.error ⟨.permission, "", ""⟩, .error ⟨.value, "", ""⟩,
      .ok [0xfb, 0xff, 0, 0x10]]
    let calls := runEach (List.replicate 3 (generator.generate scripted)) script
    (∃ outcome, calls[0]? = some outcome ∧ outcome.result = .error .generationFailed) ∧
      (∃ outcome, calls[1]? = some outcome ∧
        outcome.result = .error (.foreign ⟨.value, "", ""⟩)) ∧
      ∃ outcome token, calls[2]? = some outcome ∧ outcome.result = .ok token ∧
        token.length = 8 ∧
        Bytes.Base64.decode? token.toList = some [0xfb, 0xff, 0, 0x10] := by
  intro generator script calls
  obtain ⟨-, -, hcalls, -⟩ := calls_encode_answers generator scripted script 3
  have hsystem : LacksEntropy .permission :=
    lacksEntropy_of_descends (.inl Fault.Kind.permission_descends_system)
  have hvalue : ¬ LacksEntropy .value := by
    rintro (h | h)
    · exact absurd h (by decide)
    · exact absurd h (by decide)
  refine ⟨?_, ?_, ?_⟩
  · obtain ⟨outcome, hcall, hjudged, -⟩ := hcalls 0 (by decide)
    have h : Judged 4 (.error ⟨.permission, "", ""⟩) outcome.result := hjudged
    refine ⟨outcome, hcall, ?_⟩
    generalize outcome.result = result at h ⊢
    cases h with
    | unavailable => rfl
    | foreign h => exact absurd hsystem h
  · obtain ⟨outcome, hcall, hjudged, -⟩ := hcalls 1 (by decide)
    have h : Judged 4 (.error ⟨.value, "", ""⟩) outcome.result := hjudged
    refine ⟨outcome, hcall, ?_⟩
    generalize outcome.result = result at h ⊢
    cases h with
    | unavailable h => exact absurd h hvalue
    | foreign => rfl
  · obtain ⟨outcome, hcall, hjudged, -⟩ := hcalls 2 (by decide)
    have h : Judged 4 (.ok [0xfb, 0xff, 0, 0x10]) outcome.result := hjudged
    refine ⟨outcome, ?_⟩
    generalize outcome.result = result at h ⊢
    cases h with
    | token _ h => exact ⟨_, hcall, rfl, h.length, h.decoded⟩
    | wrongSize h => exact absurd rfl h

end TokenGenerator

end ScanAccess
