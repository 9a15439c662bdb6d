import ScanAccess.Proofs.CanonicalUrl

/-! # The grammar of repository URLs

A remote can be read off at its first colon: a scheme or a git user stands before it, and a path
that ends in `.git` behind it. The pattern has several ways to take the same text, since a path
may begin with the two slashes that may follow the colon, but they come to this one split. No
text of the pattern has a character that URLs must not have, so looking for these first refuses
nothing that the pattern would accept.
-/

namespace ScanAccess

namespace Text

/-! ## Word characters -/

/-- No range of letters or numeric characters meets one of blanks. -/
theorem alphanumericRanges_disjoint :
    ∀ range ∈ alphanumericRanges, ∀ blank ∈ separatorRanges ++ whiteSpaceRanges,
      range.2 < blank.1 ∨ blank.2 < range.1 := by
  decide +kernel

theorem isBlank_of_isWord {c : Char} (h : isWord c = true) : isBlank c = false := by
  rcases Bool.or_eq_true_iff.mp h with hline | hrange
  · rw [beq_iff_eq.mp hline]
    decide
  · refine Bool.eq_false_iff.mpr fun hblank => ?_
    obtain ⟨range, hmem, hlower, hupper⟩ := inRanges_eq_true_iff.mp hrange
    obtain ⟨blank, hmemBlank, hlowerBlank, hupperBlank⟩ := inRanges_eq_true_iff.mp hblank
    rcases alphanumericRanges_disjoint range hmem blank hmemBlank with h | h <;> omega

namespace Pattern

/-! ## Rows of characters -/

variable {accepts : Char → Bool} {text : List Char}

theorem mem_language_many_one :
    text ∈ (many (one accepts)).language ↔ ∀ c ∈ text, accepts c = true := by
  induction text with
  | nil =>
      have hnil : [] ∈ (many (one accepts)).language := Language.nil_mem_kstar _
      simp [hnil]
  | cons c rest ih =>
      rw [language, cons_mem_kstar_iff, List.forall_mem_cons, ← ih]
      constructor
      · rintro ⟨head, hhead, tail, htail, rfl⟩
        obtain ⟨d, hd, heq⟩ := mem_language_one.mp hhead
        obtain ⟨rfl, rfl⟩ := List.cons.inj heq
        exact ⟨hd, htail⟩
      · rintro ⟨hc, hrest⟩
        exact ⟨[], mem_language_one.mpr ⟨c, hc, rfl⟩, rest, hrest, rfl⟩

theorem mem_language_oneOrMore_one :
    text ∈ (one accepts).oneOrMore.language ↔ text ≠ [] ∧ ∀ c ∈ text, accepts c = true := by
  rw [oneOrMore, language, Language.mem_mul]
  constructor
  · rintro ⟨first, hfirst, rest, hrest, rfl⟩
    obtain ⟨c, hc, rfl⟩ := mem_language_one.mp hfirst
    exact ⟨List.cons_ne_nil c rest, List.forall_mem_cons.mpr ⟨hc, mem_language_many_one.mp hrest⟩⟩
  · rintro ⟨hne, hall⟩
    obtain ⟨c, rest, rfl⟩ := List.exists_cons_of_ne_nil hne
    obtain ⟨hc, hrest⟩ := List.forall_mem_cons.mp hall
    exact ⟨[c], mem_language_one.mpr ⟨c, hc, rfl⟩, rest, mem_language_many_one.mpr hrest, rfl⟩

end Pattern

end Text

namespace RepositoryUrl

open ScanAccess.Text

/-! ## The parts of a remote -/

/-- What may stand before the colon of a remote: a scheme, or the git user at a host. -/
inductive IsOrigin : List Char → Prop where
  | scheme {name : String} (h : name ∈ ["git", "ssh", "http", "https"]) : IsOrigin name.toList
  | gitUser {host : List Char} (hne : host ≠ []) (h : ∀ c ∈ host, isWord c = true ∨ c = '.') :
    IsOrigin ("git@".toList ++ host)

/-- What may stand between the colon of a remote and its ending. -/
structure IsPath (path : List Char) : Prop where
  ne_nil : path ≠ []
  characters : ∀ c ∈ path, isWord c = true ∨ c ∈ ['.', '@', ':', '/', '-', '~']

/-- A remote, with a slash at its end or without, that is split at its first colon. -/
structure IsRemote (text origin path : List Char) : Prop where
  isOrigin : IsOrigin origin
  isPath : IsPath path
  first_colon : ':' ∉ origin
  text_eq : text = origin ++ ':' :: path ++ ".git".toList ∨
    text = origin ++ ':' :: path ++ ".git/".toList

variable {text origin path : List Char}

theorem isHostCharacter_iff {c : Char} : isHostCharacter c = true ↔ isWord c = true ∨ c = '.' := by
  rw [isHostCharacter, Bool.or_eq_true, beq_iff_eq]

theorem isPathCharacter_iff {c : Char} :
    isPathCharacter c = true ↔ isWord c = true ∨ c ∈ ['.', '@', ':', '/', '-', '~'] := by
  rw [isPathCharacter, Bool.or_eq_true, List.contains_iff_mem]

theorem mem_scheme_iff :
    text ∈ scheme.language ↔ ∃ name ∈ ["git", "ssh", "http", "https"], text = name.toList := by
  have hhttp : text ∈ ((Pattern.literal ['h', 't', 't', 'p']).seq
      (Pattern.char 's').optional).language ↔
        text = "https".toList ∨ text = "http".toList := by
    rw [Pattern.language, Language.mem_mul]
    simp only [Pattern.mem_language_literal, Pattern.mem_language_optional,
      Pattern.mem_language_char, exists_eq_left, or_and_right, exists_or]
    simp [eq_comm]
  have heither : text ∈ scheme.language ↔
      text ∈ (Pattern.literal ['g', 'i', 't']).language ∨
        text ∈ (Pattern.literal ['s', 's', 'h']).language ∨
          text ∈ ((Pattern.literal ['h', 't', 't', 'p']).seq
            (Pattern.char 's').optional).language := Iff.rfl
  rw [heither, hhttp, Pattern.mem_language_literal, Pattern.mem_language_literal]
  simp only [List.mem_cons, List.not_mem_nil, or_false, exists_eq_or_imp, exists_eq_left]
  constructor
  · rintro (rfl | rfl | rfl | rfl) <;> simp
  · rintro (rfl | rfl | rfl | rfl) <;> simp

theorem mem_gitUser_iff :
    text ∈ gitUser.language ↔
      ∃ host, host ≠ [] ∧ (∀ c ∈ host, isWord c = true ∨ c = '.') ∧
        text = "git@".toList ++ host := by
  rw [gitUser, Pattern.language, Language.mem_mul]
  simp only [Pattern.mem_language_literal, Pattern.mem_language_oneOrMore_one, exists_eq_left,
    isHostCharacter_iff]
  constructor
  · rintro ⟨host, ⟨hne, hhost⟩, rfl⟩
    exact ⟨host, hne, hhost, rfl⟩
  · rintro ⟨host, hne, hhost, rfl⟩
    exact ⟨host, ⟨hne, hhost⟩, rfl⟩

theorem mem_origin_iff : text ∈ (scheme.either gitUser).language ↔ IsOrigin text := by
  rw [Pattern.language, Language.mem_add, mem_scheme_iff, mem_gitUser_iff]
  constructor
  · rintro (⟨name, hname, rfl⟩ | ⟨host, hne, hhost, rfl⟩)
    · exact .scheme hname
    · exact .gitUser hne hhost
  · rintro (⟨hname⟩ | ⟨hne, hhost⟩)
    · exact Or.inl ⟨_, hname, rfl⟩
    · exact Or.inr ⟨_, hne, hhost, rfl⟩

theorem mem_path_iff : text ∈ (Pattern.one isPathCharacter).oneOrMore.language ↔ IsPath text := by
  rw [Pattern.mem_language_oneOrMore_one]
  simp only [isPathCharacter_iff]
  exact ⟨fun h => ⟨h.1, h.2⟩, fun h => ⟨h.ne_nil, h.characters⟩⟩

/-- Two slashes in front of a path are part of a path. -/
theorem IsPath.slashes (h : IsPath path) : IsPath ('/' :: '/' :: path) := by
  refine ⟨List.cons_ne_nil _ _, ?_⟩
  rw [List.forall_mem_cons, List.forall_mem_cons]
  exact ⟨Or.inr (by decide), Or.inr (by decide), h.characters⟩

theorem mem_separated_path_iff :
    text ∈ ((Pattern.char ':').seq (Pattern.literal ['/', '/']).optional).language *
        (Pattern.one isPathCharacter).oneOrMore.language ↔
      ∃ path, IsPath path ∧ text = ':' :: path := by
  rw [Language.mem_mul]
  constructor
  · rintro ⟨separator, hseparator, path, hpath, rfl⟩
    rw [mem_path_iff] at hpath
    obtain ⟨colon, hcolon, slashes, hslashes, rfl⟩ := Language.mem_mul.mp hseparator
    rw [Pattern.mem_language_char.mp hcolon]
    rcases Pattern.mem_language_optional.mp hslashes with hliteral | rfl
    · rw [Pattern.mem_language_literal.mp hliteral]
      exact ⟨'/' :: '/' :: path, hpath.slashes, rfl⟩
    · exact ⟨path, hpath, rfl⟩
  · rintro ⟨path, hpath, rfl⟩
    -- The slashes are left to the path, so that the separator is the colon alone.
    refine ⟨[':'], Language.mem_mul.mpr ⟨[':'], ?_, [], ?_, rfl⟩, path, mem_path_iff.mpr hpath, rfl⟩
    · exact Pattern.mem_language_char.mpr rfl
    · exact Pattern.mem_language_optional.mpr (Or.inr rfl)

/-- The remotes without a slash at the end, by their parts. -/
theorem mem_remotes_iff :
    text ∈ remotes ↔ ∃ origin path, IsOrigin origin ∧ IsPath path ∧
      text = origin ++ ':' :: path ++ ".git".toList := by
  rw [remotes, mul_assoc (scheme.either gitUser).language, Language.mem_mul]
  constructor
  · rintro ⟨front, hfront, ending, hending, rfl⟩
    obtain ⟨origin, horigin, rest, hrest, rfl⟩ := Language.mem_mul.mp hfront
    obtain ⟨path, hpath, rfl⟩ := mem_separated_path_iff.mp hrest
    rw [Pattern.mem_language_literal.mp hending]
    exact ⟨origin, path, mem_origin_iff.mp horigin, hpath, rfl⟩
  · rintro ⟨origin, path, horigin, hpath, rfl⟩
    refine ⟨origin ++ ':' :: path, Language.mem_mul.mpr ?_, ".git".toList, ?_, rfl⟩
    · exact ⟨origin, mem_origin_iff.mpr horigin, ':' :: path,
        mem_separated_path_iff.mpr ⟨path, hpath, rfl⟩, rfl⟩
    · exact Pattern.mem_language_literal.mpr rfl

/-! ## The characters of a remote -/

/-- The digits and the letters of ASCII. -/
def asciiRanges : List CodeRange :=
  [(0x30, 0x39), (0x41, 0x5a), (0x61, 0x7a)]

theorem alphanumericRanges_ascii :
    ∀ range ∈ alphanumericRanges, 0x80 ≤ range.1 ∨ range ∈ asciiRanges := by
  decide +kernel

theorem not_isWord {c : Char} (h : c ∈ ':' :: forbiddenCharacters) : isWord c = false := by
  have hall : (':' :: forbiddenCharacters).all (fun c => decide (c ≠ '_' ∧ c.toNat < 0x80 ∧
      ∀ range ∈ asciiRanges, c.toNat < range.1 ∨ range.2 < c.toNat)) = true := by
    decide
  obtain ⟨hline, hascii, houtside⟩ := of_decide_eq_true (List.all_eq_true.mp hall c h)
  rw [isWord, Bool.or_eq_false_iff]
  refine ⟨beq_eq_false_iff_ne.mpr hline, Bool.eq_false_iff.mpr fun hrange => ?_⟩
  obtain ⟨range, hmem, hlower, hupper⟩ := inRanges_eq_true_iff.mp hrange
  -- All these characters are of ASCII, where only three ranges have word characters.
  rcases alphanumericRanges_ascii range hmem with hbeyond | hlatin
  · omega
  · rcases houtside range hlatin with hbelow | habove <;> omega

theorem isForbidden_of_isWord {c : Char} (h : isWord c = true) : isForbidden c = false := by
  rw [isForbidden, Bool.or_eq_false_iff]
  refine ⟨Bool.eq_false_iff.mpr fun hmem => ?_, isBlank_of_isWord h⟩
  rw [not_isWord (List.mem_cons_of_mem _ (List.contains_iff_mem.mp hmem))] at h
  exact Bool.false_ne_true h

/-- A row of word characters and of others that are allowed in URLs has no forbidden one. -/
theorem any_isForbidden_of_word_or (others : List Char) (hothers : others.any isForbidden = false)
    (h : ∀ c ∈ text, isWord c = true ∨ c ∈ others) : text.any isForbidden = false := by
  refine List.any_eq_false.mpr fun c hc => Bool.eq_false_iff.mp ?_
  rcases h c hc with hword | hother
  · exact isForbidden_of_isWord hword
  · exact Bool.eq_false_iff.mpr (List.any_eq_false.mp hothers c hother)

theorem IsOrigin.any_isForbidden (h : IsOrigin origin) : origin.any isForbidden = false := by
  cases h with
  | scheme hname =>
      have hschemes : ∀ name ∈ ["git", "ssh", "http", "https"],
          name.toList.any isForbidden = false := by
        decide +kernel
      exact hschemes _ hname
  | gitUser _ hhost =>
      rw [List.any_append, Bool.or_eq_false_iff]
      refine ⟨by decide +kernel, any_isForbidden_of_word_or ['.'] (by decide) ?_⟩
      exact fun c hc => (hhost c hc).imp_right List.mem_singleton.mpr

theorem IsOrigin.colon_not_mem (h : IsOrigin origin) : ':' ∉ origin := by
  cases h with
  | scheme hname =>
      have hschemes : ∀ name ∈ ["git", "ssh", "http", "https"], ':' ∉ name.toList := by
        decide +kernel
      exact hschemes _ hname
  | gitUser _ hhost =>
      have hcolon : ¬ (isWord ':' = true ∨ ':' = '.') := by
        rw [not_isWord List.mem_cons_self]
        decide
      rw [List.mem_append, not_or]
      exact ⟨by decide +kernel, fun hmem => hcolon (hhost ':' hmem)⟩

theorem IsOrigin.starts (h : IsOrigin origin) :
    ∃ start ∈ ["git", "ssh", "http"], start.toList <+: origin := by
  cases h with
  | scheme hname =>
      have hschemes : ∀ name ∈ ["git", "ssh", "http", "https"],
          ∃ start ∈ ["git", "ssh", "http"], start.toList <+: name.toList := by
        decide +kernel
      exact hschemes _ hname
  | gitUser => exact ⟨"git", by simp, '@' :: _, rfl⟩

theorem any_isForbidden_of_mem_remotes (h : text ∈ remotes) : text.any isForbidden = false := by
  obtain ⟨origin, path, horigin, hpath, rfl⟩ := mem_remotes_iff.mp h
  have hbehind := any_isForbidden_of_word_or ['.', '@', ':', '/', '-', '~'] (by decide)
    hpath.characters
  simp only [List.any_append, List.any_cons, horigin.any_isForbidden, hbehind]
  decide +kernel

/-! ## The pattern and the grammar -/

theorem exists_isRemote_iff :
    (∃ origin path, IsRemote text origin path) ↔
      ∃ base ∈ remotes, text = base ∨ text = base ++ ['/'] := by
  have hslash (front : List Char) : front ++ ".git".toList ++ ['/'] = front ++ ".git/".toList := by
    rw [List.append_assoc]
    rfl
  constructor
  · rintro ⟨origin, path, hremote⟩
    refine ⟨origin ++ ':' :: path ++ ".git".toList, mem_remotes_iff.mpr
      ⟨origin, path, hremote.isOrigin, hremote.isPath, rfl⟩, ?_⟩
    rw [hslash]
    exact hremote.text_eq
  · rintro ⟨base, hbase, hends⟩
    obtain ⟨origin, path, horigin, hpath, rfl⟩ := mem_remotes_iff.mp hbase
    rw [hslash] at hends
    exact ⟨origin, path, horigin, hpath, horigin.colon_not_mem, hends⟩

theorem accepts_iff_isRemote :
    pattern.accepts text = true ↔ ∃ origin path, IsRemote text origin path :=
  pattern_accepts_iff.trans exists_isRemote_iff.symm

/-- A text that the pattern accepts is not refused before the pattern is tried. -/
theorem any_isForbidden_of_accepts (h : pattern.accepts text = true) :
    text ≠ [] ∧ text.any isForbidden = false := by
  obtain ⟨base, hbase, hends⟩ := pattern_accepts_iff.mp h
  refine ⟨?_, (any_isForbidden_of_ends hends).trans (any_isForbidden_of_mem_remotes hbase)⟩
  rintro rfl
  revert h
  decide

variable {url canonical : String}

/-- A URL has a canonical form exactly if it is a remote. -/
theorem exists_validate_eq_ok_iff :
    (∃ canonical, (validate url).result = .ok canonical) ↔
      ∃ origin path, IsRemote (trim url).toList origin path := by
  simp only [validate_result_eq_ok_iff, canonical?_eq_some_iff_accepts]
  rw [← accepts_iff_isRemote]
  constructor
  · rintro ⟨canonical, -, haccepts, -⟩
    exact haccepts
  · intro haccepts
    exact ⟨_, (any_isForbidden_of_accepts haccepts).2, haccepts, rfl⟩

theorem IsCanonical.ends (h : IsCanonical canonical) : ".git".toList <:+ canonical.toList := by
  obtain ⟨origin, path, -, -, heq⟩ := mem_remotes_iff.mp h.remote
  exact ⟨origin ++ ':' :: path, heq.symm⟩

theorem IsCanonical.starts (h : IsCanonical canonical) :
    ∃ start ∈ ["git", "ssh", "http"], start.toList <+: canonical.toList := by
  obtain ⟨origin, path, horigin, -, heq⟩ := mem_remotes_iff.mp h.remote
  obtain ⟨start, hstart, hbegins⟩ := horigin.starts
  rw [heq, List.append_assoc]
  exact ⟨start, hstart, hbegins.trans (List.prefix_append _ _)⟩

theorem IsCanonical.character (h : IsCanonical canonical) :
    ∀ c ∈ canonical.toList, isBlank c = false ∧ c ∉ forbiddenCharacters := by
  intro c hc
  have hallowed := Bool.eq_false_iff.mpr (List.any_eq_false.mp h.allowed c hc)
  obtain ⟨hcharacters, hblank⟩ := Bool.or_eq_false_iff.mp hallowed
  exact ⟨hblank, mt List.contains_iff_mem.mpr (Bool.eq_false_iff.mp hcharacters)⟩

/-- A raw text is accepted exactly if a remote is left of it without the blanks around it. -/
theorem exists_canonicalize_eq_ok_iff {url : RawText} :
    (∃ canonical, (canonicalize url).result = .ok canonical) ↔
      ∃ text origin path, trimWhile isBlankPoint url.points = List.map .char text ∧
        IsRemote text origin path := by
  constructor
  · rintro ⟨canonical, hcanonical⟩
    obtain ⟨s, t, rfl, -, hvalidate⟩ :=
      exists_of_canonicalForm? (canonicalize_result_eq_ok_iff.mp hcanonical)
    obtain ⟨origin, path, hremote⟩ :=
      exists_validate_eq_ok_iff.mp ⟨t, validate_result_eq_ok_iff.mpr hvalidate⟩
    exact ⟨_, origin, path, trimWhile_points_ofString s, hremote⟩
  · rintro ⟨text, origin, path, htext, hremote⟩
    obtain ⟨s, rfl, rfl⟩ := exists_of_trimWhile_points htext
    obtain ⟨t, hvalidate⟩ := exists_validate_eq_ok_iff.mpr ⟨origin, path, hremote⟩
    refine ⟨t, canonicalize_result_eq_ok_iff.mpr ?_⟩
    rw [canonicalForm?_ofString, validate_result_eq_ok_iff.mp hvalidate, Option.map_some]

/-- A URL is accepted exactly if it is a remote once the blanks around it are dropped, and it is
refused for no other reason than being malformed. Its canonical form is what is left without a slash
at the end, ends in `.git`, begins as a remote does, and has no blanks and nothing that means
something to a shell. A text from outside that is no string is never a remote and refused like other
texts. The texts of the pattern are those with the one split at the colon, and all of them pass what
is looked at before the pattern. -/
theorem validate_accepts_exactly_remotes :
    (∀ url : String,
      ((∃ canonical, (validate url).result = .ok canonical) ↔
        ∃ origin path, IsRemote (trim url).toList origin path) ∧
      (∀ failure, (validate url).result = .error failure → failure = .malformedUrl) ∧
      ∀ canonical, (validate url).result = .ok canonical →
        (trim url = canonical ∨ trim url = canonical ++ "/") ∧
        ".git".toList <:+ canonical.toList ∧
        (∃ start ∈ ["git", "ssh", "http"], start.toList <+: canonical.toList) ∧
        ∀ c ∈ canonical.toList, isBlank c = false ∧ c ∉ forbiddenCharacters) ∧
    (∀ url : RawText,
      ((∃ canonical, (canonicalize url).result = .ok canonical) ↔
        ∃ text origin path, trimWhile isBlankPoint url.points = List.map .char text ∧
          IsRemote text origin path) ∧
      (∀ failure, (canonicalize url).result = .error failure → failure = .malformedUrl) ∧
      ∀ canonical, (canonicalize url).result = .ok canonical →
        ∃ s t : String, url = s ∧ canonical = t ∧ (validate s).result = .ok t) ∧
    ∀ text : List Char,
      (text ∈ pattern.language ↔ ∃ origin path, IsRemote text origin path) ∧
      (pattern.accepts text = true ↔ text ∈ pattern.language) ∧
      (text ∈ pattern.language → text ≠ [] ∧ text.any isForbidden = false) := by
  refine ⟨fun url => ⟨exists_validate_eq_ok_iff, fun failure hfailure => ?_, ?_⟩,
    fun url => ⟨exists_canonicalize_eq_ok_iff, fun failure hfailure => ?_, ?_⟩, fun text => ?_⟩
  · rw [validate_result] at hfailure
    split at hfailure
    · exact (Except.error.inj hfailure).symm
    · cases hfailure
  · intro canonical hcanonical
    obtain ⟨his, hends⟩ := canonical?_eq_some_iff.mp (validate_result_eq_ok_iff.mp hcanonical)
    exact ⟨hends, his.ends, his.starts, his.character⟩
  · rw [canonicalize_result] at hfailure
    split at hfailure
    · exact (Except.error.inj hfailure).symm
    · cases hfailure
  · intro canonical hcanonical
    obtain ⟨s, t, hs, ht, hvalidate⟩ :=
      exists_of_canonicalForm? (canonicalize_result_eq_ok_iff.mp hcanonical)
    exact ⟨s, t, hs, ht, validate_result_eq_ok_iff.mpr hvalidate⟩
  · have haccepts := Pattern.accepts_iff pattern text
    exact ⟨haccepts.symm.trans accepts_iff_isRemote, haccepts,
      fun hmem => any_isForbidden_of_accepts (haccepts.mpr hmem)⟩

theorem validate_accepts_exactly_remotes_slashes :
    let url := "\u3000ssh://git@hôst:22/~ü/a-b.git/\n"
    let canonical := "ssh://git@hôst:22/~ü/a-b.git"
    (validate url).result = .ok canonical ∧
      (∃ origin path, IsRemote (trim url).toList origin path) ∧
      (trim url = canonical ∨ trim url = canonical ++ "/") ∧
      ".git".toList <:+ canonical.toList ∧ '\n' ∉ canonical.toList ∧
      canonical.toList ∈ pattern.language ∧ canonical.toList.any isForbidden = false ∧
      ∃ failure, (validate "ssh:a b.git").result = .error failure ∧ failure = .malformedUrl := by
  intro url canonical
  have hvalidate : (validate url).result = .ok canonical := by decide +kernel
  have hrefused : (validate "ssh:a b.git").result = .error .malformedUrl := by decide +kernel
  have haccepts : pattern.accepts canonical.toList = true := by decide +kernel
  obtain ⟨hurls, -, htexts⟩ := validate_accepts_exactly_remotes
  obtain ⟨hgrammar, -, hcanonical⟩ := hurls url
  obtain ⟨hends, hsuffix, -, hcharacters⟩ := hcanonical canonical hvalidate
  obtain ⟨-, hlanguage, hallowed⟩ := htexts canonical.toList
  have hblank : isBlank '\n' = true := by decide
  refine ⟨hvalidate, hgrammar.mp ⟨canonical, hvalidate⟩, hends, hsuffix, fun hmem => ?_,
    hlanguage.mp haccepts, (hallowed (hlanguage.mp haccepts)).2, _, hrefused,
    (hurls "ssh:a b.git").2.1 _ hrefused⟩
  rw [(hcharacters '\n' hmem).1] at hblank
  exact Bool.false_ne_true hblank

end RepositoryUrl

end ScanAccess
