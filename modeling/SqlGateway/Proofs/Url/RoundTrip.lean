import SqlGateway.Proofs.Url.Authority
import SqlGateway.Proofs.Url.Path

/-!
# Reading back URLs

A URL with a host that is no file is settled once it has been read (`settled_of_readChars`),
and a settled URL is read back from its text (`readChars_chars`).  So the text of a URL that
has been read is read as the same URL, whatever had to be repaired the first time.

Each part of the text ends where the next one begins, because no part has the marks of those
that may follow it.  None has a control or a space, so nothing is dropped at the ends.
-/

namespace SqlGateway.Url

/-- The scheme is one that repairs its URLs the most. -/
def isSpecial (u : Url) : Bool := (SchemeKind.ofScheme u.scheme).isSpecial

/-- A scheme as the reader leaves it. -/
structure IsScheme (scheme : List Char) : Prop where
  head : ∃ c ∈ scheme.head?, isLetter c = true
  chars : ∀ c ∈ scheme, isSchemeChar c = true ∧ c.toLower = c

/-- A URL with a host, of a scheme other than `file`, that is read back from its text. -/
structure Settled [Idna] (u : Url) : Prop where
  scheme : IsScheme u.scheme
  noFile : SchemeKind.ofScheme u.scheme ≠ .file
  authority : ∃ a ∈ u.authority, a.Settled u.scheme u.isSpecial
  path : u.path.Settled u.isSpecial
  query : ∀ q ∈ u.query, Free (querySet u.isSpecial) q
  fragment : ∀ f ∈ u.fragment, Free .fragment f

variable {u : Url} {special : Bool} {scheme cs rest : List Char}

/-! ## Schemes -/

theorem lt_of_isSchemeChar {c : Char} (h : isSchemeChar c = true) : c.toNat < 128 := by
  simp only [isSchemeChar, isLetter, Bool.or_eq_true, Bool.and_eq_true, decide_eq_true_eq] at h
  have bound : ∀ d : Char, c ≤ d → d.toNat < 128 → c.toNat < 128 := fun d below small =>
    Nat.lt_of_le_of_lt (UInt32.le_iff_toNat_le.mp below) small
  rcases h with (((((letter | letter) | digit) | rfl) | rfl) | rfl)
  · exact bound _ letter.2 (by decide)
  · exact bound _ letter.2 (by decide)
  · exact bound _ digit.2 (by decide)
  all_goals decide

theorem visible_of_isSchemeChar {c : Char} (h : isSchemeChar c = true) : ' ' < c := by
  have all : ∀ n : Fin 128, isSchemeChar (Char.ofNat n) = true → ' ' < Char.ofNat n := by
    decide +kernel
  exact forall_ascii (p := fun c => isSchemeChar c = true → ' ' < c) all (lt_of_isSchemeChar h) h

/-- A character of a scheme in lower case. -/
theorem isSchemeChar_toLower {c : Char} (h : isSchemeChar c = true) :
    isSchemeChar c.toLower = true ∧ c.toLower.toLower = c.toLower ∧
      (isLetter c = true → isLetter c.toLower = true) := by
  have all : ∀ n : Fin 128, isSchemeChar (Char.ofNat n) = true →
      isSchemeChar (Char.ofNat n).toLower = true ∧
        (Char.ofNat n).toLower.toLower = (Char.ofNat n).toLower ∧
        (isLetter (Char.ofNat n) = true → isLetter (Char.ofNat n).toLower = true) := by
    decide +kernel
  exact forall_ascii (p := fun c => isSchemeChar c = true → isSchemeChar c.toLower = true ∧
    c.toLower.toLower = c.toLower ∧ (isLetter c = true → isLetter c.toLower = true)) all
    (lt_of_isSchemeChar h) h

/-- A scheme is found again before its colon. -/
theorem splitScheme_append (settled : IsScheme scheme) (rest : List Char) :
    splitScheme (scheme ++ ':' :: rest) = some (scheme, rest) := by
  have here : ∀ c ∈ scheme, isSchemeChar c = true := fun c hc => (settled.chars c hc).1
  have colon : Halts isSchemeChar (':' :: rest) := Halts.cons rfl
  have lower : scheme.map Char.toLower = scheme :=
    (List.map_congr_left fun c hc => (settled.chars c hc).2).trans (List.map_id' scheme)
  obtain ⟨c, hc, letter⟩ := settled.head
  have front : (scheme ++ ':' :: rest).head?.map isLetter = some true := by
    rw [List.head?_append, Option.mem_def.mp hc, Option.some_or, Option.map_some, letter]
  rw [splitScheme, takeWhile_of_halts here colon, dropWhile_of_halts here colon, front, lower]
  rfl

/-- What was split off as a scheme is a scheme. -/
theorem isScheme_of_splitScheme (h : splitScheme cs = some (scheme, rest)) : IsScheme scheme := by
  rw [splitScheme] at h
  split at h
  next first _ =>
    cases h
    cases cs with
    | nil => cases first
    | cons c cs =>
        have letter : isLetter c = true := by simpa using first
        have inScheme : isSchemeChar c = true := by simp [isSchemeChar, letter]
        constructor
        · rw [List.takeWhile_cons_of_pos inScheme]
          exact ⟨c.toLower, rfl, (isSchemeChar_toLower inScheme).2.2 letter⟩
        · intro d hd
          obtain ⟨e, he, rfl⟩ := List.mem_map.mp hd
          have lower := isSchemeChar_toLower (of_mem_takeWhile he)
          exact ⟨lower.1, lower.2.1⟩
  · cases h

/-! ## Queries and fragments -/

theorem lt_of_querySet {c : Char} (free : querySet special c = false) : ' ' < c ∧ c ≠ '#' := by
  cases special with
  | true => exact EncodeSet.lt_of_query (EncodeSet.adding_eq_false.mp free).1
  | false => exact EncodeSet.lt_of_query free

theorem free_encode_querySet (special : Bool) (cs : List Char) :
    Free (querySet special) (encode (querySet special) cs) := by
  cases special with
  | true => exact free_encode EncodeSet.spares_specialQuery cs
  | false => exact free_encode EncodeSet.spares_query cs

theorem readFragment_marked {fragment : Option (List Char)}
    (free : ∀ f ∈ fragment, Free .fragment f) :
    readFragment (marked '#' fragment) = fragment := by
  cases fragment with
  | none => rfl
  | some f => exact congrArg some (encode_of_free (free f rfl))

theorem free_readFragment (cs : List Char) : ∀ f ∈ readFragment cs, Free .fragment f := by
  cases cs with
  | nil => exact nofun
  | cons c cs =>
      rintro _ ⟨⟩
      exact free_encode EncodeSet.spares_fragment cs

/-- A query and a fragment are read back from behind their marks. -/
theorem readQueryAndFragment_marked {query fragment : Option (List Char)}
    (freeQuery : ∀ q ∈ query, Free (querySet special) q)
    (freeFragment : ∀ f ∈ fragment, Free .fragment f) :
    readQueryAndFragment special (marked '?' query ++ marked '#' fragment) = (query, fragment) := by
  have behind := readFragment_marked freeFragment
  cases query with
  | none =>
      cases fragment with
      | none => rfl
      | some f => exact congrArg (Prod.mk none) behind
  | some q =>
      have plain : ∀ c ∈ q, decide (c ≠ '#') = true := fun c hc =>
        decide_eq_true (lt_of_querySet (freeQuery q rfl c hc)).2
      have halts : Halts (fun c => decide (c ≠ '#')) (marked '#' fragment) := by
        cases fragment with
        | none => exact Halts.nil _
        | some f => exact Halts.cons rfl
      have text : marked '?' (some q) ++ marked '#' fragment = '?' :: (q ++ marked '#' fragment) :=
        rfl
      rw [text, readQueryAndFragment, takeWhile_of_halts plain halts,
        dropWhile_of_halts plain halts, encode_of_free (freeQuery q rfl), behind]

/-- What was read for a query and a fragment is encoded. -/
theorem free_readQueryAndFragment (special : Bool) (cs : List Char) :
    (∀ q ∈ (readQueryAndFragment special cs).1, Free (querySet special) q) ∧
      ∀ f ∈ (readQueryAndFragment special cs).2, Free .fragment f := by
  rw [readQueryAndFragment.eq_def]
  split
  · refine ⟨?_, free_readFragment _⟩
    rintro _ ⟨⟩
    exact free_encode_querySet special _
  · exact ⟨nofun, free_readFragment _⟩

/-! ## Behind the slashes -/

theorem halts_marked (p : Char → Bool) (query : p '?' = false) (fragment : p '#' = false)
    (u : Url) : Halts p (marked '?' u.query ++ marked '#' u.fragment) := by
  cases u.query with
  | some q => exact Halts.cons query
  | none =>
      cases u.fragment with
      | some f => exact Halts.cons fragment
      | none => exact Halts.nil p

/-- The text behind an authority. -/
def behindAuthority (u : Url) : List Char :=
  u.path.text ++ (marked '?' u.query ++ marked '#' u.fragment)

theorem Settled.halts_behindAuthority [Idna] (settled : u.Settled) :
    Halts (fun c => !endsAuthority special c) u.behindAuthority := by
  have marks : Halts (fun c => !endsAuthority special c)
      (marked '?' u.query ++ marked '#' u.fragment) := halts_marked _ rfl rfl u
  rw [behindAuthority]
  obtain empty | ⟨cs, text⟩ := settled.path.head
  · rwa [empty]
  · rw [text]
    exact Halts.cons rfl

/-- What follows an authority is read back. -/
theorem finish_behindAuthority [Idna] (settled : u.Settled) :
    finish u.scheme u.isSpecial u.authority (readPath u.isSpecial) u.behindAuthority = u := by
  have path : ∀ c ∈ u.path.text, (!endsPath c) = true := by
    intro c hc
    obtain ⟨-, noQuery, noFragment⟩ := settled.path.of_mem_text hc
    simp [endsPath, noQuery, noFragment]
  have halts : Halts (fun c => !endsPath c) (marked '?' u.query ++ marked '#' u.fragment) :=
    halts_marked _ rfl rfl u
  rw [finish, behindAuthority, takeWhile_of_halts path halts, dropWhile_of_halts path halts,
    readQueryAndFragment_marked settled.query settled.fragment, readPath_text settled.path]

/-- What follows the slashes is read back. -/
theorem readBehindSlashes_text [Idna] {a : Authority} (settled : u.Settled)
    (some : u.authority = some a) (placed : a.Settled u.scheme u.isSpecial) :
    readBehindSlashes u.scheme u.isSpecial (a.text ++ u.behindAuthority) = .ok u := by
  have inside : ∀ c ∈ a.text, (!endsAuthority u.isSpecial c) = true := by
    intro c hc
    have char := placed.isAuthorityChar hc
    simp [endsAuthority, endsPath, char.noSlash, char.noQuery, char.noFragment, char.noBackslash]
  have halts : Halts (fun c => !endsAuthority u.isSpecial c) u.behindAuthority :=
    settled.halts_behindAuthority
  have more : ¬ (a.text = ['@'] ∧ u.behindAuthority ≠ []) := by
    rintro ⟨alone, -⟩
    obtain ⟨c, hc, other⟩ := placed.exists_mem_text
    rw [alone] at hc
    exact other (List.mem_singleton.mp hc)
  have whole := finish_behindAuthority settled
  rw [some] at whole
  rw [readBehindSlashes, takeWhile_of_halts inside halts, dropWhile_of_halts inside halts]
  dsimp only
  rw [if_neg more, readAuthority_text placed]
  exact congrArg Except.ok whole

/-! ## The whole -/

theorem chars_eq {a : Authority} (some : u.authority = some a) :
    u.chars = u.scheme ++ ':' :: '/' :: '/' :: (a.text ++ u.behindAuthority) := by
  rw [chars, hierarchyText, some]
  simp [behindAuthority]

theorem visible_marked {mark : Char} (visible : ' ' < mark) {part : Option (List Char)}
    (inside : ∀ cs ∈ part, ∀ c ∈ cs, ' ' < c) : ∀ c ∈ marked mark part, ' ' < c := by
  cases part with
  | none => exact nofun
  | some cs => exact List.forall_mem_cons.mpr ⟨visible, inside cs rfl⟩

/-- Every character of a settled URL is visible. -/
theorem Settled.visible [Idna] (settled : u.Settled) : ∀ c ∈ u.chars, ' ' < c := by
  obtain ⟨a, some, placed⟩ := settled.authority
  intro c hc
  simp only [chars_eq some, behindAuthority, List.mem_append, List.mem_cons] at hc
  rcases hc with scheme | rfl | rfl | rfl | authority | path | query | fragment
  · exact visible_of_isSchemeChar (settled.scheme.chars c scheme).1
  · decide
  · decide
  · decide
  · exact (placed.isAuthorityChar authority).visible
  · exact (settled.path.of_mem_text path).1
  · exact visible_marked (by decide)
      (fun q hq c hc => (lt_of_querySet (settled.query q hq c hc)).1) c query
  · exact visible_marked (by decide)
      (fun f hf c hc => EncodeSet.lt_of_fragment (settled.fragment f hf c hc)) c fragment

theorem trimBoth_of_forall {α : Type} {p : α → Bool} {as : List α} (h : ∀ a ∈ as, p a = false) :
    trimBoth p as = as := by
  have back : ∀ a ∈ as.reverse, p a = false := fun a ha => h a (List.mem_reverse.mp ha)
  rw [trimBoth, (halts_of_forall h).dropWhile, (halts_of_forall back).dropWhile,
    List.reverse_reverse]

theorem mem_of_mem_trimBoth {α : Type} {p : α → Bool} {as : List α} {a : α}
    (h : a ∈ trimBoth p as) : a ∈ as := by
  rw [trimBoth, List.mem_reverse] at h
  have inside := (List.dropWhile_sublist p).subset h
  rw [List.mem_reverse] at inside
  exact (List.dropWhile_sublist p).subset inside

/-- The slashes before an authority are those of its URL alone. -/
theorem dropWhile_slashes [Idna] {a : Authority} (placed : a.Settled scheme special)
    (behind : List Char) :
    ('/' :: '/' :: (a.text ++ behind)).dropWhile isAnySlash = a.text ++ behind := by
  obtain ⟨c, cs, text⟩ : ∃ c cs, a.text = c :: cs := by
    obtain ⟨c, hc, -⟩ := placed.exists_mem_text
    exact List.exists_cons_of_ne_nil (List.ne_nil_of_mem hc)
  have char := placed.isAuthorityChar (text ▸ List.mem_cons_self : c ∈ a.text)
  have halts : Halts isAnySlash (a.text ++ behind) := by
    rw [text]
    exact Halts.cons (by simp [isAnySlash, char.noSlash, char.noBackslash])
  exact halts.dropWhile

/-- A settled URL is read back from its text. -/
theorem readChars_chars [Idna] (settled : u.Settled) : readChars u.chars = .ok u := by
  obtain ⟨a, some, placed⟩ := settled.authority
  have visible := settled.visible
  have trimmed : trimControls u.chars = u.chars := trimBoth_of_forall fun c hc =>
    decide_eq_false (Char.not_le.mpr (visible c hc))
  have split := splitScheme_append settled.scheme ('/' :: '/' :: (a.text ++ u.behindAuthority))
  have read := readBehindSlashes_text settled some placed
  rw [← chars_eq some] at split
  have whole : readBehindScheme u.scheme ('/' :: '/' :: (a.text ++ u.behindAuthority))
      (behindColon u.chars) = .ok u := by
    rw [isSpecial] at read
    cases kind : SchemeKind.ofScheme u.scheme with
    | file => exact absurd kind settled.noFile
    | other =>
        rw [kind] at read
        rw [readBehindScheme, kind]
        exact read
    | web =>
        rw [kind] at read
        rw [readBehindScheme, kind]
        exact (congrArg (readBehindSlashes u.scheme true) (dropWhile_slashes placed _)).trans read
  rw [readChars, trimmed, dropBreaks_of_lt visible, split]
  exact whole

/-! ## What has been read -/

section Cases

variable [Idna]

theorem readFileHost_cases (read : readFileHost scheme cs = .ok u) :
    ∃ host rest, u = finishFile scheme host rest := by
  rw [readFileHost] at read
  dsimp only at read
  split at read
  · cases read
    exact ⟨_, _, rfl⟩
  · split at read
    · cases read
      exact ⟨_, _, rfl⟩
    · cases found : (Host.readSpecial
          (dropBreaks (cs.takeWhile fun c => !endsAuthority true c))).map some with
      | error e =>
          rw [found] at read
          cases read
      | ok host =>
          simp only [found, bind, Except.bind] at read
          split at read
          · cases read
            exact ⟨_, _, rfl⟩
          · cases read
            exact ⟨_, _, rfl⟩

theorem readFile_cases (read : readFile scheme cs = .ok u) :
    ∃ host rest, u = finishFile scheme host rest := by
  rw [readFile] at read
  split at read
  · cases read
    exact ⟨_, _, rfl⟩
  · split at read
    · cases read
      exact ⟨_, _, rfl⟩
    · exact readFileHost_cases read

theorem readBehindSlashes_cases (read : readBehindSlashes scheme special cs = .ok u) :
    ∃ a text left rest, readAuthority scheme special text = .ok (a, left) ∧
      u = finish scheme special (some a) (readPath special) (left ++ rest) := by
  rw [readBehindSlashes] at read
  dsimp only at read
  split at read
  · cases read
  · cases found : readAuthority scheme special (cs.takeWhile fun c => !endsAuthority special c) with
    | error e => simp [found, bind, Except.bind] at read
    | ok placed =>
        rw [found] at read
        cases read
        exact ⟨placed.1, _, placed.2, _, found, rfl⟩

/-- Three kinds of URLs are read: files, URLs with an authority, and others. -/
inductive Kind (u : Url) : Prop where
  /-- A file. -/
  | file {scheme rest : List Char} {host : Option Host}
      (kind : SchemeKind.ofScheme scheme = .file) (whole : u = finishFile scheme host rest)
  /-- A URL with an authority, of which the text is known. -/
  | placed {scheme text left rest : List Char} {a : Authority} (head : IsScheme scheme)
      (kind : SchemeKind.ofScheme scheme ≠ .file)
      (read : readAuthority scheme (SchemeKind.ofScheme scheme).isSpecial text = .ok (a, left))
      (whole : u = finish scheme (SchemeKind.ofScheme scheme).isSpecial (some a)
        (readPath (SchemeKind.ofScheme scheme).isSpecial) (left ++ rest))
  /-- A URL without an authority. -/
  | loose (nowhere : u.authority = none)

theorem kind_of_readChars (read : readChars cs = .ok u) : u.Kind := by
  rw [readChars] at read
  split at read
  next scheme rest split =>
    have head := isScheme_of_splitScheme split
    rw [readBehindScheme.eq_def] at read
    cases kind : SchemeKind.ofScheme scheme with
    | file =>
        rw [kind] at read
        obtain ⟨host, rest, whole⟩ := readFile_cases read
        exact .file kind whole
    | web =>
        rw [kind] at read
        have special : (SchemeKind.ofScheme scheme).isSpecial = true := by rw [kind]; rfl
        obtain ⟨a, text, left, rest, found, whole⟩ := readBehindSlashes_cases read
        rw [← special] at found whole
        exact .placed head (by simp [kind]) found whole
    | other =>
        rw [kind] at read
        dsimp only at read
        split at read
        · have special : (SchemeKind.ofScheme scheme).isSpecial = false := by rw [kind]; rfl
          obtain ⟨a, text, left, rest, found, whole⟩ := readBehindSlashes_cases read
          rw [← special] at found whole
          exact .placed head (by simp [kind]) found whole
        · cases read
          exact .loose rfl
        · cases read
          exact .loose rfl
  · cases read

/-- A URL is read only from a text with a letter in it. -/
theorem exists_letter_of_readChars (read : readChars cs = .ok u) :
    ∃ c ∈ cs, isLetter c = true := by
  rw [readChars] at read
  split at read
  next scheme rest split =>
    rw [splitScheme] at split
    split at split
    next first _ =>
      obtain ⟨c, hc, letter⟩ := Option.map_eq_some_iff.mp first
      have inside := (List.mem_filter.mp (List.mem_of_mem_head? hc)).1
      exact ⟨c, mem_of_mem_trimBoth inside, letter⟩
    · cases split
  · cases read

/-- A URL of the web has a host. -/
theorem host_of_web (read : readChars cs = .ok u) (web : SchemeKind.ofScheme u.scheme = .web) :
    u.host? ≠ none := by
  rw [readChars] at read
  split at read
  next scheme rest _ =>
    rw [readBehindScheme.eq_def] at read
    cases kind : SchemeKind.ofScheme scheme with
    | file =>
        rw [kind] at read
        obtain ⟨host, rest, rfl⟩ := readFile_cases read
        cases kind.symm.trans web
    | web =>
        rw [kind] at read
        obtain ⟨a, text, left, rest, found, rfl⟩ := readBehindSlashes_cases read
        obtain ⟨hostText, host⟩ := (read_of_readAuthority found).host
        exact Host.ne_none_of_read host
    | other =>
        rw [kind] at read
        dsimp only at read
        split at read
        · obtain ⟨a, text, left, rest, found, rfl⟩ := readBehindSlashes_cases read
          cases kind.symm.trans web
        · cases read
          cases kind.symm.trans web
        · cases read
          cases kind.symm.trans web
  · cases read

/-- A URL with a password has an authority that was read, and is no file. -/
theorem exists_read_of_password (read : readChars cs = .ok u) (password : u.password? ≠ none) :
    ∃ a, u.authority = some a ∧ a.Read u.scheme u.isSpecial ∧
      SchemeKind.ofScheme u.scheme ≠ .file := by
  cases kind_of_readChars read with
  | file kind whole =>
      subst whole
      exact absurd rfl password
  | loose nowhere =>
      rw [password?, nowhere] at password
      exact absurd rfl password
  | placed head kind found whole =>
      subst whole
      exact ⟨_, rfl, read_of_readAuthority found, kind⟩

/-- A URL with a password has a host and is no file. -/
theorem placed_of_password (read : readChars cs = .ok u) (password : u.password? ≠ none) :
    u.host? ≠ none ∧ SchemeKind.ofScheme u.scheme ≠ .file := by
  obtain ⟨a, some, left, kind⟩ := exists_read_of_password read password
  rw [password?, some] at password
  rw [host?, some]
  exact ⟨left.placed password, kind⟩

end Cases

section Settled

variable [LawfulIdna]

/-- A URL with a host that is no file is settled once it has been read. -/
theorem settled_of_readChars (read : readChars cs = .ok u) (host : u.host? ≠ none)
    (noFile : SchemeKind.ofScheme u.scheme ≠ .file) : u.Settled := by
  cases kind_of_readChars read with
  | file kind whole =>
      subst whole
      exact absurd kind noFile
  | loose nowhere =>
      rw [host?, nowhere] at host
      exact absurd rfl host
  | @placed scheme _ _ _ _ head kind found whole =>
      subst whole
      have free := free_readQueryAndFragment (SchemeKind.ofScheme scheme).isSpecial
      exact ⟨head, kind, ⟨_, rfl, settled_of_readAuthority found host⟩, settled_readPath _ _,
        (free _).1, (free _).2⟩

/-- A URL of the web is settled once it has been read. -/
theorem settled_of_web (read : readChars cs = .ok u)
    (web : SchemeKind.ofScheme u.scheme = .web) : u.Settled := by
  refine settled_of_readChars read (host_of_web read web) ?_
  rw [web]
  exact nofun

end Settled

end SqlGateway.Url
