import SqlGateway.Proofs.Url.Redaction

/-!
# URLs that differ in their passwords

Two URLs that have been read and are alike in everything but the passwords they have are one
URL with two keys, `Rekeyed`.  What is done with them follows from that form: masked they are
the same (`Rekeyed.masked_eq`), without their users they are the same (`Rekeyed.anonymous_eq`),
and their texts have a front and a back in common, between which the passwords stand
(`exists_chars_keyed`).
-/

namespace SqlGateway.Url

/-- A URL with an authority and a password. -/
def keyed (u : Url) (a : Authority) (password : List Char) : Url :=
  { u with authority := some { a with password := some password } }

/-- Two URLs that are one but for their passwords. -/
inductive Rekeyed : Url → Url → Prop where
  /-- One URL with two passwords. -/
  | keyed (u : Url) (a : Authority) {p q : List Char} (host : a.host ≠ none)
      (noFile : SchemeKind.ofScheme u.scheme ≠ .file) (here : Free .userinfo p)
      (there : Free .userinfo q) : Rekeyed (u.keyed a p) (u.keyed a q)

/-- Two texts that are URLs, with blanks around them perhaps, and differ in nothing but the
passwords, which both have. -/
def DifferInPassword [Idna] (one two : String) : Prop :=
  ∃ u v, read (trim one) = .ok u ∧ read (trim two) = .ok v ∧ u.AlikeButPassword v ∧
    u.password? ≠ none ∧ v.password? ≠ none

variable {u v : Url} {one two : String}

/-! ## Reading -/

/-- A URL that has been read and has a password is a URL with a key. -/
theorem exists_keyed [Idna] (read : read one = .ok u) (password : u.password? ≠ none) :
    ∃ a p, u = u.keyed a p ∧ a.host ≠ none ∧ SchemeKind.ofScheme u.scheme ≠ .file ∧
      Free .userinfo p := by
  obtain ⟨a, some, left, noFile⟩ := exists_read_of_password read password
  rw [password?, some, Option.bind_some] at password
  obtain ⟨p, key⟩ := Option.ne_none_iff_exists'.mp password
  refine ⟨a, p, ?_, left.placed password, noFile, (left.password p key).2⟩
  rw [keyed, ← key, ← some]

/-- URLs that have been read and are alike but for their passwords are one URL with two keys. -/
theorem rekeyed_of_read [Idna] (readOne : read one = .ok u) (readTwo : read two = .ok v)
    (alike : u.AlikeButPassword v) (here : u.password? ≠ none) (there : v.password? ≠ none) :
    u.Rekeyed v := by
  obtain ⟨a, p, formOne, host, noFile, freeOne⟩ := exists_keyed readOne here
  obtain ⟨b, q, formTwo, -, -, freeTwo⟩ := exists_keyed readTwo there
  have rest : v = u.keyed a q := by
    obtain ⟨scheme, username, host, port, path, query, fragment⟩ := alike
    rw [formOne, formTwo] at username host port
    have parts : b.username = a.username ∧ b.host = a.host ∧ b.port = a.port :=
      ⟨username, host, port⟩
    rw [formTwo, keyed, keyed, scheme, path, query, fragment, parts.1, parts.2.1, parts.2.2]
  rw [rest, formOne]
  exact .keyed u a host noFile freeOne freeTwo

theorem DifferInPassword.rekeyed [Idna] (apart : DifferInPassword one two) :
    ∃ u v, read (trim one) = .ok u ∧ read (trim two) = .ok v ∧ u.Rekeyed v := by
  obtain ⟨u, v, readOne, readTwo, alike, here, there⟩ := apart
  exact ⟨u, v, readOne, readTwo, rekeyed_of_read readOne readTwo alike here there⟩

/-! ## What is made of them -/

theorem Rekeyed.masked_eq (rekeyed : u.Rekeyed v) : u.masked = v.masked := by
  cases rekeyed with
  | keyed w a host noFile _ _ =>
      have masked (p : List Char) : (w.keyed a p).masked = w.keyed a mask := by
        have authority : (w.keyed a p).authority = some { a with password := some p } := rfl
        rw [masked_of_some authority (Option.some_ne_none p) host noFile]
        rfl
      rw [masked, masked]

theorem Rekeyed.anonymous_eq (rekeyed : u.Rekeyed v) : u.anonymous = v.anonymous := by
  cases rekeyed
  rfl

/-- A password stands in the text of its URL between a front and a back. -/
theorem exists_chars_keyed (u : Url) (a : Authority) :
    ∃ front back, ∀ p, (u.keyed a p).chars = front ++ (p ++ back) := by
  refine ⟨u.scheme ++ ':' :: '/' :: '/' :: (a.username ++ [':']),
    '@' :: ({ a with username := [], password := none } : Authority).text ++ u.behindAuthority,
    fun p => ?_⟩
  rw [chars_eq (u := u.keyed a p) rfl, Authority.text]
  simp [Authority.text, userinfoText, keyed, behindAuthority]

end SqlGateway.Url
