import SqlGateway.Proofs.Url.Host

/-!
# Reading back authorities

An authority with a host is settled once it has been read (`settled_of_readAuthority`), and a
settled authority is read back from its text (`readAuthority_text`).

The last `@` of the text is the one that ends the user name and the password, because a
settled host has none.  The first colon before it divides the two, because an encoded user
name has none.
-/

namespace SqlGateway.Url

/-- An authority with a host that is read back from its text. -/
structure Authority.Settled [Idna] (scheme : List Char) (special : Bool) (a : Authority) :
    Prop where
  username : Free .userinfo a.username
  password : ∀ p ∈ a.password, p ≠ [] ∧ Free .userinfo p
  host : ∃ h ∈ a.host, h.Settled special
  port : ∀ p ∈ a.port, defaultPort? scheme ≠ some p

/-- A port as it stands behind a host. -/
def portText : Option UInt16 → List Char
  | some p => ':' :: Nat.toDigits 10 p.toNat
  | none => []

/-! ## User name and password -/

section Userinfo

variable {username front back cs : List Char} {password : Option (List Char)}

/-- A text is split at its last `@`. -/
theorem splitUserinfo_append (plain : '@' ∉ back) :
    splitUserinfo (front ++ '@' :: back) = some (front, back) := by
  have behind : (front ++ '@' :: back).reverse.takeWhile (· ≠ '@') = back.reverse := by
    rw [List.reverse_append, List.reverse_cons, List.append_assoc]
    refine takeWhile_of_halts (fun c hc => ?_) (Halts.cons (by simp))
    rw [List.mem_reverse] at hc
    exact decide_eq_true fun h => plain (h ▸ hc)
  have length : (front ++ '@' :: back).length - back.reverse.length - 1 = front.length := by
    rw [List.length_reverse, List.length_append, List.length_cons]
    omega
  rw [splitUserinfo, if_pos (by simp), behind]
  dsimp only
  rw [length, List.take_left, List.reverse_reverse]

theorem splitUserinfo_of_plain (plain : '@' ∉ cs) : splitUserinfo cs = none := by
  rw [splitUserinfo, if_neg (by simpa using plain)]

/-- What was read for a user name and a password is encoded, and the password is not empty. -/
theorem free_readUserinfo (cs : List Char) :
    Free .userinfo (readUserinfo cs).1 ∧
      ∀ p ∈ (readUserinfo cs).2, p ≠ [] ∧ Free .userinfo p := by
  rw [readUserinfo]
  split
  · refine ⟨free_encode EncodeSet.spares_userinfo _, ?_⟩
    rintro _ ⟨⟩
    exact ⟨fun h => List.cons_ne_nil _ _ (encode_eq_nil.mp h),
      free_encode EncodeSet.spares_userinfo _⟩
  · exact ⟨free_encode EncodeSet.spares_userinfo _, nofun⟩

variable (freeName : Free .userinfo username)
  (freePassword : ∀ p ∈ password, p ≠ [] ∧ Free .userinfo p)

include freeName freePassword

/-- A user name and a password are read back from their text, which an `@` ends. -/
theorem readUserinfo_text (some : userinfoText username password ≠ []) :
    ∃ front, userinfoText username password = front ++ ['@'] ∧
      readUserinfo front = (username, password) := by
  have noColon : ∀ c ∈ username, decide (c ≠ ':') = true := fun c hc =>
    decide_eq_true (EncodeSet.lt_of_userinfo (freeName c hc)).2.2.2.2.2.1
  cases password with
  | none =>
      rw [userinfoText] at some ⊢
      have named : username ≠ [] := by
        rintro rfl
        exact some rfl
      refine ⟨username, if_neg named, ?_⟩
      have front := takeWhile_of_halts noColon (Halts.nil _)
      have behind := dropWhile_of_halts noColon (Halts.nil _)
      rw [List.append_nil] at front behind
      rw [readUserinfo, front, behind, encode_of_free freeName]
  | some p =>
      obtain ⟨ne_nil, free⟩ := freePassword p rfl
      obtain ⟨c, cs, rfl⟩ := List.exists_cons_of_ne_nil ne_nil
      refine ⟨username ++ ':' :: c :: cs, rfl, ?_⟩
      have colon : Halts (fun c => decide (c ≠ ':')) (':' :: c :: cs) := Halts.cons rfl
      rw [readUserinfo, takeWhile_of_halts noColon colon, dropWhile_of_halts noColon colon,
        encode_of_free freeName]
      dsimp only
      rw [encode_of_free free]

/-- The text before a host is found again, and what it says is read back. -/
theorem readUserinfo_split (plain : '@' ∉ back) :
    let text := userinfoText username password ++ back
    ∃ front, (splitUserinfo text).getD ([], text) = (front, back) ∧
      readUserinfo front = (username, password) := by
  by_cases some : userinfoText username password = []
  · refine ⟨[], ?_, ?_⟩
    · rw [some, List.nil_append, splitUserinfo_of_plain plain]
      rfl
    · cases password with
      | some p => simp [userinfoText] at some
      | none =>
          have anonymous : username = [] := by simpa [userinfoText] using some
          rw [anonymous]
          rfl
  · obtain ⟨front, text, read⟩ := readUserinfo_text freeName freePassword some
    refine ⟨front, ?_, read⟩
    rw [text, List.append_assoc, List.singleton_append, splitUserinfo_append plain]
    rfl

/-- What stands before a host has none of the marks behind an authority. -/
theorem isAuthorityChar_userinfoText {c : Char} (h : c ∈ userinfoText username password) :
    IsAuthorityChar c := by
  have encoded : ∀ {cs}, Free .userinfo cs → c ∈ cs → IsAuthorityChar c := by
    intro cs free hc
    obtain ⟨shown, noSlash, noQuery, noFragment, noBackslash, -⟩ :=
      EncodeSet.lt_of_userinfo (free c hc)
    exact ⟨shown, noSlash, noQuery, noFragment, noBackslash⟩
  cases password with
  | none =>
      rw [userinfoText] at h
      split at h
      · cases h
      · rw [List.mem_append, List.mem_singleton] at h
        rcases h with hc | rfl
        · exact encoded freeName hc
        · decide
  | some p =>
      simp only [userinfoText, List.mem_append, List.mem_cons, List.not_mem_nil, or_false] at h
      rcases h with (hc | rfl | hc) | rfl
      · exact encoded freeName hc
      · decide
      · exact encoded (freePassword p rfl).2 hc
      · decide

end Userinfo

/-! ## Ports -/

section Port

variable {scheme cs rest : List Char} {port : Option UInt16}

/-- A port other than the default is read back from its digits. -/
theorem readPort_toDigits {p : UInt16} (other : defaultPort? scheme ≠ some p) :
    readPort scheme (Nat.toDigits 10 p.toNat) = .ok (some p, []) := by
  have digits : ∀ c ∈ Nat.toDigits 10 p.toNat, (decide ('0' ≤ c) && decide (c ≤ '9')) = true := by
    intro c hc
    have digit := Nat.isDigit_of_mem_toDigits (by decide) (by decide) hc
    have bounds : 48 ≤ c.val ∧ c.val ≤ 57 := by simpa [Char.isDigit] using digit
    rw [Bool.and_eq_true, decide_eq_true_eq, decide_eq_true_eq]
    exact bounds
  have front := takeWhile_of_halts digits (Halts.nil _)
  have behind := dropWhile_of_halts digits (Halts.nil _)
  have value : Numeral.value? 10 (Nat.toDigits 10 p.toNat) = some p.toNat :=
    Numeral.value?_toDigits (by decide) (by decide) _
  have small : ¬ 65536 ≤ p.toNat := Nat.not_le.mpr p.toNat_lt
  have some : ¬ (Nat.toDigits 10 p.toNat = [] ∨ defaultPort? scheme = .some p) :=
    not_or.mpr ⟨Nat.toDigits_ne_nil, other⟩
  rw [List.append_nil] at front behind
  rw [readPort]
  dsimp only
  rw [front, behind, value, Option.getD_some, if_neg small, UInt16.ofNat_toNat, if_neg some]

/-- A port that has been read is not the default. -/
theorem of_readPort (read : readPort scheme cs = .ok (port, rest)) :
    ∀ p ∈ port, defaultPort? scheme ≠ some p := by
  rw [readPort] at read
  dsimp only at read
  split at read
  · cases read
  · have shown : ∀ {shownPort : Option UInt16} {value : UInt16} {empty : Prop} [Decidable empty],
        shownPort = (if empty ∨ defaultPort? scheme = some value then none else some value) →
          ∀ p ∈ shownPort, defaultPort? scheme ≠ some p := by
      rintro _ value empty _ rfl p hp
      split at hp
      · cases hp
      next other =>
        cases hp
        exact fun h => other (Or.inr h)
    split at read
    · exact shown (congrArg Prod.fst (Except.ok.inj read)).symm
    · exact shown (congrArg Prod.fst (Except.ok.inj read)).symm
    · cases read

end Port

/-! ## Authorities -/

section Authority

variable {scheme cs rest : List Char} {special : Bool} {a : Authority}

theorem text_eq (a : Authority) {h : Host} (host : a.host = some h) :
    a.text = userinfoText a.username a.password ++ (h.text ++ portText a.port) := by
  rw [Authority.text, host, List.append_assoc]
  rfl

theorem halts_portText (port : Option UInt16) :
    Halts (fun c => decide (c ≠ ':')) (portText port) := by
  cases port with
  | none => exact Halts.nil _
  | some p => exact Halts.cons rfl

theorem isHostChar_portText {port : Option UInt16} {c : Char} (h : c ∈ portText port) :
    IsHostChar c := by
  cases port with
  | none => cases h
  | some p =>
      obtain rfl | hc := List.mem_cons.mp h
      · decide
      · have digit := Nat.isDigit_of_mem_toDigits (by decide) (by decide) hc
        exact (Host.isNameChar_of_ipv4 (Or.inl digit)).toIsHostChar

section Idna

variable [Idna]

/-- A settled authority is read back from its text. -/
theorem readAuthority_text (settled : a.Settled scheme special) :
    readAuthority scheme special a.text = .ok (a, []) := by
  obtain ⟨h, host, placed⟩ := settled.host
  have noAt : '@' ∉ h.text ++ portText a.port := by
    intro hc
    cases List.mem_append.mp hc with
    | inl hc => exact (placed.plain _ hc).noAt rfl
    | inr hc => exact (isHostChar_portText hc).noAt rfl
  obtain ⟨front, split, userinfo⟩ :=
    readUserinfo_split settled.username settled.password noAt
  have length := placed.length _ (halts_portText a.port)
  rw [text_eq a host, readAuthority, split]
  dsimp only
  rw [userinfo, length, List.take_left, List.drop_left, placed.reads]
  obtain ⟨username, password, _, port⟩ := a
  obtain rfl := host
  cases port with
  | none => rfl
  | some p =>
      have read := readPort_toDigits (settled.port p rfl)
      simp only [portText, bind, Except.bind, read]
      rfl

theorem Authority.Settled.isAuthorityChar (settled : a.Settled scheme special) {c : Char}
    (hc : c ∈ a.text) : IsAuthorityChar c := by
  obtain ⟨h, host, placed⟩ := settled.host
  rw [text_eq a host, List.mem_append, List.mem_append] at hc
  rcases hc with before | name | port
  · exact isAuthorityChar_userinfoText settled.username settled.password before
  · exact (placed.plain c name).toIsAuthorityChar
  · exact (isHostChar_portText port).toIsAuthorityChar

/-- The text of a settled authority has more in it than the mark before a host. -/
theorem Authority.Settled.exists_mem_text (settled : a.Settled scheme special) :
    ∃ c ∈ a.text, c ≠ '@' := by
  obtain ⟨h, host, placed⟩ := settled.host
  obtain ⟨c, hc⟩ := List.exists_mem_of_ne_nil _ placed.ne_nil
  refine ⟨c, ?_, (placed.plain c hc).noAt⟩
  rw [text_eq a host]
  exact List.mem_append_right _ (List.mem_append_left _ hc)

/-- What the reader of authorities leaves. -/
structure Authority.Read (scheme : List Char) (special : Bool) (a : Authority) : Prop where
  username : Free .userinfo a.username
  password : ∀ p ∈ a.password, p ≠ [] ∧ Free .userinfo p
  host : ∃ cs, Host.read special cs = .ok a.host
  port : ∀ p ∈ a.port, defaultPort? scheme ≠ some p
  /-- A password stands before a host. -/
  placed : a.password ≠ none → a.host ≠ none

theorem read_of_readAuthority (read : readAuthority scheme special cs = .ok (a, rest)) :
    a.Read scheme special := by
  rw [readAuthority] at read
  generalize (splitUserinfo cs).getD ([], cs) = split at read
  obtain ⟨userinfo, place⟩ := split
  obtain ⟨freeName, freePassword⟩ := free_readUserinfo userinfo
  dsimp only at read
  generalize readUserinfo userinfo = names at read freeName freePassword
  obtain ⟨username, password⟩ := names
  cases placed : Host.read special (place.take (hostLength false place)) with
  | error e => simp [placed, bind, Except.bind] at read
  | ok host =>
      simp only [placed, bind, Except.bind] at read
      split at read
      · cases read
      next guard =>
        have some : password ≠ none → host ≠ none := fun some none =>
          guard ⟨none, Or.inr (Or.inr some)⟩
        split at read
        next digits _ =>
          cases ported : readPort scheme digits with
          | error e => simp [ported] at read
          | ok found =>
              simp only [ported] at read
              cases read
              exact ⟨freeName, freePassword, ⟨_, placed⟩, of_readPort ported, some⟩
        · cases read
          exact ⟨freeName, freePassword, ⟨_, placed⟩, nofun, some⟩

end Idna

/-- An authority with a host is settled once it has been read. -/
theorem settled_of_readAuthority [LawfulIdna]
    (read : readAuthority scheme special cs = .ok (a, rest))
    (some : a.host ≠ none) : a.Settled scheme special := by
  have left := read_of_readAuthority read
  obtain ⟨text, host⟩ := left.host
  obtain ⟨h, here⟩ := Option.ne_none_iff_exists'.mp some
  rw [here] at host
  exact ⟨left.username, left.password, ⟨h, here, Host.settled_of_read host⟩, left.port⟩

end Authority

end SqlGateway.Url
