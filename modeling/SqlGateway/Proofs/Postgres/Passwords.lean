import Mathlib.Data.List.Forall2
import SqlGateway.Postgres.Settings
import SqlGateway.Proofs.Url.Redaction

/-!
# Passwords in connection strings

A password enters settings by the user information of a URL or by a parameter.  Nothing else
in the settings depends on it, and neither does whether the connection string can be read, nor
why not (`agree_read`).  For that the password in the user information must spell a text, as
letters and digits do.

The two ways are `ApartInPassword`.  One parameter keeps what it is about
(`agree_withParameter`), and a run over all of them follows by induction
(`agree_withParameters`).
-/

namespace SqlGateway.Postgres

open Url (AlikeButPassword)

/-! ## Settings that differ in passwords -/

/-- Settings that are alike in everything but their passwords. -/
def Settings.Alike (s t : Settings) : Prop := ∃ p, t = { s with password := p }

/-- Two attempts that end alike: with settings that differ in their passwords alone, or with
one fault. -/
inductive Agree : Except Fault Settings → Except Fault Settings → Prop where
  | ok {s t : Settings} (alike : s.Alike t) : Agree (.ok s) (.ok t)
  | error (e : Fault) : Agree (.error e) (.error e)

variable {s t : Settings}

theorem Settings.Alike.refl (s : Settings) : s.Alike s := ⟨s.password, rfl⟩

theorem Settings.Alike.endpoint (alike : s.Alike t) : s.endpoint = t.endpoint := by
  obtain ⟨p, rfl⟩ := alike
  rfl

theorem Settings.Alike.withLogin (alike : s.Alike t) (login : Option String × String) :
    (s.withLogin login).Alike (t.withLogin login) := by
  obtain ⟨p, rfl⟩ := alike
  exact ⟨_, rfl⟩

theorem Agree.refl : ∀ x, Agree x x
  | .ok s => .ok (.refl s)
  | .error e => .error e

theorem Agree.map {ε α : Type} {x : Except ε α} {f g : α → Settings} {fault : ε → Fault}
    (alike : ∀ a, (f a).Alike (g a)) :
    Agree ((x.mapError fault).map f) ((x.mapError fault).map g) := by
  cases x with
  | ok a => exact .ok (alike a)
  | error e => exact .error _

/-- What goes on alike from settings that are alike agrees. -/
theorem Agree.andThen {x y : Logged (Except Fault Settings)}
    {f g : Settings → Logged (Except Fault Settings)} (agree : Agree x.value y.value)
    (go : ∀ {s t}, s.Alike t → Agree (f s).value (g t).value) :
    Agree (x.andThen f).value (y.andThen g).value := by
  obtain ⟨_, _⟩ := x
  obtain ⟨_, _⟩ := y
  cases agree with
  | ok alike => exact go alike
  | error e => exact .error e

/-! ## Parameters -/

/-- Two parameters that are the same, or both of which set the password. -/
def SameButPassword (x y : String × String) : Prop :=
  x = y ∨ (x.1 = "password" ∧ y.1 = "password")

/-- A parameter does the same to settings that differ in their passwords. -/
theorem agree_withParameter (alike : s.Alike t) (name value : String) :
    Agree (withParameter s name value).value (withParameter t name value).value := by
  obtain ⟨p, rfl⟩ := alike
  have kept : s.Alike { s with password := p } := ⟨p, rfl⟩
  have sslMode : Agree
      (if sslModes.contains (value.map Char.toLower) then
        (⟨.ok s, []⟩ : Logged (Except Fault Settings)) else ⟨.error (.sslMode value), []⟩).value
      (if sslModes.contains (value.map Char.toLower) then
        (⟨.ok { s with password := p }, []⟩ : Logged (Except Fault Settings))
        else ⟨.error (.sslMode value), []⟩).value := by
    split
    · exact .ok kept
    · exact .error _
  rw [withParameter.eq_def, withParameter.eq_def]
  split
  case h_1 | h_2 => exact sslMode
  case h_3 => exact .map fun _ => kept
  case h_4 => split <;> exact .ok ⟨p, rfl⟩
  case h_5 =>
    split
    · exact .ok ⟨p, rfl⟩
    · exact .error _
  case h_6 => exact .map fun _ => ⟨p, rfl⟩
  case h_7 | h_8 => exact .ok ⟨p, rfl⟩
  case h_9 => exact .ok ⟨some value, rfl⟩
  case h_10 => split <;> exact .ok kept

theorem agree_of_sameButPassword (alike : s.Alike t) {x y : String × String}
    (same : SameButPassword x y) :
    Agree (withParameter s x.1 x.2).value (withParameter t y.1 y.2).value := by
  rcases same with rfl | ⟨here, there⟩
  · exact agree_withParameter alike x.1 x.2
  · obtain ⟨p, rfl⟩ := alike
    rw [here, there]
    exact .ok ⟨some y.2, rfl⟩

/-- Parameters do the same to settings, but for their passwords. -/
theorem agree_withParameters {xs ys : List (String × String)}
    (same : List.Forall₂ SameButPassword xs ys) (alike : s.Alike t) :
    Agree (withParameters s xs).value (withParameters t ys).value := by
  induction same generalizing s t with
  | nil => exact .ok alike
  | cons here _ ih => exact (agree_of_sameButPassword alike here).andThen ih

/-! ## Texts without percent signs -/

/-- The text of some characters is read from their bytes. -/
theorem lossy_ofChars (cs : List Char) : Utf8.lossy (Utf8.ofChars cs) = .ofList cs := by
  rw [Utf8.lossy, Utf8.pieces_ofChars, List.map_map]
  exact congrArg String.ofList (List.map_id' cs)

theorem fault?_ofChars (cs : List Char) : Utf8.fault? (Utf8.ofChars cs) = none := by
  have pieces : ∀ offset, Utf8.faultFrom offset (cs.map .char) = none := by
    induction cs with
    | nil => exact fun _ => rfl
    | cons c cs ih => exact fun _ => ih _
  rw [Utf8.fault?, Utf8.pieces_ofChars, pieces]

theorem decodeText_of_plain {cs : List Char} (plain : '%' ∉ cs) :
    decodeText cs = .ok (.ofList cs) := by
  rw [decodeText, Url.decode_of_plain plain, fault?_ofChars, lossy_ofChars]

theorem formText_of_plain {s : String} (noPercent : '%' ∉ s.toList) (noPlus : '+' ∉ s.toList) :
    Url.formText s.toList = s := by
  have kept : (s.toList.map fun c => if c = '+' then ' ' else c) = s.toList := by
    refine (List.map_congr_left fun c hc => if_neg ?_).trans (List.map_id' s.toList)
    rintro rfl
    exact noPlus hc
  rw [Url.formText, kept, Url.decode_of_plain noPercent, lossy_ofChars, String.ofList_toList]

/-! ## The parts of a URL -/

variable {u v : Url}

theorem agree_withDatabase (alike : s.Alike t) (path : List Char) :
    Agree (withDatabase s path) (withDatabase t path) := by
  obtain ⟨p, rfl⟩ := alike
  rw [withDatabase, withDatabase]
  split
  · exact .ok ⟨p, rfl⟩
  · cases decodeText _ with
    | ok database => exact .ok ⟨p, rfl⟩
    | error e => exact .error e

theorem withPassword_of_plain {p : List Char} (plain : '%' ∉ p) :
    withPassword s (some p) = .ok { s with password := some (.ofList p) } := by
  rw [withPassword, decodeText_of_plain plain]
  rfl

/-- The parts of URLs that are alike in everything but passwords do the same to settings, but
for their passwords. -/
theorem agree_withParts (alike : u.AlikeButPassword v) {p q : List Char}
    (here : u.password? = some p) (there : v.password? = some q)
    (plain : '%' ∉ p) (plain' : '%' ∉ q) : Agree (withParts s u) (withParts s v) := by
  have host : withHost s v = withHost s u := by rw [withHost, withHost, alike.host]
  rw [withParts, withParts, host, alike.port, alike.username, alike.path, here, there]
  cases withHost s u with
  | error e => exact .error e
  | ok s' =>
      simp only [bind, Except.bind]
      cases withUsername { s' with port := u.port?.getD s'.port } u.username with
      | error e => exact .error e
      | ok s' =>
          simp only [withPassword_of_plain plain, withPassword_of_plain plain']
          exact agree_withDatabase ⟨_, rfl⟩ _

/-! ## Connection strings -/

/-- Two URLs that are alike in everything but the password of a connection string. -/
inductive ApartInPassword (u v : Url) : Prop where
  /-- Both have a password of letters and digits in the user information. -/
  | userinfo (alike : u.AlikeButPassword v) {p q : List Char}
      (here : u.password? = some p) (there : v.password? = some q)
      (plain : ∀ c ∈ p, c.isAlphanum = true) (plain' : ∀ c ∈ q, c.isAlphanum = true)
  /-- Both have a password among the parameters of the query, and the same parameters before
  and behind it. -/
  | parameter {q r : List Char} {before behind : List (String × String)} {a b : String}
      (query : u.query = some q) (same : v = { u with query := some r })
      (here : Url.parameters q = before ++ ("password", a) :: behind)
      (there : Url.parameters r = before ++ ("password", b) :: behind)

theorem sameButPassword_refl : ∀ xs, List.Forall₂ SameButPassword xs xs
  | [] => .nil
  | _ :: xs => .cons (Or.inl rfl) (sameButPassword_refl xs)

theorem sameButPassword_append {a b : String} :
    ∀ {before behind : List (String × String)}, List.Forall₂ SameButPassword
      (before ++ ("password", a) :: behind) (before ++ ("password", b) :: behind)
  | [], behind => .cons (Or.inr ⟨rfl, rfl⟩) (sameButPassword_refl behind)
  | _ :: _, _ => .cons (Or.inl rfl) sameButPassword_append

theorem not_mem_of_alphanum {cs : List Char} (plain : ∀ c ∈ cs, c.isAlphanum = true) :
    '%' ∉ cs := fun h => absurd (plain '%' h) (by decide)

/-- Connection strings that differ in the password alone are read alike. -/
theorem agree_read [Url.Idna] (env : Environment) {one two : String}
    (readOne : Url.read one = .ok u)
    (readTwo : Url.read two = .ok v) (apart : ApartInPassword u v) :
    Agree (Settings.read env one).value (Settings.read env two).value := by
  rw [Settings.read, Settings.read, readOne, readTwo]
  dsimp only
  rw [withUrl, withUrl]
  cases apart with
  | userinfo alike here there plain plain' =>
      have parts : Agree (withParts (.ofEnvironment env) u) (withParts (.ofEnvironment env) v) :=
        agree_withParts alike here there (not_mem_of_alphanum plain) (not_mem_of_alphanum plain')
      refine Agree.andThen parts fun settings => ?_
      rw [alike.query]
      exact agree_withParameters (sameButPassword_refl _) settings
  | @parameter q r _ _ _ _ query same here there =>
      subst same
      have parts : withParts (.ofEnvironment env) { u with query := some r } =
          withParts (.ofEnvironment env) u := rfl
      rw [parts, query, Option.map_some, Option.map_some, Option.getD_some, Option.getD_some,
        here, there]
      exact Agree.andThen (.refl _) fun settings =>
        agree_withParameters sameButPassword_append settings

end SqlGateway.Postgres
