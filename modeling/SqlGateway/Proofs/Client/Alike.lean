import Mathlib.Data.Option.Basic
import SqlGateway.Proofs.Client.Construction
import SqlGateway.Proofs.Client.Passwords
import SqlGateway.Proofs.Url.Passwords

/-!
# Options that differ in their passwords

Two attempts `EndAlike` if both fail with one fault, or both succeed with values that are
related.  Attempts in a row end alike if each of them does (`EndAlike.bind`).

Options that `DifferInPasswords` have the same credential and the same timeout, and endpoints
and proxies that are the same or URLs with other passwords.  The transports made of them end
alike, with one place to send queries to but for the password (`createTransport_alike`).
-/

namespace SqlGateway

/-! ## Attempts that end alike -/

/-- Two attempts that end alike: with values that are related, or with one fault. -/
inductive EndAlike {ε α : Type} (related : α → α → Prop) : Except ε α → Except ε α → Prop where
  | ok {a b : α} (here : related a b) : EndAlike related (.ok a) (.ok b)
  | error (e : ε) : EndAlike related (.error e) (.error e)

namespace EndAlike

variable {ε φ α β : Type} {related : α → α → Prop} {connected : β → β → Prop} {x y : Except ε α}

theorem of_eq (refl : ∀ a, related a a) (same : x = y) : EndAlike related x y := by
  subst same
  cases x with
  | ok a => exact .ok (refl a)
  | error e => exact .error e

theorem mono {weaker : α → α → Prop} (alike : EndAlike related x y)
    (implies : ∀ a b, related a b → weaker a b) : EndAlike weaker x y := by
  cases alike with
  | ok here => exact .ok (implies _ _ here)
  | error e => exact .error e

/-- What goes on alike from values that are related ends alike. -/
theorem bind {f g : α → Except ε β} (alike : EndAlike related x y)
    (next : ∀ a b, related a b → EndAlike connected (f a) (g b)) :
    EndAlike connected (x >>= f) (y >>= g) := by
  cases alike with
  | ok here => exact next _ _ here
  | error e => exact .error e

theorem map {f g : α → β} (alike : EndAlike related x y)
    (next : ∀ a b, related a b → connected (f a) (g b)) :
    EndAlike connected (x.map f) (y.map g) := by
  cases alike with
  | ok here => exact .ok (next _ _ here)
  | error e => exact .error e

theorem mapError {f : ε → φ} (alike : EndAlike related x y) :
    EndAlike related (x.mapError f) (y.mapError f) := by
  cases alike with
  | ok here => exact .ok here
  | error e => exact .error (f e)

end EndAlike

/-! ## Texts of URLs -/

namespace Url

/-- Two URLs that are the same, or one with two passwords. -/
def SamePlace (u v : Url) : Prop := u = v ∨ u.Rekeyed v

/-- Two texts that are the same, or URLs that differ in the password alone. -/
def SamePlaceText [Url.Idna] (one two : String) : Prop := one = two ∨ DifferInPassword one two

variable {u v : Url} {one two : String}

theorem SamePlace.masked_eq (same : u.SamePlace v) : u.masked = v.masked := by
  rcases same with rfl | rekeyed
  · rfl
  · exact rekeyed.masked_eq

theorem isBlankText_of_read_trim [Url.Idna] (read : read (trim one) = .ok u) :
    isBlankText one = false := by
  have shown := isBlankText_of_read read
  rw [isBlankText, List.all_eq_false] at shown ⊢
  obtain ⟨c, mem, visible⟩ := shown
  rw [trim, String.toList_ofList] at mem
  exact ⟨c, mem_of_mem_trimBoth mem, visible⟩

theorem SamePlaceText.isBlankText_eq [Url.Idna] (same : SamePlaceText one two) :
    isBlankText one = isBlankText two := by
  rcases same with rfl | ⟨u, v, readOne, readTwo, -⟩
  · rfl
  · rw [isBlankText_of_read_trim readOne, isBlankText_of_read_trim readTwo]

end Url

namespace Http

variable [Url.Idna] {one two : String}

/-- Endpoints that differ in the password alone are read alike. -/
theorem readEndpoint_alike (same : Url.SamePlaceText one two) :
    EndAlike Url.SamePlace (readEndpoint one) (readEndpoint two) := by
  rcases same with rfl | apart
  · exact .of_eq (fun _ => .inl rfl) rfl
  · obtain ⟨u, v, readOne, readTwo, rekeyed⟩ := apart.rekeyed
    rw [readEndpoint, readEndpoint, readOne, readTwo]
    have scheme : v.scheme = u.scheme := by
      cases rekeyed
      rfl
    dsimp only
    rw [scheme]
    split
    · exact .ok (.inr rekeyed)
    · exact .error _

/-- Proxies that differ in the password alone are read alike. -/
theorem readProxy_alike (same : Url.SamePlaceText one two) :
    EndAlike Url.SamePlace (readProxy one) (readProxy two) := by
  rcases same with rfl | apart
  · exact .of_eq (fun _ => .inl rfl) rfl
  · obtain ⟨u, v, readOne, readTwo, rekeyed⟩ := apart.rekeyed
    have host : u.host?.isSome = true ∧ v.host?.isSome = true := by
      cases rekeyed with
      | keyed w a host _ _ _ =>
          have placed := Option.isSome_iff_ne_none.mpr host
          exact ⟨placed, placed⟩
    rw [readProxy, readProxy, readOne, readTwo]
    dsimp only
    rw [if_pos host.1, if_pos host.2]
    exact .ok (.inr rekeyed)

end Http

/-! ## Options -/

namespace Options

/-- Options that are the same but for the passwords in the endpoint and in the proxy. -/
structure DifferInPasswords [Url.Idna] (o o' : Options) : Prop where
  /-- The credential is the same. -/
  credential : o'.credential = o.credential
  /-- The endpoint leads to the same place. -/
  endpoint : Option.Rel Url.SamePlaceText o.endpoint o'.endpoint
  /-- The proxy leads to the same place. -/
  proxy : Option.Rel Url.SamePlaceText o.proxy o'.proxy
  /-- The timeout is the same. -/
  timeout : o'.timeout = o.timeout

variable {o o' : Options}

/-- The check of options looks at the timeout, at the kind of a blank credential and at whether
the endpoint is blank. -/
theorem check_congr (timeout : o'.timeout = o.timeout)
    (credential : (o'.credential.filter Credential.isBlank).map Credential.kind =
      (o.credential.filter Credential.isBlank).map Credential.kind)
    (endpoint : o'.endpoint.map isBlankText = o.endpoint.map isBlankText) :
    o'.check = o.check := by
  have form (o : Options) : o.check =
      if o.timeout.milliseconds = 0 then .error .zeroTimeout
      else
        match (o.credential.filter Credential.isBlank).map Credential.kind with
        | some kind => .error (.blankCredential kind)
        | none =>
            if (o.endpoint.map isBlankText).getD false then .error .blankEndpoint else .ok () := by
    rw [check]
    cases o.credential.filter Credential.isBlank <;> rfl
  rw [form, form, timeout, credential, endpoint]

theorem map_isBlankText_of_rel [Url.Idna] {one two : Option String}
    (same : Option.Rel Url.SamePlaceText one two) :
    two.map isBlankText = one.map isBlankText := by
  cases same with
  | none => rfl
  | some same => exact congrArg some same.isBlankText_eq.symm

theorem filter_isBlankText_of_rel [Url.Idna] {one two : Option String}
    (same : Option.Rel Url.SamePlaceText one two) :
    Option.Rel Url.SamePlaceText (one.filter fun p => !isBlankText p)
      (two.filter fun p => !isBlankText p) := by
  cases same with
  | none => exact .none
  | some same =>
      rw [Option.filter_some, Option.filter_some, same.isBlankText_eq]
      split
      · exact .some same
      · exact .none

namespace DifferInPasswords

variable [Url.Idna] (apart : o.DifferInPasswords o')

include apart

theorem check_eq : o'.check = o.check :=
  check_congr apart.timeout (by rw [apart.credential]) (map_isBlankText_of_rel apart.endpoint)

/-- The endpoints that are used lead to the same place. -/
theorem place (b : Backend) : Url.SamePlaceText (o.place b) (o'.place b) := by
  obtain ⟨_, _, _, _⟩ := o
  obtain ⟨_, _, _, _⟩ := o'
  cases apart.endpoint with
  | none => exact .inl rfl
  | some same => exact same

/-- The proxies that are named lead to the same place. -/
theorem namedProxy (other : Option String) :
    Option.Rel Url.SamePlaceText (o.proxy.or other) (o'.proxy.or other) := by
  obtain ⟨_, _, _, _⟩ := o
  obtain ⟨_, _, _, _⟩ := o'
  cases apart.proxy with
  | none =>
      cases other with
      | none => exact .none
      | some text => exact .some (.inl rfl)
  | some same => exact .some same

/-- The proxies that are used lead to the same place. -/
theorem effectiveProxy (env : Environment) :
    Option.Rel Url.SamePlaceText (o.effectiveProxy env) (o'.effectiveProxy env) := by
  exact filter_isBlankText_of_rel (apart.namedProxy (env.get? proxyVariable))

end DifferInPasswords

/-- Options with other passwords in their endpoints. -/
theorem differ_of_endpoint [Url.Idna] {one two : String} (apart : Url.DifferInPassword one two)
    (o : Options) :
    DifferInPasswords { o with endpoint := some one } { o with endpoint := some two } := by
  refine ⟨rfl, .some (.inr apart), ?_, rfl⟩
  cases o.proxy with
  | none => exact .none
  | some text => exact .some (.inl rfl)

end Options

/-! ## Transports -/

/-- Two transports that are the same but for the passwords of the endpoint and the proxy. -/
structure Http.Transport.SamePlace (t t' : Http.Transport) : Prop where
  /-- The endpoint is the same place. -/
  endpoint : t.endpoint.SamePlace t'.endpoint
  /-- The headers of the credential are the same. -/
  credential : t'.credential = t.credential
  /-- The proxy is the same place. -/
  proxy : Option.Rel Url.SamePlace t.proxy t'.proxy
  /-- The timeout is the same. -/
  timeout : t'.timeout = t.timeout

namespace Client

theorem mapM_readProxy_alike [Url.Idna] {one two : Option String}
    (same : Option.Rel Url.SamePlaceText one two) :
    EndAlike (Option.Rel Url.SamePlace) (one.mapM Http.readProxy) (two.mapM Http.readProxy) := by
  cases same with
  | none => exact .ok .none
  | some same =>
      rw [mapM_some, mapM_some]
      exact (Http.readProxy_alike same).map fun _ _ here => .some here

/-- Clients of a build are alike where those of all backends are. -/
theorem createClient_alike [Url.Idna] {related : Client → Client → Prop} {env : Environment}
    {b : Backend} {o o' : Options}
    (alike : EndAlike related (create env b o).value (create env b o').value)
    (build : CommandLine.Build) :
    EndAlike related (build.createClient env b o).value (build.createClient env b o').value := by
  by_cases has : build.has b = true
  · rw [createClient_of_has has, createClient_of_has has]
    exact alike.mapError
  · rw [createClient_of_lacks has, createClient_of_lacks has]
    exact .error _

/-- Transports made of options that differ in their passwords lead to the same place. -/
theorem createTransport_alike [Url.Idna] {o o' : Options} (apart : o.DifferInPasswords o')
    (env : Environment) (b : Backend) :
    EndAlike Http.Transport.SamePlace (createTransport env b o).value
      (createTransport env b o').value := by
  rw [createTransport_value, createTransport_value, apart.credential, apart.check_eq,
    apart.timeout]
  refine (EndAlike.of_eq (fun _ => rfl) rfl).bind fun headers _ same => ?_
  subst same
  refine (EndAlike.of_eq (fun _ => rfl) rfl).bind fun _ _ _ => ?_
  refine (Http.readEndpoint_alike (apart.place b)).bind fun u v endpoint => ?_
  refine (mapM_readProxy_alike (apart.effectiveProxy env)).bind fun _ _ proxy => ?_
  exact .ok ⟨endpoint, rfl, proxy, rfl⟩

end Client

end SqlGateway
