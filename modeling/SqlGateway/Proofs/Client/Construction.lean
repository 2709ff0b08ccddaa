import SqlGateway.CommandLine.Build
import SqlGateway.Proofs.Attempt
import SqlGateway.Proofs.Text.Utf8
import SqlGateway.Url.Idna.Unmapped

/-!
# What it takes to make a client

Options must meet the requirements of a backend, `requirements`.  A client is made exactly if
they meet all of them.  Otherwise making it fails with a misconfiguration, and its cause is
what the first requirement blames that is not met (`createClient_decided`).

`Requirement.Met` says of each requirement what the options must be like, and
`Requirement.Blames` what is told of options that are not.  Neither follows the order in
which a client is made.  The order is in `requirements` alone.

The making of a client is a chain of attempts.  Each `Decides` a few requirements
(`decides_headersFor`, `decides_check`, `decides_readEndpoint`, `decides_proxy`,
`decides_settings`), and attempts in a row decide the requirements of all of them in a row
(`Decides.bind`).
-/

namespace SqlGateway

/-! ## Values of headers -/

namespace Http

/-- A byte that may stand in the value of a header. -/
def IsSendableByte (byte : UInt8) : Prop := byte = 9 ∨ (32 ≤ byte ∧ byte ≠ 127)

theorem isSendableByte_iff (byte : UInt8) :
    IsSendableByte byte ↔ byte.toNat = 9 ∨ (32 ≤ byte.toNat ∧ byte.toNat ≠ 127) := by
  rw [IsSendableByte, ← UInt8.toNat_inj, UInt8.le_iff_toNat_le, Ne, ← UInt8.toNat_inj]
  rfl

theorem isSendableChar_iff (c : Char) :
    ((' ' ≤ c && c ≠ '\x7f') || c = '\t') = true ↔
      ∀ byte ∈ String.utf8EncodeChar c, IsSendableByte byte := by
  have code : ((' ' ≤ c && c ≠ '\x7f') || c = '\t') = true ↔
      c.toNat = 9 ∨ (32 ≤ c.toNat ∧ c.toNat ≠ 127) := by
    have space : ' ' ≤ c ↔ 32 ≤ c.toNat := Iff.rfl
    have delete : c = '\x7f' ↔ c.toNat = 127 := Char.toNat_inj.symm
    have tab : c = '\t' ↔ c.toNat = 9 := Char.toNat_inj.symm
    simp only [Bool.or_eq_true, Bool.and_eq_true, decide_eq_true_eq, space, delete, tab, Ne]
    exact or_comm
  rw [code]
  by_cases ascii : c.toNat < 0x80
  · have byte : (UInt8.ofNat c.toNat).toNat = c.toNat := Utf8.toNat_byte (by omega)
    rw [Utf8.encodeChar_ascii ascii, List.forall_mem_singleton, isSendableByte_iff, byte]
  · refine iff_of_true (by omega) fun byte mem => ?_
    have high := Utf8.toNat_of_mem_encodeChar mem
    rw [isSendableByte_iff]
    omega

/-- A text may be sent if all of its bytes may. -/
theorem isSendable_iff (s : String) :
    isSendable s = true ↔ ∀ byte ∈ Utf8.encode s, IsSendableByte byte := by
  rw [isSendable, List.all_eq_true, Utf8.encode]
  simp only [isSendableChar_iff, List.mem_flatMap, forall_exists_index, and_imp]
  exact ⟨fun all byte c mem => all c mem byte, fun all c mem byte => all byte c mem⟩

end Http

/-! ## Requirements -/

/-- The value of the header in which a part of a credential is sent. -/
def SentPart.value? : SentPart → Credential → Option String
  | .token, .token t => some ("Bearer " ++ t)
  | .apiKey, .apiKey k _ => some k
  | .apiSecret, .apiKey _ s => some s
  | _, _ => none

/-- The texts of a credential. -/
def Credential.texts : Credential → List String
  | .token t => [t]
  | .apiKey k s => [k, s]

namespace Options

/-- Where the backend is, in words that are still to be read. -/
def place (o : Options) (b : Backend) : String := o.endpoint.getD b.defaultEndpoint

/-- A text names the proxy: it is not blank, and it is what the options say or, where they say
nothing, what the environment says. -/
structure NamesProxy (env : Environment) (o : Options) (text : String) : Prop where
  /-- Who says it. -/
  named : o.proxy = some text ∨ (o.proxy = none ∧ env.get? "MITM" = some text)
  /-- It is not blank. -/
  notBlank : isBlankText text = false

end Options

namespace Client

/-- What options must be like for a client to be made. -/
inductive Requirement where
  /-- The backend has a use for the credential. -/
  | use
  /-- A part of the credential may be sent in a header. -/
  | header (part : SentPart)
  /-- Requests have time. -/
  | time
  /-- No text of the credential is empty. -/
  | credential
  /-- The endpoint is not given blank. -/
  | endpoint
  /-- The endpoint is a URL. -/
  | endpointUrl
  /-- The scheme of the endpoint is one of HTTP. -/
  | endpointScheme
  /-- The proxy is a URL. -/
  | proxyUrl
  /-- The proxy has a host, or is the rest of a URL that has one. -/
  | proxyHost
  /-- The connection string can be read. -/
  | connectionString

/-- The requirements of a backend, in the order in which they are looked at. -/
def requirements : Backend → List Requirement
  | .postgres => [.time, .credential, .endpoint, .connectionString]
  | _ =>
      [.use, .header .token, .header .apiKey, .header .apiSecret, .time, .credential, .endpoint,
        .endpointUrl, .endpointScheme, .proxyUrl, .proxyHost]

section Requirements

variable [Url.Idna] (env : Environment) (b : Backend) (o : Options)

/-- Options meet a requirement. -/
def Requirement.Met : Requirement → Prop
  | .use => ∀ c, o.credential = some c → b = .seafowl → c.kind ≠ .apiKey
  | .header part => ∀ c value, o.credential = some c → part.value? c = some value →
      ∀ byte ∈ Utf8.encode value, Http.IsSendableByte byte
  | .time => 0 < o.timeout.milliseconds
  | .credential => ∀ c, o.credential = some c → ∀ text ∈ c.texts, text ≠ ""
  | .endpoint => ∀ text, o.endpoint = some text → isBlankText text = false
  | .endpointUrl => ∃ u, Url.read (trim (o.place b)) = .ok u
  | .endpointScheme => ∀ u, Url.read (trim (o.place b)) = .ok u →
      String.ofList u.scheme = "http" ∨ String.ofList u.scheme = "https"
  | .proxyUrl => ∀ text, o.NamesProxy env text → ∃ u, Url.read (trim text) = .ok u
  | .proxyHost => ∀ text u, o.NamesProxy env text → Url.read (trim text) = .ok u →
      u.host? ≠ none ∨ ∃ v, Url.read ("http://" ++ u.text) = .ok v
  | .connectionString => ∃ s, (Postgres.Settings.read env (o.place b)).value = .ok s

/-- What is told of options that do not meet a requirement. -/
def Requirement.Blames (cause : Misconfiguration) : Requirement → Prop
  | .use => ∃ c, o.credential = some c ∧ cause = .refusedCredential c.kind
  | .header part => cause = .unsendable part
  | .time => cause = .zeroTimeout
  | .credential => ∃ c, o.credential = some c ∧ cause = .blankCredential c.kind
  | .endpoint => cause = .blankEndpoint
  | .endpointUrl => ∃ e, Url.read (trim (o.place b)) = .error e ∧ cause = .endpointUrl e
  | .endpointScheme =>
      ∃ u, Url.read (trim (o.place b)) = .ok u ∧ cause = .endpointScheme (.ofList u.scheme)
  | .proxyUrl => ∃ text e,
      o.NamesProxy env text ∧ Url.read (trim text) = .error e ∧ cause = .proxyUrl e
  | .proxyHost => cause = .proxyHost
  | .connectionString => ∃ e, (Postgres.Settings.read env (o.place b)).value = .error e ∧
      cause = .connectionString (Url.redact (o.place b)) e

/-- A cause is what the first of some requirements blames that is not met. -/
inductive FirstBroken : List Requirement → Misconfiguration → Prop where
  | here {r : Requirement} {rs : List Requirement} {cause : Misconfiguration}
      (unmet : ¬ r.Met env b o) (blames : r.Blames env b o cause) : FirstBroken (r :: rs) cause
  | later {r : Requirement} {rs : List Requirement} {cause : Misconfiguration}
      (met : r.Met env b o) (rest : FirstBroken rs cause) : FirstBroken (r :: rs) cause

/-- An attempt decides requirements: it succeeds only if all of them are met, and it fails with
what the first blames that is not. -/
structure Decides {α : Type} (x : Except Misconfiguration α) (rs : List Requirement) : Prop where
  /-- It succeeds only if all are met. -/
  met : ∀ a, x = .ok a → ∀ r ∈ rs, r.Met env b o
  /-- It fails with what the first blames that is not met. -/
  broken : ∀ cause, x = .error cause → FirstBroken env b o rs cause

end Requirements

variable {env : Environment} {b : Backend} {o : Options}

/-! ## The first requirement that is not met -/

theorem NamesProxy_unique {text other : String} (here : o.NamesProxy env text)
    (there : o.NamesProxy env other) : text = other := by
  rcases here.named with h | ⟨h, k⟩ <;> rcases there.named with h' | ⟨h', k'⟩
  · exact Option.some.inj (h.symm.trans h')
  · cases h.symm.trans h'
  · cases h.symm.trans h'
  · exact Option.some.inj (k.symm.trans k')

/-- A requirement blames one cause at most. -/
theorem Requirement.Blames.unique [Url.Idna] {r : Requirement} {cause other : Misconfiguration}
    (here : r.Blames env b o cause) (there : r.Blames env b o other) : cause = other := by
  cases r with
  | header | time | endpoint | proxyHost => exact Eq.trans here (Eq.symm there)
  | use | credential =>
      obtain ⟨c, given, rfl⟩ := here
      obtain ⟨d, given', rfl⟩ := there
      rw [Option.some.inj (given.symm.trans given')]
  | endpointUrl =>
      obtain ⟨e, read, rfl⟩ := here
      obtain ⟨f, read', rfl⟩ := there
      rw [Except.error.inj (read.symm.trans read')]
  | endpointScheme =>
      obtain ⟨u, read, rfl⟩ := here
      obtain ⟨v, read', rfl⟩ := there
      rw [Except.ok.inj (read.symm.trans read')]
  | proxyUrl =>
      obtain ⟨text, e, named, read, rfl⟩ := here
      obtain ⟨other, f, named', read', rfl⟩ := there
      cases NamesProxy_unique named named'
      rw [Except.error.inj (read.symm.trans read')]
  | connectionString =>
      obtain ⟨e, read, rfl⟩ := here
      obtain ⟨f, read', rfl⟩ := there
      rw [Except.error.inj (read.symm.trans read')]

namespace FirstBroken

variable [Url.Idna] {rs ss : List Requirement} {cause other : Misconfiguration}

theorem not_met (broken : FirstBroken env b o rs cause) : ¬ ∀ r ∈ rs, r.Met env b o := by
  intro met
  induction broken with
  | here unmet _ => exact unmet (met _ List.mem_cons_self)
  | later _ _ ih => exact ih fun r mem => met r (List.mem_cons_of_mem _ mem)

theorem unique (here : FirstBroken env b o rs cause) (there : FirstBroken env b o rs other) :
    cause = other := by
  induction here with
  | here unmet blames =>
      cases there with
      | here _ blames' => exact blames.unique blames'
      | later met _ => exact absurd met unmet
  | later met _ ih =>
      cases there with
      | here unmet _ => exact absurd met unmet
      | later _ rest => exact ih rest

theorem append_left (broken : FirstBroken env b o rs cause) :
    FirstBroken env b o (rs ++ ss) cause := by
  induction broken with
  | here unmet blames => exact .here unmet blames
  | later met _ ih => exact .later met ih

theorem append_right (met : ∀ r ∈ rs, r.Met env b o) (broken : FirstBroken env b o ss cause) :
    FirstBroken env b o (rs ++ ss) cause := by
  induction rs with
  | nil => exact broken
  | cons r rs ih =>
      exact .later (met r List.mem_cons_self) (ih fun s mem => met s (List.mem_cons_of_mem r mem))

end FirstBroken

/-! ## Attempts -/

namespace Decides

variable [Url.Idna] {α β : Type} {rs ss : List Requirement} {x : Except Misconfiguration α}

theorem ok {a : α} (met : ∀ r ∈ rs, r.Met env b o) :
    Decides env b o (.ok a : Except Misconfiguration α) rs :=
  ⟨fun _ _ => met, nofun⟩

theorem error {cause : Misconfiguration} (broken : FirstBroken env b o rs cause) :
    Decides env b o (.error cause : Except Misconfiguration α) rs :=
  ⟨nofun, fun _ same => Except.error.inj same ▸ broken⟩

/-- Attempts in a row decide what each decides, in a row. -/
theorem bind {f : α → Except Misconfiguration β} (first : Decides env b o x rs)
    (next : ∀ a, x = .ok a → Decides env b o (f a) ss) : Decides env b o (x >>= f) (rs ++ ss) := by
  cases x with
  | error cause => exact error (first.broken cause rfl).append_left
  | ok a =>
      have met := first.met a rfl
      refine ⟨fun d made r mem => ?_, fun cause failed => ?_⟩
      · rcases List.mem_append.mp mem with mem | mem
        · exact met r mem
        · exact (next a rfl).met d made r mem
      · exact .append_right met ((next a rfl).broken cause failed)

theorem map {f : α → β} (decides : Decides env b o x rs) : Decides env b o (x.map f) rs := by
  cases x with
  | ok a => exact ok (decides.met a rfl)
  | error cause => exact error (decides.broken cause rfl)

/-- A requirement that is met may stand before those that are decided. -/
theorem later {r : Requirement} (met : r.Met env b o) (decides : Decides env b o x rs) :
    Decides env b o x (r :: rs) :=
  ⟨fun a made => List.forall_mem_cons.mpr ⟨met, decides.met a made⟩,
    fun cause failed => .later met (decides.broken cause failed)⟩

/-- An attempt succeeds if all requirements are met and no sooner, and the first that is not met
tells how it fails. -/
theorem made (decides : Decides env b o x rs) :
    ((∃ a, x = .ok a) ↔ ∀ r ∈ rs, r.Met env b o) ∧
      ∀ cause, x = .error cause ↔ FirstBroken env b o rs cause := by
  cases x with
  | ok a =>
      have met := decides.met a rfl
      exact ⟨iff_of_true ⟨a, rfl⟩ met, fun cause => iff_of_false nofun fun h => h.not_met met⟩
  | error cause =>
      have broken := decides.broken cause rfl
      refine ⟨iff_of_false nofun broken.not_met, fun other => ⟨fun same => ?_, fun h => ?_⟩⟩
      · exact Except.error.inj same ▸ broken
      · rw [broken.unique h]

end Decides

/-! ## The credential -/

section Headers

variable [Url.Idna]

theorem decides_credentialHeader {part : SentPart} {name value : String} {c : Credential}
    (given : o.credential = some c) (sent : part.value? c = some value) :
    Decides env b o (Http.credentialHeader name part value) [.header part] := by
  rw [Http.credentialHeader]
  split
  case isTrue sendable =>
    refine .ok (List.forall_mem_singleton.mpr fun d other given' sent' => ?_)
    cases given.symm.trans given'
    cases sent.symm.trans sent'
    exact (Http.isSendable_iff value).mp sendable
  case isFalse unsendable =>
    refine .error (.here (fun met => unsendable ?_) rfl)
    exact (Http.isSendable_iff value).mpr (met c value given sent)

/-- A part that the credential does not have is no obstacle. -/
theorem met_header {part : SentPart} {c : Credential} (given : o.credential = some c)
    (unsent : part.value? c = none) : (Requirement.header part).Met env b o := by
  intro d value given' sent
  cases given.symm.trans given'
  cases unsent.symm.trans sent

theorem decides_tokenHeaders {t : String} (given : o.credential = some (.token t)) :
    Decides env b o (Http.tokenHeaders t)
      [.header .token, .header .apiKey, .header .apiSecret] := by
  refine (decides_credentialHeader given rfl).bind fun _ _ => .ok ?_
  simpa using And.intro (met_header given rfl) (met_header given rfl)

theorem decides_apiKeyHeaders {k s : String} (given : o.credential = some (.apiKey k s)) :
    Decides env b o (Http.credentialHeaders (.apiKey k s))
      [.header .token, .header .apiKey, .header .apiSecret] := by
  refine .later (met_header given rfl) ((decides_credentialHeader given rfl).bind fun _ _ => ?_)
  exact (decides_credentialHeader given rfl).bind fun _ _ => .ok nofun

/-- The first requirements of a backend over HTTP are about the headers of the credential. -/
theorem decides_headersFor (http : b ≠ .postgres) :
    Decides env b o (headersFor b o.credential)
      [.use, .header .token, .header .apiKey, .header .apiSecret] := by
  have used {c : Credential} (given : o.credential = some c)
      (useful : b = .seafowl → c.kind ≠ .apiKey) : Requirement.use.Met env b o := by
    intro d given'
    cases given.symm.trans given'
    exact useful
  cases given : o.credential with
  | none =>
      rw [headersFor]
      refine .ok ?_
      simp [Requirement.Met, given]
  | some c =>
      cases c with
      | token t =>
          have headers : headersFor b (some (.token t)) = Http.tokenHeaders t := by
            cases b <;> rfl
          rw [headers]
          exact .later (used given nofun) (decides_tokenHeaders given)
      | apiKey k s =>
          cases b with
          | seafowl => exact .error (.here (fun met => met _ given rfl rfl) ⟨_, given, rfl⟩)
          | splitgraph => exact .later (used given nofun) (decides_apiKeyHeaders given)
          | postgres => exact absurd rfl http

end Headers

/-! ## What no backend could use -/

theorem isBlank_iff (c : Credential) : c.isBlank = true ↔ ∃ text ∈ c.texts, text = "" := by
  cases c <;> simp [Credential.isBlank, Credential.texts]

/-- The check of the options decides what every backend asks. -/
theorem decides_check [Url.Idna] : Decides env b o o.check [.time, .credential, .endpoint] := by
  have time : o.timeout.milliseconds ≠ 0 ↔ Requirement.time.Met env b o := Nat.ne_zero_iff_zero_lt
  rw [Options.check]
  split
  case isTrue zero => exact .error (.here (fun met => time.mpr met zero) rfl)
  case isFalse positive =>
    refine .later (time.mp positive) ?_
    cases blank : o.credential.filter Credential.isBlank with
    | some c =>
        obtain ⟨given, empty⟩ := Option.filter_eq_some_iff.mp blank
        obtain ⟨text, mem, rfl⟩ := (isBlank_iff c).mp empty
        exact .error (.here (fun met => met c given "" mem rfl) ⟨c, given, rfl⟩)
    | none =>
        refine .later (fun c given text mem empty => ?_) ?_
        · exact Option.filter_eq_none_iff.mp blank c given ((isBlank_iff c).mpr ⟨text, mem, empty⟩)
        · cases given : o.endpoint with
          | none => exact .ok (by simp [Requirement.Met, given])
          | some text =>
              dsimp only [Option.map_some, Option.getD_some]
              split
              case isTrue isBlank =>
                exact .error (.here (fun met => Bool.eq_false_iff.mp (met text given) isBlank) rfl)
              case isFalse notBlank =>
                refine .ok (List.forall_mem_singleton.mpr fun other given' => ?_)
                cases given.symm.trans given'
                exact Bool.eq_false_iff.mpr notBlank

/-! ## The endpoint -/

theorem decides_readEndpoint [Url.Idna] :
    Decides env b o (Http.readEndpoint (o.place b)) [.endpointUrl, .endpointScheme] := by
  have scheme (cs : List Char) :
      (cs = ['h', 't', 't', 'p'] ∨ cs = ['h', 't', 't', 'p', 's']) ↔
        (String.ofList cs = "http" ∨ String.ofList cs = "https") := by
    rw [← String.ofList_inj, ← String.ofList_inj]
  rw [Http.readEndpoint]
  cases read : Url.read (trim (o.place b)) with
  | error e =>
      refine .error (.here ?_ ⟨e, read, rfl⟩)
      rintro ⟨u, read'⟩
      cases read.symm.trans read'
  | ok u =>
      refine .later ⟨u, read⟩ ?_
      dsimp only
      split
      case isTrue known =>
        refine .ok (List.forall_mem_singleton.mpr fun v read' => ?_)
        cases read.symm.trans read'
        exact (scheme u.scheme).mp known
      case isFalse unknown =>
        exact .error (.here (fun met => unknown ((scheme u.scheme).mpr (met u read)))
          ⟨u, read, rfl⟩)

/-! ## The proxy -/

theorem namesProxy_iff (text : String) :
    o.NamesProxy env text ↔ o.effectiveProxy env = some text := by
  rw [Options.effectiveProxy, Option.filter_eq_some_iff, Option.or_eq_some_iff]
  exact ⟨fun ⟨named, notBlank⟩ => ⟨named, by simp [notBlank]⟩,
    fun ⟨named, notBlank⟩ => ⟨named, by simpa using notBlank⟩⟩

theorem decides_readProxy [Url.Idna] {text : String} (named : o.NamesProxy env text) :
    Decides env b o (Http.readProxy text) [.proxyUrl, .proxyHost] := by
  have completed (u : Url) : Url.read ("http://" ++ u.text) =
      Url.readChars (['h', 't', 't', 'p', ':', '/', '/'] ++ u.chars) := by
    rw [Url.read, String.toList_append, Url.text, String.toList_ofList, String.toList_ofList]
  rw [Http.readProxy]
  cases read : Url.read (trim text) with
  | error e =>
      refine .error (.here (fun met => ?_) ⟨text, e, named, read, rfl⟩)
      obtain ⟨u, read'⟩ := met text named
      cases read.symm.trans read'
  | ok u =>
      refine .later (fun other named' => ?_) ?_
      · cases NamesProxy_unique named named'
        exact ⟨u, read⟩
      have here {other : String} {v : Url} (named' : o.NamesProxy env other)
          (read' : Url.read (trim other) = .ok v) : u = v := by
        cases NamesProxy_unique named named'
        exact Except.ok.inj (read.symm.trans read')
      dsimp only
      split
      case isTrue host =>
        refine .ok (List.forall_mem_singleton.mpr fun other v named' read' => .inl ?_)
        rw [← here named' read']
        exact Option.isSome_iff_ne_none.mp host
      case isFalse noHost =>
        cases rest : Url.readChars (['h', 't', 't', 'p', ':', '/', '/'] ++ u.chars) with
        | ok whole =>
            refine .ok (List.forall_mem_singleton.mpr fun other v named' read' => .inr ?_)
            rw [← here named' read', completed]
            exact ⟨whole, rest⟩
        | error e =>
            refine .error (.here (fun met => ?_) rfl)
            rcases met text u named read with host | ⟨whole, read'⟩
            · exact noHost (Option.isSome_iff_ne_none.mpr host)
            · cases rest.symm.trans ((completed u).symm.trans read')

theorem decides_proxy [Url.Idna] : Decides env b o ((o.effectiveProxy env).mapM Http.readProxy)
    [.proxyUrl, .proxyHost] := by
  cases effective : o.effectiveProxy env with
  | none =>
      have unnamed (text : String) : ¬ o.NamesProxy env text := by
        simp [namesProxy_iff, effective]
      refine .ok ?_
      simp [Requirement.Met, unnamed]
  | some text =>
      rw [mapM_some]
      exact (decides_readProxy ((namesProxy_iff text).mpr effective)).map

/-! ## The connection string -/

theorem decides_settings [Url.Idna] : Decides env b o
    ((Postgres.Settings.read env (o.place b)).value.mapError
      (.connectionString (Url.redact (o.place b)))) [.connectionString] := by
  cases read : (Postgres.Settings.read env (o.place b)).value with
  | ok s => exact .ok (List.forall_mem_singleton.mpr ⟨s, read⟩)
  | error e =>
      refine .error (.here ?_ ⟨e, read, rfl⟩)
      rintro ⟨s, read'⟩
      cases read.symm.trans read'

/-! ## Clients -/

/-- The transport of a client, as a chain of attempts. -/
theorem createTransport_value [Url.Idna] (env : Environment) (b : Backend) (o : Options) :
    (createTransport env b o).value = (do
      let headers ← headersFor b o.credential
      o.check
      let url ← Http.readEndpoint (o.place b)
      let proxy ← (o.effectiveProxy env).mapM Http.readProxy
      pure ⟨url, headers, proxy, o.timeout⟩) := by
  rw [createTransport]
  cases headersFor b o.credential with
  | error e => rfl
  | ok headers =>
      dsimp only
      rw [Http.Transport.create, Options.place]
      cases o.check with
      | error e => rfl
      | ok _ =>
          cases Http.readEndpoint (o.endpoint.getD b.defaultEndpoint) with
          | error e => rfl
          | ok url =>
              cases o.effectiveProxy env with
              | none => rfl
              | some text =>
                  rw [mapM_some, Option.map_some]
                  cases Http.readProxy text with
                  | error e => rfl
                  | ok proxy => rfl

/-- The settings of a client for Postgres, as a chain of attempts. -/
theorem createSettings_value [Url.Idna] (env : Environment) (o : Options) :
    (createSettings env o).value = (do
      o.check
      let s ← (Postgres.Settings.read env (o.place .postgres)).value.mapError
        (.connectionString (Url.redact (o.place .postgres)))
      pure ((o.credential.map fun c => s.withLogin c.login).getD s)) := by
  rw [createSettings, ← Options.place]
  cases o.check with
  | error e => rfl
  | ok _ =>
      dsimp only
      cases (Postgres.Settings.read env (o.place .postgres)).value with
      | error e => rfl
      | ok s => rfl

/-- A client over HTTP, of its transport. -/
def ofTransport : Backend → Http.Transport → Client
  | .seafowl, t => .seafowl t
  | _, t => .splitgraph t

/-- A client over HTTP is made as its transport is. -/
theorem create_http [Url.Idna] (http : b ≠ .postgres) :
    create env b o = (createTransport env b o).map (·.map (ofTransport b)) := by
  cases b with
  | splitgraph => rfl
  | seafowl => rfl
  | postgres => exact absurd rfl http

theorem decides_createTransport [Url.Idna] (http : b ≠ .postgres) :
    Decides env b o (createTransport env b o).value
      [.use, .header .token, .header .apiKey, .header .apiSecret, .time, .credential, .endpoint,
        .endpointUrl, .endpointScheme, .proxyUrl, .proxyHost] := by
  rw [createTransport_value]
  refine (decides_headersFor http).bind fun _ _ => decides_check.bind fun _ _ => ?_
  refine decides_readEndpoint.bind fun _ _ => decides_proxy.bind fun _ _ => ?_
  exact .ok nofun

theorem decides_createSettings [Url.Idna] : Decides env .postgres o (createSettings env o).value
    [.time, .credential, .endpoint, .connectionString] := by
  rw [createSettings_value]
  exact decides_check.bind fun _ _ => decides_settings.bind fun _ _ => .ok nofun

/-- The requirements of a backend are decided when a client is made. -/
theorem decides_create [Url.Idna] (env : Environment) (b : Backend) (o : Options) :
    Decides env b o (create env b o).value (requirements b) := by
  have http (other : b ≠ .postgres) (rs : requirements b = requirements .splitgraph) :
      Decides env b o (create env b o).value (requirements b) := by
    rw [create_http other, rs]
    exact (decides_createTransport other).map
  cases b with
  | splitgraph => exact http nofun rfl
  | seafowl => exact http nofun rfl
  | postgres => exact decides_createSettings.map

/-! ## Builds -/

theorem createClient_of_has [Url.Idna] {build : CommandLine.Build} (has : build.has b = true)
    (env : Environment) (o : Options) :
    build.createClient env b o = (create env b o).map (·.mapError .misconfigured) :=
  if_pos has

theorem createClient_of_lacks [Url.Idna] {build : CommandLine.Build} (lacks : ¬ build.has b = true)
    (env : Environment) (o : Options) :
    build.createClient env b o = ⟨.error (CommandLine.Build.missing b), []⟩ :=
  if_neg lacks

/-- A client that uses no proxy. -/
theorem create_direct [Url.Idna] {build : CommandLine.Build} {u : Url} {hs : List Http.Header}
    (has : build.has b = true) (http : b ≠ .postgres) (headers : headersFor b o.credential = .ok hs)
    (valid : o.check = .ok ()) (endpoint : Http.readEndpoint (o.place b) = .ok u)
    (direct : o.effectiveProxy env = none) :
    (build.createClient env b o).value = .ok (ofTransport b ⟨u, hs, none, o.timeout⟩) := by
  have transport : (createTransport env b o).value = .ok ⟨u, hs, none, o.timeout⟩ := by
    rw [createTransport_value, headers, valid, endpoint, direct]
    rfl
  rw [createClient_of_has has, create_http http, Logged.map, Logged.map, transport]
  rfl

/-- A client is made exactly of options that meet all requirements of its backend.  Of others
none is made, and the fault is a misconfiguration: what the first requirement blames that is
not met. -/
theorem createClient_decided [Url.Idna] (env : Environment) (b : Backend) (o : Options) :
    let made := (({} : CommandLine.Build).createClient env b o).value
    ((∃ c, made = .ok c) ↔ ∀ r ∈ requirements b, r.Met env b o) ∧
      ∀ fault, made = .error fault ↔
        ∃ cause, fault = .misconfigured cause ∧ FirstBroken env b o (requirements b) cause := by
  obtain ⟨met, broken⟩ := (decides_create env b o).made
  have has : ({} : CommandLine.Build).has b = true := by cases b <;> rfl
  dsimp only
  rw [createClient_of_has has]
  simp only [Logged.map, mapError_eq_ok, mapError_eq_error]
  exact ⟨met, fun fault => exists_congr fun cause => and_congr_right fun _ => broken cause⟩

/-- An endpoint whose host is spelled in ASCII, and one whose host cannot be. -/
example :
    let made (endpoint : String) :=
      (({} : CommandLine.Build).createClient ⟨[]⟩ .seafowl { endpoint := some endpoint }).value
    (made "http://münchen.de/q").isOk ∧ ¬ (made "http://mün chen.de/q").isOk := by decide +kernel

end Client

end SqlGateway
