import SqlGateway.Import.Csv
import SqlGateway.Proofs.Json.Meaning
import SqlGateway.Url.Idna.Unmapped

/-!
# Which imports of CSV files are accepted

An import is accepted if there is a credential, the source says the text of a URL over HTTP, and
the destination says three identifiers (`Accepts`).  The plan of the import consists of exactly
what is said (`plan_eq_ok_iff`).

Other imports fail at the first of eight checks that they do not pass.  `Check.Passes` says of
each check what it asks, and `Check.Reports` what is told of an import that does not pass it.  Both
speak of the import alone and not of other checks; the order of the checks is in `checks`
(`plan_eq_error_iff`).

What follows for the plugin is `plugin_accepts_or_fails`.
-/

namespace SqlGateway.Import.Csv

open Json (Offers Has Meaning Member)

/-! ## What is said -/

/-- The text that a source says: the member `url` of an object, or the one item of a list. -/
def sourceMeaning : Meaning String := fun v text =>
  ∃ ms, Offers ["url"] 1 v ms ∧ Has ms "url" .text text

/-- The destination that members say. -/
structure Destination.Says (ms : Members) (d : Destination) : Prop where
  space : Has ms "namespace" .text d.space
  repository : Has ms "repository" .text d.repository
  table : Has ms "table" .text d.table

/-- The destination that a value says: an object, or a list of three items. -/
def destinationMeaning : Meaning Destination := fun v d =>
  ∃ ms, Offers ["namespace", "repository", "table"] 3 v ms ∧ d.Says ms

theorem reads_source : sourceDecoder.Reads sourceMeaning := by
  intro v ordered text
  rw [sourceDecoder, Json.RecordShape.decoder_eq_ok_iff ["url"] 1
    ⟨by decide, List.pairwise_singleton _ _⟩ rfl rfl
    ⟨_, List.mem_cons_self, rfl, Nat.succ_pos _⟩ ordered]
  refine exists_congr fun ms => and_congr_right fun offers => ?_
  simp only [Json.lookUp_needed Json.reads_text (offers.ordered ordered), Json.lookUp_no_members,
    exists_eq_right]

theorem reads_destination : destinationDecoder.Reads destinationMeaning := by
  intro v ordered d
  have commute : [
      Member.needed "namespace" .string fun v (d : Destination) => { d with space := v },
      .needed "repository" .string fun v d => { d with repository := v },
      .needed "table" .string fun v d => { d with table := v }].Pairwise Member.Commutes := by
    simp only [Member.needed, List.pairwise_cons, List.forall_mem_cons, List.not_mem_nil,
      false_implies, implies_true, List.Pairwise.nil, and_true]
    and_intros <;> exact Member.commutes_of_set (by intros; rfl)
  rw [destinationDecoder, Json.RecordShape.decoder_eq_ok_iff ["namespace", "repository", "table"] 3
    ⟨by decide, commute⟩ rfl rfl
    ⟨_, List.mem_cons_of_mem _ (List.mem_cons_of_mem _ List.mem_cons_self), rfl, by decide⟩ ordered]
  refine exists_congr fun ms => and_congr_right fun offers => ?_
  simp only [Json.lookUp_needed Json.reads_text (offers.ordered ordered), Json.lookUp_no_members]
  constructor
  · rintro ⟨_, space, _, repository, _, table, rfl⟩
    exact ⟨space, repository, table⟩
  · rintro ⟨space, repository, table⟩
    exact ⟨_, space, _, repository, _, table, rfl⟩

/-- The URL is one over HTTP. -/
def IsOverHttp (u : Url) : Prop :=
  String.ofList u.scheme = "http" ∨ String.ofList u.scheme = "https"

/-- The character is an ASCII letter or digit, an underscore or a hyphen. -/
def IsNameCharacter (c : Char) : Prop :=
  ('A' ≤ c ∧ c ≤ 'Z') ∨ ('a' ≤ c ∧ c ≤ 'z') ∨ ('0' ≤ c ∧ c ≤ '9') ∨ c = '_' ∨ c = '-'

/-- The text has only such characters, and at least one. -/
def IsIdentifier (s : String) : Prop := s ≠ "" ∧ ∀ c ∈ s.toList, IsNameCharacter c

theorem isName_iff (s : String) : isName s = true ↔ IsIdentifier s := by
  have character (c : Char) :
      (c.isAlphanum || c = '_' || c = '-') = true ↔ IsNameCharacter c := by
    have upper : c.isUpper = true ↔ 'A' ≤ c ∧ c ≤ 'Z' := decide_eq_true_iff
    have lower : c.isLower = true ↔ 'a' ≤ c ∧ c ≤ 'z' := Bool.and_eq_true_iff.trans
      (and_congr decide_eq_true_iff decide_eq_true_iff)
    have alpha : c.isAlpha = true ↔ c.isUpper = true ∨ c.isLower = true := Bool.or_eq_true_iff
    simp only [Char.isAlphanum, alpha, upper, lower, Char.isDigit, Bool.or_eq_true,
      Bool.and_eq_true, decide_eq_true_eq, or_assoc]
    rfl
  simp only [isName, Bool.and_eq_true, decide_eq_true_eq, List.all_eq_true, character, IsIdentifier]

/-! ## Imports -/

section Imports

variable (credential : Option Credential.Kind) (source destination : Json)

/-- An import is accepted with a plan. -/
structure Accepts [Url.Idna] (p : Plan) : Prop where
  /-- There is a credential. -/
  credential : credential = some p.credential
  /-- The source says the text of the URL. -/
  source : ∃ text, sourceMeaning source text ∧ Url.read text = .ok p.url
  /-- The URL is one over HTTP. -/
  scheme : IsOverHttp p.url
  /-- The destination says the table. -/
  destination : destinationMeaning destination p.destination
  /-- The namespace is an identifier. -/
  space : IsIdentifier p.destination.space
  /-- The repository is one. -/
  repository : IsIdentifier p.destination.repository
  /-- The table is one. -/
  table : IsIdentifier p.destination.table

/-- What is checked of an import. -/
inductive Check where
  /-- There is a credential. -/
  | credential
  /-- The source says a text. -/
  | source
  /-- The destination says a table. -/
  | destination
  /-- The text is that of a URL. -/
  | url
  /-- The URL is one over HTTP. -/
  | scheme
  /-- A name of the destination is an identifier. -/
  | name (part : String) (value : Destination → String)

/-- The checks in their order. -/
def checks : List Check :=
  [.credential, .source, .destination, .url, .scheme, .name "namespace" Destination.space,
    .name "repository" Destination.repository, .name "table" Destination.table]

/-- An import passes a check. -/
def Check.Passes [Url.Idna] : Check → Prop
  | .credential => credential ≠ none
  | .source => ∃ text, sourceMeaning source text
  | .destination => ∃ d, destinationMeaning destination d
  | .url => ∀ text, sourceMeaning source text → ∃ u, Url.read text = .ok u
  | .scheme => ∀ text u, sourceMeaning source text → Url.read text = .ok u → IsOverHttp u
  | .name _ value => ∀ d, destinationMeaning destination d → IsIdentifier (value d)

/-- What is told of an import that does not pass a check. -/
def Check.Reports [Url.Idna] (e : Query.Error) : Check → Prop
  | .credential => e = .stated "csv import requires a credential"
  | .source => ∃ m, sourceDecoder.ofJson source = .error m ∧
      e = .stated "Invalid source options for the csv plugin" (some m.message)
  | .destination => ∃ m, destinationDecoder.ofJson destination = .error m ∧
      e = .stated "Invalid destination options for the csv plugin" (some m.message)
  | .url => ∃ text f, sourceMeaning source text ∧ Url.read text = .error f ∧
      e = .stated "csv source url is not a valid URL" (some f.message)
  | .scheme => ∃ text u, sourceMeaning source text ∧ Url.read text = .ok u ∧
      e = .stated s!"csv source scheme '{String.ofList u.scheme}' is not http or https"
  | .name part value => ∃ d, destinationMeaning destination d ∧
      e = .stated s!"csv destination {part} '{value d}' is not a valid identifier"

/-- An error is what is told of the first of some checks that is not passed. -/
inductive FirstFailing [Url.Idna] : List Check → Query.Error → Prop where
  | here {c : Check} {cs : List Check} {e : Query.Error}
      (fails : ¬ c.Passes credential source destination)
      (reports : c.Reports source destination e) : FirstFailing (c :: cs) e
  | later {c : Check} {cs : List Check} {e : Query.Error}
      (passes : c.Passes credential source destination) (rest : FirstFailing cs e) :
      FirstFailing (c :: cs) e

end Imports

variable {credential : Option Credential.Kind} {source destination : Json}

/-! ## The first check that is not passed -/

/-- Of a check one error is told at most. -/
theorem Check.Reports.unique [Url.Idna] {c : Check} {e e' : Query.Error}
    (sourceOrdered : source.Ordered)
    (destinationOrdered : destination.Ordered) (here : c.Reports source destination e)
    (there : c.Reports source destination e') : e = e' := by
  cases c with
  | credential => exact Eq.trans here (Eq.symm there)
  | source | destination =>
      obtain ⟨m, refused, rfl⟩ := here
      obtain ⟨m', refused', rfl⟩ := there
      rw [Except.error.inj (refused.symm.trans refused')]
  | url =>
      obtain ⟨text, f, said, read, rfl⟩ := here
      obtain ⟨text', f', said', read', rfl⟩ := there
      cases reads_source.unique sourceOrdered said said'
      rw [Except.error.inj (read.symm.trans read')]
  | scheme =>
      obtain ⟨text, u, said, read, rfl⟩ := here
      obtain ⟨text', u', said', read', rfl⟩ := there
      cases reads_source.unique sourceOrdered said said'
      rw [Except.ok.inj (read.symm.trans read')]
  | name part value =>
      obtain ⟨d, said, rfl⟩ := here
      obtain ⟨d', said', rfl⟩ := there
      rw [reads_destination.unique destinationOrdered said said']

namespace FirstFailing

variable [Url.Idna] {cs : List Check} {e e' : Query.Error}

theorem not_passes (first : FirstFailing credential source destination cs e) :
    ¬ ∀ c ∈ cs, c.Passes credential source destination := by
  intro passes
  induction first with
  | here fails _ => exact fails (passes _ List.mem_cons_self)
  | later _ _ ih => exact ih fun c mem => passes c (List.mem_cons_of_mem _ mem)

theorem unique (sourceOrdered : source.Ordered) (destinationOrdered : destination.Ordered)
    (here : FirstFailing credential source destination cs e)
    (there : FirstFailing credential source destination cs e') : e = e' := by
  induction here with
  | here fails reports =>
      cases there with
      | here _ reports' => exact reports.unique sourceOrdered destinationOrdered reports'
      | later passes _ => exact absurd passes fails
  | later passes _ ih =>
      cases there with
      | here fails _ => exact absurd passes fails
      | later _ rest => exact ih rest

end FirstFailing

section Passes

variable [Url.Idna] {text part : String} {u : Url} {d : Destination} {value : Destination → String}

theorem passes_url_iff (sourceOrdered : source.Ordered) (said : sourceMeaning source text) :
    Check.url.Passes credential source destination ↔ ∃ u, Url.read text = .ok u := by
  refine ⟨fun passes => passes text said, fun read text' said' => ?_⟩
  rwa [reads_source.unique sourceOrdered said' said]

theorem passes_scheme_iff (sourceOrdered : source.Ordered) (said : sourceMeaning source text)
    (read : Url.read text = .ok u) :
    Check.scheme.Passes credential source destination ↔ IsOverHttp u := by
  refine ⟨fun passes => passes text u said read, fun web text' u' said' read' => ?_⟩
  cases reads_source.unique sourceOrdered said said'
  cases read.symm.trans read'
  exact web

theorem passes_name_iff (destinationOrdered : destination.Ordered)
    (said : destinationMeaning destination d) :
    (Check.name part value).Passes credential source destination ↔ IsIdentifier (value d) := by
  refine ⟨fun passes => passes d said, fun identifier d' said' => ?_⟩
  rwa [reads_destination.unique destinationOrdered said' said]

/-- An accepted import passes every check. -/
theorem Accepts.passes {p : Plan} (sourceOrdered : source.Ordered)
    (destinationOrdered : destination.Ordered) (accepts : Accepts credential source destination p) :
    ∀ c ∈ checks, c.Passes credential source destination := by
  obtain ⟨given, ⟨text, said, read⟩, web, table, space, repository, name⟩ := accepts
  simp only [checks, List.forall_mem_cons, List.not_mem_nil, false_implies, implies_true, and_true,
    passes_url_iff sourceOrdered said, passes_scheme_iff sourceOrdered said read,
    passes_name_iff destinationOrdered table]
  exact ⟨given ▸ nofun, ⟨text, said⟩, ⟨_, table⟩, ⟨_, read⟩, web, space, repository, name⟩

end Passes

/-! ## Plans -/

theorem isOverHttp_iff (u : Url) : IsOverHttp u ↔
    u.scheme = ['h', 't', 't', 'p'] ∨ u.scheme = ['h', 't', 't', 'p', 's'] := by
  rw [IsOverHttp, ← String.ofList_inj, ← String.ofList_inj]

section Urls

variable [Url.Idna] {text : String} {u : Url} {r : Refusal}

theorem readUrl_of_web (read : Url.read text = .ok u) (web : IsOverHttp u) :
    readUrl text = .ok u := by
  simp only [readUrl, read]
  exact if_pos ((isOverHttp_iff u).mp web)

theorem readUrl_of_other (read : Url.read text = .ok u) (other : ¬ IsOverHttp u) :
    readUrl text = .error (.scheme (.ofList u.scheme)) := by
  simp only [readUrl, read]
  exact if_neg (mt (isOverHttp_iff u).mpr other)

theorem readUrl_of_error {f : Url.Fault} (unread : Url.read text = .error f) :
    readUrl text = .error (.url f) := by
  simp only [readUrl, unread]

theorem readUrl_eq_ok_iff : readUrl text = .ok u ↔ Url.read text = .ok u ∧ IsOverHttp u := by
  refine ⟨fun accepted => ?_, fun ⟨read, web⟩ => readUrl_of_web read web⟩
  cases read : Url.read text with
  | error f =>
      rw [readUrl_of_error read] at accepted
      cases accepted
  | ok v =>
      by_cases web : IsOverHttp v
      · rw [readUrl_of_web read web] at accepted
        cases accepted
        exact ⟨rfl, web⟩
      · rw [readUrl_of_other read web] at accepted
        cases accepted

/-- A URL is refused as the checks of the URL and of its scheme tell. -/
theorem firstFailing_of_readUrl {cs : List Check} (sourceOrdered : source.Ordered)
    (said : sourceMeaning source text) (refused : readUrl text = .error r) :
    FirstFailing credential source destination (.url :: .scheme :: cs) r.error := by
  cases read : Url.read text with
  | error f =>
      cases (readUrl_of_error read).symm.trans refused
      refine .here ?_ ⟨text, f, said, read, rfl⟩
      simp [passes_url_iff sourceOrdered said, read]
  | ok u =>
      refine .later ((passes_url_iff sourceOrdered said).mpr ⟨u, read⟩) ?_
      by_cases web : IsOverHttp u
      · cases (readUrl_of_web read web).symm.trans refused
      · cases (readUrl_of_other read web).symm.trans refused
        exact .here (mt (passes_scheme_iff sourceOrdered said read).mp web)
          ⟨text, u, said, read, rfl⟩

end Urls

section Names

variable {part value : String} {d : Destination} {r : Refusal}

theorem checkName_eq_ok_iff {done : Unit} :
    checkName part value = .ok done ↔ IsIdentifier value := by
  rw [checkName, ← isName_iff]
  split <;> simp [*]

theorem checkName_eq_error_iff :
    checkName part value = .error r ↔ ¬ IsIdentifier value ∧ r = .name part value := by
  rw [checkName, ← isName_iff]
  split <;> simp [*, eq_comm]

theorem checkNames_eq_ok_iff {done : Unit} : checkNames d = .ok done ↔
    IsIdentifier d.space ∧ IsIdentifier d.repository ∧ IsIdentifier d.table := by
  simp only [checkNames, bind_eq_ok, checkName_eq_ok_iff, exists_const]

/-- Names are refused as their checks tell. -/
theorem firstFailing_of_checkNames [Url.Idna]
    (destinationOrdered : destination.Ordered) (said : destinationMeaning destination d)
    (refused : checkNames d = .error r) :
    FirstFailing credential source destination (checks.drop 5) r.error := by
  have fails {part : String} {value : Destination → String} {r : Refusal} {cs : List Check}
      (bad : checkName part (value d) = .error r) :
      FirstFailing credential source destination (.name part value :: cs) r.error := by
    obtain ⟨other, rfl⟩ := checkName_eq_error_iff.mp bad
    exact .here (mt (passes_name_iff destinationOrdered said).mp other) ⟨d, said, rfl⟩
  have passes {part : String} {value : Destination → String}
      (good : checkName part (value d) = .ok ()) :
      (Check.name part value).Passes credential source destination :=
    (passes_name_iff destinationOrdered said).mpr (checkName_eq_ok_iff.mp good)
  rw [checkNames] at refused
  rcases bind_eq_error.mp refused with bad | ⟨_, space, refused⟩
  · exact fails bad
  refine .later (passes space) ?_
  rcases bind_eq_error.mp refused with bad | ⟨_, repository, bad⟩
  · exact fails bad
  exact .later (passes repository) (fails bad)

end Names

/-- With a credential, a plan is a chain of attempts. -/
theorem plan_some [Url.Idna] (kind : Credential.Kind) (source destination : Json) :
    plan (some kind) source destination = (do
      let text ← (sourceDecoder.ofJson source).mapError .source
      let table ← (destinationDecoder.ofJson destination).mapError .destination
      let url ← readUrl text
      checkNames table
      pure ⟨url, table, kind⟩) := rfl

/-- An import is planned exactly if it is accepted. -/
theorem plan_eq_ok_iff [Url.Idna] {p : Plan} (sourceOrdered : source.Ordered)
    (destinationOrdered : destination.Ordered) :
    plan credential source destination = .ok p ↔ Accepts credential source destination p := by
  cases credential with
  | none =>
      refine ⟨nofun, fun accepts => ?_⟩
      cases accepts.credential
  | some kind =>
      simp only [plan_some, bind_eq_ok, mapError_eq_ok, reads_source sourceOrdered,
        reads_destination destinationOrdered, readUrl_eq_ok_iff, checkNames_eq_ok_iff]
      constructor
      · rintro ⟨text, said, d, table, u, ⟨read, web⟩, _, ⟨space, repository, name⟩, ⟨⟩⟩
        exact ⟨rfl, ⟨text, said, read⟩, web, table, space, repository, name⟩
      · rintro ⟨⟨⟩, ⟨text, said, read⟩, web, table, space, repository, name⟩
        exact ⟨text, said, _, table, _, ⟨read, web⟩, (), ⟨space, repository, name⟩, rfl⟩

/-- An import that is refused fails at the first check that it does not pass. -/
theorem firstFailing_of_refused [Url.Idna] {r : Refusal} (sourceOrdered : source.Ordered)
    (destinationOrdered : destination.Ordered)
    (refused : plan credential source destination = .error r) :
    FirstFailing credential source destination checks r.error := by
  cases credential with
  | none =>
      cases refused
      exact .here (fun passes => passes rfl) rfl
  | some kind =>
      rw [plan_some] at refused
      refine .later nofun ?_
      rcases bind_eq_error.mp refused with misfit | ⟨text, said, refused⟩
      · obtain ⟨m, rfl, refuses⟩ := mapError_eq_error.mp misfit
        refine .here ?_ ⟨m, refuses, rfl⟩
        simp [Check.Passes, ← reads_source sourceOrdered, refuses]
      have said := (reads_source sourceOrdered text).mp (mapError_eq_ok.mp said)
      refine .later ⟨text, said⟩ ?_
      rcases bind_eq_error.mp refused with misfit | ⟨d, table, refused⟩
      · obtain ⟨m, rfl, refuses⟩ := mapError_eq_error.mp misfit
        refine .here ?_ ⟨m, refuses, rfl⟩
        simp [Check.Passes, ← reads_destination destinationOrdered, refuses]
      have table := (reads_destination destinationOrdered d).mp (mapError_eq_ok.mp table)
      refine .later ⟨d, table⟩ ?_
      rcases bind_eq_error.mp refused with unread | ⟨u, read, refused⟩
      · exact firstFailing_of_readUrl sourceOrdered said unread
      obtain ⟨read, web⟩ := readUrl_eq_ok_iff.mp read
      refine .later ((passes_url_iff sourceOrdered said).mpr ⟨u, read⟩) ?_
      refine .later ((passes_scheme_iff sourceOrdered said read).mpr web) ?_
      rcases bind_eq_error.mp refused with bad | ⟨_, _, ⟨⟩⟩
      exact firstFailing_of_checkNames destinationOrdered table bad

/-- An import is refused with what is told of the first check that it does not pass. -/
theorem plan_eq_error_iff [Url.Idna] {e : Query.Error} (sourceOrdered : source.Ordered)
    (destinationOrdered : destination.Ordered) :
    (∃ r, plan credential source destination = .error r ∧ e = r.error) ↔
      FirstFailing credential source destination checks e := by
  constructor
  · rintro ⟨r, refused, rfl⟩
    exact firstFailing_of_refused sourceOrdered destinationOrdered refused
  · intro first
    cases planned : plan credential source destination with
    | ok p =>
        have accepts := (plan_eq_ok_iff sourceOrdered destinationOrdered).mp planned
        exact absurd (accepts.passes sourceOrdered destinationOrdered) first.not_passes
    | error r =>
        have told := firstFailing_of_refused sourceOrdered destinationOrdered planned
        exact ⟨r, rfl, first.unique sourceOrdered destinationOrdered told⟩

/-! ## The plugin -/

/-- Every refusal is an error of the backend, with its flag down. -/
theorem Refusal.error_kind (r : Refusal) : r.error.kind = .backend ∧ r.error.success = false := by
  cases r <;> exact ⟨rfl, rfl⟩

theorem run_eq_ok_iff [Url.Idna] {a : Json} : (run credential source destination).value = .ok a ↔
    ∃ p, plan credential source destination = .ok p ∧ a = p.toJson := by
  rw [run]
  cases plan credential source destination <;> simp [eq_comm]

theorem run_eq_error_iff [Url.Idna] {e : Query.Error} :
    (run credential source destination).value = .error e ↔
    ∃ r, plan credential source destination = .error r ∧ e = r.error := by
  rw [run]
  cases plan credential source destination <;> simp [eq_comm]

/-- The plugin answers exactly the imports that are accepted, and its answer describes the plan.
It fails otherwise, with an error of the backend whose flag is down, which tells of the first check
that the import does not pass. -/
theorem plugin_accepts_or_fails [Url.Idna] (o : Options) {source destination : Json}
    (sourceOrdered : source.Ordered) (destinationOrdered : destination.Ordered) :
    let credential := o.credential.map Credential.kind
    let outcome := ((plugin o).run source destination).value
    ((∃ a, outcome = .ok a) ↔ ∃ p, Accepts credential source destination p) ∧
      (∀ p, Accepts credential source destination p → outcome = .ok (.object
        [("auth", .string p.credential.name),
          ("destination", .object
            [("repository", .string (p.destination.space ++ "/" ++ p.destination.repository)),
              ("table", .string p.destination.table)]),
          ("plugin", .string "csv"),
          ("source", .object [("url", .string p.url.text)]),
          ("success", .bool true)])) ∧
      (∀ e, outcome = .error e ↔ FirstFailing credential source destination checks e) ∧
      ∀ e, outcome = .error e → e.kind = .backend ∧ e.success = false := by
  intro credential outcome
  have planned {p : Plan} : plan credential source destination = .ok p ↔
      Accepts credential source destination p := plan_eq_ok_iff sourceOrdered destinationOrdered
  refine ⟨?_, fun p accepts => ?_, fun e => ?_, fun e failed => ?_⟩
  · constructor
    · rintro ⟨a, answered⟩
      obtain ⟨p, plans, -⟩ := run_eq_ok_iff.mp answered
      exact ⟨p, planned.mp plans⟩
    · rintro ⟨p, accepts⟩
      exact ⟨_, run_eq_ok_iff.mpr ⟨p, planned.mpr accepts, rfl⟩⟩
  · refine run_eq_ok_iff.mpr ⟨p, planned.mpr accepts, ?_⟩
    simp [Plan.toJson, pluginName, toString]
  · exact run_eq_error_iff.trans (plan_eq_error_iff sourceOrdered destinationOrdered)
  · obtain ⟨r, -, rfl⟩ := run_eq_error_iff.mp failed
    exact r.error_kind

/-- A source whose URL is not in its normal form. -/
def birds : Json := .object [("url", .string "HTTPS://Example.com:443/birds.csv")]

/-- The URL in its normal form. -/
def birdsUrl : Url where
  scheme := "https".toList
  authority := some ⟨[], none, some (.name "example.com".toList), none⟩
  path := .segments ["birds.csv".toList]
  query := none
  fragment := none

/-- A source whose host has a letter beyond ASCII. -/
def abroad : Json := .object [("url", .string "http://münchen.de/birds.csv")]

/-- The URL with its host spelled in ASCII. -/
def abroadUrl : Url where
  scheme := "http".toList
  authority := some ⟨[], none, some (.name "xn--mnchen-3ya.de".toList), none⟩
  path := .segments ["birds.csv".toList]
  query := none
  fragment := none

/-- A destination as a list. -/
def listed (space repository table : String) : Json :=
  .array [.string space, .string repository, .string table]

/-- The options of someone with a token. -/
def tokenOptions : Options := { credential := some (.token "t") }

/-- With a token, imports are accepted and described, with a host in ASCII or beyond it.  Of two
names that are none the first is told of. -/
theorem plugin_birds :
    let answer (url : String) : Json := .object
      [("auth", .string "token"),
        ("destination", .object
          [("repository", .string "miles/birds"), ("table", .string "seen")]),
        ("plugin", .string "csv"), ("source", .object [("url", .string url)]),
        ("success", .bool true)]
    birds.Ordered ∧ abroad.Ordered ∧ (listed "miles" "birds" "seen").Ordered ∧
      (listed "miles" "" "a b").Ordered ∧
      ((plugin tokenOptions).run birds (listed "miles" "birds" "seen")).value =
        .ok (answer "https://example.com/birds.csv") ∧
      ((plugin tokenOptions).run abroad (listed "miles" "birds" "seen")).value =
        .ok (answer "http://xn--mnchen-3ya.de/birds.csv") ∧
      ((plugin tokenOptions).run birds (listed "miles" "" "a b")).value =
        .error (.stated "csv destination repository '' is not a valid identifier") := by
  have ordered (text : String) : (Json.object [("url", .string text)]).Ordered :=
    ⟨List.pairwise_singleton _ _, trivial, trivial⟩
  have listedOrdered (space repository table : String) : (listed space repository table).Ordered :=
    ⟨trivial, trivial, trivial, trivial⟩
  have said (text : String) : sourceMeaning (.object [("url", .string text)]) text :=
    ⟨_, .object, _, rfl, rfl⟩
  have listedSaid (space repository table : String) :
      destinationMeaning (listed space repository table) ⟨space, repository, table⟩ :=
    ⟨_, .array le_rfl le_rfl, ⟨_, rfl, rfl⟩, ⟨_, rfl, rfl⟩, ⟨_, rfl, rfl⟩⟩
  have read : Url.read "HTTPS://Example.com:443/birds.csv" = .ok birdsUrl := by decide +kernel
  have readAbroad : Url.read "http://münchen.de/birds.csv" = .ok abroadUrl := by decide +kernel
  have web : IsOverHttp birdsUrl := Or.inr rfl
  have identifier {s : String} (name : isName s = true) : IsIdentifier s := (isName_iff s).mp name
  have miles : IsIdentifier "miles" := identifier (by decide)
  have places : IsIdentifier "birds" ∧ IsIdentifier "seen" :=
    ⟨identifier (by decide), identifier (by decide)⟩
  have accepts {text : String} {u : Url} (read : Url.read text = .ok u) (web : IsOverHttp u) :
      Accepts (some .token) (.object [("url", .string text)]) (listed "miles" "birds" "seen")
        ⟨u, ⟨"miles", "birds", "seen"⟩, .token⟩ :=
    ⟨rfl, ⟨_, said text, read⟩, web, listedSaid _ _ _, miles, places.1, places.2⟩
  have table := listedSaid "miles" "" "a b"
  have fails : FirstFailing (some .token) birds (listed "miles" "" "a b") checks
      (.stated "csv destination repository '' is not a valid identifier") := by
    refine .later (Option.some_ne_none _) (.later ⟨_, said _⟩ (.later ⟨_, table⟩ ?_))
    refine .later ((passes_url_iff (ordered _) (said _)).mpr ⟨_, read⟩) ?_
    refine .later ((passes_scheme_iff (ordered _) (said _) read).mpr web) ?_
    refine .later ((passes_name_iff (listedOrdered _ _ _) table).mpr miles) ?_
    refine .here (fun passes => ?_) ⟨_, table, rfl⟩
    exact (passes _ table).1 rfl
  have decided (text space repository table : String) :=
    plugin_accepts_or_fails tokenOptions (ordered text) (listedOrdered space repository table)
  have text : birdsUrl.text = "https://example.com/birds.csv" := by decide
  have textAbroad : abroadUrl.text = "http://xn--mnchen-3ya.de/birds.csv" := by decide
  refine ⟨ordered _, ordered _, listedOrdered _ _ _, listedOrdered _ _ _, ?_, ?_, ?_⟩
  · refine ((decided _ _ _ _).2.1 _ (accepts read web)).trans ?_
    rw [text]
    rfl
  · refine ((decided _ _ _ _).2.1 _ (accepts readAbroad (Or.inl rfl))).trans ?_
    rw [textAbroad]
    rfl
  · exact ((decided _ _ _ _).2.2.1 _).mpr fails

end SqlGateway.Import.Csv
