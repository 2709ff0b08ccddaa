import SqlGateway.Proofs.Import.Csv
import SqlGateway.Proofs.Text.Parts
import SqlGateway.Proofs.Url.Redaction

/-!
# What the answer to an import of a CSV file determines

The answer of the plugin describes the import well enough to do it again.  `described?` reads the
source and the destination out of an answer, and the import that it finds is accepted and has the
same answer (`answer_determines_import`).  The answer names the file by the text of its URL, which
is read back as the URL because a URL over HTTP is settled once it has been read
(`read_text_of_web`).

It names namespace and repository in one text with a slash between them.  Identifiers have no
slash, so the two parts are found again (`parts_repositoryText`), and tables that differ in one of
the three names are described differently.
-/

namespace SqlGateway

/-- What stands in a value under names, each within the one before. -/
def Json.at? : Json → List String → Option Json
  | v, [] => some v
  | .object ms, name :: names => (Members.get? ms name).bind fun v => v.at? names
  | _, _ :: _ => none

namespace Import.Csv

variable {credential : Option Credential.Kind} {source destination : Json} {p : Plan}

/-! ## What an answer describes -/

/-- The source that says the text of a URL. -/
def sourceOf (url : String) : Json := .object [("url", .string url)]

/-- The destination that says a table. -/
def destinationOf (d : Destination) : Json :=
  .object [("namespace", .string d.space), ("repository", .string d.repository),
    ("table", .string d.table)]

/-- The source and the destination of the import that an answer describes.  A slash divides the
namespace from the repository. -/
def described? (answer : Json) : Option (Json × Json) :=
  match answer.at? ["source", "url"], answer.at? ["destination", "repository"],
    answer.at? ["destination", "table"] with
  | some (.string url), some (.string repository), some (.string table) =>
      match splitWhere (· = '/') repository.toList with
      | [space, name] => some (sourceOf url, destinationOf ⟨.ofList space, .ofList name, table⟩)
      | _ => none
  | _, _, _ => none

theorem ordered_sourceOf (url : String) : (sourceOf url).Ordered := by
  refine ⟨?_, trivial, trivial⟩
  change ["url"].Pairwise (· < ·)
  decide

theorem ordered_destinationOf (d : Destination) : (destinationOf d).Ordered := by
  refine ⟨?_, trivial, trivial, trivial, trivial⟩
  change ["namespace", "repository", "table"].Pairwise (· < ·)
  decide

theorem sourceMeaning_sourceOf (url : String) : sourceMeaning (sourceOf url) url :=
  ⟨_, .object, _, rfl, rfl⟩

theorem destinationMeaning_destinationOf (d : Destination) :
    destinationMeaning (destinationOf d) d :=
  ⟨_, .object, ⟨_, rfl, rfl⟩, ⟨_, rfl, rfl⟩, ⟨_, rfl, rfl⟩⟩

/-! ## The file -/

/-- A URL over HTTP is read back from its text. -/
theorem read_text_of_web [Url.LawfulIdna] {text : String} {u : Url} (read : Url.read text = .ok u)
    (web : IsOverHttp u) : Url.read u.text = .ok u := by
  refine Url.read_text (Url.settled_of_web read ?_)
  rcases (isOverHttp_iff u).mp web with http | https
  · rw [http]
    rfl
  · rw [https]
    rfl

/-! ## The table -/

/-- Namespace and repository of a destination in one text. -/
def Destination.repositoryText (d : Destination) : String := d.space ++ "/" ++ d.repository

theorem not_slash_of_isNameCharacter {c : Char} (char : IsNameCharacter c) : c ≠ '/' := by
  rintro rfl
  revert char
  unfold IsNameCharacter
  decide

theorem IsIdentifier.noSlash {s : String} (identifier : IsIdentifier s) : ∀ c ∈ s.toList, c ≠ '/' :=
  fun c mem => not_slash_of_isNameCharacter (identifier.2 c mem)

theorem toList_repositoryText (d : Destination) :
    d.repositoryText.toList = d.space.toList ++ '/' :: d.repository.toList := by
  rw [Destination.repositoryText, String.toList_append, String.toList_append]
  simp

section Identifiers

variable {d d' : Destination}

/-- Namespace and repository are found again in their text. -/
theorem parts_repositoryText (space : IsIdentifier d.space) (name : IsIdentifier d.repository) :
    splitWhere (· = '/') d.repositoryText.toList = [d.space.toList, d.repository.toList] := by
  have here : ∀ c ∈ d.space.toList, decide (c = '/') = false := fun c mem =>
    decide_eq_false (space.noSlash c mem)
  have there : ∀ c ∈ d.repository.toList, decide (c = '/') = false := fun c mem =>
    decide_eq_false (name.noSlash c mem)
  rw [toList_repositoryText, splitWhere_append_cons here (decide_eq_true rfl),
    splitWhere_of_forall there]

theorem count_repositoryText (space : IsIdentifier d.space) (name : IsIdentifier d.repository) :
    d.repositoryText.toList.count '/' = 1 := by
  have here : d.space.toList.count '/' = 0 :=
    List.count_eq_zero.mpr fun mem => space.noSlash _ mem rfl
  have there : d.repository.toList.count '/' = 0 :=
    List.count_eq_zero.mpr fun mem => name.noSlash _ mem rfl
  rw [toList_repositoryText, List.count_append, List.count_cons_self, here, there]

/-- Tables that are described alike are the same. -/
theorem eq_of_repositoryText (space : IsIdentifier d.space) (name : IsIdentifier d.repository)
    (space' : IsIdentifier d'.space) (name' : IsIdentifier d'.repository)
    (repository : d'.repositoryText = d.repositoryText) (table : d'.table = d.table) : d' = d := by
  have parts := parts_repositoryText space' name'
  rw [repository, parts_repositoryText space name] at parts
  obtain ⟨spaces, names⟩ := List.cons_eq_cons.mp parts
  obtain ⟨names, -⟩ := List.cons_eq_cons.mp names
  cases d
  cases d'
  congr
  · exact (String.toList_inj.mp spaces).symm
  · exact (String.toList_inj.mp names).symm

end Identifiers

/-! ## Answers -/

theorem at?_url (p : Plan) : p.toJson.at? ["source", "url"] = some (.string p.url.text) := by
  simp [Plan.toJson, Json.at?, Members.get?]

theorem at?_destination (p : Plan) : p.toJson.at? ["destination"] = some (.object
    [("repository", .string p.destination.repositoryText),
      ("table", .string p.destination.table)]) := by
  simp [Plan.toJson, Json.at?, Members.get?, Destination.repositoryText, toString]

theorem at?_repository (p : Plan) : p.toJson.at? ["destination", "repository"] =
    some (.string p.destination.repositoryText) := by
  simp [Plan.toJson, Json.at?, Members.get?, Destination.repositoryText, toString]

theorem at?_table (p : Plan) :
    p.toJson.at? ["destination", "table"] = some (.string p.destination.table) := by
  simp [Plan.toJson, Json.at?, Members.get?]

/-- The answer to an accepted import describes its plan. -/
theorem described?_toJson [Url.Idna] (accepts : Accepts credential source destination p) :
    described? p.toJson = some (sourceOf p.url.text, destinationOf p.destination) := by
  rw [described?, at?_url, at?_repository, at?_table]
  dsimp only
  rw [parts_repositoryText accepts.space accepts.repository]
  simp [String.ofList_toList]

/-- What an accepted import comes to is accepted with the same plan. -/
theorem Accepts.again [Url.LawfulIdna] (accepts : Accepts credential source destination p) :
    Accepts credential (sourceOf p.url.text) (destinationOf p.destination) p := by
  obtain ⟨given, ⟨text, -, read⟩, web, -, space, repository, table⟩ := accepts
  exact ⟨given, ⟨_, sourceMeaning_sourceOf _, read_text_of_web read web⟩, web,
    destinationMeaning_destinationOf _, space, repository, table⟩

/-- An answer comes from an import that is accepted. -/
theorem accepts_of_answered [Url.Idna] {o : Options} {answer : Json}
    (sourceOrdered : source.Ordered) (destinationOrdered : destination.Ordered)
    (answered : ((plugin o).run source destination).value = .ok answer) :
    ∃ p, Accepts (o.credential.map Credential.kind) source destination p ∧ answer = p.toJson := by
  obtain ⟨p, planned, rfl⟩ := run_eq_ok_iff.mp answered
  exact ⟨p, (plan_eq_ok_iff sourceOrdered destinationOrdered).mp planned, rfl⟩

/-- The answer to an import determines it.  Its repository has exactly one slash.  The import that
it describes is accepted with any credential of the same kind, and has the same answer.  Imports
into different tables never have answers with the same destination. -/
theorem answer_determines_import [Url.LawfulIdna] (o : Options) {source destination answer : Json}
    (sourceOrdered : source.Ordered) (destinationOrdered : destination.Ordered)
    (answered : ((plugin o).run source destination).value = .ok answer) :
    (∃ repository, answer.at? ["destination", "repository"] = some (.string repository) ∧
      repository.toList.count '/' = 1) ∧
    (∃ source' destination', described? answer = some (source', destination') ∧
      ∀ o' : Options, o'.credential.map Credential.kind = o.credential.map Credential.kind →
        ((plugin o').run source' destination').value = .ok answer) ∧
    ∀ (o' : Options) (source' destination' answer' : Json), source'.Ordered →
      destination'.Ordered → ((plugin o').run source' destination').value = .ok answer' →
      ∀ d d', destinationMeaning destination d → destinationMeaning destination' d' → d' ≠ d →
        answer'.at? ["destination"] ≠ answer.at? ["destination"] := by
  obtain ⟨p, accepts, rfl⟩ := accepts_of_answered sourceOrdered destinationOrdered answered
  refine ⟨⟨_, at?_repository p, count_repositoryText accepts.space accepts.repository⟩,
    ⟨_, _, described?_toJson accepts, fun o' kind => ?_⟩, ?_⟩
  · have again := kind ▸ accepts.again
    have planned := (plan_eq_ok_iff (ordered_sourceOf _) (ordered_destinationOf _)).mpr again
    exact run_eq_ok_iff.mpr ⟨p, planned, rfl⟩
  · intro o' source' destination' answer' sourceOrdered' destinationOrdered' answered' d d' said
      said' other same
    obtain ⟨p', accepts', rfl⟩ :=
      accepts_of_answered sourceOrdered' destinationOrdered' answered'
    cases reads_destination.unique destinationOrdered said accepts.destination
    cases reads_destination.unique destinationOrdered' said' accepts'.destination
    rw [at?_destination, at?_destination] at same
    simp only [Option.some_inj, Json.object.injEq, List.cons.injEq, Prod.mk.injEq,
      Json.string.injEq, true_and, and_true] at same
    exact other (eq_of_repositoryText accepts.space accepts.repository accepts'.space
      accepts'.repository same.1 same.2)

/-- The plan for a file of birds and a table of one repository. -/
def birdsPlan (table : String) : Plan := ⟨birdsUrl, ⟨"miles", "birds", table⟩, .token⟩

theorem accepts_birds {table : String} (name : isName table = true) :
    Accepts (some .token) birds (destinationOf (birdsPlan table).destination)
      (birdsPlan table) := by
  have read : Url.read "HTTPS://Example.com:443/birds.csv" = .ok birdsUrl := by decide +kernel
  have miles : isName "miles" = true := by decide
  have birds : isName "birds" = true := by decide
  exact ⟨rfl, ⟨_, sourceMeaning_sourceOf _, read⟩, .inr rfl, destinationMeaning_destinationOf _,
    (isName_iff _).mp miles, (isName_iff _).mp birds, (isName_iff _).mp name⟩

theorem answered_birds {table : String} (name : isName table = true) :
    ((plugin tokenOptions).run birds (destinationOf (birdsPlan table).destination)).value =
      .ok (birdsPlan table).toJson :=
  run_eq_ok_iff.mpr ⟨_, (plan_eq_ok_iff (ordered_sourceOf _) (ordered_destinationOf _)).mpr
    (accepts_birds name), rfl⟩

/-- The import that an answer describes is done again with the same answer, and an import into
another table is described differently. -/
theorem answer_determines_import_birds :
    let run (source : Json) (table : String) :=
      ((plugin tokenOptions).run source (destinationOf ⟨"miles", "birds", table⟩)).value
    birds.Ordered ∧ (destinationOf ⟨"miles", "birds", "seen"⟩).Ordered ∧
      ∃ seen heard, run birds "seen" = .ok seen ∧ run birds "heard" = .ok heard ∧
        described? seen = some (sourceOf "https://example.com/birds.csv",
          destinationOf ⟨"miles", "birds", "seen"⟩) ∧
        run (sourceOf "https://example.com/birds.csv") "seen" = .ok seen ∧
        heard.at? ["destination"] ≠ seen.at? ["destination"] := by
  intro run
  have ordered : birds.Ordered := ordered_sourceOf _
  have name : isName "seen" = true := by decide
  have seen : run birds "seen" = .ok (birdsPlan "seen").toJson := answered_birds name
  have heard : run birds "heard" = .ok (birdsPlan "heard").toJson := answered_birds (by decide)
  obtain ⟨-, ⟨source, destination, described, again⟩, differs⟩ :=
    answer_determines_import tokenOptions ordered (ordered_destinationOf _) seen
  have text : birdsUrl.text = "https://example.com/birds.csv" := by decide
  have here := described?_toJson (accepts_birds name)
  cases here.symm.trans described
  refine ⟨ordered, ordered_destinationOf _, _, _, seen, heard, text ▸ here,
    text ▸ again tokenOptions rfl, ?_⟩
  exact differs tokenOptions _ _ _ ordered (ordered_destinationOf _) heard _ _
    (destinationMeaning_destinationOf _) (destinationMeaning_destinationOf _) (by decide)

end Import.Csv

end SqlGateway
