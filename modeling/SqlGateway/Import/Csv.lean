import SqlGateway.Import.Registry
import SqlGateway.Json.Record
import SqlGateway.Options

/-!
# The plugin for CSV files

The source of an import is a file on the web and its destination is a table.  The plugin
checks both and answers with what would be imported.

It needs a credential, of which it knows no more than the kind.  What is wrong first
counts, in the order of the checks: the credential, the shape of the source and of the
destination, the URL, its scheme, and the three names of the table.
-/

namespace SqlGateway.Import.Csv

/-- The name of the plugin. -/
def pluginName : String := "csv"

/-! ## Sources and destinations -/

/-- Where a table is. -/
structure Destination where
  /-- The namespace of the repository. -/
  space : String
  /-- The repository. -/
  repository : String
  /-- The table. -/
  table : String
deriving DecidableEq

/-- The decoder of a source, which is the text of a URL. -/
def sourceDecoder : Json.Decoder String :=
  Json.RecordShape.decoder
    { name := "CsvSource"
      blank := ""
      members := [.needed "url" .string fun v _ => v] }

/-- The decoder of a destination. -/
def destinationDecoder : Json.Decoder Destination :=
  Json.RecordShape.decoder
    { name := "TableDestination"
      blank := ⟨"", "", ""⟩
      members :=
        [.needed "namespace" .string fun v d => { d with space := v },
          .needed "repository" .string fun v d => { d with repository := v },
          .needed "table" .string fun v d => { d with table := v }] }

/-- A text may be a name: it has only ASCII letters, digits, underscores and hyphens, and at
least one. -/
def isName (s : String) : Bool :=
  s ≠ "" && s.toList.all fun c => c.isAlphanum || c = '_' || c = '-'

/-! ## Refusals -/

/-- Why an import is refused. -/
inductive Refusal where
  /-- There is no credential. -/
  | noCredential
  /-- The source does not have its shape. -/
  | source (cause : Json.Mismatch)
  /-- The destination does not have its shape. -/
  | destination (cause : Json.Mismatch)
  /-- The source is no URL. -/
  | url (cause : Url.Fault)
  /-- The source is a URL of another scheme. -/
  | scheme (scheme : String)
  /-- A name of the destination is none. -/
  | name (part value : String)

/-- A refusal as the error of the import. -/
def Refusal.error : Refusal → Query.Error
  | .noCredential => .stated "csv import requires a credential"
  | .source m => .stated "Invalid source options for the csv plugin" (some m.message)
  | .destination m => .stated "Invalid destination options for the csv plugin" (some m.message)
  | .url f => .stated "csv source url is not a valid URL" (some f.message)
  | .scheme s => .stated s!"csv source scheme '{s}' is not http or https"
  | .name part value => .stated s!"csv destination {part} '{value}' is not a valid identifier"

/-! ## Imports -/

/-- What would be imported. -/
structure Plan where
  /-- The file. -/
  url : Url
  /-- The table. -/
  destination : Destination
  /-- The kind of the credential. -/
  credential : Credential.Kind

/-- A plan as the answer of the plugin. -/
def Plan.toJson (p : Plan) : Json :=
  .object
    [("auth", .string p.credential.name),
      ("destination",
        .object
          [("repository", .string s!"{p.destination.space}/{p.destination.repository}"),
            ("table", .string p.destination.table)]),
      ("plugin", .string pluginName),
      ("source", .object [("url", .string p.url.text)]),
      ("success", .bool true)]

/-- Read the URL of a file.  Its scheme is `http` or `https`. -/
def readUrl [Url.Idna] (text : String) : Except Refusal Url :=
  match Url.read text with
  | .error e => .error (.url e)
  | .ok u =>
      if u.scheme = ['h', 't', 't', 'p'] ∨ u.scheme = ['h', 't', 't', 'p', 's'] then .ok u
      else .error (.scheme (.ofList u.scheme))

/-- Check one name of a destination. -/
def checkName (part value : String) : Except Refusal Unit :=
  if isName value then .ok () else .error (.name part value)

/-- Check the names of a destination. -/
def checkNames (d : Destination) : Except Refusal Unit := do
  checkName "namespace" d.space
  checkName "repository" d.repository
  checkName "table" d.table

/-- Plan an import. -/
def plan [Url.Idna] (credential : Option Credential.Kind) (source destination : Json) :
    Except Refusal Plan := do
  let kind ←
    match credential with
    | none => .error .noCredential
    | some kind => .ok kind
  let text ← (sourceDecoder.ofJson source).mapError .source
  let table ← (destinationDecoder.ofJson destination).mapError .destination
  let url ← readUrl text
  checkNames table
  pure ⟨url, table, kind⟩

/-- The event for a plan. -/
def Plan.event (p : Plan) : Event :=
  let host := String.ofList ((p.url.host?.map Url.Host.text).getD [])
  ⟨.debug, .csv,
    s!"csv import of {host} into {p.destination.space}/{p.destination.repository}", []⟩

/-- What the plugin makes of a source and a destination. -/
def run [Url.Idna] (credential : Option Credential.Kind) (source destination : Json) :
    Logged Outcome :=
  match plan credential source destination with
  | .error r => ⟨.error r.error, []⟩
  | .ok p => ⟨.ok p.toJson, [p.event]⟩

/-- The plugin, for a client with options. -/
def plugin [Url.Idna] (o : Options) : Plugin where
  name := pluginName
  run := run (o.credential.map Credential.kind)

end Csv

/-- The registry of the plugins that are always there, for a client with options. -/
def Registry.standard [Url.Idna] (o : Options) : Logged (Except Fault Registry) :=
  match o.check with
  | .error e => ⟨.error (.misconfigured e), []⟩
  | .ok () => Registry.ofList [Csv.plugin o]

end SqlGateway.Import
