import SqlGateway.Proofs.CommandLine.Imports

/-!
# What the program writes and how it exits

A query or an import that asks for nothing is stopped or concludes, and never both
(`run_agrees`).

* It is stopped by the first thing that fails before there is an outcome: its credential, its
  timeout, the source or the destination of an import, the client of a query or the registry of
  an import, or the name of a plugin.  Then nothing is printed, and the exit code is one.
* It concludes with the outcome that the library has for it.  Then the envelope of the outcome
  is printed on its own lines, and the exit code is zero exactly for a success.

`Stopped` and `Concluded` say this by calls to the library alone.
-/

namespace SqlGateway.CommandLine

open Query (Envelope)

/-- A connection that asks for nothing comes to options. -/
structure Connection.ComesTo (c : Connection) (o : Options) : Prop where
  /-- Requests have time. -/
  timeout : c.timeout ≠ 0
  /-- The options have the credential that is found, and what the connection says. -/
  login : ∃ l, c.login = .known (.ok l) ∧
    o = { credential := l.credential, endpoint := c.endpoint, timeout := .seconds c.timeout }

/-- An invocation that is stopped before there is an outcome. -/
inductive Stopped [Url.Idna] (build : Build) (env : Environment) (i : Invocation) :
    Failure → Prop where
  | credential {f : Failure} (failed : i.connection.login = .known (.error f)) :
      Stopped build env i f
  | timeout {l : Login} (found : i.connection.login = .known (.ok l))
      (zero : i.connection.timeout = 0) : Stopped build env i .zeroTimeout
  | client {sql : String} {o : Options} {f : Fault} (asked : i.command = .query sql)
      (options : i.connection.ComesTo o)
      (failed : (build.createClient env i.connection.backend o).value = .error f) :
      Stopped build env i (.fault f)
  | source {plugin source destination : String} {o : Options} {e : Json.ReadError}
      (asked : i.command = .importData plugin source destination)
      (options : i.connection.ComesTo o) (failed : Json.read source = .error e) :
      Stopped build env i (.notJson .source e)
  | destination {plugin source destination : String} {o : Options} {s : Json}
      {e : Json.ReadError} (asked : i.command = .importData plugin source destination)
      (options : i.connection.ComesTo o) (read : Json.read source = .ok s)
      (failed : Json.read destination = .error e) : Stopped build env i (.notJson .destination e)
  | registry {plugin source destination : String} {o : Options} {s d : Json} {f : Fault}
      (asked : i.command = .importData plugin source destination)
      (options : i.connection.ComesTo o) (read : Json.read source = .ok s)
      (read' : Json.read destination = .ok d)
      (failed : (Import.Registry.standard o).value = .error f) : Stopped build env i (.fault f)
  | plugin {plugin source destination : String} {o : Options} {s d : Json}
      {r : Import.Registry} {f : Fault} (asked : i.command = .importData plugin source destination)
      (options : i.connection.ComesTo o) (read : Json.read source = .ok s)
      (read' : Json.read destination = .ok d) (made : (Import.Registry.standard o).value = .ok r)
      (failed : r.dispatch plugin s d = .error f) : Stopped build env i (.fault f)

/-- An invocation that concludes: the text of the envelope of its outcome, and whether that is
a success. -/
inductive Concluded [Url.Idna] (build : Build) (env : Environment) (x : Http.Exchange)
    (i : Invocation) :
    (text : String) → (success : Bool) → Prop where
  | query {sql text : String} {o : Options} {client : Client} (asked : i.command = .query sql)
      (options : i.connection.ComesTo o)
      (made : (build.createClient env i.connection.backend o).value = .ok client)
      (printed : (Envelope.mk (client.execute sql x).outcome).pretty (fun r => .ok r.toJson) =
        .ok text) : Concluded build env x i text (client.execute sql x).outcome.isOk
  | importData {plugin source destination text : String} {o : Options} {s d : Json}
      {r : Import.Registry} {answer : Logged Import.Outcome}
      (asked : i.command = .importData plugin source destination)
      (options : i.connection.ComesTo o) (read : Json.read source = .ok s)
      (read' : Json.read destination = .ok d) (made : (Import.Registry.standard o).value = .ok r)
      (handed : r.dispatch plugin s d = .ok answer)
      (printed : (Envelope.mk answer.value).pretty (fun a => .ok a) = .ok text) :
      Concluded build env x i text answer.value.isOk

variable {build : Build} {env : Environment} {answers : Prompt → Answer} {x : Http.Exchange}
  {c : Connection} {i : Invocation} {o : Options} {f : Failure} {text : String} {success : Bool}

/-! ## Options -/

theorem Connection.ComesTo.options_value (options : c.ComesTo o) (answers : Prompt → Answer) :
    ∃ source, c.options.value answers = .ok (o, source) := by
  obtain ⟨timeout, l, found, rfl⟩ := options
  refine ⟨l.source, ?_⟩
  rw [Connection.options, found, Asking.map, Asking.value]
  simp only [Connection.optionsFor, if_neg timeout]
  rfl

/-- A connection that asks for nothing knows whether it has a credential. -/
theorem Connection.login_known (unasked : c.promptSecret = false) :
    ∃ found, c.login = .known found := by
  rw [Connection.login, unasked]
  cases c.apiKey with
  | some key => cases c.apiSecret <;> exact ⟨_, rfl⟩
  | none => cases c.token <;> exact ⟨_, rfl⟩

/-! ## Work -/

/-- A query is sent with the client that the options make. -/
theorem Connection.ComesTo.runQuery_value [Url.Idna] (options : c.ComesTo o) (sql : String) :
    (runQuery build env answers x c sql).value =
      match (build.createClient env c.backend o).value with
      | .ok client => (runQueryWith client sql x).value
      | .error f => .error (.fault f) := by
  obtain ⟨source, options⟩ := options.options_value answers
  rw [runQuery, options]
  simp only [Work.trying, Work.telling, Logged.after]
  cases (build.createClient env c.backend o).value <;> rfl

/-- An import is handed to the registry of the options, once its texts are read. -/
theorem Connection.ComesTo.runImport_value [Url.Idna] (options : c.ComesTo o)
    (plugin source destination : String) :
    (runImport answers c plugin source destination).value =
      (do
        let s ← readJson .source source
        let d ← readJson .destination destination
        let r ← (Import.Registry.standard o).value.mapError Failure.fault
        (runImportWith r plugin s d).value) := by
  obtain ⟨asked, options⟩ := options.options_value answers
  rw [runImport, options]
  simp only [Work.trying, Work.telling, Logged.after]
  cases readJson .source source with
  | error f => rfl
  | ok s =>
      cases readJson .destination destination with
      | error f => rfl
      | ok d => cases (Import.Registry.standard o).value.mapError Failure.fault <;> rfl

theorem runImportWith_value (r : Import.Registry) (plugin : String) (source destination : Json) :
    (runImportWith r plugin source destination).value =
      match r.dispatch plugin source destination with
      | .ok answer => (Work.printing id answer.value none).value
      | .error f => .error (.fault f) := by
  simp only [runImportWith, Work.telling, Logged.after]
  cases r.dispatch plugin source destination <;> rfl

/-- An envelope that is printed. -/
theorem printing_of_pretty {α : Type} {write : α → Json} {outcome : Query.Outcome α}
    (arrived : Option Http.Request)
    (pretty : (Envelope.mk outcome).pretty (fun a => .ok (write a)) = .ok text) :
    (Work.printing write outcome arrived).value =
      .ok { text := text ++ "\n", success := outcome.isOk, arrived } := by
  rw [Query.Envelope.pretty_eq write outcome] at pretty
  cases pretty
  rw [printing_value]
  cases outcome <;> rfl

/-! ## Stopped and concluded work -/

/-- Without options, a query or an import fails as they do. -/
theorem work_value_of_options [Url.Idna] (runs : i.command ≠ .list)
    (failed : i.connection.options.value answers = .error f) :
    (i.work build env answers x).value = .error f := by
  rw [Invocation.work]
  cases asked : i.command with
  | list => exact absurd asked runs
  | query sql =>
      simp only [runQuery, failed]
      rfl
  | importData plugin source destination =>
      simp only [runImport, failed]
      rfl

/-- A query or an import ends with the failure that stops it. -/
theorem Stopped.work_value [Url.Idna] (stopped : Stopped build env i f) (runs : i.command ≠ .list) :
    (i.work build env answers x).value = .error f := by
  cases stopped with
  | credential failed =>
      refine work_value_of_options runs ?_
      rw [Connection.options, failed]
      rfl
  | timeout found zero =>
      refine work_value_of_options runs ?_
      rw [Connection.options, found, Asking.map, Asking.value]
      simp only [Connection.optionsFor, if_pos zero]
      rfl
  | client asked options failed =>
      simp only [Invocation.work, asked, options.runQuery_value, failed]
  | source asked options failed =>
      simp only [Invocation.work, asked, options.runImport_value, readJson, failed, mapError_error]
      rfl
  | destination asked options read failed =>
      simp only [Invocation.work, asked, options.runImport_value, readJson, read, failed,
        mapError_ok, mapError_error]
      rfl
  | registry asked options read read' failed =>
      simp only [Invocation.work, asked, options.runImport_value, readJson, read, read', failed,
        mapError_ok, mapError_error]
      rfl
  | plugin asked options read read' made failed =>
      simp only [Invocation.work, asked, options.runImport_value, readJson, read, read', made,
        mapError_ok]
      exact (runImportWith_value _ _ _ _).trans (by rw [failed])

theorem Concluded.work_value [Url.Idna] (concluded : Concluded build env x i text success)
    (answers : Prompt → Answer) :
    ∃ printed, (i.work build env answers x).value = .ok printed ∧
      printed.text = text ++ "\n" ∧ printed.success = success := by
  rw [Invocation.work]
  cases concluded with
  | query asked options made pretty =>
      simp only [asked, options.runQuery_value, made, runQueryWith]
      exact ⟨_, printing_of_pretty _ pretty, rfl, rfl⟩
  | @importData plugin _ _ _ _ s d r _ asked options read read' made handed pretty =>
      simp only [asked, options.runImport_value, readJson, read, read', made, mapError_ok]
      have value := runImportWith_value r plugin s d
      rw [handed] at value
      exact ⟨_, value.trans (printing_of_pretty none pretty), rfl, rfl⟩

/-- Work that asks for nothing is stopped or concludes. -/
theorem stopped_or_concluded [Url.Idna] (runs : i.command ≠ .list)
    (unasked : i.connection.promptSecret = false) :
    (∃ f, Stopped build env i f) ∨ ∃ text success, Concluded build env x i text success := by
  obtain ⟨found, login⟩ := Connection.login_known unasked
  cases found with
  | error f => exact .inl ⟨f, .credential login⟩
  | ok l =>
  by_cases zero : i.connection.timeout = 0
  · exact .inl ⟨_, .timeout login zero⟩
  obtain ⟨o, options⟩ : ∃ o, i.connection.ComesTo o := ⟨_, zero, l, login, rfl⟩
  cases asked : i.command with
  | list => exact absurd asked runs
  | query sql =>
      cases made : (build.createClient env i.connection.backend o).value with
      | error f => exact .inl ⟨_, .client asked options made⟩
      | ok client => exact .inr ⟨_, _, .query asked options made (Query.Envelope.pretty_eq _ _)⟩
  | importData plugin source destination =>
      cases read : Json.read source with
      | error e => exact .inl ⟨_, .source asked options read⟩
      | ok s =>
      cases read' : Json.read destination with
      | error e => exact .inl ⟨_, .destination asked options read read'⟩
      | ok d =>
      cases made : (Import.Registry.standard o).value with
      | error f => exact .inl ⟨_, .registry asked options read read' made⟩
      | ok r =>
      cases handed : r.dispatch plugin s d with
      | error f => exact .inl ⟨_, .plugin asked options read read' made handed⟩
      | ok answer =>
          exact .inr ⟨_, _, .importData asked options read read' made handed
            (Query.Envelope.pretty_eq id _)⟩

/-- What the program leaves is what its work leaves. -/
theorem run_of_read [Url.Idna] {arguments : List String}
    (read : Invocation.read env arguments = .ok i) :
    run build env answers x arguments =
      (i.work build env answers x).output (.choose env i.verbose i.quiet) := by
  rw [run, read]

theorem Work.output_of_error {w : Work Printed} (failed : w.value = .error f) (l : Log.Filter) :
    (w.output l).stdout = "" ∧ (w.output l).code = 1 := by
  simp only [Work.output, failed, and_self]

theorem Work.output_of_ok {w : Work Printed} {printed : Printed} (done : w.value = .ok printed)
    (l : Log.Filter) :
    (w.output l).stdout = printed.text ∧
      (w.output l).code = if printed.success then 0 else 1 := by
  simp only [Work.output, done, and_self]

/-- A query or an import that asks for nothing is stopped or concludes, and never both.  Where
it is stopped, nothing is printed and the exit code is one.  Where it concludes, the envelope of
its outcome and a line break are printed, and the exit code is zero exactly for a success. -/
theorem run_agrees [Url.Idna] (build : Build) (answers : Prompt → Answer) (x : Http.Exchange)
    {arguments : List String} (read : Invocation.read env arguments = .ok i)
    (runs : i.command ≠ .list) (unasked : i.connection.promptSecret = false) :
    ((∃ f, Stopped build env i f) ∧ (¬ ∃ text success, Concluded build env x i text success) ∧
      (run build env answers x arguments).stdout = "" ∧
      (run build env answers x arguments).code = 1) ∨
    ∃ text success, Concluded build env x i text success ∧ (¬ ∃ f, Stopped build env i f) ∧
      (run build env answers x arguments).stdout = text ++ "\n" ∧
      (run build env answers x arguments).code = if success then 0 else 1 := by
  have stops (f : Failure) (stopped : Stopped build env i f) :
      (i.work build env answers x).value = .error f := stopped.work_value runs
  have ends : (∃ f, Stopped build env i f) ∨
      ∃ text success, Concluded build env x i text success := stopped_or_concluded runs unasked
  rw [run_of_read read]
  rcases ends with ⟨f, stopped⟩ | ⟨text, success, concluded⟩
  · refine .inl ⟨⟨f, stopped⟩, ?_, Work.output_of_error (stops f stopped) _⟩
    rintro ⟨text, success, concluded⟩
    obtain ⟨printed, done, -⟩ := concluded.work_value answers
    cases (stops f stopped).symm.trans done
  · obtain ⟨printed, done, same, same'⟩ := concluded.work_value answers
    refine .inr ⟨text, success, concluded, ?_, ?_⟩
    · rintro ⟨f, stopped⟩
      cases (stops f stopped).symm.trans done
    · rw [← same, ← same']
      exact Work.output_of_ok done _

/-- An import without a credential is not stopped.  What is printed is that it is refused. -/
theorem run_agrees_of_import :
    ∃ text, ∃ success : Bool,
      (run {} {} (fun _ => .error "") (.unreached []) ["import", "csv"]).stdout = text ++ "\n" ∧
      (run {} {} (fun _ => .error "") (.unreached []) ["import", "csv"]).code =
        if success then 0 else 1 := by
  have empty : Json.read emptyObject = .ok (.object []) :=
    Json.readBytes_compact (v := .object []) trivial (by decide)
  have read : Invocation.read {} ["import", "csv"] =
      .ok ⟨⟨.splitgraph, none, none, none, none, false, 30⟩, 0, false,
        .importData "csv" emptyObject emptyObject⟩ := by rfl
  have refused : ∃ text success, Concluded {} {} (.unreached [])
      ⟨⟨.splitgraph, none, none, none, none, false, 30⟩, 0, false,
        .importData "csv" emptyObject emptyObject⟩ text success :=
    ⟨_, _, .importData rfl ⟨by decide, _, rfl, rfl⟩ empty empty (by rfl) (by rfl)
      (Query.Envelope.pretty_eq id _)⟩
  rcases run_agrees {} (fun _ => .error "") (.unreached []) read nofun rfl with
    ⟨-, never, -⟩ | ⟨text, success, -, -, printed⟩
  · exact absurd refused never
  · exact ⟨text, success, printed⟩

end SqlGateway.CommandLine
